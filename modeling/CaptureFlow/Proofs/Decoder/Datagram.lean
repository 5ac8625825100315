import CaptureFlow.Proofs.Decoder.Truncation

/-!
# Octets behind a datagram

A frame may go on behind its datagram: a device pads short frames, and a capture file pads its
blocks. The datagram tells its own length, and as long as its headers lie within that length
nothing of what follows is looked at. So a frame is decoded to the same headers whatever stands
behind its datagram, and whether anything stands there at all.
-/

namespace CaptureFlow

/-! ## The framing in front of a datagram -/

namespace LinkType

/-- The length of the header of a framing. -/
def headerLength : LinkType → Nat
  | ethernet => Ethernet.headerLength
  | cooked => Cooked.headerLength

/-- The header of a framing whose octets stand in front. -/
def headerAt (frame : Bytes) : LinkType → Header
  | ethernet => .ethernet ⟨.readAt 6 frame 6, .readAt 6 frame 0, wordAt .big frame 12⟩
  | cooked => .cooked ⟨wordAt .big frame 0, wordAt .big frame 2, wordAt .big frame 4,
      .readAt 8 frame 6, wordAt .big frame 14⟩

/-- The type of the datagram in a frame. An Ethernet type of zero marks an IPv4 datagram. -/
def datagramType (frame : Bytes) : LinkType → UInt16
  | ethernet => if wordAt .big frame 12 = 0 then Ethernet.typeIpv4 else wordAt .big frame 12
  | cooked => wordAt .big frame 14

/-- Where the datagram of a frame starts. Padding stands in front of one that is marked. -/
def datagramStart (frame : Bytes) : LinkType → Nat
  | ethernet =>
    if wordAt .big frame 12 = 0 then Ethernet.headerLength + Ethernet.cookedPadding
    else Ethernet.headerLength
  | cooked => Cooked.headerLength

/-- The datagram of a frame with whatever stands behind it. -/
def datagram (link : LinkType) (frame : Bytes) : Bytes :=
  frame.drop (link.datagramStart frame)

/-- A datagram starts behind the header of its framing. -/
theorem headerLength_le (link : LinkType) (frame : Bytes) :
    link.headerLength ≤ link.datagramStart frame := by
  cases link with
  | ethernet =>
    rw [headerLength, datagramStart]
    split
    · exact Nat.le_add_right _ _
    · exact Nat.le_refl _
  | cooked => exact Nat.le_refl _

section Prefix

variable {front frame : Bytes} {link : LinkType} (h : front <+: frame)
  (hlength : link.headerLength ≤ front.length)

include h hlength

/-- The type of a datagram is told by the header in front of it. -/
theorem datagramType_of_isPrefix : link.datagramType front = link.datagramType frame := by
  cases link with
  | ethernet =>
    rw [headerLength, Ethernet.headerLength] at hlength
    rw [datagramType, datagramType, wordAt_of_isPrefix .big h (by omega)]
  | cooked =>
    rw [headerLength, Cooked.headerLength] at hlength
    exact wordAt_of_isPrefix .big h (by omega)

/-- So is its start. -/
theorem datagramStart_of_isPrefix : link.datagramStart front = link.datagramStart frame := by
  cases link with
  | ethernet =>
    rw [headerLength, Ethernet.headerLength] at hlength
    rw [datagramStart, datagramStart, wordAt_of_isPrefix .big h (by omega)]
  | cooked => rfl

/-- The header of a framing is read from its own octets. -/
theorem headerAt_of_isPrefix : link.headerAt front = link.headerAt frame := by
  cases link with
  | ethernet =>
    rw [headerLength, Ethernet.headerLength] at hlength
    rw [headerAt, headerAt, Octets.readAt_of_isPrefix h (by omega),
      Octets.readAt_of_isPrefix h (by omega), wordAt_of_isPrefix .big h (by omega)]
  | cooked =>
    rw [headerLength, Cooked.headerLength] at hlength
    rw [headerAt, headerAt, Octets.readAt_of_isPrefix h (by omega),
      wordAt_of_isPrefix .big h (by omega), wordAt_of_isPrefix .big h (by omega),
      wordAt_of_isPrefix .big h (by omega), wordAt_of_isPrefix .big h (by omega)]

end Prefix

end LinkType

namespace Decoder

variable (decoder : Decoder) {frame : Bytes}

/-- Behind the header of the framing stand those of the datagram. -/
theorem headers_eq_cons (h : decoder.link.headerLength ≤ frame.length) :
    decoder.headers frame = decoder.link.headerAt frame ::
      decoder.networkHeaders (decoder.link.datagramType frame) (decoder.link.datagram frame) := by
  unfold headers LinkType.datagram
  cases hlink : decoder.link with
  | ethernet =>
    rw [hlink, LinkType.headerLength] at h
    simp only [Ethernet.parse, if_neg (Nat.not_lt.mpr h), Ethernet.Header.isCooked, beq_iff_eq,
      LinkType.headerAt, LinkType.datagramType, LinkType.datagramStart]
    split
    · rw [List.drop_drop]
    · rfl
  | cooked =>
    rw [hlink, LinkType.headerLength] at h
    simp only [Cooked.parse, if_neg (Nat.not_lt.mpr h), LinkType.headerAt, LinkType.datagramType,
      LinkType.datagramStart]

/-- Nothing is decoded from a frame that is shorter than the header of its framing. -/
theorem headers_eq_nil (h : frame.length < decoder.link.headerLength) :
    decoder.headers frame = [] := by
  unfold headers
  cases hlink : decoder.link with
  | ethernet =>
    rw [hlink, LinkType.headerLength] at h
    simp only [Ethernet.parse, if_pos h]
  | cooked =>
    rw [hlink, LinkType.headerLength] at h
    simp only [Cooked.parse, if_pos h]

end Decoder

/-! ## Whole datagrams -/

/-- A segment has room for the header of its protocol. -/
structure HoldsHeader (protocol : UInt8) (segment : Bytes) : Prop where
  /-- A TCP header takes twenty octets at least, and as many as its data offset tells. -/
  tcp : protocol = Tcp.protocolNumber → Tcp.minHeaderLength ≤ segment.length ∧
    4 * ((octetAt segment 12).toNat / 16) ≤ segment.length
  /-- A UDP header takes eight octets. -/
  udp : protocol = Udp.protocolNumber → Udp.headerLength ≤ segment.length

/-- Some octets are a datagram of a type: they are as many as its length field tells, and both
its own header and that of its protocol lie within them. -/
inductive IsDatagram : (etherType : UInt16) → (datagram : Bytes) → Prop
  /-- An IPv4 datagram, whose length field counts its header. -/
  | ipv4 {datagram : Bytes}
      (htotal : (wordAt .big datagram 2).toNat = datagram.length)
      (hleast : Ipv4.minHeaderLength ≤ datagram.length)
      (hheader : 4 * ((octetAt datagram 0).toNat % 16) ≤ datagram.length)
      (hsegment : HoldsHeader (octetAt datagram 9)
        (datagram.drop (4 * ((octetAt datagram 0).toNat % 16)))) :
      IsDatagram Ethernet.typeIpv4 datagram
  /-- An IPv6 datagram, whose length field does not. -/
  | ipv6 {datagram : Bytes}
      (htotal : Ipv6.headerLength + (wordAt .big datagram 4).toNat = datagram.length)
      (hsegment : HoldsHeader (octetAt datagram 6) (datagram.drop Ipv6.headerLength)) :
      IsDatagram Ethernet.typeIpv6 datagram

/-- A datagram is not empty. -/
theorem IsDatagram.length_pos {etherType : UInt16} {datagram : Bytes}
    (h : IsDatagram etherType datagram) : 0 < datagram.length := by
  cases h with
  | ipv4 _ hleast => exact Nat.lt_of_lt_of_le (by decide) hleast
  | ipv6 htotal =>
    rw [← htotal]
    exact Nat.lt_of_lt_of_le (by decide) (Nat.le_add_right _ _)

/-! ## What follows a header -/

/-- What follows the octets that a header is split off stands behind what is left of them. -/
theorem SplitsOff.parse_append {Header : Type} {length : Header → Nat}
    {parse : Bytes → Except DecodeError (Header × Bytes)} (h : SplitsOff length parse)
    {front rest : Bytes} {header : Header} (hparse : parse front = .ok (header, rest))
    (behind : Bytes) : parse (front ++ behind) = .ok (header, rest ++ behind) := by
  rw [h.extend (List.prefix_append front behind) hparse, h.rest_eq hparse,
    List.drop_append_of_le_length (h.length_le hparse)]

section Refusals

variable {front : Bytes} {reason : DecodeError} (behind : Bytes)

/-- A header that is refused with all its octets there is refused whatever follows, if its
acceptance hangs on the first octets. -/
theorem exists_error_append_of_iff {Header : Type} {length : Header → Nat}
    {parse : Bytes → Except DecodeError (Header × Bytes)} {least : Nat} {accepts : Bytes → Prop}
    {headerAt : Bytes → Header}
    (hparse : ∀ bytes header rest, parse bytes = .ok (header, rest) ↔
      least ≤ bytes.length ∧ accepts bytes ∧ length header ≤ bytes.length ∧
        header = headerAt bytes ∧ rest = bytes.drop (length header))
    (hleast : least ≤ front.length) (hheader : length (headerAt front) ≤ front.length)
    (haccepts : accepts (front ++ behind) → accepts front) (h : parse front = .error reason) :
    ∃ other, parse (front ++ behind) = .error other := by
  cases hmore : parse (front ++ behind) with
  | error other => exact ⟨other, rfl⟩
  | ok found =>
    obtain ⟨header, rest⟩ := found
    obtain ⟨-, hfirst, -⟩ := (hparse _ _ _).mp hmore
    have hfound := (hparse _ _ _).mpr ⟨hleast, haccepts hfirst, hheader, rfl, rfl⟩
    rw [h] at hfound
    cases hfound

/-- An IPv4 header that is refused with all its octets there is refused whatever follows. -/
theorem Ipv4.exists_error_append (hleast : minHeaderLength ≤ front.length)
    (hheader : 4 * ((octetAt front 0).toNat % 16) ≤ front.length)
    (h : parse front = .error reason) : ∃ other, parse (front ++ behind) = .error other := by
  rw [← length_headerAt] at hheader
  have hfirst : octetAt front 0 = octetAt (front ++ behind) 0 := by
    rw [minHeaderLength] at hleast
    exact octetAt_of_isPrefix (List.prefix_append front behind) (by omega)
  refine exists_error_append_of_iff behind parse_eq_ok_iff hleast hheader ?_ h
  rw [Accepts, Accepts, hfirst]
  exact id

/-- So is an IPv6 header. -/
theorem Ipv6.exists_error_append (hleast : headerLength ≤ front.length)
    (h : parse front = .error reason) : ∃ other, parse (front ++ behind) = .error other := by
  have hlonger : headerLength ≤ (front ++ behind).length := by
    rw [List.length_append]
    exact Nat.le_add_right_of_le hleast
  have hfirst : octetAt front 0 = octetAt (front ++ behind) 0 := by
    rw [headerLength] at hleast
    exact octetAt_of_isPrefix (List.prefix_append front behind) (by omega)
  simp only [parse, if_neg (Nat.not_lt.mpr hleast)] at h
  simp only [parse, if_neg (Nat.not_lt.mpr hlonger), ← hfirst]
  split at h
  next hversion => exact ⟨_, if_pos hversion⟩
  · cases h

/-- So is a TCP header. -/
theorem Tcp.exists_error_append (hleast : minHeaderLength ≤ front.length)
    (hheader : 4 * ((octetAt front 12).toNat / 16) ≤ front.length)
    (h : parse front = .error reason) : ∃ other, parse (front ++ behind) = .error other := by
  rw [← length_headerAt] at hheader
  have hoctet : octetAt front 12 = octetAt (front ++ behind) 12 := by
    rw [minHeaderLength] at hleast
    exact octetAt_of_isPrefix (List.prefix_append front behind) (by omega)
  refine exists_error_append_of_iff behind parse_eq_ok_iff hleast hheader ?_ h
  rw [hoctet]
  exact id

/-- A UDP header is refused only where octets of it are missing. -/
theorem Udp.exists_parse_eq_ok (hleast : headerLength ≤ front.length) :
    ∃ header, parse front = .ok (header, front.drop headerLength) :=
  ⟨_, if_neg (Nat.not_lt.mpr hleast)⟩

end Refusals

/-! ## Layer by layer -/

namespace Decoder

variable (decoder : Decoder) (trailer : Bytes)

/-- A payload is searched for a message as far as it goes. -/
theorem applicationHeaders_append {length : UInt16} {payload : Bytes}
    (h : length.toNat ≤ payload.length) :
    decoder.applicationHeaders length (payload ++ trailer) =
      decoder.applicationHeaders length payload := by
  unfold applicationHeaders
  dsimp only
  rw [List.take_append_of_le_length h]

/-- The headers of a segment are found in it. -/
theorem transportHeaders_append {protocol : UInt8} {length : UInt16} {segment : Bytes}
    (hholds : HoldsHeader protocol segment) (hlength : length.toNat = segment.length) :
    decoder.transportHeaders protocol length (segment ++ trailer) =
      decoder.transportHeaders protocol length segment := by
  unfold transportHeaders
  split
  next hprotocol =>
    obtain ⟨hleast, hheader⟩ := hholds.tcp hprotocol
    cases hparse : Tcp.parse segment with
    | error reason =>
      obtain ⟨other, hother⟩ := Tcp.exists_error_append trailer hleast hheader hparse
      rw [hother]
    | ok found =>
      obtain ⟨header, payload⟩ := found
      have hpayload : (header.payloadLength length).toNat ≤ payload.length := by
        have hlt := length.toNat_lt
        rw [Tcp.splitsOff.rest_eq hparse, List.length_drop, Tcp.Header.payloadLength, hlength,
          UInt16.toNat_ofNat_of_lt' (by simp only [UInt16.size]; omega)]
      rw [Tcp.splitsOff.parse_append hparse]
      exact congrArg _ (decoder.applicationHeaders_append trailer hpayload)
  · split
    next hprotocol =>
      obtain ⟨header, hparse⟩ := Udp.exists_parse_eq_ok (hholds.udp hprotocol)
      rw [Udp.splitsOff.parse_append hparse, hparse]
    · rfl

/-- The headers of a datagram are found in it. -/
theorem networkHeaders_append {etherType : UInt16} {datagram : Bytes}
    (h : IsDatagram etherType datagram) :
    decoder.networkHeaders etherType (datagram ++ trailer) =
      decoder.networkHeaders etherType datagram := by
  unfold networkHeaders
  cases h with
  | ipv4 htotal hleast hheader hsegment =>
    rw [if_pos rfl, if_pos rfl]
    cases hparse : Ipv4.parse datagram with
    | error reason =>
      obtain ⟨other, hother⟩ := Ipv4.exists_error_append trailer hleast hheader hparse
      rw [hother]
    | ok found =>
      obtain ⟨header, segment⟩ := found
      obtain ⟨-, -, -, hfields, hrest⟩ := (Ipv4.parse_eq_ok_iff _ _ _).mp hparse
      rw [hfields, Ipv4.length_headerAt] at hrest
      have hlength : header.payloadLength.toNat = segment.length := by
        have hlt := (wordAt .big datagram 2).toNat_lt
        rw [hfields, hrest, List.length_drop, ← htotal]
        exact UInt16.toNat_ofNat_of_lt' (by simp only [UInt16.size]; omega)
      have hholds : HoldsHeader header.protocol segment := by
        rw [hfields, hrest]
        exact hsegment
      rw [Ipv4.splitsOff.parse_append hparse]
      exact congrArg _ (decoder.transportHeaders_append trailer hholds hlength)
  | ipv6 htotal hsegment =>
    have htype : Ethernet.typeIpv6 ≠ Ethernet.typeIpv4 := by decide
    have hleast : Ipv6.headerLength ≤ datagram.length := by omega
    rw [if_neg htype, if_pos rfl, if_neg htype, if_pos rfl]
    cases hparse : Ipv6.parse datagram with
    | error reason =>
      obtain ⟨other, hother⟩ := Ipv6.exists_error_append trailer hleast hparse
      rw [hother]
    | ok found =>
      obtain ⟨header, segment⟩ := found
      have hfields : header.nextHeader = octetAt datagram 6 ∧
          header.payloadLength = wordAt .big datagram 4 ∧
            segment = datagram.drop Ipv6.headerLength := by
        simp only [Ipv6.parse, if_neg (Nat.not_lt.mpr hleast)] at hparse
        split at hparse
        · cases hparse
        · cases hparse
          exact ⟨rfl, rfl, rfl⟩
      obtain ⟨hprotocol, hpayload, hrest⟩ := hfields
      have hlength : header.payloadLength.toNat = segment.length := by
        rw [hpayload, hrest, List.length_drop]
        omega
      have hholds : HoldsHeader header.nextHeader segment := by
        rwa [hprotocol, hrest]
      rw [Ipv6.splitsOff.parse_append hparse]
      exact congrArg _ (decoder.transportHeaders_append trailer hholds hlength)

/-- Octets behind a frame are behind its datagram. -/
theorem headers_append_eq_cons {frame : Bytes}
    (hstart : decoder.link.datagramStart frame ≤ frame.length) :
    decoder.headers (frame ++ trailer) = decoder.link.headerAt frame ::
      decoder.networkHeaders (decoder.link.datagramType frame)
        (decoder.link.datagram frame ++ trailer) := by
  have hprefix := List.prefix_append frame trailer
  have hlength : decoder.link.headerLength ≤ frame.length :=
    Nat.le_trans (decoder.link.headerLength_le frame) hstart
  have hdatagram : decoder.link.datagram (frame ++ trailer) =
      decoder.link.datagram frame ++ trailer := by
    rw [LinkType.datagram, LinkType.datagram, ← LinkType.datagramStart_of_isPrefix hprefix hlength,
      List.drop_append_of_le_length hstart]
  rw [decoder.headers_eq_cons (Nat.le_trans hlength hprefix.length_le), hdatagram,
    ← LinkType.headerAt_of_isPrefix hprefix hlength,
    ← LinkType.datagramType_of_isPrefix hprefix hlength]

/-- The headers of a frame are found in front of the end of its datagram. -/
theorem headers_append {frame : Bytes}
    (h : IsDatagram (decoder.link.datagramType frame) (decoder.link.datagram frame)) :
    decoder.headers (frame ++ trailer) = decoder.headers frame := by
  have hstart : decoder.link.datagramStart frame ≤ frame.length := by
    have hpositive := h.length_pos
    rw [LinkType.datagram, List.length_drop] at hpositive
    omega
  rw [decoder.headers_append_eq_cons trailer hstart, decoder.networkHeaders_append trailer h,
    ← decoder.headers_eq_cons (Nat.le_trans (decoder.link.headerLength_le frame) hstart)]

/-- What a decoder does not look at. -/
structure IgnoresTrailers : Prop where
  /-- Octets behind those that were captured. -/
  captured : ∀ (timestamp : Timestamp) (captured wire : UInt32) (data other : Bytes),
    captured.toNat ≤ data.length → captured.toNat ≤ other.length →
    data.take captured.toNat = other.take captured.toNat →
      decoder.decodePartial timestamp captured wire data =
        decoder.decodePartial timestamp captured wire other
  /-- Octets behind the datagram of a frame, as long as the headers lie within the datagram.
  The frame may have any others there or none, and be captured with them at any time. -/
  trailer : ∀ (frame trailer trailer' data data' : Bytes) (timestamp timestamp' : Timestamp)
      (captured captured' wire wire' : UInt32),
    IsDatagram (decoder.link.datagramType frame) (decoder.link.datagram frame) →
    data.take captured.toNat = frame ++ trailer → data'.take captured'.toNat = frame ++ trailer' →
      (decoder.decodePartial timestamp captured wire data).headers =
        (decoder.decodePartial timestamp' captured' wire' data').headers

/-- No decoder looks behind what was captured or behind a whole datagram. -/
theorem ignoresTrailers : decoder.IgnoresTrailers where
  captured timestamp captured wire data other _ _ hsame := by
    rw [decodePartial, decodePartial, hsame]
  trailer frame trailer trailer' data data' timestamp timestamp' captured captured' wire wire'
      h hdata hdata' := by
    rw [decodePartial, decodePartial, hdata, hdata', decoder.headers_append trailer h,
      decoder.headers_append trailer' h]

/-- An Ethernet frame whose datagram ends behind the first line of a request. -/
def lineFrame : Bytes :=
  (requestFrame.take 70).set 17 56

/-- This datagram is whole. -/
theorem isDatagram_lineFrame :
    IsDatagram (LinkType.ethernet.datagramType lineFrame) (LinkType.ethernet.datagram lineFrame) :=
  .ipv4 (by decide) (by decide) (by decide) ⟨fun _ => ⟨by decide, by decide⟩, fun _ => by decide⟩

/-- A field and an empty line behind the datagram would go on with the request, and are not taken
for a part of it. -/
theorem ignoresTrailers_lineFrame :
    let padded := ({} : Decoder).decodePartial 0 81 81 (lineFrame ++ requestFrame.drop 70)
    padded.headers = (({} : Decoder).decodePartial 0 70 70 lineFrame).headers ∧
      padded.http?.map Http.Header.uri = some "/" ∧
      padded.http?.map Http.Header.host = some none :=
  ⟨(ignoresTrailers {}).trailer lineFrame (requestFrame.drop 70) [] _ _ 0 0 81 70 81 70
    isDatagram_lineFrame rfl rfl, by decide +kernel, by decide +kernel⟩

end Decoder

end CaptureFlow
