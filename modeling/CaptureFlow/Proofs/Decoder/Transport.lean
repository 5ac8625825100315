import CaptureFlow.Proofs.Decoder.Datagram

/-!
# Where transport headers come from

The header of a transport protocol is read from the octets behind the network header that names
the protocol. Every header that lies within the datagram is found there, but not everything that
is found there is one. A later fragment goes on where another one ended and is not told from the
first. Padding behind a datagram that is too short for a header is not told from the datagram.
-/

namespace CaptureFlow

/-! ## What stands in front -/

/-- Some octets start with the header of a datagram of a type. -/
inductive StartsWithNetwork : (etherType : UInt16) → (datagram : Bytes) → Header → Prop
  /-- An IPv4 header. -/
  | ipv4 {datagram segment : Bytes} {header : Ipv4.Header}
      (hparse : Ipv4.parse datagram = .ok (header, segment)) :
      StartsWithNetwork Ethernet.typeIpv4 datagram (.ipv4 header)
  /-- An IPv6 header. -/
  | ipv6 {datagram segment : Bytes} {header : Ipv6.Header}
      (hparse : Ipv6.parse datagram = .ok (header, segment)) :
      StartsWithNetwork Ethernet.typeIpv6 datagram (.ipv6 header)

/-- Some octets start with the header of a transport protocol. -/
inductive StartsWithTransport : (protocol : UInt8) → (segment : Bytes) → Header → Prop
  /-- A TCP header. -/
  | tcp {segment payload : Bytes} {header : Tcp.Header}
      (hparse : Tcp.parse segment = .ok (header, payload)) :
      StartsWithTransport Tcp.protocolNumber segment (.tcp header)
  /-- A UDP header. -/
  | udp {segment payload : Bytes} {header : Udp.Header}
      (hparse : Udp.parse segment = .ok (header, payload)) :
      StartsWithTransport Udp.protocolNumber segment (.udp header)

/-- There are no datagrams without octets. -/
theorem StartsWithNetwork.ne_nil {etherType : UInt16} {datagram : Bytes} {network : Header}
    (h : StartsWithNetwork etherType datagram network) : datagram ≠ [] := by
  rintro rfl
  cases h with
  | ipv4 hparse => cases hparse
  | ipv6 hparse => cases hparse

namespace StartsWithTransport

variable {protocol : UInt8} {segment : Bytes} {transport : Header}

/-- A transport header lies within the octets that start with it. -/
theorem size_le (h : StartsWithTransport protocol segment transport) :
    transport.size ≤ segment.length := by
  cases h with
  | tcp hparse => exact Tcp.splitsOff.length_le hparse
  | udp hparse => exact Udp.splitsOff.length_le hparse

/-- What follows a transport header does not change it. -/
theorem of_isPrefix {bytes : Bytes} (h : StartsWithTransport protocol segment transport)
    (hwhole : segment <+: bytes) : StartsWithTransport protocol bytes transport := by
  cases h with
  | tcp hparse => exact .tcp (Tcp.splitsOff.extend hwhole hparse)
  | udp hparse => exact .udp (Udp.splitsOff.extend hwhole hparse)

/-- A transport header that lies within a payload leaves the rest of it. -/
theorem exists_payloadLength (h : StartsWithTransport protocol segment transport)
    {payload : UInt16} (hfits : transport.size ≤ payload.toNat) :
    ∃ rest, transport.payloadLength? payload = some rest ∧
      transport.size + rest.toNat = payload.toNat := by
  have hrest : (UInt16.ofNat (payload.toNat - transport.size)).toNat =
      payload.toNat - transport.size := by
    have hlt := payload.toNat_lt
    exact UInt16.toNat_ofNat_of_lt' (by simp only [UInt16.size]; omega)
  refine ⟨UInt16.ofNat (payload.toNat - transport.size), ?_, by omega⟩
  cases h with
  | tcp => rfl
  | udp => rfl

end StartsWithTransport

/-! ## Fragments -/

namespace Ipv4

/-- The offset of the data of a datagram among those that it is a fragment of, in units of eight
octets. Three flags share its octets. -/
def fragmentOffset (datagram : Bytes) : Nat :=
  (wordAt .big datagram 6).toNat % 2 ^ 13

/-- An address that stands behind a front is found as many octets later. -/
theorem Address.readAt_behind {front : Bytes} {length : Nat} (h : front.length = length)
    (behind : Bytes) (offset : Nat) :
    readAt (front ++ behind) (length + offset) = readAt behind offset := by
  simp only [readAt, Nat.add_assoc, octetAt_behind h]

section Field

variable {front field other : Bytes} (behind : Bytes) (hfront : front.length = 6)
  (hfield : field.length = 2) (hother : other.length = 2)

include hfront hfield

/-- A header is read from what stands in front of the fragment offset and behind it. -/
theorem headerAt_field : headerAt (front ++ (field ++ behind)) =
    { version := UInt8.ofNat ((octetAt front 0).toNat / 16)
      words := UInt8.ofNat ((octetAt front 0).toNat % 16)
      source := .readAt behind 4
      destination := .readAt behind 8
      protocol := octetAt behind 1
      totalLength := wordAt .big front 2
      payloadLength :=
        UInt16.ofNat ((wordAt .big front 2).toNat - 4 * ((octetAt front 0).toNat % 16)) } := by
  have hprefix := List.prefix_append front (field ++ behind)
  have hlength : (front ++ field).length = 8 := by
    rw [List.length_append, hfront, hfield]
  rw [headerAt, ← octetAt_of_isPrefix hprefix (by omega),
    ← wordAt_of_isPrefix .big hprefix (by omega), ← List.append_assoc,
    octetAt_behind hlength behind 1, Address.readAt_behind hlength behind 4,
    Address.readAt_behind hlength behind 8]

include hother

/-- A datagram is parsed alike whichever fragment it is. -/
theorem parse_field {header : Header} {rest : Bytes}
    (h : parse (front ++ (field ++ behind)) = .ok (header, rest)) :
    parse (front ++ (other ++ behind)) = .ok (header, rest) := by
  obtain ⟨hleast, haccepts, hlength, hheader, hrest⟩ := (parse_eq_ok_iff _ _ _).mp h
  have hsame : (front ++ (other ++ behind)).length = (front ++ (field ++ behind)).length := by
    simp only [List.length_append, hfield, hother]
  have hfirst : octetAt (front ++ (field ++ behind)) 0 = octetAt (front ++ (other ++ behind)) 0 :=
    (octetAt_of_isPrefix (List.prefix_append front _) (by omega)).symm.trans
      (octetAt_of_isPrefix (List.prefix_append front _) (by omega))
  -- the header reaches behind the two octets
  have hbehind : 8 ≤ header.length := by
    have hwords := haccepts.2
    rw [hheader, length_headerAt]
    omega
  have hdrop : ∀ bytes : Bytes, bytes.length = 2 →
      (front ++ (bytes ++ behind)).drop header.length = behind.drop (header.length - 8) := by
    intro bytes hbytes
    rw [List.drop_append, List.drop_eq_nil_of_le (by omega), List.nil_append, List.drop_append,
      List.drop_eq_nil_of_le (by omega), List.nil_append, hfront, hbytes, Nat.sub_sub]
  refine (parse_eq_ok_iff _ _ _).mpr ⟨hsame ▸ hleast, ?_, hsame ▸ hlength, ?_, ?_⟩
  · rwa [Accepts, ← hfirst]
  · rw [hheader, headerAt_field behind hfront hfield, headerAt_field behind hfront hother]
  · rw [hrest, hdrop field hfield, hdrop other hother]

end Field

end Ipv4

namespace Decoder

variable (decoder : Decoder)

/-- The network header is that with which the datagram starts, and the transport header follows
it. -/
theorem networkHeaders_eq_cons_iff {etherType : UInt16} {datagram : Bytes} {network : Header}
    {above : List Header} :
    decoder.networkHeaders etherType datagram = network :: above ↔
      StartsWithNetwork etherType datagram network ∧ ∃ view, network.network? = some view ∧
        decoder.transportHeaders view.protocol view.payloadLength (datagram.drop network.size) =
          above := by
  constructor
  · intro h
    unfold networkHeaders at h
    split at h
    next htype =>
      subst htype
      cases hparse : Ipv4.parse datagram with
      | error _ =>
        rw [hparse] at h
        cases h
      | ok found =>
        obtain ⟨header, segment⟩ := found
        rw [hparse] at h
        cases h
        refine ⟨.ipv4 hparse, _, rfl, ?_⟩
        rw [Ipv4.splitsOff.rest_eq hparse]
        rfl
    · split at h
      next htype =>
        subst htype
        cases hparse : Ipv6.parse datagram with
        | error _ =>
          rw [hparse] at h
          cases h
        | ok found =>
          obtain ⟨header, segment⟩ := found
          rw [hparse] at h
          cases h
          refine ⟨.ipv6 hparse, _, rfl, ?_⟩
          rw [Ipv6.splitsOff.rest_eq hparse]
          rfl
      · cases h
  · rintro ⟨hnetwork, view, hview, rfl⟩
    unfold networkHeaders
    cases hnetwork with
    | ipv4 hparse =>
      cases hview
      rw [if_pos rfl, hparse, Ipv4.splitsOff.rest_eq hparse]
      rfl
    | ipv6 hparse =>
      cases hview
      rw [if_neg (by decide), if_pos rfl, hparse, Ipv6.splitsOff.rest_eq hparse]
      rfl

/-- The transport header is that with which a segment starts. -/
theorem head?_transportHeaders {protocol : UInt8} (payload : UInt16) {segment : Bytes}
    {transport : Header} :
    (decoder.transportHeaders protocol payload segment).head? = some transport ↔
      StartsWithTransport protocol segment transport := by
  constructor
  · intro h
    unfold transportHeaders at h
    split at h
    next hprotocol =>
      subst hprotocol
      cases hparse : Tcp.parse segment with
      | error _ =>
        rw [hparse] at h
        cases h
      | ok found =>
        rw [hparse] at h
        cases h
        exact .tcp hparse
    · split at h
      next hprotocol =>
        subst hprotocol
        cases hparse : Udp.parse segment with
        | error _ =>
          rw [hparse] at h
          cases h
        | ok found =>
          rw [hparse] at h
          cases h
          exact .udp hparse
      · cases h
  · intro h
    unfold transportHeaders
    cases h with
    | tcp hparse =>
      rw [if_pos rfl, hparse]
      rfl
    | udp hparse =>
      rw [if_neg (by decide), if_pos rfl, hparse]
      rfl

/-- The headers of a datagram are those of any fragment. -/
theorem networkHeaders_field {front field other : Bytes} (behind : Bytes)
    (hfront : front.length = 6) (hfield : field.length = 2) (hother : other.length = 2) :
    decoder.networkHeaders Ethernet.typeIpv4 (front ++ (field ++ behind)) =
      decoder.networkHeaders Ethernet.typeIpv4 (front ++ (other ++ behind)) := by
  unfold networkHeaders
  rw [if_pos rfl, if_pos rfl]
  cases hone : Ipv4.parse (front ++ (field ++ behind)) with
  | ok found => rw [Ipv4.parse_field behind hfront hfield hother hone]
  | error _ =>
    cases htwo : Ipv4.parse (front ++ (other ++ behind)) with
    | ok found =>
      rw [Ipv4.parse_field behind hfront hother hfield htwo] at hone
      cases hone
    | error _ => rfl

/-- The headers of a frame are those of a frame with any fragment. -/
theorem headers_field {front field other : Bytes} (behind : Bytes)
    (htype : decoder.link.datagramType front = Ethernet.typeIpv4)
    (hfront : front.length = decoder.link.datagramStart front + 6)
    (hfield : field.length = 2) (hother : other.length = 2) :
    decoder.headers (front ++ (field ++ behind)) =
      decoder.headers (front ++ (other ++ behind)) := by
  have hstart : decoder.link.datagramStart front ≤ front.length := by omega
  have hsix : (decoder.link.datagram front).length = 6 := by
    rw [LinkType.datagram, List.length_drop]
    omega
  rw [decoder.headers_append_eq_cons _ hstart, decoder.headers_append_eq_cons _ hstart, htype,
    decoder.networkHeaders_field behind hsix hfield hother]

/-! ## Frames -/

/-- Where a transport header of a frame comes from. -/
structure TransportOrigin (frame : Bytes) (network : Header) (view : Network)
    (transport : Header) : Prop where
  /-- The transport header stands on the network header, and this on the framing. -/
  exists_headers : ∃ above, decoder.headers frame =
    decoder.link.headerAt frame :: network :: transport :: above
  /-- The datagram starts with the network header, -/
  startsWithNetwork : StartsWithNetwork (decoder.link.datagramType frame)
    (decoder.link.datagram frame) network
  /-- which tells a protocol and the length of the payload. -/
  network?_eq : network.network? = some view
  /-- What stands behind it starts with the transport header of that protocol. -/
  startsWithTransport : StartsWithTransport view.protocol
    ((decoder.link.datagram frame).drop network.size) transport
  /-- If that is no more than the payload, the transport header lies within the payload, and the
  rest of the payload has the length that is told. -/
  exists_payloadLength :
    ((decoder.link.datagram frame).drop network.size).length ≤ view.payloadLength.toNat →
      ∃ rest, transport.payloadLength? view.payloadLength = some rest ∧
        transport.size + rest.toNat = view.payloadLength.toNat

/-- How the transport header of a frame is found. -/
structure ReadsTransport (frame : Bytes) : Prop where
  /-- A transport header has its origin in the frame. -/
  exists_origin : ∀ transport ∈ decoder.headers frame, transport.layer = .transport →
    ∃ network view, decoder.TransportOrigin frame network view transport
  /-- One that lies within the payload of the datagram is found. -/
  mem_headers : ∀ (network : Header) (view : Network) (transport : Header),
    StartsWithNetwork (decoder.link.datagramType frame) (decoder.link.datagram frame) network →
    network.network? = some view →
    StartsWithTransport view.protocol
      (((decoder.link.datagram frame).drop network.size).take view.payloadLength.toNat) transport →
    transport ∈ decoder.headers frame
  /-- The two octets with the fragment offset of an IPv4 datagram are not looked at. -/
  headers_field : ∀ front field other behind : Bytes, frame = front ++ (field ++ behind) →
    decoder.link.datagramType front = Ethernet.typeIpv4 →
    front.length = decoder.link.datagramStart front + 6 → field.length = 2 → other.length = 2 →
      decoder.headers frame = decoder.headers (front ++ (other ++ behind))

variable (frame : Bytes)

/-- A transport header is the third one. -/
theorem exists_headers_of_mem {transport : Header} (hmem : transport ∈ decoder.headers frame)
    (hlayer : transport.layer = .transport) : ∃ network above,
      decoder.headers frame = decoder.link.headerAt frame :: network :: transport :: above ∧
        decoder.networkHeaders (decoder.link.datagramType frame) (decoder.link.datagram frame) =
          network :: transport :: above := by
  -- a header stands at the position of its layer
  obtain ⟨i, hi⟩ := List.mem_iff_getElem?.mp hmem
  have hindex := (decoder.stacked_headers frame).layer_index hi
  rw [hlayer, Nat.zero_add] at hindex
  subst hindex
  rcases Nat.lt_or_ge frame.length decoder.link.headerLength with hshort | hlength
  · rw [decoder.headers_eq_nil hshort] at hmem
    cases hmem
  · rw [decoder.headers_eq_cons hlength] at hi ⊢
    have hlist : ∀ headers : List Header, headers[1]? = some transport →
        ∃ network above, headers = network :: transport :: above := by
      intro headers h
      match headers, h with
      | network :: _ :: above, rfl => exact ⟨network, above, rfl⟩
    obtain ⟨network, above, hheaders⟩ := hlist _ hi
    exact ⟨network, above, by rw [hheaders], hheaders⟩

/-- A transport header is read behind the network header that names its protocol, from whatever
stands there. -/
theorem readsTransport : decoder.ReadsTransport frame where
  exists_origin transport hmem hlayer := by
    obtain ⟨network, above, hheaders, hnetwork⟩ := decoder.exists_headers_of_mem frame hmem hlayer
    obtain ⟨hstarts, view, hview, habove⟩ := decoder.networkHeaders_eq_cons_iff.mp hnetwork
    have htransport : StartsWithTransport view.protocol
        ((decoder.link.datagram frame).drop network.size) transport := by
      apply (decoder.head?_transportHeaders view.payloadLength).mp
      rw [habove, List.head?_cons]
    exact ⟨network, view, ⟨above, hheaders⟩, hstarts, hview, htransport, fun hfits =>
      htransport.exists_payloadLength (Nat.le_trans htransport.size_le hfits)⟩
  mem_headers network view transport hstarts hview htransport := by
    have hlength : decoder.link.headerLength ≤ frame.length := by
      have hstart := decoder.link.headerLength_le frame
      have hdatagram := List.length_pos_iff.mpr hstarts.ne_nil
      rw [LinkType.datagram, List.length_drop] at hdatagram
      omega
    have hhead := (decoder.head?_transportHeaders view.payloadLength).mpr
      (htransport.of_isPrefix (List.take_prefix _ _))
    rw [decoder.headers_eq_cons hlength,
      decoder.networkHeaders_eq_cons_iff.mpr ⟨hstarts, view, hview, rfl⟩]
    exact .tail _ (.tail _ (List.mem_of_head? hhead))
  headers_field front field other behind hframe htype hfront hfield hother := by
    rw [hframe, decoder.headers_field behind htype hfront hfield hother]

/-- A transport header is real if it lies within the payload of its datagram, and the datagram is
no later fragment of another one. -/
structure TransportIsReal : Prop where
  /-- The payload of the datagram has the length of the transport header at least. -/
  size_le : ∀ (link network : Header) (view : Network) (transport : Header) (above : List Header),
    decoder.headers frame = link :: network :: transport :: above →
    network.network? = some view → transport.size ≤ view.payloadLength.toNat
  /-- An IPv4 datagram with a transport header is the first fragment. -/
  fragmentOffset_eq : ∀ (link network transport : Header) (above : List Header),
    decoder.headers frame = link :: network :: transport :: above →
    decoder.link.datagramType frame = Ethernet.typeIpv4 →
      Ipv4.fragmentOffset (decoder.link.datagram frame) = 0

/-- An Ethernet frame with a later fragment, which ends with the text `0123456789abcdef`. -/
def fragmentFrame : Bytes :=
  [0x02, 0, 0, 0, 0, 2, 0x02, 0, 0, 0, 0, 1, 0x08, 0x00] ++
    [0x45, 0, 0, 36, 0, 1, 0, 0xb9, 64, 17, 0, 0, 10, 0, 0, 1, 10, 0, 0, 2] ++
    [0x30, 0x31, 0x32, 0x33, 0x34, 0x35, 0x36, 0x37, 0x38, 0x39, 0x61, 0x62, 0x63, 0x64, 0x65, 0x66]

/-- An Ethernet frame with a datagram that has no payload, padded to sixty octets. -/
def paddedFrame : Bytes :=
  [0x02, 0, 0, 0, 0, 2, 0x02, 0, 0, 0, 0, 1, 0x08, 0x00] ++
    [0x45, 0, 0, 20, 0, 1, 0, 0, 64, 17, 0, 0, 10, 0, 0, 1, 10, 0, 0, 2] ++
    List.replicate 26 0

/-- Text within a fragment and padding behind a datagram are both taken for UDP headers. -/
theorem fragmentFrame_misread :
    ¬({} : Decoder).TransportIsReal fragmentFrame ∧
      ¬({} : Decoder).TransportIsReal paddedFrame := by
  constructor
  · intro hreal
    have hoffset := hreal.fragmentOffset_eq _ _ _ _
      (rfl : ({} : Decoder).headers fragmentFrame = [_, _, .udp ⟨0x3031, 0x3233, 0x3435, 0x3637⟩])
      (by decide)
    exact absurd hoffset (by decide)
  · intro hreal
    have hsize := hreal.size_le _ _ _ _ _
      (rfl : ({} : Decoder).headers paddedFrame = [_, _, .udp ⟨0, 0, 0, 0⟩]) rfl
    exact absurd hsize (by decide)

end Decoder

end CaptureFlow
