import CaptureFlow.Proofs.Decoder.Stack
import CaptureFlow.Proofs.Http.Sniff

/-!
# Cut frames

A frame that is cut is decoded to the same headers as the whole frame, as far as it goes:
each header is found from its own octets alone, or not at all. Only a message may come out
with less behind its first line.
-/

namespace CaptureFlow

/-! ## What is left of a stack -/

/-- The link, network and transport headers of a stack. -/
def lowerHeaders (headers : List Header) : List Header :=
  headers.filter fun header => header.layer != .application

/-- The headers that are left of a stack when its frame is cut. -/
inductive Shortens : List Header → List Header → Prop
  /-- Nothing is left. -/
  | nil {whole : List Header} : Shortens [] whole
  /-- The lowest header is left as it is. -/
  | cons (header : Header) {part whole : List Header} (habove : Shortens part whole) :
      Shortens (header :: part) (header :: whole)
  /-- A message is left with its first line. -/
  | message {part whole : Http.Header} (hline : part.SameLine whole) :
      Shortens [.http part] [.http whole]

namespace Shortens

variable {part whole : List Header} {i : Nat}

/-- The headers below the application that are left are the first of those of the whole. -/
theorem lowerHeaders_isPrefix (h : Shortens part whole) :
    lowerHeaders part <+: lowerHeaders whole := by
  unfold lowerHeaders
  induction h with
  | nil => exact List.nil_prefix
  | cons header _ ih =>
    rw [List.filter_cons, List.filter_cons]
    split
    · exact (List.prefix_cons_inj header).mpr ih
    · exact ih
  | message _ => exact List.nil_prefix

/-- A header below the application is where it was. -/
theorem getElem?_eq {header : Header} (h : Shortens part whole) (hi : part[i]? = some header)
    (hlayer : header.layer ≠ .application) : whole[i]? = some header := by
  induction h generalizing i with
  | nil => cases hi
  | cons lowest _ ih =>
    cases i with
    | zero => exact hi
    | succ i => exact ih hi
  | message _ =>
    cases i with
    | zero =>
      cases hi
      exact absurd rfl hlayer
    | succ i => cases hi

/-- A message is where it was, with its first line. -/
theorem getElem?_http {message : Http.Header} (h : Shortens part whole)
    (hi : part[i]? = some (.http message)) :
    ∃ other, whole[i]? = some (.http other) ∧ message.SameLine other := by
  induction h generalizing i with
  | nil => cases hi
  | cons lowest _ ih =>
    cases i with
    | zero => exact ⟨message, hi, .refl message⟩
    | succ i => exact ih hi
  | @message left other hline =>
    cases i with
    | zero =>
      cases hi
      exact ⟨other, rfl, hline⟩
    | succ i => cases hi

end Shortens

/-! ## Layer by layer -/

namespace Decoder

variable (decoder : Decoder) {front bytes : Bytes}

/-- The message in a payload that is cut is that in the payload, or there is none. -/
theorem shortens_applicationHeaders (h : front <+: bytes) (length : UInt16) :
    Shortens (decoder.applicationHeaders length front)
      (decoder.applicationHeaders length bytes) := by
  unfold applicationHeaders
  dsimp only
  split
  · cases hsniff : Http.sniff (front.take length.toNat) with
    | none => exact .nil
    | some message =>
      obtain ⟨other, hother, hline⟩ := Http.sniff_of_isPrefix (h.take length.toNat) hsniff
      rw [hother]
      exact .message hline
  · exact .nil

/-- The transport header of a segment that is cut is that of the segment, or there is none. -/
theorem shortens_transportHeaders (h : front <+: bytes) (protocol : UInt8) (payload : UInt16) :
    Shortens (decoder.transportHeaders protocol payload front)
      (decoder.transportHeaders protocol payload bytes) := by
  unfold transportHeaders
  split
  · cases hparse : Tcp.parse front with
    | error _ => exact .nil
    | ok found =>
      obtain ⟨header, rest⟩ := found
      obtain ⟨more, hmore, hrest⟩ := Tcp.splitsOff.extend_isPrefix h hparse
      rw [hmore]
      exact .cons (.tcp header) (decoder.shortens_applicationHeaders hrest _)
  · split
    · cases hparse : Udp.parse front with
      | error _ => exact .nil
      | ok found =>
        obtain ⟨header, rest⟩ := found
        obtain ⟨more, hmore, -⟩ := Udp.splitsOff.extend_isPrefix h hparse
        rw [hmore]
        exact .cons (.udp header) .nil
    · exact .nil

/-- The network header of a datagram that is cut is that of the datagram, or there is none. -/
theorem shortens_networkHeaders (h : front <+: bytes) (etherType : UInt16) :
    Shortens (decoder.networkHeaders etherType front)
      (decoder.networkHeaders etherType bytes) := by
  unfold networkHeaders
  split
  · cases hparse : Ipv4.parse front with
    | error _ => exact .nil
    | ok found =>
      obtain ⟨header, rest⟩ := found
      obtain ⟨more, hmore, hrest⟩ := Ipv4.splitsOff.extend_isPrefix h hparse
      rw [hmore]
      exact .cons (.ipv4 header) (decoder.shortens_transportHeaders hrest _ _)
  · split
    · cases hparse : Ipv6.parse front with
      | error _ => exact .nil
      | ok found =>
        obtain ⟨header, rest⟩ := found
        obtain ⟨more, hmore, hrest⟩ := Ipv6.splitsOff.extend_isPrefix h hparse
        rw [hmore]
        exact .cons (.ipv6 header) (decoder.shortens_transportHeaders hrest _ _)
    · exact .nil

/-- The headers of a frame that is cut are those that are left of the frame's. -/
theorem shortens_headers (h : front <+: bytes) :
    Shortens (decoder.headers front) (decoder.headers bytes) := by
  unfold headers
  cases decoder.link with
  | ethernet =>
    cases hparse : Ethernet.parse front with
    | error _ => exact .nil
    | ok found =>
      obtain ⟨header, rest⟩ := found
      obtain ⟨more, hmore, hrest⟩ := Ethernet.splitsOff.extend_isPrefix h hparse
      rw [hmore]
      apply Shortens.cons
      split
      · exact decoder.shortens_networkHeaders (hrest.drop _) _
      · exact decoder.shortens_networkHeaders hrest _
  | cooked =>
    cases hparse : Cooked.parse front with
    | error _ => exact .nil
    | ok found =>
      obtain ⟨header, rest⟩ := found
      obtain ⟨more, hmore, hrest⟩ := Cooked.splitsOff.extend_isPrefix h hparse
      rw [hmore]
      exact .cons (.cooked header) (decoder.shortens_networkHeaders hrest _)

end Decoder

/-! ## Packets -/

/-- A packet is what is left of another one whose frame was cut. -/
structure Packet.CutFrom (part whole : Packet) : Prop where
  /-- Its link, network and transport headers are the first of those of the whole. -/
  lowerHeaders_isPrefix : lowerHeaders part.headers <+: lowerHeaders whole.headers
  /-- Slot by slot, a header below the application is that of the whole. -/
  header?_eq : ∀ {layer : Layer} {header : Header}, layer ≠ .application →
    part.header? layer = some header → whole.header? layer = some header
  /-- A message is that of the whole, but for its reason and fields. -/
  sameLine : ∀ {message : Http.Header}, part.http? = some message →
    ∃ other, whole.http? = some other ∧ message.SameLine other

/-- The layer at a position is the only one. -/
theorem Layer.index_injective {layer other : Layer} (h : layer.index = other.index) :
    layer = other := by
  cases layer <;> cases other <;> first | rfl | cases h

/-- A packet has a message if there is one in its last slot. -/
theorem Packet.http?_eq_some {packet : Packet} {message : Http.Header} :
    packet.http? = some message ↔ packet.headers[3]? = some (.http message) := by
  unfold http? header?
  constructor
  · intro h
    split at h
    next hslot =>
      cases h
      exact hslot
    · cases h
  · intro h
    rw [show Layer.application.index = 3 from rfl, h]

namespace Decoder

variable (decoder : Decoder) (timestamp : Timestamp) (wire : UInt32)

/-- A frame that is cut is decoded to what is left of the packet, whatever is cut off. -/
theorem decodePartial_take (data : Bytes) {k : Nat} {cut whole : UInt32}
    (hcut : min k cut.toNat ≤ whole.toNat) :
    (decoder.decodePartial timestamp cut wire (data.take k)).CutFrom
      (decoder.decodePartial timestamp whole wire data) := by
  have hfront : (data.take k).take cut.toNat <+: data.take whole.toNat := by
    rw [List.take_take, Nat.min_comm]
    exact List.take_prefix_take_left hcut
  have hstacked := decoder.stacked_headers ((data.take k).take cut.toNat)
  have hshort := decoder.shortens_headers hfront
  constructor
  · exact hshort.lowerHeaders_isPrefix
  · intro layer header hlayer hslot
    have hindex := hstacked.layer_index hslot
    rw [Nat.zero_add] at hindex
    apply hshort.getElem?_eq hslot
    rwa [Layer.index_injective hindex]
  · intro message hmessage
    obtain ⟨other, hother, hline⟩ := hshort.getElem?_http (Packet.http?_eq_some.mp hmessage)
    exact ⟨other, Packet.http?_eq_some.mpr hother, hline⟩

/-- An Ethernet frame with a request of one field. -/
def requestFrame : Bytes :=
  [0x02, 0, 0, 0, 0, 2, 0x02, 0, 0, 0, 0, 1, 0x08, 0x00] ++
    [0x45, 0, 0, 67, 0, 1, 0, 0, 64, 6, 0, 0, 10, 0, 0, 1, 10, 0, 0, 2] ++
    [0x9c, 0x40, 0, 80, 0, 0, 0, 1, 0, 0, 0, 1, 0x50, 0x18, 0x20, 0, 0, 0, 0, 0] ++
    [0x47, 0x45, 0x54, 0x20, 0x2f, 0x20, 0x48, 0x54, 0x54, 0x50, 0x2f, 0x31, 0x2e, 0x31, 0x0d,
      0x0a, 0x48, 0x6f, 0x73, 0x74, 0x3a, 0x20, 0x61, 0x0d, 0x0a, 0x0d, 0x0a]

/-- A request that is cut within its field is found, and the field with the whole frame. -/
theorem decodePartial_requestFrame :
    let part := ({} : Decoder).decodePartial 0 75 81 (requestFrame.take 75)
    let whole := ({} : Decoder).decodePartial 0 81 81 requestFrame
    min 75 (75 : UInt32).toNat ≤ (81 : UInt32).toNat ∧ part.CutFrom whole ∧
      part.http?.map Http.Header.host = some none ∧
      whole.http?.map Http.Header.host = some (some "a") :=
  ⟨by decide, decodePartial_take {} 0 81 requestFrame (by decide), by decide +kernel,
    by decide +kernel⟩

end Decoder

end CaptureFlow
