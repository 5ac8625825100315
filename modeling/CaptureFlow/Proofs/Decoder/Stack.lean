import CaptureFlow.Decoder
import CaptureFlow.Proofs.Header.Front
import Mathlib.Algebra.GroupWithZero.Nat

/-!
# Stacks of headers

The headers of a packet stand on top of one another: each at the position of its layer,
a message on TCP only and nothing on UDP. Every header was split off the front of what the
headers below it left, so that together they are no longer than the frame.
-/

namespace CaptureFlow

/-! ## The order of headers -/

/-- Headers that stand on top of one another, the lowest of them at the position `index`. -/
inductive Stacked : (index : Nat) → List Header → Prop
  /-- No headers. -/
  | nil {index : Nat} : Stacked index []
  /-- A header of the layer of its position. -/
  | cons {index : Nat} {header : Header} {above : List Header}
      (hlayer : header.layer.index = index)
      (hudp : ∀ udp, header = .udp udp → above = [])
      (hhttp : ∀ message others, above = .http message :: others → ∃ tcp, header = .tcp tcp)
      (habove : Stacked (index + 1) above) : Stacked index (header :: above)

namespace Stacked

variable {index i : Nat} {headers : List Header} {header : Header}

/-- A stack ends with the application. -/
theorem length_le (h : Stacked index headers) : index ≤ 4 → index + headers.length ≤ 4 := by
  induction h with
  | nil => exact id
  | @cons index header above hlayer _ _ _ ih =>
    intro _
    have hless : header.layer.index < 4 := by
      cases header.layer <;> decide
    have hrest := ih (by omega)
    rw [List.length_cons]
    omega

/-- The header at a position belongs to its layer. -/
theorem layer_index (h : Stacked index headers) (hi : headers[i]? = some header) :
    header.layer.index = index + i := by
  induction h generalizing i with
  | nil => cases hi
  | cons hlayer _ _ _ ih =>
    cases i with
    | zero =>
      cases hi
      exact hlayer
    | succ i =>
      have habove := ih hi
      omega

/-- A message stands on a TCP header, or below all others. -/
theorem http_above {message : Http.Header} (h : Stacked index headers)
    (hi : headers[i]? = some (.http message)) :
    i = 0 ∨ ∃ below tcp, i = below + 1 ∧ headers[below]? = some (.tcp tcp) := by
  induction h generalizing i with
  | nil => cases hi
  | @cons index header above _ _ hhttp _ ih =>
    cases i with
    | zero => exact .inl rfl
    | succ i =>
      right
      rcases ih hi with rfl | ⟨below, tcp, rfl, hbelow⟩
      · obtain ⟨others, rfl⟩ : ∃ others, above = .http message :: others := by
          cases above with
          | nil => cases hi
          | cons first others =>
            cases hi
            exact ⟨others, rfl⟩
        obtain ⟨tcp, rfl⟩ := hhttp message others rfl
        exact ⟨0, tcp, rfl, rfl⟩
      · exact ⟨below + 1, tcp, rfl, hbelow⟩

/-- Nothing stands on a UDP header. -/
theorem udp_last {udp : Udp.Header} (h : Stacked index headers)
    (hi : headers[i]? = some (.udp udp)) : i + 1 = headers.length := by
  induction h generalizing i with
  | nil => cases hi
  | @cons index header above _ hudp _ _ ih =>
    cases i with
    | zero =>
      cases hi
      rw [hudp udp rfl]
      rfl
    | succ i =>
      have habove := ih hi
      rw [List.length_cons]
      omega

/-- A single header is a stack at the position of its layer. -/
theorem singleton (header : Header) : Stacked header.layer.index [header] :=
  .cons rfl (fun _ _ => rfl) (fun _ _ h => by cases h) .nil

/-- Any stack of the next layer stands on a header below the transport. -/
theorem cons_of_lt {above : List Header} (hlayer : header.layer.index = index)
    (hlow : index < Layer.transport.index) (habove : Stacked (index + 1) above) :
    Stacked index (header :: above) := by
  rw [show Layer.transport.index = 2 from rfl] at hlow
  refine .cons hlayer ?_ ?_ habove
  · rintro udp rfl
    have htransport : (Header.udp udp).layer.index = 2 := rfl
    omega
  · rintro message others rfl
    have hmessage := habove.layer_index (i := 0) rfl
    have happlication : (Header.http message).layer.index = 3 := rfl
    omega

end Stacked

/-! ## The room that headers take -/

/-- The octets that a header takes in a frame; a message is part of the payload. -/
def Header.size : Header → Nat
  | ethernet _ => Ethernet.headerLength
  | cooked _ => Cooked.headerLength
  | ipv4 header => header.length
  | ipv6 _ => Ipv6.headerLength
  | tcp header => header.length
  | udp _ => Udp.headerLength
  | http _ => 0

/-- The octets that headers take together. -/
def sizes (headers : List Header) : Nat :=
  (headers.map Header.size).sum

/-- The octets of padding between the headers of a frame. -/
def paddingOf : List Header → Nat
  | .ethernet header :: _ :: _ => if header.isCooked then Ethernet.cookedPadding else 0
  | _ => 0

/-- The octets of headers are those of the first and those of the others. -/
theorem sizes_cons (header : Header) (above : List Header) :
    sizes (header :: above) = header.size + sizes above :=
  List.sum_cons

/-- There are two octets of padding at most. -/
theorem paddingOf_le (headers : List Header) : paddingOf headers ≤ Ethernet.cookedPadding := by
  unfold paddingOf
  split
  · split
    · exact Nat.le_refl _
    · exact Nat.zero_le _
  · exact Nat.zero_le _

/-- A header that was split off, and others that lie within what it left, lie within the
whole. -/
theorem SplitsOff.add_le {Header : Type} {length : Header → Nat}
    {parse : Bytes → Except DecodeError (Header × Bytes)} (h : SplitsOff length parse)
    {bytes rest : Bytes} {header : Header} (hparse : parse bytes = .ok (header, rest)) {n : Nat}
    (hn : n ≤ rest.length) : length header + n ≤ bytes.length := by
  have hle := h.length_le hparse
  rw [h.rest_eq hparse, List.length_drop] at hn
  omega

/-! ## The stacks of a decoder -/

namespace Decoder

variable (decoder : Decoder)

/-- Behind a TCP header there is a message or nothing. -/
theorem applicationHeaders_eq (length : UInt16) (bytes : Bytes) :
    decoder.applicationHeaders length bytes = [] ∨
      ∃ message, decoder.applicationHeaders length bytes = [.http message] := by
  unfold applicationHeaders
  dsimp only
  split
  · cases Http.sniff (bytes.take length.toNat) with
    | none => exact .inl rfl
    | some message => exact .inr ⟨message, rfl⟩
  · exact .inl rfl

/-- Behind a network header stands a transport header, and on TCP a message. -/
theorem stacked_transportHeaders (protocol : UInt8) (payload : UInt16) (bytes : Bytes) :
    Stacked 2 (decoder.transportHeaders protocol payload bytes) := by
  unfold transportHeaders
  split
  · split
    next tcp rest _ =>
      rcases decoder.applicationHeaders_eq (tcp.payloadLength payload) rest with
        happlication | ⟨message, happlication⟩
      · rw [happlication]
        exact Stacked.singleton (.tcp tcp)
      · rw [happlication]
        exact .cons rfl (fun _ h => by cases h) (fun _ _ _ => ⟨tcp, rfl⟩)
          (Stacked.singleton (.http message))
    · exact .nil
  · split
    · split
      next udp _ _ => exact Stacked.singleton (.udp udp)
      · exact .nil
    · exact .nil

/-- Behind the framing stands a network header. -/
theorem stacked_networkHeaders (etherType : UInt16) (bytes : Bytes) :
    Stacked 1 (decoder.networkHeaders etherType bytes) := by
  unfold networkHeaders
  split
  · split
    · exact .cons_of_lt rfl (by decide) (decoder.stacked_transportHeaders _ _ _)
    · exact .nil
  · split
    · split
      · exact .cons_of_lt rfl (by decide) (decoder.stacked_transportHeaders _ _ _)
      · exact .nil
    · exact .nil

/-- The headers of a frame are a stack. -/
theorem stacked_headers (frame : Bytes) : Stacked 0 (decoder.headers frame) := by
  unfold headers
  split
  · split
    · refine .cons_of_lt rfl (by decide) ?_
      split <;> exact decoder.stacked_networkHeaders _ _
    · exact .nil
  · split
    · exact .cons_of_lt rfl (by decide) (decoder.stacked_networkHeaders _ _)
    · exact .nil

/-- A transport header lies within what the network header left. -/
theorem sizes_transportHeaders_le (protocol : UInt8) (payload : UInt16) (bytes : Bytes) :
    sizes (decoder.transportHeaders protocol payload bytes) ≤ bytes.length := by
  unfold transportHeaders
  split
  · split
    next tcp rest hparse =>
      have happlication : sizes (decoder.applicationHeaders (tcp.payloadLength payload) rest) =
          0 := by
        rcases decoder.applicationHeaders_eq (tcp.payloadLength payload) rest with
          h | ⟨message, h⟩ <;> rw [h] <;> rfl
      rw [sizes_cons, happlication]
      exact Tcp.splitsOff.length_le hparse
    · exact Nat.zero_le _
  · split
    · split
      next udp rest hparse => exact Udp.splitsOff.length_le hparse
      · exact Nat.zero_le _
    · exact Nat.zero_le _

/-- A network header and those on it lie within what the framing left. -/
theorem sizes_networkHeaders_le (etherType : UInt16) (bytes : Bytes) :
    sizes (decoder.networkHeaders etherType bytes) ≤ bytes.length := by
  unfold networkHeaders
  split
  · split
    next ipv4 rest hparse =>
      rw [sizes_cons]
      exact Ipv4.splitsOff.add_le hparse (decoder.sizes_transportHeaders_le _ _ rest)
    · exact Nat.zero_le _
  · split
    · split
      next ipv6 rest hparse =>
        rw [sizes_cons]
        exact Ipv6.splitsOff.add_le hparse (decoder.sizes_transportHeaders_le _ _ rest)
      · exact Nat.zero_le _
    · exact Nat.zero_le _

/-- Nothing is decoded from nothing. -/
theorem networkHeaders_nil (etherType : UInt16) : decoder.networkHeaders etherType [] = [] := by
  unfold networkHeaders
  split
  · rfl
  · split <;> rfl

/-- A network header behind padding, and those on it, lie with the padding within what the
framing left. -/
theorem sizes_padded_le (header : Ethernet.Header) (etherType : UInt16) (rest : Bytes) :
    sizes (decoder.networkHeaders etherType (rest.drop Ethernet.cookedPadding)) +
        paddingOf (.ethernet header ::
          decoder.networkHeaders etherType (rest.drop Ethernet.cookedPadding)) ≤
      rest.length := by
  by_cases hshort : rest.length ≤ Ethernet.cookedPadding
  · rw [List.drop_eq_nil_of_le hshort, networkHeaders_nil]
    exact Nat.zero_le _
  · have hsizes := decoder.sizes_networkHeaders_le etherType (rest.drop Ethernet.cookedPadding)
    have hpadding := paddingOf_le (.ethernet header ::
      decoder.networkHeaders etherType (rest.drop Ethernet.cookedPadding))
    rw [List.length_drop] at hsizes
    omega

/-- The headers of a frame, and the padding between them, lie within it. -/
theorem sizes_headers_le (frame : Bytes) :
    sizes (decoder.headers frame) + paddingOf (decoder.headers frame) ≤ frame.length := by
  unfold headers
  split
  · split
    next header rest hparse =>
      split
      · rw [sizes_cons, Nat.add_assoc]
        exact Ethernet.splitsOff.add_le hparse (decoder.sizes_padded_le header _ rest)
      next hplain =>
        have hpadding : ∀ above, paddingOf (.ethernet header :: above) = 0 := by
          intro above
          cases above with
          | nil => rfl
          | cons => exact if_neg hplain
        rw [hpadding, sizes_cons]
        exact Ethernet.splitsOff.add_le hparse (decoder.sizes_networkHeaders_le _ rest)
    · exact Nat.zero_le _
  · split
    next header rest hparse =>
      have hpadding : ∀ above, paddingOf (.cooked header :: above) = 0 := fun _ => rfl
      rw [hpadding, sizes_cons]
      exact Cooked.splitsOff.add_le hparse (decoder.sizes_networkHeaders_le _ rest)
    · exact Nat.zero_le _

end Decoder

end CaptureFlow
