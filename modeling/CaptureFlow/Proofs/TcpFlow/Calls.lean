import CaptureFlow.Proofs.Flow.Totals
import CaptureFlow.Proofs.Table
import CaptureFlow.Proofs.TcpFlow.Building
import Mathlib.Data.List.Induction

/-!
# Calls on a flow

A flow is offered packets one after the other and accepts some of them. What it holds in
the end is told by the accepted packets alone: all of them in the order of the calls, those
of each direction apart, and for each direction the sums, the earliest segment and the
latest packet of every sequence number.
-/

namespace CaptureFlow

/-- The sequence number of a packet, if it has a TCP header. -/
def Packet.seq? (packet : Packet) : Option UInt32 :=
  packet.tcp?.map Tcp.Header.seq

/-- What is kept of a packet that is the earliest one, if it has a TCP header. -/
def Packet.segment? (packet : Packet) : Option FirstSegment :=
  packet.tcp?.map fun tcp => ⟨packet.timestamp, tcp.seq, tcp.ack⟩

/-- A list is put together from two others whose elements stay in their order. -/
inductive Interleaves {α : Type} : List α → List α → List α → Prop where
  /-- Nothing is put together from nothing. -/
  | nil : Interleaves [] [] []
  /-- The next element is one of the left list. -/
  | left {x : α} {xs ys zs : List α} (h : Interleaves xs ys zs) :
    Interleaves (x :: xs) ys (x :: zs)
  /-- The next element is one of the right list. -/
  | right {y : α} {xs ys zs : List α} (h : Interleaves xs ys zs) :
    Interleaves xs (y :: ys) (y :: zs)

namespace Interleaves

variable {α : Type} {xs ys zs : List α}

/-- One more element of the left list comes last. -/
theorem concat_left (h : Interleaves xs ys zs) (x : α) :
    Interleaves (xs ++ [x]) ys (zs ++ [x]) := by
  induction h with
  | nil => exact .left .nil
  | left _ ih => exact .left ih
  | right _ ih => exact .right ih

/-- One more element of the right list comes last. -/
theorem concat_right (h : Interleaves xs ys zs) (y : α) :
    Interleaves xs (ys ++ [y]) (zs ++ [y]) := by
  induction h with
  | nil => exact .right .nil
  | left _ ih => exact .left ih
  | right _ ih => exact .right ih

/-- With nothing on the right, all elements are those of the left list. -/
theorem eq_left (h : Interleaves xs [] zs) : zs = xs := by
  generalize hys : ([] : List α) = ys at h
  induction h with
  | nil => rfl
  | left _ ih => rw [ih hys]
  | right _ _ => cases hys

end Interleaves

/-! ## What a direction holds -/

/-- A direction holds these packets and tells their sums, the first of the earliest ones, and
the last one with each sequence number. -/
structure FlowSide.Records (side : FlowSide) (taken : List Member) : Prop where
  /-- The packets stand in order. -/
  members_eq : side.members.toList = taken
  /-- All of them have TCP headers. -/
  segments : ∀ member ∈ taken, member.packet.tcp?.isSome
  /-- The sequence numbers increase. -/
  increasing : Table.Increasing side.bySeq
  /-- Under a sequence number stands the last packet that has it, if there is one. -/
  bySeq_eq : ∀ seq,
    side.bySeq.find? seq = taken.findRev? fun member => member.packet.seq? = some seq
  /-- The first segment is the first one with the earliest timestamp. -/
  first_eq : side.first =
    ((taken.map Member.packet).minOn? Packet.timestamp).bind Packet.segment?
  /-- The octets of the TCP payloads are summed up. -/
  payloadBytes_eq : side.payloadBytes = Packet.total Packet.payloadOctets (taken.map Member.packet)
  /-- The octets of the IP payloads are summed up. -/
  ipPayloadBytes_eq :
    side.ipPayloadBytes = Packet.total Packet.ipPayloadOctets (taken.map Member.packet)
  /-- The octets on the wire are summed up. -/
  wireBytes_eq : side.wireBytes = Packet.total Packet.wireOctets (taken.map Member.packet)

/-- The last of a list and one more element is that element, if it can be. -/
theorem findRev?_concat {α : Type} (p : α → Bool) (xs : List α) (x : α) :
    (xs ++ [x]).findRev? p = if p x then some x else xs.findRev? p := by
  rw [List.findRev?_eq_find?_reverse, List.findRev?_eq_find?_reverse, List.reverse_append,
    List.reverse_singleton, List.singleton_append, List.find?_cons]
  cases p x <;> rfl

namespace FlowSide.Records

variable {side : FlowSide} {taken : List Member}

/-- A direction without packets holds none. -/
theorem nil : FlowSide.Records {} [] where
  members_eq := rfl
  segments _ h := nomatch h
  increasing := Table.increasing_nil
  bySeq_eq _ := rfl
  first_eq := rfl
  payloadBytes_eq := rfl
  ipPayloadBytes_eq := rfl
  wireBytes_eq := rfl

/-- The latest packet takes the place under its sequence number. -/
theorem find?_bySeq_push (h : side.Records taken) {member : Member} {tcp : Tcp.Header}
    (htcp : member.packet.tcp? = some tcp) (seq : UInt32) :
    (side.push member tcp).bySeq.find? seq =
      (taken ++ [member]).findRev? fun member => member.packet.seq? = some seq := by
  have hseq : member.packet.seq? = some tcp.seq := by rw [Packet.seq?, htcp, Option.map_some]
  rw [findRev?_concat, ← h.bySeq_eq, hseq]
  by_cases hsame : tcp.seq = seq
  · subst hsame
    rw [if_pos (by simp)]
    exact Table.find?_update_self h.increasing _ _ _
  · rw [if_neg (by simpa using hsame)]
    exact Table.find?_update_of_ne _ (Ne.symm hsame) _ _

/-- A packet before the earliest one so far takes its place. -/
theorem first_push (h : side.Records taken) {member : Member} {tcp : Tcp.Header}
    (htcp : member.packet.tcp? = some tcp) :
    (side.push member tcp).first =
      (((taken ++ [member]).map Member.packet).minOn? Packet.timestamp).bind Packet.segment? := by
  have hown : member.packet.segment? = some ⟨member.packet.timestamp, tcp.seq, tcp.ack⟩ := by
    rw [Packet.segment?, htcp, Option.map_some]
  have hfirst := h.first_eq
  rw [List.map_append, List.map_singleton, List.minOn?_append, List.minOn?_singleton]
  simp only [FlowSide.push]
  cases hearliest : (taken.map Member.packet).minOn? Packet.timestamp with
  | none =>
    rw [hearliest] at hfirst
    rw [hfirst]
    exact hown.symm
  | some earliest =>
    obtain ⟨other, hother, rfl⟩ := List.mem_map.mp (List.minOn?_mem hearliest)
    obtain ⟨tcp', htcp'⟩ := Option.isSome_iff_exists.mp (h.segments other hother)
    rw [hearliest, Option.bind_some, Packet.segment?, htcp', Option.map_some] at hfirst
    rw [hfirst, Option.merge_some_some, Option.bind_some, minOn]
    by_cases hle : other.packet.timestamp ≤ member.packet.timestamp
    · rw [if_neg (by simpa using Int64.not_lt.mpr hle), if_pos hle, Packet.segment?, htcp',
        Option.map_some]
    · rw [if_pos (by simpa using Int64.not_le.mp hle), if_neg hle, hown]

/-- One more packet is held behind the others. -/
theorem push (h : side.Records taken) {member : Member} {tcp : Tcp.Header}
    (htcp : member.packet.tcp? = some tcp) :
    (side.push member tcp).Records (taken ++ [member]) where
  members_eq := by rw [FlowSide.push, Array.toList_push, h.members_eq]
  segments other hother := by
    rcases List.mem_append.mp hother with hother | hother
    · exact h.segments other hother
    · rw [List.mem_singleton.mp hother, htcp]
      rfl
  increasing := Table.increasing_update h.increasing ..
  bySeq_eq seq := h.find?_bySeq_push htcp seq
  first_eq := h.first_push htcp
  payloadBytes_eq := by
    rw [List.map_append, List.map_singleton, Packet.total_concat, ← h.payloadBytes_eq]
    rfl
  ipPayloadBytes_eq := by
    rw [List.map_append, List.map_singleton, Packet.total_concat, ← h.ipPayloadBytes_eq]
    rfl
  wireBytes_eq := by
    rw [List.map_append, List.map_singleton, Packet.total_concat, ← h.wireBytes_eq]
    rfl

end FlowSide.Records

namespace TcpFlow

/-! ## Calls and their answers -/

/-- What a call answers: the direction of the packet, or why it is refused. -/
def answer (flow : TcpFlow) (member : Member) : Except FlowError Direction :=
  (flow.add member).map Prod.fst

/-- A packet that a flow was offered, with the answer. -/
abbrev Call := Member × Except FlowError Direction

/-- The calls that offer packets to a flow one after the other. -/
def calls (flow : TcpFlow) : List Member → List Call
  | [] => []
  | member :: rest => (member, flow.answer member) :: calls (flow.addIfMember member) rest

/-- The packets that were accepted, in the order of the calls. -/
def accepted (calls : List Call) : List Member :=
  (calls.filter fun call => call.2.isOk).map Prod.fst

/-- The packets that were accepted in a direction, in the order of the calls. -/
def acceptedIn (direction : Direction) (calls : List Call) : List Member :=
  (calls.filter fun call => call.2.toOption = some direction).map Prod.fst

/-- What a flow holds after some calls. -/
structure IsRecord (pair : EndpointPair) (calls : List Call) (flow : TcpFlow) : Prop where
  /-- The pair is the one that the flow was made for. -/
  pair_eq : flow.pair = pair
  /-- The packets are those accepted, in the order of the calls. -/
  members_eq : flow.members.toList = accepted calls
  /-- They are put together from those of both directions. -/
  interleaves : Interleaves flow.forward.members.toList flow.reverse.members.toList
    flow.members.toList
  /-- Each direction tells of the packets accepted in it. -/
  sides : ∀ direction, (flow.side direction).Records (acceptedIn direction calls)
  /-- The span is that of the packets accepted. -/
  span : Span.IsSpanOf flow.span ((accepted calls).map Member.packet)

/-- What one more call does to a flow. -/
structure CallEffect (flow : TcpFlow) (member : Member) : Prop where
  /-- A packet goes forward with the pair of the flow and back with its reverse; no other
  packet is accepted. -/
  answer_iff : ∀ direction, flow.answer member = .ok direction ↔
    EndpointPair.ofPacket member.packet = .ok flow.pair ∧ direction = .forward ∨
      EndpointPair.ofPacket member.packet = .ok flow.pair.reversed ∧
        flow.pair.reversed ≠ flow.pair ∧ direction = .reverse
  /-- A refused packet leaves the flow as it was. -/
  refused : ∀ reason, flow.answer member = .error reason → flow.addIfMember member = flow
  /-- The direction that is answered receives the packet, and the other one stays as it was. -/
  received : ∀ direction, flow.answer member = .ok direction →
    flow.add member = .ok (direction, flow.addIfMember member) ∧
      (flow.addIfMember member).members = flow.members.push member ∧
      ((flow.addIfMember member).side direction).members =
        (flow.side direction).members.push member ∧
      (flow.addIfMember member).side direction.opposite = flow.side direction.opposite

section Answers

variable {flow : TcpFlow} {member : Member}

/-- A packet that a flow accepts has a TCP header, and is put into the direction that is
answered. -/
theorem add_eq_ok_iff {direction : Direction} {next : TcpFlow} :
    flow.add member = .ok (direction, next) ↔ flow.directionOf member.packet = .ok direction ∧
      ∃ tcp, member.packet.tcp? = some tcp ∧ next = flow.push direction member tcp := by
  unfold add
  cases flow.directionOf member.packet with
  | error reason => simp [bind, Except.bind]
  | ok taken =>
    simp only [bind, Except.bind]
    cases member.packet.tcp? with
    | none => simp
    | some tcp =>
      simp only [Except.ok.injEq, Prod.mk.injEq, Option.some.injEq, exists_eq_left']
      constructor
      · rintro ⟨rfl, rfl⟩
        exact ⟨rfl, rfl⟩
      · rintro ⟨rfl, rfl⟩
        exact ⟨rfl, rfl⟩

/-- The answer to a call is the direction of the packet. -/
theorem answer_eq (flow : TcpFlow) (member : Member) :
    flow.answer member = flow.directionOf member.packet := by
  unfold answer
  cases hdirection : flow.directionOf member.packet with
  | error reason => simp only [add, hdirection, bind, Except.bind, Except.map]
  | ok direction =>
    obtain ⟨tcp, htcp, -⟩ := exists_addIfMember_eq_push hdirection
    rw [add_eq_ok_iff.mpr ⟨hdirection, tcp, htcp, rfl⟩]
    rfl

/-- The directions of a flow by the pair of the packet. -/
theorem directionOf_eq_ok_iff {packet : Packet} {direction : Direction} :
    flow.directionOf packet = .ok direction ↔
      EndpointPair.ofPacket packet = .ok flow.pair ∧ direction = .forward ∨
        EndpointPair.ofPacket packet = .ok flow.pair.reversed ∧
          flow.pair.reversed ≠ flow.pair ∧ direction = .reverse := by
  unfold directionOf
  cases EndpointPair.ofPacket packet with
  | error reason => simp [bind, Except.bind]
  | ok pair =>
    have hreverse : pair.isReverseOf flow.pair = true ↔ pair = flow.pair.reversed := by
      rw [EndpointPair.isReverseOf_iff]
      constructor
      · rintro h
        rw [h, EndpointPair.reversed_reversed]
      · rintro rfl
        rw [EndpointPair.reversed_reversed]
    simp only [bind, Except.bind, Except.ok.injEq]
    by_cases hsame : pair = flow.pair
    · rw [if_pos hsame]
      constructor
      · intro h
        cases h
        exact .inl ⟨hsame, rfl⟩
      · rintro (⟨-, rfl⟩ | ⟨hback, hne, -⟩)
        · rfl
        · exact absurd (hback.symm.trans hsame) hne
    · rw [if_neg hsame]
      by_cases hback : pair = flow.pair.reversed
      · rw [if_pos (hreverse.mpr hback)]
        constructor
        · intro h
          cases h
          exact .inr ⟨hback, fun heq => hsame (hback.trans heq), rfl⟩
        · rintro (⟨hforward, -⟩ | ⟨-, -, rfl⟩)
          · exact absurd hforward hsame
          · rfl
      · rw [if_neg (fun h => hback (hreverse.mp h))]
        simp [hsame, hback]

/-- What every call does to a flow. -/
theorem callEffect (flow : TcpFlow) (member : Member) : CallEffect flow member where
  answer_iff direction := by rw [answer_eq, directionOf_eq_ok_iff]
  refused reason h := by
    rw [answer_eq] at h
    exact addIfMember_of_error h
  received direction h := by
    rw [answer_eq] at h
    obtain ⟨tcp, htcp, hpush⟩ := exists_addIfMember_eq_push h
    rw [hpush]
    refine ⟨add_eq_ok_iff.mpr ⟨h, tcp, htcp, rfl⟩, rfl, ?_, ?_⟩
    · cases direction <;> rfl
    · cases direction <;> rfl

end Answers

/-- One more call is made on the flow that those before it lead to. -/
theorem calls_concat (flow : TcpFlow) (members : List Member) (member : Member) :
    calls flow (members ++ [member]) =
      calls flow members ++ [(member, (members.foldl addIfMember flow).answer member)] := by
  induction members generalizing flow with
  | nil => rfl
  | cons first rest ih =>
    rw [List.cons_append, calls, ih]
    rfl

/-- What is answered depends on the pair of the flow only, not on the calls before. -/
theorem calls_eq_map (flow : TcpFlow) (members : List Member) :
    calls flow members = members.map fun member => (member, flow.directionOf member.packet) := by
  induction members generalizing flow with
  | nil => rfl
  | cons member rest ih =>
    rw [calls, ih, answer_eq, directionOf_congr (pair_addIfMember flow member), List.map_cons]

/-! ## What a flow holds -/

section Records

variable {pair : EndpointPair} {log : List Call} {flow : TcpFlow} {member : Member}

/-- A flow without packets holds none. -/
theorem isRecord_empty (pair : EndpointPair) : IsRecord pair [] (empty pair) where
  pair_eq := rfl
  members_eq := rfl
  interleaves := .nil
  sides direction := by cases direction <;> exact .nil
  span := Span.isSpanOf_nil

/-- A refused call adds nothing to what was accepted. -/
theorem accepted_concat_error (log : List Call) (member : Member) (reason : FlowError) :
    accepted (log ++ [(member, .error reason)]) = accepted log ∧
      ∀ direction, acceptedIn direction (log ++ [(member, .error reason)]) =
        acceptedIn direction log := by
  simp [accepted, acceptedIn, Except.isOk, Except.toBool, Except.toOption]

/-- A call that is answered with a direction adds its packet to this direction. -/
theorem accepted_concat_ok (log : List Call) (member : Member) (direction : Direction) :
    accepted (log ++ [(member, .ok direction)]) = accepted log ++ [member] ∧
      ∀ way, acceptedIn way (log ++ [(member, .ok direction)]) =
        if way = direction then acceptedIn way log ++ [member] else acceptedIn way log := by
  refine ⟨by simp [accepted, Except.isOk, Except.toBool], fun way => ?_⟩
  by_cases hway : way = direction
  · simp [acceptedIn, Except.toOption, hway]
  · simp [acceptedIn, Except.toOption, hway, Ne.symm hway]

/-- A packet that is put into a direction is recorded there. -/
theorem IsRecord.push (h : IsRecord pair log flow) {tcp : Tcp.Header}
    (htcp : member.packet.tcp? = some tcp) (direction : Direction) :
    IsRecord pair (log ++ [(member, .ok direction)]) (flow.push direction member tcp) := by
  obtain ⟨hall, hside⟩ := accepted_concat_ok log member direction
  refine ⟨h.pair_eq, ?_, ?_, fun way => ?_, ?_⟩
  · rw [hall, ← h.members_eq, TcpFlow.push, Array.toList_push]
  · cases direction with
    | forward =>
      have hleft := h.interleaves.concat_left member
      simpa [TcpFlow.push, FlowSide.push] using hleft
    | reverse =>
      have hright := h.interleaves.concat_right member
      simpa [TcpFlow.push, FlowSide.push] using hright
  · rw [hside]
    have hway := h.sides way
    split
    · rename_i hsame
      subst hsame
      have hpushed := hway.push htcp
      cases way <;> exact hpushed
    · rename_i hother
      cases way <;> cases direction <;> first | exact hway | exact absurd rfl hother
  · rw [hall, List.map_append]
    exact h.span.concat member.packet

/-- One more call is recorded with its answer. -/
theorem IsRecord.call (h : IsRecord pair log flow) (member : Member) :
    IsRecord pair (log ++ [(member, flow.answer member)]) (flow.addIfMember member) := by
  cases hanswer : flow.answer member with
  | error reason =>
    obtain ⟨hall, hside⟩ := accepted_concat_error log member reason
    rw [(callEffect flow member).refused reason hanswer]
    refine ⟨h.pair_eq, ?_, h.interleaves, fun direction => ?_, ?_⟩
    · rw [hall, h.members_eq]
    · rw [hside]
      exact h.sides direction
    · rw [hall]
      exact h.span
  | ok direction =>
    rw [answer_eq] at hanswer
    obtain ⟨tcp, htcp, hpush⟩ := exists_addIfMember_eq_push hanswer
    rw [hpush]
    exact h.push htcp direction

/-- What a flow holds after any calls is told by them. -/
theorem isRecord_ofMembers (pair : EndpointPair) (members : List Member) :
    IsRecord pair (calls (empty pair) members) (ofMembers pair members) := by
  induction members using List.reverseRecOn with
  | nil => exact isRecord_empty pair
  | append_singleton members member ih =>
    rw [ofMembers_append_singleton, calls_concat, ← ofMembers]
    exact ih.call member

/-- After any calls a flow holds what they accepted, and one more call adds its packet to the
direction that it answers or changes nothing. -/
theorem calls_recorded (pair : EndpointPair) (members : List Member) :
    IsRecord pair (calls (empty pair) members) (ofMembers pair members) ∧
      ∀ member, CallEffect (ofMembers pair members) member :=
  ⟨isRecord_ofMembers pair members, callEffect (ofMembers pair members)⟩

end Records

end TcpFlow

end CaptureFlow
