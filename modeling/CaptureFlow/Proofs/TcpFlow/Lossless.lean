import CaptureFlow.Proofs.TcpFlow.Attribution
import CaptureFlow.Proofs.TcpFlow.Clean
import Mathlib.Data.List.Forall2

/-!
# Transfers that lose nothing

A side that only sends data repeats its highest acknowledgement with every segment. As long
as the other side has sent nothing behind the number that is repeated, no loss is signalled
by this, however often it happens. A transfer in which neither side starts a segment in
front of the end of its last one is then told to be free of losses and of disorder. Which side
sent a packet is told by the source port, so these are the two ends of the connection while
their ports differ.
-/

namespace CaptureFlow.Health

/-- The number behind the payload of a segment, which does not wrap around. -/
def Segment.finish (segment : Segment) : Nat :=
  segment.seq.toNat + segment.payload.toNat

/-- The number behind the payload of the latest of some segments, zero if there is none. -/
def latestFinish (segments : List Segment) : Nat :=
  (segments.getLast?.map Segment.finish).getD 0

/-- Nothing is lost on the way, and nothing overtakes. -/
structure Lossless (trail : Trail) : Prop where
  /-- The numbers do not wrap around. -/
  fits : ∀ event ∈ trail, event.2.finish < UInt32.size
  /-- On each side, no segment starts in front of the end of the one before it. -/
  inOrder : ∀ direction,
    (sentBy direction trail).IsChain fun first second => first.finish ≤ second.seq.toNat
  /-- An acknowledgement that repeats the highest one of its side is the end of the latest
  segment of the other side. -/
  answered : ∀ before event after, trail = before ++ event :: after →
    ((sentBy event.1 before).map Segment.ack).max? = some event.2.ack →
      event.2.ack.toNat = latestFinish (sentBy event.1.opposite before)

/-- Whether an acknowledgement repeats the highest one of its side and is for another number
than the end of the latest segment of the other side. -/
def asksAgain (before : Trail) (event : Direction × Segment) : Bool :=
  ((sentBy event.1 before).map Segment.ack).max? = some event.2.ack ∧
    event.2.ack.toNat ≠ latestFinish (sentBy event.1.opposite before)

/-- A trail is lossless when its segments fit, are in order on either side, and ask for nothing
again. -/
theorem lossless_iff {trail : Trail} : Lossless trail ↔
    (∀ event ∈ trail, event.2.finish < UInt32.size) ∧
      ((sentBy .forward trail).IsChain fun first second => first.finish ≤ second.seq.toNat) ∧
      ((sentBy .reverse trail).IsChain fun first second => first.finish ≤ second.seq.toNat) ∧
      countAfter asksAgain [] trail = 0 := by
  have hasks : countAfter asksAgain [] trail = 0 ↔ ∀ before event after,
      trail = before ++ event :: after →
        ((sentBy event.1 before).map Segment.ack).max? = some event.2.ack →
          event.2.ack.toNat = latestFinish (sentBy event.1.opposite before) := by
    rw [countAfter_eq_zero_iff]
    simp only [List.nil_append, asksAgain, ne_eq, decide_eq_false_iff_not, not_and,
      Classical.not_not]
  rw [hasks]
  constructor
  · intro h
    exact ⟨h.fits, h.inOrder .forward, h.inOrder .reverse, h.answered⟩
  · rintro ⟨hfits, hforward, hreverse, hanswered⟩
    refine ⟨hfits, fun direction => ?_, hanswered⟩
    cases direction with
    | forward => exact hforward
    | reverse => exact hreverse

instance (trail : Trail) : Decidable (Lossless trail) :=
  decidable_of_iff' _ lossless_iff

/-- On the trail of a connection between different ports, each packet stands on the side of the
end that sent it. -/
theorem forall₂_trail_of_port_ne {flow : TcpFlow} {members : List Member}
    (hport : flow.pair.source.port ≠ flow.pair.destination.port)
    (haccepts : ∀ member ∈ members, flow.accepts member = true) :
    List.Forall₂ (fun member event =>
        flow.goes event.1 member = true ∧ segment? member = some event.2)
      members (trail flow.pair members) := by
  induction members with
  | nil => exact .nil
  | cons member rest ih =>
    obtain ⟨direction, hgoes⟩ := TcpFlow.accepts_iff.mp (haccepts member List.mem_cons_self)
    obtain ⟨tcp, htcp, hsender⟩ := exists_directionByPort_of_goes hgoes
    rw [if_neg hport] at hsender
    have hevent : event? flow.pair member =
        some (direction, ⟨tcp.seq, tcp.ack, member.packet.payloadLength?.getD 0⟩) := by
      rw [event?, htcp, Option.map_some, hsender]
    rw [trail, List.filterMap_cons_some hevent]
    refine .cons ⟨hgoes, ?_⟩ (ih fun other hother => haccepts other (List.mem_cons_of_mem _ hother))
    rw [segment?, htcp, Option.map_some]

/-! ## Repetitions that signal nothing -/

/-- The acknowledgements that repeat the highest one against a side are for the number that
is expected from it. -/
def RepeatsExpected (direction : Direction) (trail : Trail) : Prop :=
  ∀ before segment after, trail = before ++ (direction.opposite, segment) :: after →
    ((run before).channel direction).highestAck = some segment.ack →
      segment.ack = ((run before).channel direction).cursor

/-- What holds of the repetitions on a trail holds of those before its last packet. -/
theorem RepeatsExpected.of_concat {direction : Direction} {trail : Trail}
    {event : Direction × Segment} (h : RepeatsExpected direction (trail ++ [event])) :
    RepeatsExpected direction trail := by
  intro before segment after htrail
  apply h before segment (after ++ [event])
  rw [htrail, List.append_assoc, List.cons_append]

/-- An acknowledgement that repeats the highest one makes nothing suspected when it is for
the expected number, and no other acknowledgement does. -/
theorem Channel.suspected_answer {segment : Segment} {channel : Channel}
    (h : channel.highestAck = some segment.ack → segment.ack = channel.cursor) :
    (channel.answer segment).suspected = channel.suspected := by
  obtain ⟨hsame, hanswer⟩ | ⟨hanswer, -⟩ | ⟨hanswer, -⟩ := answer_cases segment channel
  · have hsilent : ¬ channel.signals segment = true := by
      rw [signals_iff]
      rintro ⟨-, -, hother⟩
      exact hother (h hsame)
    rw [hanswer]
    exact if_neg hsilent
  · rw [hanswer]
  · rw [hanswer]

/-- Nothing is suspected while only expected numbers are asked for repeatedly. -/
theorem suspected_eq_nil_of_repeatsExpected {direction : Direction} {trail : Trail}
    (h : RepeatsExpected direction trail) :
    ((run trail).channel direction).suspected = [] := by
  induction trail using packetInduction direction with
  | nil => rw [channel_run_nil]
  | self trail segment ih =>
    have hnone := ih h.of_concat
    rw [channel_run_self]
    apply List.eq_nil_iff_forall_not_mem.mpr
    intro seq hseq
    have hbefore := Channel.mem_suspected_of_send hseq
    rw [hnone] at hbefore
    cases hbefore
  | opposite trail segment ih =>
    have hexpected := h trail segment [] rfl
    rw [channel_run_opposite, Channel.suspected_answer hexpected]
    exact ih h.of_concat

/-! ## Segments that do not wrap around -/

/-- The end of a segment is the same number with and without wrapping around, if it fits. -/
theorem Segment.toNat_stop {segment : Segment} (h : segment.finish < UInt32.size) :
    segment.stop.toNat = segment.finish := by
  rw [stop, UInt32.toNat_add, UInt16.toNat_toUInt32]
  exact Nat.mod_eq_of_lt h

section Lossless

variable {trail : Trail}

/-- The segments of a side of a lossless trail do not wrap around. -/
theorem Lossless.finish_lt (h : Lossless trail) {direction : Direction} {segment : Segment}
    (hsegment : segment ∈ sentBy direction trail) : segment.finish < UInt32.size := by
  obtain ⟨event, hevent, rfl⟩ := List.mem_map.mp hsegment
  exact h.fits event (List.mem_filter.mp hevent).1

/-- What comes before a packet of a lossless trail is lossless. -/
theorem Lossless.of_append {before after : Trail} (h : Lossless (before ++ after)) :
    Lossless before where
  fits event hevent := h.fits event (List.mem_append_left _ hevent)
  inOrder direction := by
    have horder := h.inOrder direction
    rw [sentBy, List.filter_append, List.map_append] at horder
    exact horder.left_of_append
  answered front event rest hbefore :=
    h.answered front event (rest ++ after) (by rw [hbefore, List.append_assoc, List.cons_append])

/-- Each side of a lossless trail is in order. -/
theorem Lossless.inOrder_sentBy (h : Lossless trail) (direction : Direction) :
    InOrder (sentBy direction trail) := by
  apply (h.inOrder direction).imp_of_mem_imp
  intro first second hfirst _ hstart
  rw [UInt32.le_iff_toNat_le, Segment.toNat_stop (h.finish_lt hfirst)]
  exact hstart

/-- The end of the latest segment of a side of a lossless trail is expected from it. -/
theorem Lossless.toNat_cursorAfter (h : Lossless trail) (direction : Direction) :
    (cursorAfter (sentBy direction trail)).toNat = latestFinish (sentBy direction trail) := by
  rw [cursorAfter_of_inOrder (h.inOrder_sentBy direction), latestFinish]
  cases hlast : (sentBy direction trail).getLast? with
  | none => rfl
  | some last => exact Segment.toNat_stop (h.finish_lt (List.mem_of_getLast? hlast))

/-- On a lossless trail only expected numbers are asked for repeatedly. -/
theorem Lossless.repeatsExpected (h : Lossless trail) (direction : Direction) :
    RepeatsExpected direction trail := by
  intro before segment after htrail hrepeated
  have hanswered := h.answered before (direction.opposite, segment) after htrail
  rw [highestAck_channel] at hrepeated
  rw [htrail] at h
  rw [cursor_channel, ← UInt32.toNat_inj, h.of_append.toNat_cursorAfter direction,
    hanswered hrepeated, Direction.opposite_opposite]

/-- A lossless trail ends with repeated acknowledgements at most. -/
theorem Lossless.finish_side (h : Lossless trail) (direction : Direction) :
    (run trail).finish.side direction =
      { dupAck := repeatedAcks (sentBy direction trail) } := by
  have hsuspected : ((run trail).side direction).suspected = [] :=
    suspected_eq_nil_of_repeatsExpected (h.repeatsExpected direction)
  have hmisplaced : ((run trail).finish.side direction).misplaced = 0 := by
    rw [misplaced_finish_side, behind_channel, hsuspected, List.length_nil, Nat.add_zero,
      behindCursor_eq_zero_iff]
    exact h.inOrder_sentBy direction
  rw [Anomalies.eq_of_misplaced (isBounded_finish trail direction) hmisplaced,
    (accounted trail).dupAck direction]

end Lossless

/-- The analysis of a transfer that loses nothing, all of whose packets have the headers of
a segment, succeeds, and tells neither losses nor disorder on either side. The repeated
acknowledgements are counted nonetheless; no counter overflows while there are fewer packets
than words. The sides are told by the source ports. For the packets of a flow between different
ports they are its two ends, so that the transfer is lossless between these. -/
theorem ofMembers_lossless (pair : EndpointPair) (members : List Member)
    (hheaders : ∀ member ∈ members,
      member.packet.network?.isSome ∧ member.packet.tcp?.isSome)
    (hlossless : Lossless (trail pair members)) :
    ∃ health, ofMembers pair members = .ok health ∧
      (∀ direction, (health.side direction).loss = 0 ∧ (health.side direction).lossBytes = 0 ∧
        (health.side direction).outOfOrder = 0 ∧ (health.side direction).other = 0 ∧
        (health.side direction).dupAck =
          repeatedAcks (sentBy direction (trail pair members))) ∧
      (members.length < UInt32.size → ∀ direction, FitsWord (health.side direction)) ∧
      (∀ flow : TcpFlow, flow.pair = pair → pair.source.port ≠ pair.destination.port →
        (∀ member ∈ members, flow.accepts member = true) →
        List.Forall₂ (fun member event =>
            flow.goes event.1 member = true ∧ segment? member = some event.2)
          members (trail pair members)) := by
  refine ⟨_, ofMembers_eq_ok pair hheaders, fun direction => ?_, fun hcount direction => ?_, ?_⟩
  · rw [hlossless.finish_side direction]
    exact ⟨rfl, rfl, rfl, rfl, rfl⟩
  · apply fitsWord_finish
    rwa [length_trail fun member hmember => (hheaders member hmember).2]
  · rintro flow rfl hport haccepts
    exact forall₂_trail_of_port_ne hport haccepts

/-- A client asks a server for five segments, which repeat its acknowledgement four times, and
repeats the acknowledgement of the last one three times. -/
def bulkTransfer : List Member :=
  let data (seq : UInt32) := retransmissionPacket ⟨10, 0, 0, 1⟩ ⟨10, 0, 0, 2⟩ 80 51000 seq 21 100
  let request := retransmissionPacket ⟨10, 0, 0, 2⟩ ⟨10, 0, 0, 1⟩ 51000 80 1 1 20
  let answer := retransmissionPacket ⟨10, 0, 0, 2⟩ ⟨10, 0, 0, 1⟩ 51000 80 21 501 0
  Member.ofBatch [request, data 1, data 101, data 201, data 301, data 401, answer, answer, answer,
    answer]

/-- Both sides repeat an acknowledgement often enough to signal a loss, and none is told. -/
theorem bulkTransfer_lossless :
    Lossless (trail retransmissionPair bulkTransfer) ∧
      ofMembers retransmissionPair bulkTransfer = .ok ⟨{ dupAck := 4 }, { dupAck := 3 }⟩ ∧
      ∀ direction,
        lossSignal ≤ repeatedAcks (sentBy direction (trail retransmissionPair bulkTransfer)) := by
  have hlossless : Lossless (trail retransmissionPair bulkTransfer) := by decide
  have hrepeated : ofMembers retransmissionPair bulkTransfer =
      .ok ⟨{ dupAck := 4 }, { dupAck := 3 }⟩ := by
    decide
  obtain ⟨health, hhealth, hcounts, -⟩ :=
    ofMembers_lossless retransmissionPair bulkTransfer (by decide) hlossless
  rw [hrepeated] at hhealth
  cases hhealth
  refine ⟨hlossless, hrepeated, fun direction => ?_⟩
  obtain ⟨-, -, -, -, hdupAck⟩ := hcounts direction
  rw [← hdupAck]
  cases direction <;> decide

end CaptureFlow.Health
