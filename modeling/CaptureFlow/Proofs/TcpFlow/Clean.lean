import CaptureFlow.Proofs.TcpFlow.Accounting
import Mathlib.Data.List.Chain

/-!
# Clean connections

A connection is clean when nothing went wrong on either side. This is told by the segments
of each side alone: none starts in front of the end of the one before it, and none repeats
the highest acknowledgement of its side. Where no acknowledgement is repeated, no loss is
signalled, so that none is left unconfirmed at the end either.
-/

namespace CaptureFlow

/-- The octets of the losses are payloads of so many segments. -/
def Anomalies.IsBounded (anomalies : Anomalies) : Prop :=
  anomalies.lossBytes ≤ anomalies.loss * (UInt16.size - 1)

/-- Anomalies without a misplaced segment are repeated acknowledgements. -/
theorem Anomalies.eq_of_misplaced {anomalies : Anomalies} (h : anomalies.IsBounded)
    (hnone : anomalies.misplaced = 0) : anomalies = { dupAck := anomalies.dupAck } := by
  obtain ⟨dupAck, loss, lossBytes, outOfOrder, other⟩ := anomalies
  simp only [IsBounded] at h
  simp only [misplaced] at hnone
  have hloss : loss = 0 := by omega
  rw [hloss, Nat.zero_mul] at h
  rw [Anomalies.mk.injEq]
  exact ⟨rfl, hloss, Nat.le_zero.mp h, by omega, by omega⟩

/-- Anomalies without a repeated acknowledgement and a misplaced segment are none. -/
theorem Anomalies.isClean_iff {anomalies : Anomalies} (h : anomalies.IsBounded) :
    anomalies.isClean = true ↔ anomalies.dupAck = 0 ∧ anomalies.misplaced = 0 := by
  rw [isClean, decide_eq_true_eq]
  constructor
  · rintro rfl
    exact ⟨rfl, rfl⟩
  · rintro ⟨hdupAck, hmisplaced⟩
    rw [eq_of_misplaced h hmisplaced, hdupAck]

namespace Health

/-- The number behind the payload of a segment, which wraps around with the numbers. -/
def Segment.stop (segment : Segment) : UInt32 :=
  segment.seq + segment.payload.toUInt32

/-- No segment starts in front of the end of the one before it. -/
def InOrder (segments : List Segment) : Prop :=
  segments.IsChain fun first second => first.stop ≤ second.seq

/-- No segment repeats the highest acknowledgement of those before it. -/
def NoneRepeated (segments : List Segment) : Prop :=
  ∀ before segment after, segments = before ++ segment :: after →
    (before.map Segment.ack).max? ≠ some segment.ack

/-! ## Segments in order -/

section Order

variable {segments : List Segment} {segment : Segment}

/-- One more segment is in order unless it starts in front of the end of the last one. -/
theorem inOrder_concat_iff : InOrder (segments ++ [segment]) ↔
    InOrder segments ∧ (segments.getLast?.map Segment.stop).getD 0 ≤ segment.seq := by
  rw [InOrder, List.isChain_append, ← InOrder]
  apply and_congr_right
  intro _
  cases segments.getLast? with
  | none => simp
  | some last => simp

/-- The expected number goes on to the end of a segment that is not behind it. -/
theorem cursorAfter_concat (segments : List Segment) (segment : Segment) :
    cursorAfter (segments ++ [segment]) =
      if cursorAfter segments ≤ segment.seq then segment.stop else cursorAfter segments := by
  rw [cursorAfter, List.foldl_append]
  rfl

/-- Behind segments in order the end of the last one is expected. -/
theorem cursorAfter_of_inOrder (h : InOrder segments) :
    cursorAfter segments = (segments.getLast?.map Segment.stop).getD 0 := by
  induction segments using List.reverseRecOn with
  | nil => rfl
  | append_singleton segments segment ih =>
    obtain ⟨hfront, hlast⟩ := inOrder_concat_iff.mp h
    rw [cursorAfter_concat, ih hfront, if_pos hlast, List.getLast?_concat, Option.map_some,
      Option.getD_some]

/-- No segment is behind the expected number when they are in order. -/
theorem behindCursor_eq_zero_iff (segments : List Segment) :
    behindCursor segments = 0 ↔ InOrder segments := by
  induction segments using List.reverseRecOn with
  | nil => exact ⟨fun _ => List.isChain_nil, fun _ => rfl⟩
  | append_singleton segments segment ih =>
    rw [behindCursor, countAfter_append_singleton, ← behindCursor, List.nil_append,
      Nat.add_eq_zero_iff, ih, inOrder_concat_iff]
    apply and_congr_right
    intro hfront
    rw [cursorAfter_of_inOrder hfront]
    simp

/-- No acknowledgement counts as repeated when none is the highest before it. -/
theorem repeatedAcks_eq_zero_iff (segments : List Segment) :
    repeatedAcks segments = 0 ↔ NoneRepeated segments := by
  rw [repeatedAcks, countAfter_eq_zero_iff]
  simp only [List.nil_append, decide_eq_false_iff_not]
  rfl

end Order

/-! ## The octets of losses -/

/-- Acknowledging adds no octets of losses. -/
theorem isBounded_acknowledge {segment : Segment} {this other : Side}
    (hthis : this.anomalies.IsBounded) (hother : other.anomalies.IsBounded) :
    (acknowledge segment this other).1.anomalies.IsBounded ∧
      (acknowledge segment this other).2.anomalies.IsBounded := by
  unfold acknowledge
  split
  · exact ⟨hthis, hother⟩
  · split
    · exact ⟨hthis, hother⟩
    · split <;> exact ⟨hthis, hother⟩

/-- A loss that is confirmed adds the octets of one payload. -/
theorem isBounded_advance {segment : Segment} {this : Side} (other : Side)
    (h : this.anomalies.IsBounded) : (advance segment this other).anomalies.IsBounded := by
  have hpayload := segment.payload.toNat_lt
  unfold advance
  dsimp only
  split
  · exact h
  · split
    · rw [Anomalies.IsBounded] at h ⊢
      dsimp only
      rw [Nat.add_mul, Nat.one_mul]
      exact Nat.add_le_add h (Nat.le_pred_of_lt hpayload)
    · split <;> exact h

/-- One more packet keeps the octets of losses within bounds on either side. -/
theorem isBounded_follow {state : State} (h : ∀ way, (state.side way).anomalies.IsBounded)
    (event : Direction × Segment) (direction : Direction) :
    ((state.follow event).side direction).anomalies.IsBounded := by
  obtain ⟨sender, segment⟩ := event
  by_cases hsender : sender = direction
  · subst hsender
    rw [side_follow_self]
    exact isBounded_advance _ (isBounded_acknowledge (h sender) (h sender.opposite)).1
  · rw [eq_opposite_of_ne hsender, side_follow_opposite]
    exact (isBounded_acknowledge (h direction.opposite) (h direction)).2

/-- The octets of the losses of a trail are payloads of so many segments. -/
theorem isBounded_run (trail : Trail) :
    ∀ direction, ((run trail).side direction).anomalies.IsBounded := by
  induction trail using List.reverseRecOn with
  | nil =>
    intro direction
    cases direction <;> exact Nat.le_refl 0
  | append_singleton trail event ih =>
    rw [run_append_singleton]
    exact isBounded_follow ih event

/-- The losses left unconfirmed at the end add no octets. -/
theorem isBounded_finish (trail : Trail) (direction : Direction) :
    ((run trail).finish.side direction).IsBounded := by
  have h := isBounded_run trail direction
  cases direction <;> exact h

/-- The octets of fewer losses than there are words fit in two words. -/
theorem lossBytes_lt {anomalies : Anomalies} (h : anomalies.IsBounded)
    (hfits : FitsWord anomalies) : anomalies.lossBytes < UInt64.size := by
  obtain ⟨-, hloss, -, -⟩ := hfits
  calc anomalies.lossBytes
    _ ≤ anomalies.loss * (UInt16.size - 1) := h
    _ ≤ UInt32.size * (UInt16.size - 1) := Nat.mul_le_mul_right _ (Nat.le_of_lt hloss)
    _ < UInt64.size := by decide

/-! ## Clean trails -/

/-- A connection is clean when both of its sides are. -/
theorem isClean_iff_side (health : Health) :
    health.isClean = true ↔ ∀ direction, (health.side direction).isClean = true := by
  rw [isClean, Bool.and_eq_true]
  constructor
  · rintro ⟨hforward, hreverse⟩ direction
    cases direction with
    | forward => exact hforward
    | reverse => exact hreverse
  · intro h
    exact ⟨h .forward, h .reverse⟩

/-- Where the other side repeats no acknowledgement, no loss of a side is left over. -/
theorem suspected_eq_nil {direction : Direction} {trail : Trail}
    (h : repeatedAcks (sentBy direction.opposite trail) = 0) :
    ((run trail).side direction).suspected = [] := by
  have hbudget := budget direction trail
  rw [dupAck_channel, h, lossSignal] at hbudget
  have hlength : ((run trail).channel direction).suspected.length = 0 := by omega
  exact List.length_eq_zero_iff.mp hlength

/-- A trail is clean when each side is in order and repeats no acknowledgement. -/
theorem isClean_finish_iff (trail : Trail) : (run trail).finish.isClean = true ↔
    ∀ direction, InOrder (sentBy direction trail) ∧ NoneRepeated (sentBy direction trail) := by
  have hside : ∀ direction, ((run trail).finish.side direction).isClean = true ↔
      repeatedAcks (sentBy direction trail) = 0 ∧
        behindCursor (sentBy direction trail) +
          ((run trail).side direction).suspected.length = 0 := by
    intro direction
    rw [Anomalies.isClean_iff (isBounded_finish trail direction), dupAck_finish, dupAck_channel,
      Direction.opposite_opposite, misplaced_finish_side, behind_channel]
  rw [isClean_iff_side]
  simp only [hside, ← behindCursor_eq_zero_iff, ← repeatedAcks_eq_zero_iff, Nat.add_eq_zero_iff]
  constructor
  · intro h direction
    obtain ⟨hrepeated, hbehind, -⟩ := h direction
    exact ⟨hbehind, hrepeated⟩
  · intro h direction
    obtain ⟨hbehind, hrepeated⟩ := h direction
    rw [suspected_eq_nil (h direction.opposite).2]
    exact ⟨hrepeated, hbehind, rfl⟩

/-- The analysis of fewer packets than there are words, which all have the headers of a
segment, succeeds, and no counter overflows. Nothing went wrong just if on each side every
segment starts at or behind the end of the one before it, and no acknowledgement is the
highest one before it. -/
theorem ofMembers_isClean_iff (pair : EndpointPair) (members : List Member)
    (hcount : members.length < UInt32.size)
    (hheaders : ∀ member ∈ members,
      member.packet.network?.isSome ∧ member.packet.tcp?.isSome) :
    ∃ health, ofMembers pair members = .ok health ∧
      (∀ direction, FitsWord (health.side direction) ∧
        (health.side direction).lossBytes < UInt64.size) ∧
      (health.isClean = true ↔ ∀ direction,
        InOrder (sentBy direction (trail pair members)) ∧
          NoneRepeated (sentBy direction (trail pair members))) := by
  have hlength : (trail pair members).length < UInt32.size := by
    rwa [length_trail fun member hmember => (hheaders member hmember).2]
  refine ⟨_, ofMembers_eq_ok pair hheaders, fun direction => ?_, isClean_finish_iff _⟩
  have hfits := fitsWord_finish direction hlength
  exact ⟨hfits, lossBytes_lt (isBounded_finish _ direction) hfits⟩

/-- A server sends two segments, between which its numbers wrap around, and its client
answers each of them with an octet. -/
def wrappingTransfer : List Member :=
  let data (seq ack : UInt32) :=
    retransmissionPacket ⟨10, 0, 0, 1⟩ ⟨10, 0, 0, 2⟩ 80 51000 seq ack 100
  let answer (seq ack : UInt32) :=
    retransmissionPacket ⟨10, 0, 0, 2⟩ ⟨10, 0, 0, 1⟩ 51000 80 seq ack 1
  Member.ofBatch [data 4294967200 1, answer 1 4, data 4 2, answer 2 104]

/-- Nothing went wrong in this transfer, so that both sides are in order. -/
theorem wrappingTransfer_isClean :
    ofMembers retransmissionPair wrappingTransfer = .ok ⟨{}, {}⟩ ∧
      ∀ direction, InOrder (sentBy direction (trail retransmissionPair wrappingTransfer)) ∧
        NoneRepeated (sentBy direction (trail retransmissionPair wrappingTransfer)) := by
  obtain ⟨health, hhealth, -, hclean⟩ :=
    ofMembers_isClean_iff retransmissionPair wrappingTransfer (by decide) (by decide)
  have hnone : ofMembers retransmissionPair wrappingTransfer = .ok ⟨{}, {}⟩ := by decide
  rw [hnone] at hhealth
  cases hhealth
  exact ⟨hnone, hclean.mp rfl⟩

end Health

end CaptureFlow
