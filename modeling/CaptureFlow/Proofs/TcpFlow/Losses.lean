import CaptureFlow.Proofs.TcpFlow.Channel
import Mathlib.Data.List.Nodup

/-!
# Losses are signalled before they are confirmed

A loss is signalled when the highest acknowledgement is repeated for the third
time. The highest acknowledgement only grows, and its repetitions are counted once,
so a number is signalled once. A suspected number leaves the channel only when its
loss is confirmed. Three repetitions are spent on every loss that is confirmed or
still suspected.
-/

namespace CaptureFlow.Health

/-- How often the other side acknowledged a number. -/
def acknowledged (direction : Direction) (seq : UInt32) (trail : Trail) : Nat :=
  (sentBy direction.opposite trail).countP fun segment => segment.ack = seq

/-- Whether a packet signals the loss of a number. -/
def signalled (direction : Direction) (seq : UInt32) (before : Trail)
    (event : Direction × Segment) : Bool :=
  event.1 = direction.opposite ∧ event.2.ack = seq ∧
    ((run before).channel direction).signals event.2 = true

/-- Whether a packet makes a number suspected. -/
def flagged (direction : Direction) (seq : UInt32) (before : Trail)
    (event : Direction × Segment) : Bool :=
  seq ∉ ((run before).side direction).suspected ∧
    seq ∈ ((run (before ++ [event])).side direction).suspected

/-- Whether a packet confirms the loss of a number. -/
def confirmed (direction : Direction) (seq : UInt32) (before : Trail)
    (event : Direction × Segment) : Bool :=
  event.1 = direction ∧ event.2.seq = seq ∧
    ((run before).side direction).anomalies.loss <
      ((run (before ++ [event])).side direction).anomalies.loss

/-- What a trail shows for the losses that it ends with. -/
structure LossesJustified (trail : Trail) : Prop where
  /-- A number whose loss is confirmed was acknowledged four times before, and is
  behind the number expected from its sender. -/
  justified : ∀ before event after, trail = before ++ event :: after →
    ∀ direction seq, confirmed direction seq before event = true →
      4 ≤ acknowledged direction seq before ∧ seq < ((run before).side direction).cursor
  /-- A number becomes suspected once. -/
  flaggedOnce : ∀ direction seq, countAfter (flagged direction seq) [] trail ≤ 1
  /-- The loss of a number is confirmed once, and only if the number was suspected. -/
  confirmedOnce : ∀ direction seq,
    countAfter (confirmed direction seq) [] trail ≤ countAfter (flagged direction seq) [] trail
  /-- The other side repeated an acknowledgement three times for every loss that is
  confirmed or still suspected. -/
  bounded : ∀ direction,
    3 * (((run trail).finish.side direction).loss +
        ((run trail).side direction).suspected.length) ≤
      ((run trail).finish.side direction.opposite).dupAck

section Direction

variable (direction : Direction)

/-! ## What one packet adds -/

/-- A packet of a side itself acknowledges nothing of its data. -/
theorem acknowledged_append_self (seq : UInt32) (trail : Trail) (segment : Segment) :
    acknowledged direction seq (trail ++ [(direction, segment)]) =
      acknowledged direction seq trail := by
  rw [acknowledged, sentBy_append_of_ne (opposite_ne direction).symm, acknowledged]

/-- A packet of the other side acknowledges one number. -/
theorem acknowledged_append_opposite (seq : UInt32) (trail : Trail) (segment : Segment) :
    acknowledged direction seq (trail ++ [(direction.opposite, segment)]) =
      acknowledged direction seq trail + if segment.ack = seq then 1 else 0 := by
  rw [acknowledged, sentBy_append_self, List.countP_append, acknowledged]
  simp only [List.countP_singleton, decide_eq_true_eq]

/-- No acknowledgement is taken back. -/
theorem acknowledged_le_append_opposite (seq : UInt32) (trail : Trail) (segment : Segment) :
    acknowledged direction seq trail ≤
      acknowledged direction seq (trail ++ [(direction.opposite, segment)]) := by
  rw [acknowledged_append_opposite]
  omega

/-- A packet of a side itself signals no loss of its data. -/
theorem signalled_self (seq : UInt32) (trail : Trail) (segment : Segment) :
    signalled direction seq trail (direction, segment) = false := by
  simp only [signalled, (opposite_ne direction).symm, false_and, decide_false]

/-- A packet of the other side signals the loss of the number that it acknowledges. -/
theorem signalled_opposite_iff {seq : UInt32} {trail : Trail} {segment : Segment} :
    signalled direction seq trail (direction.opposite, segment) = true ↔
      segment.ack = seq ∧ ((run trail).channel direction).signals segment = true := by
  simp only [signalled, true_and, decide_eq_true_eq]

/-- A packet of a side itself makes none of its numbers suspected. -/
theorem flagged_self (seq : UInt32) (trail : Trail) (segment : Segment) :
    flagged direction seq trail (direction, segment) = false := by
  have hsub : seq ∈ ((run (trail ++ [(direction, segment)])).channel direction).suspected →
      seq ∈ ((run trail).channel direction).suspected := by
    rw [channel_run_self]
    exact Channel.mem_suspected_of_send
  rw [flagged, decide_eq_false_iff_not]
  rintro ⟨hbefore, hafter⟩
  exact hbefore (hsub hafter)

/-- A number becomes suspected when its loss is signalled. -/
theorem signalled_of_flagged {seq : UInt32} {trail : Trail} {event : Direction × Segment}
    (h : flagged direction seq trail event = true) :
    signalled direction seq trail event = true := by
  obtain ⟨sender, segment⟩ := event
  by_cases hsender : sender = direction
  · subst hsender
    rw [flagged_self] at h
    cases h
  · rw [eq_opposite_of_ne hsender] at h ⊢
    rw [signalled_opposite_iff]
    rw [flagged, decide_eq_true_eq] at h
    obtain ⟨hbefore, hafter⟩ := h
    change seq ∈ ((run (trail ++ [(direction.opposite, segment)])).channel direction).suspected
      at hafter
    change seq ∉ ((run trail).channel direction).suspected at hbefore
    rw [channel_run_opposite] at hafter
    obtain ⟨-, hanswer⟩ | ⟨hanswer, -⟩ | ⟨hanswer, -⟩ :=
      Channel.answer_cases segment ((run trail).channel direction)
    · rw [hanswer] at hafter
      dsimp only at hafter
      split at hafter
      · rename_i hsignals
        rcases List.mem_insert_iff.mp hafter with hseq | hmem
        · exact ⟨hseq.symm, hsignals⟩
        · exact absurd hmem hbefore
      · exact absurd hafter hbefore
    · rw [hanswer] at hafter
      exact absurd hafter hbefore
    · rw [hanswer] at hafter
      exact absurd hafter hbefore

/-- A packet of the other side confirms no loss. -/
theorem confirmed_opposite (seq : UInt32) (trail : Trail) (segment : Segment) :
    confirmed direction seq trail (direction.opposite, segment) = false := by
  simp only [confirmed, opposite_ne, false_and, decide_false]

/-- A segment that is behind and suspected confirms its loss, and no other does. -/
theorem confirmed_self_iff {seq : UInt32} {trail : Trail} {segment : Segment} :
    confirmed direction seq trail (direction, segment) = true ↔
      segment.seq = seq ∧ seq < ((run trail).channel direction).cursor ∧
        seq ∈ ((run trail).channel direction).suspected := by
  have hloss : confirmed direction seq trail (direction, segment) = true ↔ segment.seq = seq ∧
      ((run trail).channel direction).loss <
        ((run (trail ++ [(direction, segment)])).channel direction).loss := by
    simp only [confirmed, true_and, decide_eq_true_eq]
    rfl
  rw [hloss, channel_run_self]
  apply and_congr_right
  rintro rfl
  obtain ⟨hcursor, hsend⟩ | ⟨hcursor, hmem, hsend⟩ | ⟨-, hmem, hsend⟩ :=
    Channel.send_cases segment ((run trail).channel direction)
  · rw [hsend]
    exact ⟨fun h => absurd h (Nat.lt_irrefl _), fun h => absurd h.1 (UInt32.not_lt.mpr hcursor)⟩
  · rw [hsend]
    exact ⟨fun _ => ⟨hcursor, hmem⟩, fun _ => Nat.lt_succ_self _⟩
  · rw [hsend]
    exact ⟨fun h => absurd h (Nat.lt_irrefl _), fun h => absurd h.2 hmem⟩

/-! ## Acknowledgements behind a signal -/

/-- The highest acknowledgement came once more often than it was repeated. -/
theorem repeats_lt_acknowledged (trail : Trail) :
    ∀ highest, ((run trail).channel direction).highestAck = some highest →
      ((run trail).channel direction).repeats < acknowledged direction highest trail := by
  induction trail using packetInduction direction with
  | nil =>
    rw [channel_run_nil]
    nofun
  | self trail segment ih =>
    intro highest hhighest
    rw [channel_run_self, Channel.highestAck_send] at hhighest
    rw [channel_run_self, Channel.repeats_send, acknowledged_append_self]
    exact ih highest hhighest
  | opposite trail segment ih =>
    intro highest hhighest
    rw [channel_run_opposite] at hhighest ⊢
    rw [acknowledged_append_opposite]
    obtain ⟨hsame, hanswer⟩ | ⟨hanswer, -⟩ | ⟨hanswer, -⟩ :=
      Channel.answer_cases segment ((run trail).channel direction)
    · rw [hanswer] at hhighest ⊢
      have hrepeats := ih highest hhighest
      rw [hsame] at hhighest
      rw [if_pos (Option.some.inj hhighest)]
      dsimp only
      omega
    · rw [hanswer] at hhighest ⊢
      have hrepeats := ih highest hhighest
      omega
    · rw [hanswer] at hhighest ⊢
      rw [if_pos (Option.some.inj hhighest)]
      dsimp only
      omega

/-- A suspected number was acknowledged four times. -/
theorem four_le_acknowledged (trail : Trail) :
    ∀ seq ∈ ((run trail).channel direction).suspected, 4 ≤ acknowledged direction seq trail := by
  induction trail using packetInduction direction with
  | nil =>
    rw [channel_run_nil]
    nofun
  | self trail segment ih =>
    intro seq hseq
    rw [channel_run_self] at hseq
    rw [acknowledged_append_self]
    exact ih seq (Channel.mem_suspected_of_send hseq)
  | opposite trail segment ih =>
    intro seq hseq
    have hmono := acknowledged_le_append_opposite direction seq trail segment
    rw [channel_run_opposite] at hseq
    obtain ⟨hsame, hanswer⟩ | ⟨hanswer, -⟩ | ⟨hanswer, -⟩ :=
      Channel.answer_cases segment ((run trail).channel direction)
    · rw [hanswer] at hseq
      dsimp only at hseq
      split at hseq
      · rename_i hsignals
        rcases List.mem_insert_iff.mp hseq with rfl | hmem
        · obtain ⟨-, hthird, -⟩ := Channel.signals_iff.mp hsignals
          have hrepeats := repeats_lt_acknowledged direction trail _ hsame
          rw [acknowledged_append_opposite, if_pos rfl]
          rw [lossSignal] at hthird
          omega
        · exact Nat.le_trans (ih seq hmem) hmono
      · exact Nat.le_trans (ih seq hseq) hmono
    · rw [hanswer] at hseq
      exact Nat.le_trans (ih seq hseq) hmono
    · rw [hanswer] at hseq
      exact Nat.le_trans (ih seq hseq) hmono

/-! ## No number is suspected twice -/

/-- No number is suspected twice at a time. -/
theorem nodup_suspected (trail : Trail) : ((run trail).channel direction).suspected.Nodup := by
  induction trail using packetInduction direction with
  | nil =>
    rw [channel_run_nil]
    exact List.nodup_nil
  | self trail segment ih =>
    rw [channel_run_self]
    obtain ⟨-, hsend⟩ | ⟨-, -, hsend⟩ | ⟨-, -, hsend⟩ :=
      Channel.send_cases segment ((run trail).channel direction)
    · rwa [hsend]
    · rw [hsend]
      exact ih.erase _
    · rwa [hsend]
  | opposite trail segment ih =>
    rw [channel_run_opposite]
    obtain ⟨-, hanswer⟩ | ⟨hanswer, -⟩ | ⟨hanswer, -⟩ :=
      Channel.answer_cases segment ((run trail).channel direction)
    · rw [hanswer]
      dsimp only
      split
      · exact ih.insert
      · exact ih
    · rwa [hanswer]
    · rwa [hanswer]

/-- How often the loss of a number was signalled. -/
def signalCount (seq : UInt32) (trail : Trail) : Nat :=
  countAfter (signalled direction seq) [] trail

/-- A packet of a side itself adds no signal. -/
theorem signalCount_append_self (seq : UInt32) (trail : Trail) (segment : Segment) :
    signalCount direction seq (trail ++ [(direction, segment)]) =
      signalCount direction seq trail := by
  rw [signalCount, countAfter_append_singleton, List.nil_append, signalled_self,
    if_neg Bool.false_ne_true, Nat.add_zero, signalCount]

/-- A packet of the other side that adds a signal is the third repetition of the
number that it acknowledges. -/
theorem signalCount_append_opposite (seq : UInt32) (trail : Trail) (segment : Segment) :
    signalCount direction seq (trail ++ [(direction.opposite, segment)]) =
        signalCount direction seq trail ∨
      (signalCount direction seq (trail ++ [(direction.opposite, segment)]) =
          signalCount direction seq trail + 1 ∧
        ((run trail).channel direction).highestAck = some seq ∧ segment.ack = seq ∧
        ((run trail).channel direction).repeats + 1 = lossSignal) := by
  rw [signalCount, countAfter_append_singleton, List.nil_append, ← signalCount]
  split
  · rename_i hsignalled
    obtain ⟨rfl, hsignals⟩ := (signalled_opposite_iff direction).mp hsignalled
    obtain ⟨hhighest, hthird, -⟩ := Channel.signals_iff.mp hsignals
    exact .inr ⟨rfl, hhighest, rfl, hthird⟩
  · exact .inl (Nat.add_zero _)

/-- A number that was signalled is below the highest acknowledgement, or is the
highest and was repeated three times already. -/
theorem exists_highest_of_signalled (seq : UInt32) (trail : Trail) :
    signalCount direction seq trail ≠ 0 →
      ∃ highest, ((run trail).channel direction).highestAck = some highest ∧
        (seq < highest ∨
          seq = highest ∧ lossSignal ≤ ((run trail).channel direction).repeats) := by
  induction trail using packetInduction direction with
  | nil => exact fun h => absurd rfl h
  | self trail segment ih =>
    rw [signalCount_append_self, channel_run_self, Channel.highestAck_send, Channel.repeats_send]
    exact ih
  | opposite trail segment ih =>
    intro hcount
    rw [channel_run_opposite]
    rcases signalCount_append_opposite direction seq trail segment with hsame | hsignal
    · rw [hsame] at hcount
      obtain ⟨highest, hhighest, horder⟩ := ih hcount
      obtain ⟨-, hanswer⟩ | ⟨hanswer, -⟩ | ⟨hanswer, hnew⟩ :=
        Channel.answer_cases segment ((run trail).channel direction)
      · rw [hanswer]
        refine ⟨highest, hhighest, horder.imp id fun h => ⟨h.1, ?_⟩⟩
        exact Nat.le_succ_of_le h.2
      · rw [hanswer]
        exact ⟨highest, hhighest, horder⟩
      · rw [hanswer]
        refine ⟨segment.ack, rfl, .inl ?_⟩
        rcases horder with hlower | ⟨rfl, -⟩
        · exact UInt32.lt_trans hlower (hnew highest hhighest)
        · exact hnew _ hhighest
    · obtain ⟨-, hhighest, rfl, hthird⟩ := hsignal
      obtain ⟨-, hanswer⟩ | ⟨-, highest, hsome, hlower⟩ | ⟨-, hnew⟩ :=
        Channel.answer_cases segment ((run trail).channel direction)
      · rw [hanswer]
        exact ⟨segment.ack, hhighest, .inr ⟨rfl, Nat.le_of_eq hthird.symm⟩⟩
      · rw [hhighest] at hsome
        rw [Option.some.inj hsome] at hlower
        exact absurd hlower (UInt32.lt_irrefl _)
      · exact absurd (hnew _ hhighest) (UInt32.lt_irrefl _)

/-- The loss of a number is signalled once. -/
theorem signalCount_le_one (seq : UInt32) (trail : Trail) :
    signalCount direction seq trail ≤ 1 := by
  induction trail using packetInduction direction with
  | nil => exact Nat.zero_le 1
  | self trail segment ih => rwa [signalCount_append_self]
  | opposite trail segment ih =>
    rcases signalCount_append_opposite direction seq trail segment with hsame | hsignal
    · rwa [hsame]
    · obtain ⟨hcount, hhighest, -, hthird⟩ := hsignal
      by_cases hzero : signalCount direction seq trail = 0
      · omega
      · obtain ⟨highest, hsome, horder⟩ := exists_highest_of_signalled direction seq trail hzero
        rw [hhighest] at hsome
        rw [← Option.some.inj hsome] at horder
        rcases horder with hlower | ⟨-, hrepeats⟩
        · exact absurd hlower (UInt32.lt_irrefl _)
        · omega

/-! ## Every loss is paid for -/

/-- A packet of a direction confirms the loss of a number or leaves it as suspected as it
was. -/
theorem confirmed_add_suspected (seq : UInt32) (trail : Trail) (segment : Segment) :
    (if confirmed direction seq trail (direction, segment) then 1 else 0) +
        (if seq ∈ (((run trail).channel direction).send segment).suspected then 1 else 0) =
      if seq ∈ ((run trail).channel direction).suspected then 1 else 0 := by
  have hconfirmed : confirmed direction seq trail (direction, segment) = true ↔ _ :=
    confirmed_self_iff direction
  obtain ⟨hcursor, hsend⟩ | ⟨hcursor, hmem, hsend⟩ | ⟨-, hmem, hsend⟩ :=
    Channel.send_cases segment ((run trail).channel direction)
  · have hnot : ¬ confirmed direction seq trail (direction, segment) = true := by
      rw [hconfirmed]
      rintro ⟨rfl, hlower, -⟩
      exact UInt32.not_lt.mpr hcursor hlower
    rw [if_neg hnot, hsend, Nat.zero_add]
  · rw [hsend]
    by_cases hseq : segment.seq = seq
    · subst hseq
      have hgone : segment.seq ∉ ((run trail).channel direction).suspected.erase segment.seq :=
        (nodup_suspected direction trail).not_mem_erase
      rw [if_pos hmem, if_pos (hconfirmed.mpr ⟨rfl, hcursor, hmem⟩), if_neg hgone]
    · have hnot : ¬ confirmed direction seq trail (direction, segment) = true :=
        fun h => hseq (hconfirmed.mp h).1
      rw [if_neg hnot]
      simp only [List.mem_erase_of_ne (Ne.symm hseq), Nat.zero_add]
  · have hnot : ¬ confirmed direction seq trail (direction, segment) = true := by
      rw [hconfirmed]
      rintro ⟨rfl, -, hsuspected⟩
      exact hmem hsuspected
    rw [if_neg hnot, hsend, Nat.zero_add]

/-- A packet against a direction makes a number suspected or leaves it as suspected as it
was. -/
theorem suspected_add_flagged (seq : UInt32) (trail : Trail) (segment : Segment) :
    (if seq ∈ ((run trail).channel direction).suspected then 1 else 0) +
        (if flagged direction seq trail (direction.opposite, segment) then 1 else 0) =
      if seq ∈ (((run trail).channel direction).answer segment).suspected then 1 else 0 := by
  have hkept : seq ∈ ((run trail).channel direction).suspected →
      seq ∈ (((run trail).channel direction).answer segment).suspected :=
    Channel.mem_suspected_answer
  have hflagged : flagged direction seq trail (direction.opposite, segment) = true ↔
      seq ∉ ((run trail).channel direction).suspected ∧
        seq ∈ (((run trail).channel direction).answer segment).suspected := by
    rw [flagged, decide_eq_true_eq, ← channel_run_opposite]
    rfl
  by_cases hbefore : seq ∈ ((run trail).channel direction).suspected
  · rw [if_pos hbefore, if_pos (hkept hbefore), if_neg fun h => (hflagged.mp h).1 hbefore]
  · by_cases hafter : seq ∈ (((run trail).channel direction).answer segment).suspected
    · rw [if_neg hbefore, if_pos hafter, if_pos (hflagged.mpr ⟨hbefore, hafter⟩)]
    · rw [if_neg hbefore, if_neg hafter, if_neg fun h => hafter (hflagged.mp h).2]

/-- A number became suspected as often as its loss was confirmed, and once more
while it is suspected. -/
theorem flagged_eq_confirmed_add (seq : UInt32) (trail : Trail) :
    countAfter (flagged direction seq) [] trail =
      countAfter (confirmed direction seq) [] trail +
        if seq ∈ ((run trail).channel direction).suspected then 1 else 0 := by
  induction trail using packetInduction direction with
  | nil =>
    rw [channel_run_nil]
    rfl
  | self trail segment ih =>
    have hstep := confirmed_add_suspected direction seq trail segment
    rw [countAfter_append_singleton, countAfter_append_singleton, List.nil_append, flagged_self,
      if_neg Bool.false_ne_true, channel_run_self, ih, ← hstep]
    omega
  | opposite trail segment ih =>
    have hstep := suspected_add_flagged direction seq trail segment
    rw [countAfter_append_singleton, countAfter_append_singleton, List.nil_append,
      confirmed_opposite, if_neg Bool.false_ne_true, channel_run_opposite, ih, ← hstep]
    omega

/-- Three repetitions are spent on every loss, and those of the highest
acknowledgement that have not signalled one are left. -/
theorem budget (trail : Trail) :
    lossSignal * (((run trail).channel direction).loss +
        ((run trail).channel direction).suspected.length) +
      (if ((run trail).channel direction).repeats < lossSignal then
        ((run trail).channel direction).repeats else 0) ≤
      ((run trail).channel direction).dupAck := by
  induction trail using packetInduction direction with
  | nil =>
    rw [channel_run_nil]
    exact Nat.le_refl 0
  | self trail segment ih =>
    rw [channel_run_self]
    obtain ⟨-, hsend⟩ | ⟨-, hmem, hsend⟩ | ⟨-, -, hsend⟩ :=
      Channel.send_cases segment ((run trail).channel direction)
    · rwa [hsend]
    · have hlength := List.length_erase_of_mem hmem
      have hpositive := List.length_pos_of_mem hmem
      rw [hsend]
      dsimp only
      rw [hlength, Nat.add_assoc, Nat.add_sub_cancel' hpositive]
      exact ih
    · rwa [hsend]
  | opposite trail segment ih =>
    rw [channel_run_opposite]
    obtain ⟨-, hanswer⟩ | ⟨hanswer, -⟩ | ⟨hanswer, -⟩ :=
      Channel.answer_cases segment ((run trail).channel direction)
    · rw [hanswer]
      dsimp only
      split
      · rename_i hsignals
        obtain ⟨-, hthird, -⟩ := Channel.signals_iff.mp hsignals
        have hlength : (((run trail).channel direction).suspected.insert segment.ack).length ≤
            ((run trail).channel direction).suspected.length + 1 := by
          rw [List.length_insert]
          split <;> omega
        rw [lossSignal] at ih hthird ⊢
        rw [if_pos (by omega)] at ih
        rw [if_neg (by omega)]
        omega
      · rw [lossSignal] at ih ⊢
        split at ih <;> split <;> omega
    · rwa [hanswer]
    · rw [hanswer]
      dsimp only
      rw [lossSignal] at ih ⊢
      rw [if_pos (by omega)]
      omega

end Direction

/-! ## Every trail -/

/-- The losses that an analysis ends with are those of its channel. -/
theorem loss_finish_side (state : State) (direction : Direction) :
    (state.finish.side direction).loss = (state.channel direction).loss := by
  cases direction <;> rfl

/-- The repetitions that an analysis ends with are those of the other side's channel. -/
theorem dupAck_finish_side (state : State) (direction : Direction) :
    (state.finish.side direction.opposite).dupAck = (state.channel direction).dupAck := by
  cases direction <;> rfl

/-- The losses of every batch are signalled before they are confirmed, none twice,
and three repeated acknowledgements stand behind each; an analysis that succeeds,
and that of a flow, ends in the health that the trail of its packets leads to. -/
theorem losses_justified (pair : EndpointPair) (members : List Member) :
    LossesJustified (trail pair members) ∧
      (∀ health, ofMembers pair members = .ok health →
        health = (run (trail pair members)).finish) ∧
      ∀ flow : TcpFlow, flow.pair = pair → flow.members.toList = members →
        ofFlow flow = (run (trail pair members)).finish := by
  refine ⟨⟨?_, ?_, ?_, ?_⟩, fun health => eq_of_ofMembers_eq_ok, ?_⟩
  · intro before event after _ direction seq hconfirmed
    obtain ⟨sender, segment⟩ := event
    by_cases hsender : sender = direction
    · subst hsender
      obtain ⟨-, hcursor, hmem⟩ := (confirmed_self_iff sender).mp hconfirmed
      exact ⟨four_le_acknowledged sender before seq hmem, hcursor⟩
    · rw [eq_opposite_of_ne hsender, confirmed_opposite] at hconfirmed
      cases hconfirmed
  · intro direction seq
    have hsignalled := countAfter_le_countAfter (flagged direction seq)
      (fun _ _ => signalled_of_flagged direction) [] (trail pair members)
    exact Nat.le_trans hsignalled (signalCount_le_one direction seq _)
  · intro direction seq
    rw [flagged_eq_confirmed_add]
    exact Nat.le_add_right _ _
  · intro direction
    have hbudget := budget direction (trail pair members)
    rw [lossSignal] at hbudget
    rw [loss_finish_side, dupAck_finish_side]
    exact Nat.le_trans (Nat.le_add_right _ _) hbudget
  · rintro flow rfl rfl
    exact ofFlow_eq flow

/-- A segment that is sent again after four requests for it confirms one loss. -/
example :
    let answer : Direction × Segment := (.reverse, ⟨1, 200, 0⟩)
    countAfter (confirmed .forward 200) []
      [(.forward, ⟨100, 1, 100⟩), (.forward, ⟨200, 1, 100⟩), answer, answer, answer, answer,
        (.forward, ⟨200, 1, 100⟩)] = 1 := by
  decide

end CaptureFlow.Health
