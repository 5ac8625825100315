import CaptureFlow.Proofs.TcpFlow.Trail

/-!
# Channels of a connection

The data of one side and the acknowledgements of the other form a channel. A step
of the analysis changes both sides, but each channel changes by itself: the packet
is a segment of one channel and an acknowledgement on the other. What is claimed
of a side can so be proved of a channel, whatever happens on the other one.
-/

namespace CaptureFlow

/-- The segments that are counted as lost, as out of order or as other. -/
def Anomalies.misplaced (anomalies : Anomalies) : Nat :=
  anomalies.loss + anomalies.outOfOrder + anomalies.other

namespace Health

/-- Data of one side and the acknowledgements of the other. -/
structure Channel where
  /-- The sequence number expected next. -/
  cursor : UInt32 := 0
  /-- The sequence numbers whose loss is signalled and not confirmed. -/
  suspected : List UInt32 := []
  /-- The confirmed losses. -/
  loss : Nat := 0
  /-- The segments behind the expected number, confirmed losses included. -/
  behind : Nat := 0
  /-- The highest acknowledgement. -/
  highestAck : Option UInt32 := none
  /-- How often the highest acknowledgement was repeated. -/
  repeats : Nat := 0
  /-- The acknowledgements that repeat the highest one. -/
  dupAck : Nat := 0
  deriving DecidableEq

namespace Channel

/-- The channel after a segment of data. -/
def send (segment : Segment) (channel : Channel) : Channel :=
  if channel.cursor ≤ segment.seq then
    { channel with cursor := segment.seq + segment.payload.toUInt32 }
  else if segment.seq ∈ channel.suspected then
    { channel with
      suspected := channel.suspected.erase segment.seq
      loss := channel.loss + 1
      behind := channel.behind + 1 }
  else { channel with behind := channel.behind + 1 }

/-- Whether an acknowledgement signals a loss. -/
def signals (segment : Segment) (channel : Channel) : Bool :=
  channel.highestAck = some segment.ack ∧ channel.repeats + 1 = lossSignal ∧
    segment.ack ≠ channel.cursor

/-- The channel after an acknowledgement. -/
def answer (segment : Segment) (channel : Channel) : Channel :=
  match channel.highestAck with
  | none => { channel with highestAck := some segment.ack, repeats := 0 }
  | some highest =>
    if segment.ack = highest then
      { channel with
        repeats := channel.repeats + 1
        dupAck := channel.dupAck + 1
        suspected :=
          if channel.signals segment then channel.suspected.insert segment.ack
          else channel.suspected }
    else if segment.ack < highest then channel
    else { channel with highestAck := some segment.ack, repeats := 0 }

end Channel

/-- The channel of the data of one side, which the other side acknowledges. -/
def Channel.between (sender receiver : Side) : Channel where
  cursor := sender.cursor
  suspected := sender.suspected
  loss := sender.anomalies.loss
  behind := sender.anomalies.misplaced
  highestAck := receiver.highestAck
  repeats := receiver.repeats
  dupAck := receiver.anomalies.dupAck

/-- What is known of a side. -/
def State.side (state : State) : Direction → Side
  | .forward => state.forward
  | .reverse => state.reverse

/-- The channel of a side's data. -/
def State.channel (state : State) (direction : Direction) : Channel :=
  .between (state.side direction) (state.side direction.opposite)

/-- A side after one of its own packets. -/
theorem side_follow_self (state : State) (direction : Direction) (segment : Segment) :
    (state.follow (direction, segment)).side direction =
      advance segment
        (acknowledge segment (state.side direction) (state.side direction.opposite)).1
        (acknowledge segment (state.side direction) (state.side direction.opposite)).2 := by
  cases direction <;> rfl

/-- A side after a packet of the other side. -/
theorem side_follow_opposite (state : State) (direction : Direction) (segment : Segment) :
    (state.follow (direction.opposite, segment)).side direction =
      (acknowledge segment (state.side direction.opposite) (state.side direction)).2 := by
  cases direction <;> rfl

/-! ## One packet -/

section Step

variable (segment : Segment) (this other : Side)

/-- Acknowledging leaves the channel of the sender's own data as it was. -/
theorem between_acknowledge :
    Channel.between (acknowledge segment this other).1 (acknowledge segment this other).2 =
      Channel.between this other := by
  unfold acknowledge
  split
  · rfl
  · split
    · rfl
    · split <;> rfl

/-- Acknowledging is an answer on the channel of the other side's data. -/
theorem between_acknowledge_swap :
    Channel.between (acknowledge segment this other).2 (acknowledge segment this other).1 =
      (Channel.between other this).answer segment := by
  unfold acknowledge Channel.answer
  cases hhighest : this.highestAck with
  | none => simp only [Channel.between, hhighest]
  | some highest =>
    simp only [Channel.between, hhighest]
    split
    · rename_i hsame
      simp only [Channel.signals, hsame, true_and, decide_eq_true_eq]
    · split
      · simp only [hhighest]
      · rfl

/-- The data of a packet is sent on the channel of its sender. -/
theorem between_advance :
    Channel.between (advance segment this other) other =
      (Channel.between this other).send segment := by
  unfold advance Channel.send
  simp only [Channel.between]
  by_cases hcursor : this.cursor ≤ segment.seq
  · simp only [hcursor, if_true]
  · simp only [hcursor, if_false]
    by_cases hsuspected : segment.seq ∈ this.suspected
    · simp only [hsuspected, if_true, Anomalies.misplaced, Channel.mk.injEq, true_and, and_true]
      omega
    · simp only [hsuspected, if_false]
      split
      · simp only [Anomalies.misplaced, Channel.mk.injEq, true_and, and_true]
        omega
      · rfl

/-- The data of a packet leaves the channel of the other side's data as it was. -/
theorem between_advance_swap :
    Channel.between other (advance segment this other) = Channel.between other this := by
  unfold advance
  dsimp only
  split
  · rfl
  · split
    · rfl
    · split <;> rfl

end Step

/-- A packet of a side is a segment of its channel. -/
theorem channel_follow_self (state : State) (direction : Direction) (segment : Segment) :
    (state.follow (direction, segment)).channel direction =
      (state.channel direction).send segment := by
  have hside : (state.follow (direction, segment)).channel direction =
      .between (exchangeSegment segment (state.side direction) (state.side direction.opposite)).1
        (exchangeSegment segment (state.side direction) (state.side direction.opposite)).2 := by
    cases direction <;> rfl
  rw [hside, exchangeSegment, between_advance, between_acknowledge]
  rfl

/-- A packet of the other side is an answer on the channel of a side. -/
theorem channel_follow_opposite (state : State) (direction : Direction) (segment : Segment) :
    (state.follow (direction.opposite, segment)).channel direction =
      (state.channel direction).answer segment := by
  have hside : (state.follow (direction.opposite, segment)).channel direction =
      .between
        (exchangeSegment segment (state.side direction.opposite) (state.side direction)).2
        (exchangeSegment segment (state.side direction.opposite) (state.side direction)).1 := by
    cases direction <;> rfl
  rw [hside, exchangeSegment, between_advance_swap, between_acknowledge_swap]
  rfl

/-! ## What a packet does to a channel -/

namespace Channel

/-- A segment goes on, is sent again after a signal, or is behind without one. -/
theorem send_cases (segment : Segment) (channel : Channel) :
    (channel.cursor ≤ segment.seq ∧ channel.send segment =
      { channel with cursor := segment.seq + segment.payload.toUInt32 }) ∨
    (segment.seq < channel.cursor ∧ segment.seq ∈ channel.suspected ∧ channel.send segment =
      { channel with
        suspected := channel.suspected.erase segment.seq
        loss := channel.loss + 1
        behind := channel.behind + 1 }) ∨
    (segment.seq < channel.cursor ∧ segment.seq ∉ channel.suspected ∧ channel.send segment =
      { channel with behind := channel.behind + 1 }) := by
  unfold send
  by_cases hcursor : channel.cursor ≤ segment.seq
  · exact .inl ⟨hcursor, if_pos hcursor⟩
  · have hbehind := UInt32.not_le.mp hcursor
    rw [if_neg hcursor]
    by_cases hsuspected : segment.seq ∈ channel.suspected
    · exact .inr (.inl ⟨hbehind, hsuspected, if_pos hsuspected⟩)
    · exact .inr (.inr ⟨hbehind, hsuspected, if_neg hsuspected⟩)

/-- An acknowledgement repeats the highest one, is below it, or is a new highest one. -/
theorem answer_cases (segment : Segment) (channel : Channel) :
    (channel.highestAck = some segment.ack ∧ channel.answer segment =
      { channel with
        repeats := channel.repeats + 1
        dupAck := channel.dupAck + 1
        suspected :=
          if channel.signals segment then channel.suspected.insert segment.ack
          else channel.suspected }) ∨
    (channel.answer segment = channel ∧
      ∃ highest, channel.highestAck = some highest ∧ segment.ack < highest) ∨
    (channel.answer segment = { channel with highestAck := some segment.ack, repeats := 0 } ∧
      ∀ highest, channel.highestAck = some highest → highest < segment.ack) := by
  unfold answer
  cases hhighest : channel.highestAck with
  | none => exact .inr (.inr ⟨rfl, nofun⟩)
  | some highest =>
    dsimp only
    by_cases hsame : segment.ack = highest
    · exact .inl ⟨by rw [hsame], if_pos hsame⟩
    · rw [if_neg hsame]
      by_cases hlower : segment.ack < highest
      · exact .inr (.inl ⟨if_pos hlower, highest, rfl, hlower⟩)
      · refine .inr (.inr ⟨if_neg hlower, ?_⟩)
        rintro _ ⟨⟩
        exact UInt32.lt_of_le_of_ne (UInt32.not_lt.mp hlower) (Ne.symm hsame)

/-- Data does not change the highest acknowledgement. -/
@[simp] theorem highestAck_send (segment : Segment) (channel : Channel) :
    (channel.send segment).highestAck = channel.highestAck := by
  obtain ⟨-, hsend⟩ | ⟨-, -, hsend⟩ | ⟨-, -, hsend⟩ := send_cases segment channel
  · rw [hsend]
  · rw [hsend]
  · rw [hsend]

/-- Data does not repeat an acknowledgement. -/
@[simp] theorem repeats_send (segment : Segment) (channel : Channel) :
    (channel.send segment).repeats = channel.repeats := by
  obtain ⟨-, hsend⟩ | ⟨-, -, hsend⟩ | ⟨-, -, hsend⟩ := send_cases segment channel
  · rw [hsend]
  · rw [hsend]
  · rw [hsend]

/-- Data does not count as a repeated acknowledgement. -/
@[simp] theorem dupAck_send (segment : Segment) (channel : Channel) :
    (channel.send segment).dupAck = channel.dupAck := by
  obtain ⟨-, hsend⟩ | ⟨-, -, hsend⟩ | ⟨-, -, hsend⟩ := send_cases segment channel
  · rw [hsend]
  · rw [hsend]
  · rw [hsend]

/-- Data makes no number suspected. -/
theorem mem_suspected_of_send {seq : UInt32} {segment : Segment} {channel : Channel}
    (h : seq ∈ (channel.send segment).suspected) : seq ∈ channel.suspected := by
  obtain ⟨-, hsend⟩ | ⟨-, -, hsend⟩ | ⟨-, -, hsend⟩ := send_cases segment channel
  · rwa [hsend] at h
  · rw [hsend] at h
    exact List.mem_of_mem_erase h
  · rwa [hsend] at h

/-- An acknowledgement does not change the expected number. -/
@[simp] theorem cursor_answer (segment : Segment) (channel : Channel) :
    (channel.answer segment).cursor = channel.cursor := by
  obtain ⟨-, hanswer⟩ | ⟨hanswer, -⟩ | ⟨hanswer, -⟩ := answer_cases segment channel
  · rw [hanswer]
  · rw [hanswer]
  · rw [hanswer]

/-- An acknowledgement is not behind the expected number. -/
@[simp] theorem behind_answer (segment : Segment) (channel : Channel) :
    (channel.answer segment).behind = channel.behind := by
  obtain ⟨-, hanswer⟩ | ⟨hanswer, -⟩ | ⟨hanswer, -⟩ := answer_cases segment channel
  · rw [hanswer]
  · rw [hanswer]
  · rw [hanswer]

/-- An acknowledgement takes no suspicion back. -/
theorem mem_suspected_answer {seq : UInt32} {segment : Segment} {channel : Channel}
    (h : seq ∈ channel.suspected) : seq ∈ (channel.answer segment).suspected := by
  obtain ⟨-, hanswer⟩ | ⟨hanswer, -⟩ | ⟨hanswer, -⟩ := answer_cases segment channel
  · rw [hanswer]
    dsimp only
    split
    · exact List.mem_insert_of_mem h
    · exact h
  · rwa [hanswer]
  · rwa [hanswer]

/-- An acknowledgement that signals a loss is the third to repeat the highest one. -/
theorem signals_iff {segment : Segment} {channel : Channel} :
    channel.signals segment = true ↔ channel.highestAck = some segment.ack ∧
      channel.repeats + 1 = lossSignal ∧ segment.ack ≠ channel.cursor := by
  rw [signals, decide_eq_true_eq]

end Channel

/-! ## Whole trails -/

/-- A trail without packets leads to a fresh channel. -/
@[simp] theorem channel_run_nil (direction : Direction) : (run []).channel direction = {} := by
  cases direction <;> rfl

/-- The channel of a side after one of its own packets. -/
theorem channel_run_self (direction : Direction) (trail : Trail) (segment : Segment) :
    (run (trail ++ [(direction, segment)])).channel direction =
      ((run trail).channel direction).send segment := by
  rw [run_append_singleton, channel_follow_self]

/-- The channel of a side after a packet of the other side. -/
theorem channel_run_opposite (direction : Direction) (trail : Trail) (segment : Segment) :
    (run (trail ++ [(direction.opposite, segment)])).channel direction =
      ((run trail).channel direction).answer segment := by
  rw [run_append_singleton, channel_follow_opposite]

/-- What holds of the empty trail, and is kept by the packets of either side, holds
of every trail. -/
theorem packetInduction (direction : Direction) {motive : Trail → Prop} (nil : motive [])
    (self : ∀ trail segment, motive trail → motive (trail ++ [(direction, segment)]))
    (opposite : ∀ trail segment, motive trail → motive (trail ++ [(direction.opposite, segment)]))
    (trail : Trail) : motive trail := by
  have hall : ∀ before, motive before → motive (before ++ trail) := by
    induction trail with
    | nil =>
      intro before hbefore
      rwa [List.append_nil]
    | cons event rest ih =>
      intro before hbefore
      obtain ⟨sender, segment⟩ := event
      rw [← List.singleton_append, ← List.append_assoc]
      by_cases hsender : sender = direction
      · subst hsender
        exact ih _ (self before segment hbefore)
      · rw [eq_opposite_of_ne hsender]
        exact ih _ (opposite before segment hbefore)
  exact hall [] nil

end Health

end CaptureFlow
