import CaptureFlow.Proofs.Flow.Totals
import CaptureFlow.Proofs.TcpFlow.Losses

/-!
# Accounting of an analysis

The repeated acknowledgements of a side, and the segments that it sent behind the
number expected from it, are counts over its own segments alone. Every segment
behind the expected number is counted once, as lost, as out of order or as other,
and nothing else is, except the losses that are never confirmed.
-/

namespace CaptureFlow.Health

/-- The acknowledgements that repeat the highest one before them. -/
def repeatedAcks (segments : List Segment) : Nat :=
  countAfter (fun before segment => (before.map Segment.ack).max? = some segment.ack) [] segments

/-- The sequence number expected after some segments. -/
def cursorAfter (segments : List Segment) : UInt32 :=
  segments.foldl (fun cursor segment =>
    if cursor ≤ segment.seq then segment.seq + segment.payload.toUInt32 else cursor) 0

/-- The segments below the number expected after those before them. -/
def behindCursor (segments : List Segment) : Nat :=
  countAfter (fun before segment => segment.seq < cursorAfter before) [] segments

/-- One of the counters for misplaced segments goes up by one. -/
def CountedOnce (old new : Anomalies) : Prop :=
  (new.loss = old.loss + 1 ∧ new.outOfOrder = old.outOfOrder ∧ new.other = old.other) ∨
    (new.loss = old.loss ∧ new.outOfOrder = old.outOfOrder + 1 ∧ new.other = old.other) ∨
    (new.loss = old.loss ∧ new.outOfOrder = old.outOfOrder ∧ new.other = old.other + 1)

/-- No counter for misplaced segments changes. -/
def NotCounted (old new : Anomalies) : Prop :=
  new.loss = old.loss ∧ new.outOfOrder = old.outOfOrder ∧ new.other = old.other

/-- What the counters of a trail tell about the segments of each side. -/
structure Accounted (trail : Trail) : Prop where
  /-- The repeated acknowledgements are counted over the side's own segments. -/
  dupAck : ∀ direction,
    ((run trail).finish.side direction).dupAck = repeatedAcks (sentBy direction trail)
  /-- The misplaced segments are those behind the number expected from the side's own
  segments, and the losses signalled and not confirmed. -/
  misplaced : ∀ direction,
    ((run trail).finish.side direction).loss + ((run trail).finish.side direction).outOfOrder +
        ((run trail).finish.side direction).other =
      behindCursor (sentBy direction trail) + ((run trail).side direction).suspected.length
  /-- Each segment behind the expected number is counted once, and no other is. -/
  counted : ∀ before event after, trail = before ++ event :: after → ∀ direction,
    (event.1 = direction ∧ event.2.seq < cursorAfter (sentBy direction before) →
      CountedOnce ((run before).side direction).anomalies
        ((run (before ++ [event])).side direction).anomalies) ∧
    (¬ (event.1 = direction ∧ event.2.seq < cursorAfter (sentBy direction before)) →
      NotCounted ((run before).side direction).anomalies
        ((run (before ++ [event])).side direction).anomalies)
  /-- Neither count depends on how the segments of both sides are interleaved. -/
  interleaving : ∀ other, (∀ direction, sentBy direction other = sentBy direction trail) →
    ∀ direction,
      ((run other).finish.side direction).dupAck = ((run trail).finish.side direction).dupAck ∧
      ((run other).side direction).anomalies.misplaced =
        ((run trail).side direction).anomalies.misplaced

/-- Each counter of a side fits in a word. -/
def FitsWord (anomalies : Anomalies) : Prop :=
  anomalies.dupAck < UInt32.size ∧ anomalies.loss < UInt32.size ∧
    anomalies.outOfOrder < UInt32.size ∧ anomalies.other < UInt32.size

/-! ## Counts over one side -/

/-- The higher of two words is the second one unless that is below the first. -/
theorem max_word (x y : UInt32) : max x y = if x ≤ y then y else x := rfl

section Direction

variable (direction : Direction)

/-- The expected number of a channel is that of its segments. -/
theorem cursor_channel (trail : Trail) :
    ((run trail).channel direction).cursor = cursorAfter (sentBy direction trail) := by
  induction trail using packetInduction direction with
  | nil =>
    rw [channel_run_nil]
    rfl
  | self trail segment ih =>
    rw [channel_run_self, sentBy_append_self, cursorAfter, List.foldl_append, ← cursorAfter, ← ih]
    obtain ⟨hcursor, hsend⟩ | ⟨hbehind, -, hsend⟩ | ⟨hbehind, -, hsend⟩ :=
      Channel.send_cases segment ((run trail).channel direction)
    · rw [hsend]
      exact (if_pos hcursor).symm
    · rw [hsend]
      exact (if_neg (UInt32.not_le.mpr hbehind)).symm
    · rw [hsend]
      exact (if_neg (UInt32.not_le.mpr hbehind)).symm
  | opposite trail segment ih =>
    rw [channel_run_opposite, sentBy_append_of_ne (opposite_ne direction), Channel.cursor_answer,
      ih]

/-- The misplaced segments of a channel are its segments behind the expected number. -/
theorem behind_channel (trail : Trail) :
    ((run trail).channel direction).behind = behindCursor (sentBy direction trail) := by
  induction trail using packetInduction direction with
  | nil =>
    rw [channel_run_nil]
    rfl
  | self trail segment ih =>
    rw [channel_run_self, sentBy_append_self, behindCursor, countAfter_append_singleton,
      List.nil_append, ← cursor_channel, ← behindCursor, ← ih]
    obtain ⟨hcursor, hsend⟩ | ⟨hbehind, -, hsend⟩ | ⟨hbehind, -, hsend⟩ :=
      Channel.send_cases segment ((run trail).channel direction)
    · rw [hsend, if_neg]
      · rfl
      · rw [decide_eq_true_eq]
        exact UInt32.not_lt.mpr hcursor
    · rw [hsend, if_pos (decide_eq_true hbehind)]
    · rw [hsend, if_pos (decide_eq_true hbehind)]
  | opposite trail segment ih =>
    rw [channel_run_opposite, sentBy_append_of_ne (opposite_ne direction), Channel.behind_answer,
      ih]

/-- The highest acknowledgement of a channel is the highest of the other side. -/
theorem highestAck_channel (trail : Trail) :
    ((run trail).channel direction).highestAck =
      ((sentBy direction.opposite trail).map Segment.ack).max? := by
  induction trail using packetInduction direction with
  | nil =>
    rw [channel_run_nil]
    rfl
  | self trail segment ih =>
    rw [channel_run_self, sentBy_append_of_ne (opposite_ne direction).symm,
      Channel.highestAck_send, ih]
  | opposite trail segment ih =>
    rw [channel_run_opposite, sentBy_append_self, List.map_append, List.map_singleton,
      max?_concat, ← ih]
    obtain ⟨hsame, hanswer⟩ | ⟨hanswer, highest, hsome, hlower⟩ | ⟨hanswer, hnew⟩ :=
      Channel.answer_cases segment ((run trail).channel direction)
    · rw [hanswer, hsame, Option.elim_some, max_word, if_pos (UInt32.le_refl _)]
    · rw [hanswer, hsome, Option.elim_some, max_word, if_neg (UInt32.not_le.mpr hlower)]
    · rw [hanswer]
      cases hhighest : ((run trail).channel direction).highestAck with
      | none => rfl
      | some highest =>
        rw [Option.elim_some, max_word, if_pos (UInt32.le_of_lt (hnew highest hhighest))]

/-- The repeated acknowledgements of a channel are counted over the other side's
segments. -/
theorem dupAck_channel (trail : Trail) :
    ((run trail).channel direction).dupAck = repeatedAcks (sentBy direction.opposite trail) := by
  induction trail using packetInduction direction with
  | nil =>
    rw [channel_run_nil]
    rfl
  | self trail segment ih =>
    rw [channel_run_self, sentBy_append_of_ne (opposite_ne direction).symm, Channel.dupAck_send,
      ih]
  | opposite trail segment ih =>
    rw [channel_run_opposite, sentBy_append_self, repeatedAcks, countAfter_append_singleton,
      List.nil_append, ← highestAck_channel, ← repeatedAcks, ← ih]
    obtain ⟨hsame, hanswer⟩ | ⟨hanswer, highest, hsome, hlower⟩ | ⟨hanswer, hnew⟩ :=
      Channel.answer_cases segment ((run trail).channel direction)
    · rw [hanswer, if_pos (decide_eq_true hsame)]
    · have hne : ((run trail).channel direction).highestAck ≠ some segment.ack := by
        rw [hsome]
        rintro ⟨⟩
        exact UInt32.lt_irrefl _ hlower
      rw [hanswer, decide_eq_false hne]
      rfl
    · have hne : ((run trail).channel direction).highestAck ≠ some segment.ack :=
        fun hsame => UInt32.lt_irrefl _ (hnew _ hsame)
      rw [hanswer, decide_eq_false hne]
      rfl

/-! ## One packet at a time -/

/-- The counters of a side change with its own segments only. -/
theorem notCounted_opposite (state : State) (segment : Segment) :
    NotCounted (state.side direction).anomalies
      ((state.follow (direction.opposite, segment)).side direction).anomalies := by
  rw [side_follow_opposite, acknowledge]
  split
  · exact ⟨rfl, rfl, rfl⟩
  · split
    · exact ⟨rfl, rfl, rfl⟩
    · split <;> exact ⟨rfl, rfl, rfl⟩

/-- Acknowledging counts no misplaced segment, and keeps the expected number. -/
theorem notCounted_acknowledge (segment : Segment) (this other : Side) :
    NotCounted this.anomalies (acknowledge segment this other).1.anomalies ∧
      (acknowledge segment this other).1.cursor = this.cursor := by
  rw [acknowledge]
  split
  · exact ⟨⟨rfl, rfl, rfl⟩, rfl⟩
  · split
    · exact ⟨⟨rfl, rfl, rfl⟩, rfl⟩
    · split <;> exact ⟨⟨rfl, rfl, rfl⟩, rfl⟩

/-- A segment is counted once when it is behind the expected number, and else not. -/
theorem counted_advance (segment : Segment) (this other : Side) :
    (segment.seq < this.cursor →
        CountedOnce this.anomalies (advance segment this other).anomalies) ∧
      (¬ segment.seq < this.cursor →
        NotCounted this.anomalies (advance segment this other).anomalies) := by
  unfold advance
  dsimp only
  constructor
  · intro hbehind
    rw [if_neg (UInt32.not_le.mpr hbehind)]
    split
    · exact .inl ⟨rfl, rfl, rfl⟩
    · split
      · exact .inr (.inl ⟨rfl, rfl, rfl⟩)
      · exact .inr (.inr ⟨rfl, rfl, rfl⟩)
  · intro hcursor
    rw [if_pos (UInt32.not_lt.mp hcursor)]
    exact ⟨rfl, rfl, rfl⟩

/-- A packet of a side is counted once when it is behind the expected number, and
else not. -/
theorem counted_self (state : State) (segment : Segment) :
    (segment.seq < (state.side direction).cursor →
        CountedOnce (state.side direction).anomalies
          ((state.follow (direction, segment)).side direction).anomalies) ∧
      (¬ segment.seq < (state.side direction).cursor →
        NotCounted (state.side direction).anomalies
          ((state.follow (direction, segment)).side direction).anomalies) := by
  obtain ⟨⟨hloss, horder, hother⟩, hcursor⟩ :=
    notCounted_acknowledge segment (state.side direction) (state.side direction.opposite)
  have hadvance := counted_advance segment
    (acknowledge segment (state.side direction) (state.side direction.opposite)).1
    (acknowledge segment (state.side direction) (state.side direction.opposite)).2
  rw [side_follow_self]
  rwa [hcursor, CountedOnce, NotCounted, hloss, horder, hother] at hadvance

/-! ## Every trail -/

/-- The misplaced segments at the end are those behind the expected number, and the
losses not confirmed. -/
theorem misplaced_finish_side (state : State) :
    (state.finish.side direction).misplaced =
      (state.channel direction).behind + (state.side direction).suspected.length := by
  cases direction with
  | forward => exact (Nat.add_assoc _ _ _).symm
  | reverse => exact (Nat.add_assoc _ _ _).symm

/-- The repeated acknowledgements of a side are those on the other side's channel. -/
theorem dupAck_finish (state : State) :
    (state.finish.side direction).dupAck = (state.channel direction.opposite).dupAck := by
  cases direction <;> rfl

/-- A side repeats an acknowledgement with each of its segments at most. -/
theorem dupAck_le_length (trail : Trail) :
    ((run trail).finish.side direction).dupAck ≤ (sentBy direction trail).length := by
  rw [dupAck_finish, dupAck_channel, Direction.opposite_opposite]
  exact countAfter_le_length _ _ _

/-- No more segments are misplaced than there are packets. -/
theorem misplaced_le_length (trail : Trail) :
    ((run trail).finish.side direction).misplaced ≤ trail.length := by
  have hbehind : behindCursor (sentBy direction trail) ≤ (sentBy direction trail).length :=
    countAfter_le_length _ _ _
  have hbudget := budget direction trail
  have hrepeated := dupAck_le_length direction.opposite trail
  have hlength := length_sentBy_add direction trail
  rw [dupAck_finish, Direction.opposite_opposite] at hrepeated
  rw [misplaced_finish_side, behind_channel]
  change lossSignal * (_ + ((run trail).side direction).suspected.length) + _ ≤ _ at hbudget
  rw [lossSignal] at hbudget
  omega

/-- The counters of a short trail fit in words. -/
theorem fitsWord_finish {trail : Trail} (h : trail.length < UInt32.size) :
    FitsWord ((run trail).finish.side direction) := by
  have hmisplaced := misplaced_le_length direction trail
  have hdupAck := dupAck_le_length direction trail
  have hlength := length_sentBy_add direction trail
  rw [Anomalies.misplaced] at hmisplaced
  exact ⟨by omega, by omega, by omega, by omega⟩

end Direction

/-- Every trail is accounted for. -/
theorem accounted (trail : Trail) : Accounted trail where
  dupAck direction := by
    rw [dupAck_finish, dupAck_channel, Direction.opposite_opposite]
  misplaced direction := by
    rw [← behind_channel]
    exact misplaced_finish_side direction (run trail)
  counted before event after _ direction := by
    obtain ⟨sender, segment⟩ := event
    rw [run_append_singleton]
    by_cases hsender : sender = direction
    · subst hsender
      simp only [true_and]
      rw [← cursor_channel]
      exact counted_self sender (run before) segment
    · rw [eq_opposite_of_ne hsender]
      simp only [opposite_ne, false_and, not_false_eq_true, false_implies, true_and, true_implies]
      exact notCounted_opposite direction (run before) segment
  interleaving other h direction := by
    constructor
    · rw [dupAck_finish, dupAck_finish, dupAck_channel, dupAck_channel, h]
    · change ((run other).channel direction).behind = ((run trail).channel direction).behind
      rw [behind_channel, behind_channel, h]

/-- Packets that all have the headers of a segment are all on the trail. -/
theorem length_trail {pair : EndpointPair} {members : List Member}
    (h : ∀ member ∈ members, member.packet.tcp?.isSome) :
    (trail pair members).length = members.length := by
  rw [trail, List.length_filterMap_eq_countP, List.countP_eq_length]
  intro member hmember
  rw [event?, Option.isSome_map]
  exact h member hmember

/-- The analysis of fewer packets than there are words, which all have the headers of
a segment, succeeds; every packet is on the trail and accounted for, and no counter
overflows. -/
theorem ofMembers_accounted (pair : EndpointPair) (members : List Member)
    (hcount : members.length < UInt32.size)
    (hheaders : ∀ member ∈ members,
      member.packet.network?.isSome ∧ member.packet.tcp?.isSome) :
    ofMembers pair members = .ok (run (trail pair members)).finish ∧
      (trail pair members).length = members.length ∧
      Accounted (trail pair members) ∧
      ∀ direction, FitsWord ((run (trail pair members)).finish.side direction) := by
  have hlength : (trail pair members).length = members.length :=
    length_trail fun member hmember => (hheaders member hmember).2
  refine ⟨ofMembers_eq_ok pair hheaders, hlength, accounted _, fun direction => ?_⟩
  apply fitsWord_finish
  rwa [hlength]

/-- A server on port 80 and its client. -/
def retransmissionPair : EndpointPair :=
  ⟨⟨.v4 ⟨10, 0, 0, 1⟩, 80⟩, ⟨.v4 ⟨10, 0, 0, 2⟩, 51000⟩⟩

/-- A packet between them, with some octets of payload. -/
def retransmissionPacket (source destination : Ipv4.Address)
    (sourcePort destinationPort : UInt16) (seq ack : UInt32) (payload : UInt16) : Packet where
  timestamp := 0
  captured := 54
  wire := 54 + payload.toUInt32
  headers :=
    [.ethernet ⟨⟨[0, 0, 0, 0, 0, 1], rfl⟩, ⟨[0, 0, 0, 0, 0, 2], rfl⟩, 0x0800⟩,
      .ipv4 ⟨4, 5, source, destination, Tcp.protocolNumber, 40 + payload, 20 + payload⟩,
      .tcp ⟨sourcePort, destinationPort, seq, ack, 5, Tcp.flagAck, 1024, 0, 0⟩]

/-- The server sends two segments, the client asks four times for the second one, and
the server sends that again. -/
def retransmission : List Member :=
  let data (seq : UInt32) := retransmissionPacket ⟨10, 0, 0, 1⟩ ⟨10, 0, 0, 2⟩ 80 51000 seq 1 100
  let answer := retransmissionPacket ⟨10, 0, 0, 2⟩ ⟨10, 0, 0, 1⟩ 51000 80 1 200 0
  Member.ofBatch [data 100, data 200, answer, answer, answer, answer, data 200]

/-- The segment that was sent again is the one loss of the server. -/
theorem retransmission_accounted :
    ofMembers retransmissionPair retransmission = .ok
        ⟨⟨2, 1, 100, 0, 0⟩, ⟨3, 0, 0, 0, 0⟩⟩ ∧
      Accounted (trail retransmissionPair retransmission) := by
  obtain ⟨hhealth, -, haccounted, -⟩ :=
    ofMembers_accounted retransmissionPair retransmission (by decide) (by decide)
  refine ⟨?_, haccounted⟩
  rw [hhealth]
  decide

end CaptureFlow.Health
