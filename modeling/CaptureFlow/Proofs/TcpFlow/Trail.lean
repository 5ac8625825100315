import CaptureFlow.TcpFlow.Health

/-!
# The trail of an analysis

The analysis of a connection looks at the sender and three numbers of every TCP
packet. The trail of a batch is what it looks at, in order of arrival. An analysis
that succeeds ends in the state to which its trail leads.
-/

namespace CaptureFlow.Health

/-- What the analysis looks at, packet by packet. -/
abbrev Trail := List (Direction × Segment)

/-- What the analysis looks at in a packet. -/
def event? (pair : EndpointPair) (member : Member) : Option (Direction × Segment) :=
  member.packet.tcp?.map fun tcp =>
    (directionByPort pair tcp, ⟨tcp.seq, tcp.ack, member.packet.payloadLength?.getD 0⟩)

/-- The trail of a batch. -/
def trail (pair : EndpointPair) (members : List Member) : Trail :=
  members.filterMap (event? pair)

/-- The state after one more packet of a trail. -/
def State.follow (state : State) (event : Direction × Segment) : State :=
  state.step event.1 event.2

/-- The state to which a trail leads. -/
def run (trail : Trail) : State :=
  trail.foldl State.follow {}

/-- The segments of one side, in order of arrival. -/
def sentBy (direction : Direction) (trail : Trail) : List Segment :=
  (trail.filter fun event => event.1 = direction).map Prod.snd

/-- One more packet leads from the state before it to the next one. -/
theorem run_append_singleton (trail : Trail) (event : Direction × Segment) :
    run (trail ++ [event]) = (run trail).follow event := by
  simp [run]

/-- A packet is the last one of its own side. -/
theorem sentBy_append_self (direction : Direction) (trail : Trail) (segment : Segment) :
    sentBy direction (trail ++ [(direction, segment)]) = sentBy direction trail ++ [segment] := by
  simp [sentBy]

/-- A packet of the other side changes nothing. -/
theorem sentBy_append_of_ne {direction sender : Direction} (h : sender ≠ direction)
    (trail : Trail) (segment : Segment) :
    sentBy direction (trail ++ [(sender, segment)]) = sentBy direction trail := by
  simp [sentBy, h]

/-- A side that did not send a packet is the other side. -/
theorem eq_opposite_of_ne {direction sender : Direction} (h : sender ≠ direction) :
    sender = direction.opposite := by
  cases direction <;> cases sender <;> first | rfl | exact absurd rfl h

/-- No side is its own other side. -/
theorem opposite_ne (direction : Direction) : direction.opposite ≠ direction := by
  cases direction <;> decide

/-- Every packet is sent by one of the sides. -/
theorem length_sentBy_add (direction : Direction) (trail : Trail) :
    (sentBy direction trail).length + (sentBy direction.opposite trail).length =
      trail.length := by
  have hother : ∀ event : Direction × Segment,
      decide (event.1 = direction.opposite) = decide (¬decide (event.1 = direction) = true) := by
    intro event
    by_cases hsender : event.1 = direction
    · simp [hsender, (opposite_ne direction).symm]
    · simp [eq_opposite_of_ne hsender, opposite_ne]
  have hcount := List.length_eq_countP_add_countP (l := trail) fun event => event.1 = direction
  rw [sentBy, sentBy, List.length_map, List.length_map, hcount, List.countP_eq_length_filter,
    List.countP_eq_length_filter]
  simp only [hother]

/-! ## Counting along a trail -/

/-- How many elements stand in a relation to all that comes before them. -/
def countAfter {α : Type} (p : List α → α → Bool) : (before : List α) → List α → Nat
  | _, [] => 0
  | before, x :: rest => (if p before x then 1 else 0) + countAfter p (before ++ [x]) rest

section Counting

variable {α : Type} (p : List α → α → Bool)

/-- The last element is counted by what comes before it. -/
theorem countAfter_append_singleton (before xs : List α) (x : α) :
    countAfter p before (xs ++ [x]) =
      countAfter p before xs + if p (before ++ xs) x then 1 else 0 := by
  induction xs generalizing before with
  | nil => simp [countAfter]
  | cons y rest ih =>
    rw [List.cons_append, countAfter, countAfter, ih, List.append_assoc, List.singleton_append,
      Nat.add_assoc]

/-- No more elements are counted than there are. -/
theorem countAfter_le_length (before xs : List α) : countAfter p before xs ≤ xs.length := by
  induction xs generalizing before with
  | nil => exact Nat.le_refl 0
  | cons x rest ih =>
    have hrest := ih (before ++ [x])
    rw [countAfter, List.length_cons]
    split <;> omega

/-- A relation that holds less often counts fewer elements. -/
theorem countAfter_le_countAfter {q : List α → α → Bool}
    (h : ∀ before x, p before x = true → q before x = true) (before xs : List α) :
    countAfter p before xs ≤ countAfter q before xs := by
  induction xs generalizing before with
  | nil => exact Nat.le_refl 0
  | cons x rest ih =>
    have hrest := ih (before ++ [x])
    have hfirst := h before x
    rw [countAfter, countAfter]
    split
    · rename_i hp
      rw [if_pos (hfirst hp)]
      omega
    · omega

/-- Nothing is counted where no element stands in the relation to those before it. -/
theorem countAfter_eq_zero_iff (before xs : List α) :
    countAfter p before xs = 0 ↔
      ∀ front x rest, xs = front ++ x :: rest → p (before ++ front) x = false := by
  induction xs generalizing before with
  | nil => simp [countAfter]
  | cons y ys ih =>
    rw [countAfter, Nat.add_eq_zero_iff, ih]
    constructor
    · rintro ⟨hfirst, hothers⟩ front x rest heq
      cases front with
      | nil =>
        obtain ⟨rfl, -⟩ := List.cons.inj heq
        simpa using hfirst
      | cons z front =>
        obtain ⟨rfl, hrest⟩ := List.cons.inj heq
        have hother := hothers front x rest hrest
        rwa [List.append_assoc] at hother
    · intro hall
      refine ⟨by simpa using hall [] y ys rfl, fun front x rest heq => ?_⟩
      rw [List.append_assoc]
      exact hall (y :: front) x rest (by rw [heq, List.cons_append])

end Counting

/-! ## Analyses and their trails -/

/-- A packet with the headers of a segment has a payload length and a TCP header. -/
theorem exists_headersOf {packet : Packet} (hnetwork : packet.network?.isSome)
    (htcp : packet.tcp?.isSome) : ∃ tcp payload, headersOf packet = .ok (tcp, payload) := by
  obtain ⟨network, hnetwork⟩ := Option.isSome_iff_exists.mp hnetwork
  obtain ⟨tcp, htcp⟩ := Option.isSome_iff_exists.mp htcp
  have htransport : packet.header? .transport = some (.tcp tcp) := by
    unfold Packet.tcp? at htcp
    split at htcp
    · rename_i hheader
      rw [hheader, Option.some.inj htcp]
    · cases htcp
  have hpayload : packet.payloadLength? = some (tcp.payloadLength network.payloadLength) := by
    simp only [Packet.payloadLength?, Packet.ipPayloadLength?, hnetwork, htransport,
      Option.map_some, bind, Option.bind, Header.payloadLength?]
  refine ⟨tcp, tcp.payloadLength network.payloadLength, ?_⟩
  simp only [headersOf, hpayload, htcp]

/-- A packet whose headers the analysis finds is on the trail. -/
theorem event?_of_headersOf {pair : EndpointPair} {member : Member} {tcp : Tcp.Header}
    {payload : UInt16} (h : headersOf member.packet = .ok (tcp, payload)) :
    event? pair member = some (directionByPort pair tcp, ⟨tcp.seq, tcp.ack, payload⟩) := by
  unfold headersOf at h
  split at h
  · cases h
  · cases h
  · rename_i hpayload htcp
    cases h
    rw [event?, htcp, hpayload, Option.map_some, Option.getD_some]

/-- An analysis that succeeds ends in the state to which its trail leads. -/
theorem foldlM_eq_foldl_trail {pair : EndpointPair} {members : List Member} {state final : State}
    (h : members.foldlM (fun (state : State) member => do
      let (tcp, payload) ← headersOf member.packet
      Except.ok (state.stepPacket pair tcp payload)) state = .ok final) :
    final = (trail pair members).foldl State.follow state := by
  induction members generalizing state with
  | nil => exact (Except.ok.inj h).symm
  | cons member rest ih =>
    rw [List.foldlM_cons] at h
    cases hheaders : headersOf member.packet with
    | error reason =>
      rw [hheaders] at h
      cases h
    | ok headers =>
      obtain ⟨tcp, payload⟩ := headers
      rw [hheaders] at h
      rw [trail, List.filterMap_cons_some (event?_of_headersOf hheaders)]
      exact ih h

/-- The health of packets is that to which their trail leads. -/
theorem eq_of_ofMembers_eq_ok {pair : EndpointPair} {members : List Member} {health : Health}
    (h : ofMembers pair members = .ok health) : health = (run (trail pair members)).finish := by
  unfold ofMembers at h
  cases hfold : members.foldlM (fun (state : State) member => do
      let (tcp, payload) ← headersOf member.packet
      Except.ok (state.stepPacket pair tcp payload)) ({} : State) with
  | error reason =>
    rw [hfold] at h
    cases h
  | ok final =>
    rw [hfold] at h
    rw [run, ← foldlM_eq_foldl_trail hfold]
    exact (Except.ok.inj h).symm

/-- Packets that all have the headers of a segment have a health. -/
theorem ofMembers_eq_ok (pair : EndpointPair) {members : List Member}
    (h : ∀ member ∈ members, member.packet.network?.isSome ∧ member.packet.tcp?.isSome) :
    ofMembers pair members = .ok (run (trail pair members)).finish := by
  have hfold : ∀ state : State, ∃ final,
      members.foldlM (fun (state : State) member => do
        let (tcp, payload) ← headersOf member.packet
        Except.ok (state.stepPacket pair tcp payload)) state = .ok final := by
    induction members with
    | nil => exact fun state => ⟨state, rfl⟩
    | cons member rest ih =>
      intro state
      obtain ⟨hnetwork, htcp⟩ := h member List.mem_cons_self
      obtain ⟨tcp, payload, hheaders⟩ := exists_headersOf hnetwork htcp
      rw [List.foldlM_cons, hheaders]
      exact ih (fun other hother => h other (List.mem_cons_of_mem _ hother)) _
  obtain ⟨final, hfinal⟩ := hfold {}
  have hhealth : ofMembers pair members = .ok final.finish := by
    rw [ofMembers, hfinal]
    rfl
  rw [eq_of_ofMembers_eq_ok hhealth] at hhealth
  exact hhealth

/-- The health of a flow is that to which the trail of its packets leads. -/
theorem ofFlow_eq (flow : TcpFlow) :
    ofFlow flow = (run (trail flow.pair flow.members.toList)).finish := by
  rw [ofFlow, run, trail, List.foldl_filterMap, Array.foldl_toList]
  congr 2
  funext state member
  rw [event?]
  cases member.packet.tcp? with
  | none => rfl
  | some tcp => rfl

end CaptureFlow.Health
