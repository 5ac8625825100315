import CaptureFlow.Proofs.TcpFlow.Attribution

/-!
# Flows seen from the other side

The flow of the reversed pair is the flow of the pair with its sides exchanged. As long as
the ports differ, the same holds of the health: each packet is taken for one of the opposite
side, and a step of the analysis treats both sides alike.
-/

namespace CaptureFlow

/-- A pair of distinct ports is not its own reverse. -/
theorem EndpointPair.reversed_ne {pair : EndpointPair}
    (hport : pair.source.port ≠ pair.destination.port) : pair.reversed ≠ pair := by
  intro hsame
  exact hport (congrArg (fun pair => pair.destination.port) hsame)

/-- The flow seen from the other side. -/
def TcpFlow.mirrored (flow : TcpFlow) : TcpFlow :=
  { flow with
    pair := flow.pair.reversed
    forward := flow.reverse
    reverse := flow.forward }

/-- The health seen from the other side. -/
def Health.mirrored (health : Health) : Health :=
  ⟨health.reverse, health.forward⟩

namespace TcpFlow

/-! ## Flows -/

section Flow

variable {flow : TcpFlow}

/-- Seen from the other side, every packet goes the other way. -/
theorem directionOf_mirrored (h : flow.pair.reversed ≠ flow.pair) {packet : Packet}
    {direction : Direction} : flow.mirrored.directionOf packet = .ok direction.opposite ↔
      flow.directionOf packet = .ok direction := by
  have hpair : flow.mirrored.pair = flow.pair.reversed := rfl
  rw [directionOf_eq_ok_iff, directionOf_eq_ok_iff, hpair, EndpointPair.reversed_reversed]
  cases direction with
  | forward => simp [Direction.opposite, h.symm]
  | reverse => simp [Direction.opposite, h]

/-- A packet is added to the other side of the mirrored flow. -/
theorem mirrored_addIfMember (h : flow.pair.reversed ≠ flow.pair) (member : Member) :
    flow.mirrored.addIfMember member = (flow.addIfMember member).mirrored := by
  cases hdirection : flow.directionOf member.packet with
  | ok direction =>
    obtain ⟨tcp, htcp, hpush⟩ := exists_addIfMember_eq_push hdirection
    obtain ⟨tcp', htcp', hmirrored⟩ :=
      exists_addIfMember_eq_push ((directionOf_mirrored h).mpr hdirection)
    rw [htcp] at htcp'
    cases htcp'
    rw [hpush, hmirrored]
    cases direction <;> rfl
  | error reason =>
    rw [addIfMember_of_error hdirection]
    cases hmirrored : flow.mirrored.directionOf member.packet with
    | error other => exact addIfMember_of_error hmirrored
    | ok way =>
      rw [← way.opposite_opposite, directionOf_mirrored h, hdirection] at hmirrored
      cases hmirrored

/-- Packets are added one after the other to the other side of the mirrored flow. -/
theorem mirrored_foldl (flow : TcpFlow) (members : List Member)
    (h : flow.pair.reversed ≠ flow.pair) :
    members.foldl addIfMember flow.mirrored = (members.foldl addIfMember flow).mirrored := by
  induction members generalizing flow with
  | nil => rfl
  | cons member rest ih =>
    rw [List.foldl_cons, List.foldl_cons, mirrored_addIfMember h]
    exact ih (flow.addIfMember member) (by rwa [pair_addIfMember])

/-- The flow of the reversed pair is the flow of the pair seen from the other side. -/
theorem ofMembers_mirrored {pair : EndpointPair} (h : pair.reversed ≠ pair)
    (members : List Member) : ofMembers pair.reversed members = (ofMembers pair members).mirrored :=
  mirrored_foldl (empty pair) members h

end Flow

end TcpFlow

namespace Health

/-! ## Analyses -/

/-- The state of an analysis seen from the other side. -/
def State.mirrored (state : State) : State :=
  ⟨state.reverse, state.forward⟩

/-- What the analysis looks at, seen from the other side. -/
def Trail.mirrored (trail : Trail) : Trail :=
  trail.map (Prod.map Direction.opposite id)

/-- A packet does to one side what it does to the other one when seen from there. -/
theorem follow_mirrored (state : State) (event : Direction × Segment) :
    state.mirrored.follow (event.1.opposite, event.2) = (state.follow event).mirrored := by
  obtain ⟨direction, segment⟩ := event
  cases direction <;> rfl

/-- The mirrored trail leads to the mirrored state. -/
theorem run_mirrored (trail : Trail) : run trail.mirrored = (run trail).mirrored := by
  induction trail using List.reverseRecOn with
  | nil => rfl
  | append_singleton trail event ih =>
    rw [run_append_singleton, ← follow_mirrored, ← ih, ← run_append_singleton, Trail.mirrored,
      List.map_append]
    rfl

/-- The port of a packet of a flow tells the other side when seen from there. -/
theorem event?_reversed {flow : TcpFlow} {member : Member} {direction : Direction}
    (hport : flow.pair.source.port ≠ flow.pair.destination.port)
    (h : flow.goes direction member = true) : event? flow.pair.reversed member =
      (event? flow.pair member).map (Prod.map Direction.opposite id) := by
  have hpair := EndpointPair.reversed_ne hport
  have hmirrored : flow.mirrored.goes direction.opposite member = true :=
    TcpFlow.goes_iff.mpr ((TcpFlow.directionOf_mirrored hpair).mpr (TcpFlow.goes_iff.mp h))
  obtain ⟨tcp, htcp, hown⟩ := exists_directionByPort_of_goes h
  obtain ⟨tcp', htcp', hother⟩ := exists_directionByPort_of_goes hmirrored
  rw [htcp] at htcp'
  cases htcp'
  have hreversed : directionByPort flow.pair.reversed tcp =
      if flow.pair.destination.port = flow.pair.source.port then Direction.forward
      else direction.opposite := hother
  rw [if_neg hport] at hown
  rw [if_neg hport.symm] at hreversed
  rw [event?, event?, htcp, Option.map_some, Option.map_some, Option.map_some, hown, hreversed]
  rfl

/-- The trail of a flow is mirrored when the pair is reversed. -/
theorem trail_reversed {pair : EndpointPair} (members : List Member)
    (hport : pair.source.port ≠ pair.destination.port) :
    trail pair.reversed (TcpFlow.ofMembers pair members).members.toList =
      (trail pair (TcpFlow.ofMembers pair members).members.toList).mirrored := by
  rw [trail, trail, Trail.mirrored, List.map_filterMap]
  apply List.filterMap_congr
  intro member hmember
  rw [TcpFlow.toList_members_ofMembers] at hmember
  obtain ⟨direction, hgoes⟩ := TcpFlow.accepts_iff.mp (List.mem_filter.mp hmember).2
  have hpair := TcpFlow.pair_ofMembers pair members
  generalize TcpFlow.ofMembers pair members = flow at hpair hgoes
  subst hpair
  exact event?_reversed hport hgoes

/-- As long as the ports differ, the flow of the reversed pair is the flow of the pair seen
from the other side, with all packets and the same span, and so is its health. -/
theorem mirrored_of_reversed (pair : EndpointPair) (members : List Member)
    (hport : pair.source.port ≠ pair.destination.port) :
    TcpFlow.ofMembers pair.reversed members = (TcpFlow.ofMembers pair members).mirrored ∧
      ofFlow (TcpFlow.ofMembers pair.reversed members) =
        (ofFlow (TcpFlow.ofMembers pair members)).mirrored := by
  have hflow := TcpFlow.ofMembers_mirrored (EndpointPair.reversed_ne hport) members
  refine ⟨hflow, ?_⟩
  calc ofFlow (TcpFlow.ofMembers pair.reversed members)
    _ = ofFlow (TcpFlow.ofMembers pair members).mirrored := by rw [hflow]
    _ = (run (trail pair.reversed
          (TcpFlow.ofMembers pair members).members.toList)).finish := by
        rw [ofFlow_eq, TcpFlow.mirrored, TcpFlow.pair_ofMembers]
    _ = (run (trail pair
          (TcpFlow.ofMembers pair members).members.toList)).mirrored.finish := by
        rw [trail_reversed members hport, run_mirrored]
    _ = (ofFlow (TcpFlow.ofMembers pair members)).mirrored := by
        rw [ofFlow_eq, TcpFlow.pair_ofMembers]
        rfl

/-- Seen from the client, the loss of the server stands on the reverse side. -/
theorem retransmission_mirrored :
    retransmissionPair.source.port ≠ retransmissionPair.destination.port ∧
      TcpFlow.ofMembers retransmissionPair.reversed retransmission =
        (TcpFlow.ofMembers retransmissionPair retransmission).mirrored ∧
      ofFlow (TcpFlow.ofMembers retransmissionPair.reversed retransmission) =
        ⟨⟨3, 0, 0, 0, 0⟩, ⟨2, 1, 100, 0, 0⟩⟩ := by
  obtain ⟨hflow, hhealth⟩ :=
    mirrored_of_reversed retransmissionPair retransmission (by decide)
  refine ⟨by decide, hflow, ?_⟩
  rw [hhealth]
  decide

end Health

end CaptureFlow
