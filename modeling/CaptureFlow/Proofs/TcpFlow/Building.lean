import CaptureFlow.Proofs.Flow.Pair
import CaptureFlow.TcpFlow

/-!
# Building a flow packet by packet

A flow takes the packets of its own connection and leaves every other packet out.
What it holds in the end, and in which direction, is therefore the batch filtered
by the direction of each packet, in the order of the batch.
-/

namespace CaptureFlow

/-- The pair of a packet tells that the packet has a TCP header. -/
theorem EndpointPair.exists_tcp_of_ofPacket {packet : Packet} {pair : EndpointPair}
    (h : EndpointPair.ofPacket packet = .ok pair) : ∃ tcp, packet.tcp? = some tcp := by
  unfold EndpointPair.ofPacket at h
  split at h
  · exact ⟨_, by assumption⟩
  · cases h
  · cases h

namespace TcpFlow

/-! ## The direction of a packet -/

/-- Whether a packet belongs to the connection of a flow. -/
def accepts (flow : TcpFlow) (member : Member) : Bool :=
  (flow.directionOf member.packet).isOk

/-- Whether a packet goes in a direction of a flow. -/
def goes (flow : TcpFlow) (direction : Direction) (member : Member) : Bool :=
  (flow.directionOf member.packet).toOption = some direction

/-- A packet goes in the direction that is told of it. -/
theorem goes_iff {flow : TcpFlow} {direction : Direction} {member : Member} :
    flow.goes direction member = true ↔ flow.directionOf member.packet = .ok direction := by
  unfold goes
  cases flow.directionOf member.packet <;> simp [Except.toOption]

/-- A packet belongs to a flow when it goes in one of its directions. -/
theorem accepts_iff {flow : TcpFlow} {member : Member} :
    flow.accepts member = true ↔ ∃ direction, flow.goes direction member = true := by
  simp only [goes_iff, accepts]
  cases flow.directionOf member.packet <;> simp [Except.isOk, Except.toBool]

/-- Flows of one pair agree on the direction of every packet. -/
theorem directionOf_congr {flow other : TcpFlow} (h : flow.pair = other.pair) :
    flow.directionOf = other.directionOf := by
  funext packet
  unfold directionOf
  rw [h]

/-- Flows of one pair agree on the packets of every direction. -/
theorem goes_congr {flow other : TcpFlow} (h : flow.pair = other.pair) :
    flow.goes = other.goes := by
  funext direction member
  rw [goes, goes, directionOf_congr h]

/-- Flows of one pair accept the same packets. -/
theorem accepts_congr {flow other : TcpFlow} (h : flow.pair = other.pair) :
    flow.accepts = other.accepts := by
  funext member
  rw [accepts, accepts, directionOf_congr h]

/-- A packet goes in a direction when its pair is the pair of the flow or its
reverse. -/
theorem exists_directionOf_iff {flow : TcpFlow} {packet : Packet} :
    (∃ direction, flow.directionOf packet = .ok direction) ↔
      EndpointPair.ofPacket packet = .ok flow.pair ∨
        EndpointPair.ofPacket packet = .ok flow.pair.reversed := by
  unfold directionOf
  cases hpair : EndpointPair.ofPacket packet with
  | error reason =>
    constructor
    · rintro ⟨_, h⟩
      cases h
    · rintro (h | h) <;> cases h
  | ok pair =>
    simp only [bind, Except.bind, Except.ok.injEq]
    constructor
    · rintro ⟨direction, h⟩
      split at h
      · exact .inl (by assumption)
      · split at h
        · rename_i hreverse
          rw [EndpointPair.isReverseOf_iff] at hreverse
          exact .inr (by rw [hreverse, EndpointPair.reversed_reversed])
        · cases h
    · rintro (h | h)
      · exact ⟨.forward, if_pos h⟩
      · by_cases hsame : pair = flow.pair
        · exact ⟨.forward, if_pos hsame⟩
        · have hreverse : pair.isReverseOf flow.pair = true := by
            rw [EndpointPair.isReverseOf_iff, h, EndpointPair.reversed_reversed]
          exact ⟨.reverse, by rw [if_neg hsame, if_pos hreverse]⟩

/-! ## One packet -/

/-- A packet of the connection is put into its direction. -/
theorem exists_addIfMember_eq_push {flow : TcpFlow} {member : Member} {direction : Direction}
    (h : flow.directionOf member.packet = .ok direction) :
    ∃ tcp, member.packet.tcp? = some tcp ∧
      flow.addIfMember member = flow.push direction member tcp := by
  have hpair : ∃ pair, EndpointPair.ofPacket member.packet = .ok pair := by
    rcases exists_directionOf_iff.mp ⟨direction, h⟩ with hpair | hpair
    · exact ⟨_, hpair⟩
    · exact ⟨_, hpair⟩
  obtain ⟨pair, hpair⟩ := hpair
  obtain ⟨tcp, htcp⟩ := EndpointPair.exists_tcp_of_ofPacket hpair
  refine ⟨tcp, htcp, ?_⟩
  simp only [addIfMember, add, h, htcp, bind, Except.bind]

/-- Any other packet leaves the flow as it was. -/
theorem addIfMember_of_error {flow : TcpFlow} {member : Member} {reason : FlowError}
    (h : flow.directionOf member.packet = .error reason) : flow.addIfMember member = flow := by
  simp only [addIfMember, add, h, bind, Except.bind]

/-- The pair of a flow never changes. -/
@[simp] theorem pair_addIfMember (flow : TcpFlow) (member : Member) :
    (flow.addIfMember member).pair = flow.pair := by
  cases h : flow.directionOf member.packet with
  | error reason => rw [addIfMember_of_error h]
  | ok direction =>
    obtain ⟨tcp, -, hpush⟩ := exists_addIfMember_eq_push h
    rw [hpush]
    rfl

/-- A packet of the connection is added at the end of all packets. -/
theorem toList_members_addIfMember (flow : TcpFlow) (member : Member) :
    (flow.addIfMember member).members.toList =
      flow.members.toList ++ [member].filter flow.accepts := by
  cases h : flow.directionOf member.packet with
  | error reason =>
    rw [addIfMember_of_error h]
    simp [accepts, h, Except.isOk, Except.toBool]
  | ok direction =>
    obtain ⟨tcp, -, hpush⟩ := exists_addIfMember_eq_push h
    rw [hpush]
    simp [accepts, h, push, Except.isOk, Except.toBool]

/-- A packet of the connection is added at the end of its own direction only. -/
theorem toList_side_addIfMember (flow : TcpFlow) (member : Member) (direction : Direction) :
    ((flow.addIfMember member).side direction).members.toList =
      (flow.side direction).members.toList ++ [member].filter (flow.goes direction) := by
  cases h : flow.directionOf member.packet with
  | error reason =>
    rw [addIfMember_of_error h]
    simp [goes, h, Except.toOption]
  | ok taken =>
    obtain ⟨tcp, -, hpush⟩ := exists_addIfMember_eq_push h
    rw [hpush]
    cases direction <;> cases taken <;>
      simp [goes, h, push, side, FlowSide.push, Except.toOption]

/-! ## All packets -/

/-- The pair of a flow is the same after any packets. -/
@[simp] theorem pair_foldl_addIfMember (members : List Member) (flow : TcpFlow) :
    (members.foldl addIfMember flow).pair = flow.pair := by
  induction members generalizing flow with
  | nil => rfl
  | cons member rest ih => rw [List.foldl_cons, ih, pair_addIfMember]

/-- A flow is built for the pair that it was asked for. -/
@[simp] theorem pair_ofMembers (pair : EndpointPair) (members : List Member) :
    (ofMembers pair members).pair = pair :=
  pair_foldl_addIfMember members (empty pair)

/-- Packets added to a flow follow those that it holds, filtered and in order. -/
theorem toList_members_foldl (members : List Member) (flow : TcpFlow) :
    (members.foldl addIfMember flow).members.toList =
      flow.members.toList ++ members.filter flow.accepts := by
  induction members generalizing flow with
  | nil => simp
  | cons member rest ih =>
    rw [List.foldl_cons, ih, toList_members_addIfMember, List.append_assoc,
      accepts_congr (pair_addIfMember flow member), ← List.filter_append,
      List.singleton_append]

/-- The same holds of each direction apart. -/
theorem toList_side_foldl (members : List Member) (flow : TcpFlow) (direction : Direction) :
    ((members.foldl addIfMember flow).side direction).members.toList =
      (flow.side direction).members.toList ++ members.filter (flow.goes direction) := by
  induction members generalizing flow with
  | nil => simp
  | cons member rest ih =>
    rw [List.foldl_cons, ih, toList_side_addIfMember, List.append_assoc,
      goes_congr (pair_addIfMember flow member), ← List.filter_append, List.singleton_append]

/-- A flow holds the packets of its connection in order of arrival. -/
theorem toList_members_ofMembers (pair : EndpointPair) (members : List Member) :
    (ofMembers pair members).members.toList =
      members.filter (ofMembers pair members).accepts := by
  have hpair : (ofMembers pair members).pair = (empty pair).pair := pair_ofMembers pair members
  rw [accepts_congr hpair]
  exact (toList_members_foldl members (empty pair)).trans (List.nil_append _)

/-- A direction holds the packets that go that way in order of arrival. -/
theorem toList_side_ofMembers (pair : EndpointPair) (members : List Member)
    (direction : Direction) :
    ((ofMembers pair members).side direction).members.toList =
      members.filter ((ofMembers pair members).goes direction) := by
  have hempty : ((empty pair).side direction).members.toList = [] := by
    cases direction <;> rfl
  have hpair : (ofMembers pair members).pair = (empty pair).pair := pair_ofMembers pair members
  rw [goes_congr hpair]
  refine (toList_side_foldl members (empty pair) direction).trans ?_
  rw [hempty, List.nil_append]

/-- One more packet is added to what the packets before it built. -/
theorem ofMembers_append_singleton (pair : EndpointPair) (members : List Member)
    (member : Member) :
    ofMembers pair (members ++ [member]) = (ofMembers pair members).addIfMember member := by
  simp [ofMembers]

/-- A packet that does not belong to a flow leaves it as it was. -/
theorem addIfMember_of_not_accepts {flow : TcpFlow} {member : Member}
    (h : flow.accepts member = false) : flow.addIfMember member = flow := by
  cases hdirection : flow.directionOf member.packet with
  | error reason => exact addIfMember_of_error hdirection
  | ok direction =>
    rw [accepts, hdirection] at h
    cases h

end TcpFlow

end CaptureFlow
