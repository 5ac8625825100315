import CaptureFlow.Proofs.TcpFlow.Accounting
import CaptureFlow.Proofs.TcpFlow.Calls

/-!
# Directions told by source ports

A flow tells the direction of a packet by both of its endpoints, the analysis of the flow by
the source port alone. The two agree on every packet that a flow holds as long as the ports
of its endpoints differ. Between equal ports the analysis takes all packets for those of the
first endpoint, and what the second one repeats is counted for the first.
-/

namespace CaptureFlow

/-- The ports of a packet's pair are those of its TCP header. -/
theorem EndpointPair.exists_ports_of_ofPacket {packet : Packet} {pair : EndpointPair}
    (h : EndpointPair.ofPacket packet = .ok pair) :
    ∃ tcp, packet.tcp? = some tcp ∧ tcp.sourcePort = pair.source.port ∧
      tcp.destinationPort = pair.destination.port := by
  unfold EndpointPair.ofPacket at h
  split at h
  · cases h
    exact ⟨_, by assumption, rfl, rfl⟩
  · cases h
  · cases h

namespace Health

/-- The segment of a packet, if it has a TCP header. -/
def segment? (member : Member) : Option Segment :=
  member.packet.tcp?.map fun tcp =>
    ⟨tcp.seq, tcp.ack, member.packet.payloadLength?.getD 0⟩

/-- The segments of some packets, in order. -/
def segments (members : List Member) : List Segment :=
  members.filterMap segment?

/-- Whether the source port of a packet tells that a side sent it. -/
def isSentBy (pair : EndpointPair) (direction : Direction) (member : Member) : Bool :=
  member.packet.tcp?.map (directionByPort pair) = some direction

/-- A side of a trail has the segments of the packets that its port sent. -/
theorem sentBy_trail (pair : EndpointPair) (direction : Direction) (members : List Member) :
    sentBy direction (trail pair members) =
      segments (members.filter (isSentBy pair direction)) := by
  induction members with
  | nil => rfl
  | cons member rest ih =>
    rw [sentBy, trail, segments] at ih
    rw [sentBy, trail, segments, List.filterMap_cons, List.filter_cons, event?, isSentBy]
    cases htcp : member.packet.tcp? with
    | none => simpa [htcp] using ih
    | some tcp =>
      by_cases hsender : directionByPort pair tcp = direction
      · simpa [hsender, segment?, htcp, segments] using ih
      · simpa [hsender] using ih

/-- Packets with TCP headers all have segments. -/
theorem segments_eq_nil_iff {members : List Member}
    (h : ∀ member ∈ members, member.packet.tcp?.isSome) :
    segments members = [] ↔ members = [] := by
  constructor
  · intro hnone
    rw [segments, List.filterMap_eq_nil_iff] at hnone
    apply List.eq_nil_iff_forall_not_mem.mpr
    intro member hmember
    obtain ⟨tcp, htcp⟩ := Option.isSome_iff_exists.mp (h member hmember)
    have hsegment := hnone member hmember
    rw [segment?, htcp] at hsegment
    cases hsegment
  · rintro rfl
    rfl

/-! ## Packets of a flow -/

section Flow

variable {flow : TcpFlow} {member : Member} {direction : Direction}

/-- The source port of a packet tells the direction that a flow puts it in, unless both
ports are the same. -/
theorem exists_directionByPort_of_goes (h : flow.goes direction member = true) :
    ∃ tcp, member.packet.tcp? = some tcp ∧ directionByPort flow.pair tcp =
      if flow.pair.source.port = flow.pair.destination.port then .forward else direction := by
  have hpair := TcpFlow.directionOf_eq_ok_iff.mp (TcpFlow.goes_iff.mp h)
  obtain ⟨hforward, rfl⟩ | ⟨hreverse, -, rfl⟩ := hpair
  · obtain ⟨tcp, htcp, hsource, -⟩ := EndpointPair.exists_ports_of_ofPacket hforward
    refine ⟨tcp, htcp, ?_⟩
    rw [directionByPort, if_pos hsource, ite_self]
  · obtain ⟨tcp, htcp, hsource, -⟩ := EndpointPair.exists_ports_of_ofPacket hreverse
    refine ⟨tcp, htcp, ?_⟩
    rw [directionByPort, hsource]
    exact if_congr eq_comm rfl rfl

/-- A packet of a flow is taken for one of the side that its source port tells. -/
theorem isSentBy_of_goes (h : flow.goes direction member = true) (way : Direction) :
    isSentBy flow.pair way member = true ↔
      way = if flow.pair.source.port = flow.pair.destination.port then .forward
        else direction := by
  obtain ⟨tcp, htcp, hway⟩ := exists_directionByPort_of_goes h
  rw [isSentBy, htcp, Option.map_some, hway, decide_eq_true_eq, Option.some.injEq, eq_comm]

end Flow

/-! ## The flow of a batch -/

section Batch

variable (pair : EndpointPair) (members : List Member)

/-- Of the packets that a flow holds, each side is told those that its port sent. -/
theorem sentBy_ofMembers (direction : Direction) :
    sentBy direction (trail pair (TcpFlow.ofMembers pair members).members.toList) =
      segments (members.filter fun member =>
        isSentBy pair direction member && (TcpFlow.ofMembers pair members).accepts member) := by
  rw [sentBy_trail, TcpFlow.toList_members_ofMembers, List.filter_filter]

/-- While the ports differ, a side is told the packets that the flow keeps for it. -/
theorem sentBy_of_port_ne (h : pair.source.port ≠ pair.destination.port)
    (direction : Direction) :
    sentBy direction (trail pair (TcpFlow.ofMembers pair members).members.toList) =
      segments ((TcpFlow.ofMembers pair members).side direction).members.toList := by
  rw [sentBy_ofMembers, TcpFlow.toList_side_ofMembers]
  congr 1
  apply List.filter_congr
  intro member _
  have hpair := TcpFlow.pair_ofMembers pair members
  generalize TcpFlow.ofMembers pair members = flow at hpair ⊢
  subst hpair
  rw [Bool.eq_iff_iff, Bool.and_eq_true, TcpFlow.accepts_iff]
  constructor
  · rintro ⟨hsent, way, hgoes⟩
    rw [isSentBy_of_goes hgoes, if_neg h] at hsent
    rwa [hsent]
  · intro hgoes
    refine ⟨?_, direction, hgoes⟩
    rw [isSentBy_of_goes hgoes, if_neg h]

/-- Between equal ports, the first side is told all packets. -/
theorem sentBy_of_port_eq (h : pair.source.port = pair.destination.port) :
    sentBy .forward (trail pair (TcpFlow.ofMembers pair members).members.toList) =
        segments (TcpFlow.ofMembers pair members).members.toList ∧
      sentBy .reverse (trail pair (TcpFlow.ofMembers pair members).members.toList) = [] := by
  rw [sentBy_ofMembers, sentBy_ofMembers, TcpFlow.toList_members_ofMembers]
  have hpair := TcpFlow.pair_ofMembers pair members
  generalize TcpFlow.ofMembers pair members = flow at hpair ⊢
  subst hpair
  have hsent : ∀ way member, (isSentBy flow.pair way member && flow.accepts member) = true ↔
      way = .forward ∧ flow.accepts member = true := by
    intro way member
    rw [Bool.and_eq_true]
    apply and_congr_left
    intro haccepts
    obtain ⟨direction, hgoes⟩ := TcpFlow.accepts_iff.mp haccepts
    rw [isSentBy_of_goes hgoes, if_pos h]
  constructor
  · congr 1
    apply List.filter_congr
    intro member _
    rw [Bool.eq_iff_iff, hsent]
    exact and_iff_right rfl
  · have hnone : (members.filter fun member =>
        isSentBy flow.pair .reverse member && flow.accepts member) = [] := by
      apply List.filter_eq_nil_iff.mpr
      intro member _ htold
      cases ((hsent .reverse member).mp htold).1
    rw [hnone]
    rfl

end Batch

/-- Which packets of a flow the repeated acknowledgements in its health are counted over. -/
structure AttributedByPort (flow : TcpFlow) : Prop where
  /-- While the ports differ, those that the flow keeps for the side. -/
  of_port_ne : flow.pair.source.port ≠ flow.pair.destination.port → ∀ direction,
    ((ofFlow flow).side direction).dupAck =
      repeatedAcks (segments (flow.side direction).members.toList)
  /-- Between equal ports, all of them for the first side and none for the second one. -/
  of_port_eq : flow.pair.source.port = flow.pair.destination.port →
    (ofFlow flow).forward.dupAck = repeatedAcks (segments flow.members.toList) ∧
      (ofFlow flow).reverse.dupAck = 0
  /-- Every packet is taken for one of the side that the flow keeps it for just if the ports
  differ or the second side has sent nothing. -/
  own_iff : (∀ direction, sentBy direction (trail flow.pair flow.members.toList) =
      segments (flow.side direction).members.toList) ↔
    flow.pair.source.port ≠ flow.pair.destination.port ∨ flow.reverse.members.toList = []

/-- The health of the flow of any batch is told by the source ports, which are as good as the
directions of the flow unless they are equal. -/
theorem ofMembers_attributed (pair : EndpointPair) (members : List Member) :
    AttributedByPort (TcpFlow.ofMembers pair members) := by
  have hpair := TcpFlow.pair_ofMembers pair members
  have hdupAck : ∀ direction,
      ((ofFlow (TcpFlow.ofMembers pair members)).side direction).dupAck = repeatedAcks
        (sentBy direction (trail pair (TcpFlow.ofMembers pair members).members.toList)) := by
    intro direction
    rw [ofFlow_eq, hpair]
    exact (accounted _).dupAck direction
  refine ⟨fun hne direction => ?_, fun heq => ?_, ?_⟩
  · rw [hpair] at hne
    rw [hdupAck, sentBy_of_port_ne pair members hne]
  · rw [hpair] at heq
    obtain ⟨hforward, hreverse⟩ := sentBy_of_port_eq pair members heq
    refine ⟨(hdupAck .forward).trans (by rw [hforward]), (hdupAck .reverse).trans ?_⟩
    rw [hreverse]
    rfl
  · rw [hpair]
    have hrecord := TcpFlow.isRecord_ofMembers pair members
    have htcp : ∀ member ∈ (TcpFlow.ofMembers pair members).reverse.members.toList,
        member.packet.tcp?.isSome := by
      have hreverse := hrecord.sides .reverse
      rw [← hreverse.members_eq] at hreverse
      exact hreverse.segments
    by_cases hport : pair.source.port = pair.destination.port
    · obtain ⟨hforward, hreverse⟩ := sentBy_of_port_eq pair members hport
      constructor
      · intro hown
        have hnone := hown .reverse
        rw [hreverse] at hnone
        exact .inr ((segments_eq_nil_iff htcp).mp hnone.symm)
      · intro hone direction
        have hnone := hone.resolve_left (fun hne => hne hport)
        have hall := hrecord.interleaves
        rw [hnone] at hall
        cases direction with
        | forward => rw [hforward, hall.eq_left, TcpFlow.side]
        | reverse => rw [hreverse, TcpFlow.side, hnone, segments, List.filterMap_nil]
    · exact ⟨fun _ => .inl hport, fun _ => sentBy_of_port_ne pair members hport⟩

/-- Two hosts that both use port 80. -/
def samePortPair : EndpointPair :=
  ⟨⟨.v4 ⟨10, 0, 0, 1⟩, 80⟩, ⟨.v4 ⟨10, 0, 0, 2⟩, 80⟩⟩

/-- The second host acknowledges the same number twice. -/
def samePortBatch : List Member :=
  let answer := retransmissionPacket ⟨10, 0, 0, 2⟩ ⟨10, 0, 0, 1⟩ 80 80 1 5 0
  Member.ofBatch [answer, answer]

/-- The acknowledgement that the second host repeats is counted for the first one, which has
sent nothing. -/
theorem samePortBatch_misattributed :
    ofFlow (TcpFlow.ofMembers samePortPair samePortBatch) = ⟨{ dupAck := 1 }, {}⟩ ∧
      ((TcpFlow.ofMembers samePortPair samePortBatch).side .forward).members.toList = [] ∧
      ¬∀ direction,
        ((ofFlow (TcpFlow.ofMembers samePortPair samePortBatch)).side direction).dupAck =
          repeatedAcks (segments ((TcpFlow.ofMembers samePortPair samePortBatch).side
            direction).members.toList) := by
  have hhealth : ofFlow (TcpFlow.ofMembers samePortPair samePortBatch) =
      ⟨{ dupAck := 1 }, {}⟩ := by
    decide
  have hreverse : repeatedAcks (segments
      ((TcpFlow.ofMembers samePortPair samePortBatch).side .reverse).members.toList) = 1 := by
    decide
  refine ⟨hhealth, by decide, fun hclaimed => ?_⟩
  have hclaim := hclaimed .reverse
  rw [hhealth, hreverse] at hclaim
  cases hclaim

end Health

end CaptureFlow
