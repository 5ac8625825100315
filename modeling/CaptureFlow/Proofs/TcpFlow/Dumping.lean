import CaptureFlow.Command.Reports
import CaptureFlow.Proofs.TcpFlow.Grouping
import CaptureFlow.Proofs.TcpFlow.Missing

/-!
# Analyses and dumps of flows

The analysis of a flow passes over packets without a TCP header and takes an unknown payload for
an empty one, where the analysis and the dump of its packets fail. A flow accepts a packet by its
pair of endpoints, though, so that it holds segments only: the two analyses agree, and every flow
that is found in a table can be dumped.
-/

namespace CaptureFlow

/-- A packet with a pair of endpoints is a segment. -/
theorem Packet.isSegment_of_ofPacket {packet : Packet} {pair : EndpointPair}
    (h : EndpointPair.ofPacket packet = .ok pair) : packet.IsSegment := by
  by_contra hnot
  rw [ofPacket_of_not_isSegment hnot] at h
  cases h

namespace TcpFlow

/-! ## Packets of a flow -/

/-- A flow accepts segments only. -/
theorem isSegment_of_accepts {flow : TcpFlow} {member : Member}
    (h : flow.accepts member = true) : member.packet.IsSegment := by
  obtain ⟨direction, hgoes⟩ := accepts_iff.mp h
  rcases exists_directionOf_iff.mp ⟨direction, goes_iff.mp hgoes⟩ with hpair | hpair
  · exact Packet.isSegment_of_ofPacket hpair
  · exact Packet.isSegment_of_ofPacket hpair

/-- The packets of a flow are segments. -/
theorem isSegment_of_mem (pair : EndpointPair) (members : List Member) :
    ∀ member ∈ (ofMembers pair members).members.toList, member.packet.IsSegment := by
  intro member hmember
  rw [toList_members_ofMembers] at hmember
  exact isSegment_of_accepts (List.mem_filter.mp hmember).2

/-! ## Two analyses and a dump -/

/-- The packets of a flow can be analysed and dumped without the flow. -/
structure StandsAlone (flow : TcpFlow) : Prop where
  /-- The analysis of the packets succeeds with the health of the flow. -/
  health_eq : Health.ofMembers flow.pair flow.members.toList = .ok (Health.ofFlow flow)
  /-- The dump has a line for each packet, and it is printed wherever the flow is found. -/
  dumped : ∃ texts, Dump.lines flow.members.toList = .ok texts ∧
    texts.length = flow.members.size ∧
    List.Forall₂ (fun member text => Dump.line member.packet = .ok text)
      flow.members.toList texts ∧
    ∀ (flows : Table String TcpFlow) (key : String), flows.find? key = some flow →
      Reports.dump flows key = .ok (Reports.block texts)

/-- A flow of segments stands alone. -/
theorem standsAlone_of_isSegment {flow : TcpFlow}
    (h : ∀ member ∈ flow.members.toList, member.packet.IsSegment) : StandsAlone flow where
  health_eq := by
    rw [Health.ofMembers_eq_ok flow.pair h, Health.ofFlow_eq]
  dumped := by
    obtain ⟨texts, htexts⟩ := Dump.exists_lines_iff.mpr h
    have hlines := Dump.lines_eq_ok_iff.mp htexts
    refine ⟨texts, htexts, ?_, hlines, fun flows key hfind => ?_⟩
    · rw [← hlines.length_eq, Array.length_toList]
    · simp only [Reports.dump, hfind, htexts]
      rfl

/-- The packets that any batch builds a flow of are analysed alone as they are in the flow, and
have a line each; so does every flow that is found in the table of the batch, which is dumped
without failing. -/
theorem ofMembers_standsAlone (pair : EndpointPair) (members : List Member) :
    (ofMembers pair members).pair = pair ∧ StandsAlone (ofMembers pair members) ∧
      ∀ (port : UInt16) (key : String) (flow : TcpFlow),
        (group port members).find? key = some flow →
          StandsAlone flow ∧ ∃ text, Reports.dump (group port members) key = .ok text := by
  have hbuilt : ∀ pair, StandsAlone (ofMembers pair members) :=
    fun pair => standsAlone_of_isSegment (isSegment_of_mem pair members)
  refine ⟨pair_ofMembers pair members, hbuilt pair, fun port key flow hfind => ?_⟩
  obtain ⟨pair', -, rfl, -⟩ := ((grouped_group port members).find?_iff key flow).mp hfind
  obtain ⟨texts, -, -, -, hdump⟩ := (hbuilt pair').dumped
  exact ⟨hbuilt pair', _, hdump _ key hfind⟩

end TcpFlow

end CaptureFlow
