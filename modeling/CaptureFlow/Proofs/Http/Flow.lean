import CaptureFlow.Proofs.Http.Exchange
import CaptureFlow.Proofs.TcpFlow.Mirror

/-!
# Flows of exchanges

An exchange that is cut from a flow makes a flow of its own from the endpoints of its request,
which may be those of the larger flow or the same ones the other way round. Either way it keeps
every packet of the exchange, and keeps two packets on one side if the larger flow does. The
side of the request is its first one.
-/

namespace CaptureFlow

/-- The direction of a packet by the side that sent it, where the first endpoint is taken to be
on a side. -/
def Direction.seenFrom (way : Direction) : Direction → Direction
  | .forward => way
  | .reverse => way.opposite

namespace TcpFlow

/-- A flow keeps two packets on the same side. -/
def KeepsTogether (flow : TcpFlow) (first second : Member) : Prop :=
  ∃ direction, first ∈ (flow.side direction).members ∧ second ∈ (flow.side direction).members

variable {flow other : TcpFlow} {first second member : Member} {way direction : Direction}

/-- A packet goes one way only. -/
theorem goes_unique (h : flow.goes way member = true) (hother : flow.goes direction member = true) :
    way = direction :=
  Except.ok.inj ((goes_iff.mp h).symm.trans (goes_iff.mp hother))

/-- A packet of the connection goes the other way if it does not go one way. -/
theorem goes_opposite_iff (haccepts : flow.accepts member = true) :
    flow.goes way.opposite member = true ↔ ¬flow.goes way member = true := by
  obtain ⟨direction, hgoes⟩ := accepts_iff.mp haccepts
  have hiff : ∀ way, flow.goes way member = true ↔ way = direction := fun way =>
    ⟨fun h => goes_unique h hgoes, fun h => h ▸ hgoes⟩
  rw [hiff, hiff]
  cases way <;> cases direction <;> decide

/-- A flow whose pair is that of a packet is the flow that the packet goes in, seen from the
side of the packet. -/
theorem goes_seenFrom (h : flow.goes way first = true)
    (hpair : EndpointPair.ofPacket first.packet = .ok other.pair) (direction : Direction)
    (member : Member) :
    other.goes direction member = flow.goes (way.seenFrom direction) member := by
  rcases directionOf_eq_ok_iff.mp (goes_iff.mp h) with ⟨hforward, rfl⟩ | ⟨hreverse, hne, rfl⟩
  · have hsame : other.pair = flow.pair := Except.ok.inj (hpair.symm.trans hforward)
    rw [goes_congr hsame]
    cases direction <;> rfl
  · have hsame : other.pair = flow.mirrored.pair := Except.ok.inj (hpair.symm.trans hreverse)
    have hside : Direction.reverse.seenFrom direction = direction.opposite := by
      cases direction <;> rfl
    rw [goes_congr hsame, Bool.eq_iff_iff, hside, goes_iff, goes_iff,
      ← directionOf_mirrored hne, Direction.opposite_opposite]

/-- A flow whose pair is that of a packet accepts what the flow does that the packet goes in. -/
theorem accepts_of_goes (h : flow.goes way first = true)
    (hpair : EndpointPair.ofPacket first.packet = .ok other.pair)
    (haccepts : flow.accepts member = true) : other.accepts member = true := by
  obtain ⟨direction, hgoes⟩ := accepts_iff.mp haccepts
  have hback : way.seenFrom (way.seenFrom direction) = direction := by
    cases way <;> cases direction <;> rfl
  exact accepts_iff.mpr ⟨way.seenFrom direction, by rwa [goes_seenFrom h hpair, hback]⟩

section Batch

variable {pair : EndpointPair} {batch : List Member}

/-- A packet is in a direction of a flow if it is in the flow and goes that way. -/
theorem mem_side_ofMembers : member ∈ ((ofMembers pair batch).side direction).members ↔
    member ∈ batch ∧ (ofMembers pair batch).goes direction member = true := by
  rw [← Array.mem_toList_iff, toList_side_ofMembers, List.mem_filter]

/-- Packets of a flow are kept together if they go the same way. -/
theorem keepsTogether_ofMembers (hfirst : first ∈ batch) (hsecond : second ∈ batch)
    (h : (ofMembers pair batch).goes way first = true) :
    (ofMembers pair batch).KeepsTogether first second ↔
      (ofMembers pair batch).goes way second = true := by
  constructor
  · rintro ⟨direction, hone, hother⟩
    rw [goes_unique h (mem_side_ofMembers.mp hone).2]
    exact (mem_side_ofMembers.mp hother).2
  · intro hgoes
    exact ⟨way, mem_side_ofMembers.mpr ⟨hfirst, h⟩, mem_side_ofMembers.mpr ⟨hsecond, hgoes⟩⟩

end Batch

end TcpFlow

namespace Http

/-! ## Exchanges of a flow -/

/-- What the exchanges of a sequence hold is opened at their starts. -/
theorem isOpenedAt_of_find? {members : List Member} {uri : String} {exchange : Exchange}
    (h : (exchanges members).find? uri = some exchange) :
    exchange.IsOpenedAt members exchange.start := by
  have hholds := holdsLast_foldl (pairwise_spans 0 members)
  rw [exchanges_eq_foldl] at h
  obtain ⟨entry, hentry, hmade, -⟩ := (hholds.find?_iff uri exchange).mp h
  have hopened := isOpenedAt_of_made hentry hmade
  rwa [hopened.start_eq]

namespace Exchange

/-- An exchange is a part of a flow, and its own flow is that part seen from the side of the
request. -/
structure IsPartOf (exchange : Exchange) (flow : TcpFlow) : Prop where
  /-- The packets of the exchange stand in the flow, one behind the other. -/
  isInfix : exchange.members <:+: flow.members.toList
  /-- The flow of the exchange holds all of them, in order. -/
  members_eq : exchange.flow.members.toList = exchange.members
  /-- The first one carries the request and is the first one that goes forward. A packet goes
  forward if the larger flow keeps it on the side of the request, and back if it does not. -/
  exists_first : ∃ first, exchange.members.head? = some first ∧
    first.packet.http? = some exchange.request ∧
    exchange.flow.forward.members.toList.head? = some first ∧
    ∀ member ∈ exchange.members,
      (member ∈ exchange.flow.forward.members ↔ flow.KeepsTogether first member) ∧
        (member ∈ exchange.flow.reverse.members ↔ ¬flow.KeepsTogether first member)

section

variable {pair : EndpointPair} {batch : List Member} {exchange : Exchange} {first : Member}
  {way : Direction}

/-- An exchange of packets of a flow, the first of which goes some way in it, is a part of it. -/
theorem isPartOf_of_goes
    (hpart : exchange.members <:+: (TcpFlow.ofMembers pair batch).members.toList)
    (hfirst : exchange.members.head? = some first)
    (hrequest : first.packet.http? = some exchange.request)
    (hpair : EndpointPair.ofPacket first.packet = .ok exchange.pair)
    (hgoes : (TcpFlow.ofMembers pair batch).goes way first = true) :
    exchange.IsPartOf (TcpFlow.ofMembers pair batch) := by
  have hkept : ∀ member ∈ exchange.members, member ∈ batch ∧
      (TcpFlow.ofMembers pair batch).accepts member = true := by
    intro member hmember
    have hin := hpart.subset hmember
    rwa [TcpFlow.toList_members_ofMembers, List.mem_filter] at hin
  have hown : EndpointPair.ofPacket first.packet =
      .ok (TcpFlow.ofMembers exchange.pair exchange.members).pair := by
    rw [hpair, TcpFlow.pair_ofMembers]
  have hside : ∀ direction member, exchange.flow.goes direction member =
      (TcpFlow.ofMembers pair batch).goes (way.seenFrom direction) member :=
    TcpFlow.goes_seenFrom hgoes hown
  have hmem : first ∈ exchange.members := List.mem_of_head? hfirst
  refine ⟨hpart, ?_, first, hfirst, hrequest, ?_, fun member hmember => ?_⟩
  · rw [flow, TcpFlow.toList_members_ofMembers, List.filter_eq_self]
    intro member hmember
    exact TcpFlow.accepts_of_goes hgoes hown (hkept member hmember).2
  · have hforward : exchange.flow.forward.members.toList =
        exchange.members.filter (exchange.flow.goes .forward) :=
      TcpFlow.toList_side_ofMembers exchange.pair exchange.members .forward
    obtain ⟨rest, hrest⟩ := List.head?_eq_some_iff.mp hfirst
    have hpasses : exchange.flow.goes .forward first = true := (hside .forward first).trans hgoes
    rw [hforward, hrest, List.filter_cons_of_pos hpasses, List.head?_cons]
  · obtain ⟨hbatch, haccepts⟩ := hkept member hmember
    have hin : ∀ direction, member ∈ (exchange.flow.side direction).members ↔
        (TcpFlow.ofMembers pair batch).goes (way.seenFrom direction) member = true := by
      intro direction
      rw [← hside, flow, TcpFlow.mem_side_ofMembers]
      exact and_iff_right hmember
    rw [TcpFlow.keepsTogether_ofMembers (hkept first hmem).1 hbatch hgoes,
      ← TcpFlow.goes_opposite_iff haccepts]
    exact ⟨hin .forward, hin .reverse⟩

end

/-- Every exchange of a flow is a part of it. -/
theorem isPartOf_ofMembers {pair : EndpointPair} {batch : List Member} {uri : String}
    {exchange : Exchange}
    (h : (exchanges (TcpFlow.ofMembers pair batch).members.toList).find? uri = some exchange) :
    exchange.IsPartOf (TcpFlow.ofMembers pair batch) := by
  have hopened := isOpenedAt_of_find? h
  obtain ⟨first, hat, hrequest, hpair⟩ := hopened.exists_first
  obtain ⟨stop, hspan, hmembers, -⟩ := hopened.exists_stop
  have hfirst : exchange.members.head? = some first := by
    have hlt := hspan.start_lt
    rw [hmembers, List.head?_eq_getElem?, getElem?_spanOf (by omega), Nat.add_zero, hat]
  have hpart : exchange.members <:+: (TcpFlow.ofMembers pair batch).members.toList := by
    rw [hmembers, spanOf]
    exact (List.take_prefix _ _).isInfix.trans (List.drop_suffix _ _).isInfix
  have hkept := List.mem_of_getElem? hat
  rw [TcpFlow.toList_members_ofMembers, List.mem_filter] at hkept
  obtain ⟨way, hgoes⟩ := TcpFlow.accepts_iff.mp hkept.2
  exact isPartOf_of_goes hpart hfirst hrequest hpair hgoes

/-- A server and its client. -/
def servedPair : EndpointPair :=
  ⟨⟨.v4 ⟨10, 0, 0, 1⟩, 80⟩, ⟨.v4 ⟨10, 0, 0, 2⟩, 51000⟩⟩

/-- The client asks for a page, a packet of another connection comes in between, the server
sends the page, and the client acknowledges it. -/
def servedBatch : List Member :=
  let client := Health.retransmissionPacket ⟨10, 0, 0, 2⟩ ⟨10, 0, 0, 1⟩ 51000 80
  let server := Health.retransmissionPacket ⟨10, 0, 0, 1⟩ ⟨10, 0, 0, 2⟩ 80 51000
  let carrying (packet : Packet) (header : Http.Header) : Packet :=
    { packet with headers := packet.headers ++ [.http header] }
  Member.ofBatch [carrying (client 1 1 20) (.request "GET" "/" 1),
    Health.retransmissionPacket ⟨10, 0, 0, 3⟩ ⟨10, 0, 0, 1⟩ 51000 80 1 1 20,
    carrying (server 1 21 20) (.response 200 none 1), client 21 21 0]

/-- In the flow of the server the client sends back, and in the flow of its exchange forward. -/
theorem isPartOf_servedBatch :
    let whole := TcpFlow.ofMembers servedPair servedBatch
    let positions (members : Array Member) := members.toList.map Member.index
    ∃ exchange, (exchanges whole.members.toList).find? "/" = some exchange ∧
      exchange.IsPartOf whole ∧
      positions whole.forward.members = [2] ∧ positions whole.reverse.members = [0, 3] ∧
      positions exchange.flow.forward.members = [0, 3] ∧
      positions exchange.flow.reverse.members = [2] := by
  intro whole positions
  have hsides : ((exchanges whole.members.toList).find? "/").map (fun exchange =>
      (positions exchange.flow.forward.members, positions exchange.flow.reverse.members)) =
      some ([0, 3], [2]) := by
    decide +kernel
  obtain ⟨exchange, hfound, hpositions⟩ := Option.map_eq_some_iff.mp hsides
  obtain ⟨hforward, hreverse⟩ := Prod.mk.inj hpositions
  exact ⟨exchange, hfound, isPartOf_ofMembers hfound, by decide, by decide, hforward, hreverse⟩

end Exchange

end Http

end CaptureFlow
