import CaptureFlow.Proofs.IpFlow
import CaptureFlow.Proofs.TcpFlow.Calls
import CaptureFlow.Proofs.TcpFlow.Grouping
import Mathlib.Data.List.Forall2

/-!
# The order of a batch

Flows are formed by whichever of their packets comes first, and their totals are gathered
packet by packet. Still neither the keys of the flows nor their totals depend on the order
of the batch: the packets of a flow are those of its pair, and a total is the same for the
same packets. Of several earliest packets in a direction the first one is kept, so the first
segment does not depend on the order where there is only one.
-/

namespace CaptureFlow

/-! ## Tables that agree -/

/-- Two tables have the same keys, and under each key values that stand in a relation. -/
def Table.Agree {κ β : Type} (related : β → β → Prop) (table other : Table κ β) : Prop :=
  List.Forall₂ (fun entry entry' => entry'.1 = entry.1 ∧ related entry.2 entry'.2) table other

namespace Table

variable {κ β : Type} [Ord κ] [Std.TransOrd κ] [Std.LawfulEqOrd κ]

omit [Std.TransOrd κ] [Std.LawfulEqOrd κ] in
/-- The keys behind the first one are greater. -/
theorem Increasing.lt_of_mem {head : κ × β} {rest : Table κ β} (h : Increasing (head :: rest))
    {entry : κ × β} (hentry : entry ∈ rest) : compare head.1 entry.1 = .lt :=
  (List.pairwise_cons.mp h).1 entry hentry

/-- Two tables with the same keys have the same first key. -/
theorem Increasing.head_eq {head head' : κ × β} {rest rest' : Table κ β}
    (h : Increasing (head :: rest)) (h' : Increasing (head' :: rest'))
    (hto : ∃ entry ∈ head' :: rest', entry.1 = head.1)
    (hfrom : ∃ entry ∈ head :: rest, entry.1 = head'.1) : head'.1 = head.1 := by
  obtain ⟨entry, hentry, hkey⟩ := hto
  rcases List.mem_cons.mp hentry with rfl | hentry
  · exact hkey
  obtain ⟨entry', hentry', hkey'⟩ := hfrom
  rcases List.mem_cons.mp hentry' with rfl | hentry'
  · exact hkey'.symm
  have hbelow := h'.lt_of_mem hentry
  have habove := h.lt_of_mem hentry'
  rw [hkey] at hbelow
  rw [hkey'] at habove
  exact absurd (Std.TransCmp.lt_trans hbelow habove) (compare_self_ne_lt _)

/-- Tables agree when each has for every entry of the other one with the same key, and the
values of such entries are related. -/
theorem Increasing.agree {related : β → β → Prop} {table other : Table κ β}
    (h : Increasing table) (hother : Increasing other)
    (hto : ∀ entry ∈ table, ∃ entry' ∈ other, entry'.1 = entry.1 ∧ related entry.2 entry'.2)
    (hfrom : ∀ entry' ∈ other, ∃ entry ∈ table, entry.1 = entry'.1) :
    Agree related table other := by
  induction table generalizing other with
  | nil =>
    cases other with
    | nil => exact .nil
    | cons head' rest' =>
      obtain ⟨entry, hentry, -⟩ := hfrom head' List.mem_cons_self
      cases hentry
  | cons head rest ih =>
    obtain ⟨partner, hpartner, hkey, hrelated⟩ := hto head List.mem_cons_self
    cases other with
    | nil => cases hpartner
    | cons head' rest' =>
      have hhead := h.head_eq hother ⟨partner, hpartner, hkey⟩
        (hfrom head' List.mem_cons_self)
      have hsame : partner = head' := by
        rcases List.mem_cons.mp hpartner with heq | hin
        · exact heq
        · have hlt := hother.lt_of_mem hin
          rw [hhead, hkey] at hlt
          exact absurd hlt (compare_self_ne_lt _)
      subst hsame
      refine .cons ⟨hkey, hrelated⟩ (ih (List.pairwise_cons.mp h).2
        (List.pairwise_cons.mp hother).2 ?_ ?_)
      · intro entry hentry
        obtain ⟨entry', hentry', hkey', hrelated'⟩ := hto entry (List.mem_cons_of_mem _ hentry)
        rcases List.mem_cons.mp hentry' with rfl | hin
        · have hlt := h.lt_of_mem hentry
          rw [← hkey', hkey] at hlt
          exact absurd hlt (compare_self_ne_lt _)
        · exact ⟨entry', hin, hkey', hrelated'⟩
      · intro entry' hentry'
        obtain ⟨entry, hentry, hkey'⟩ := hfrom entry' (List.mem_cons_of_mem _ hentry')
        rcases List.mem_cons.mp hentry with rfl | hin
        · have hlt := hother.lt_of_mem hentry'
          rw [← hkey', hkey] at hlt
          exact absurd hlt (compare_self_ne_lt _)
        · exact ⟨entry, hin, hkey'⟩

omit [Ord κ] [Std.TransOrd κ] [Std.LawfulEqOrd κ] in
/-- Tables that agree have the same keys. -/
theorem Agree.keys_eq {related : β → β → Prop} {table other : Table κ β}
    (h : Agree related table other) : other.map Prod.fst = table.map Prod.fst := by
  induction h with
  | nil => rfl
  | cons hentry _ ih => rw [List.map_cons, List.map_cons, hentry.1, ih]

end Table

/-! ## Batches with the same packets -/

section Batches

variable {members others : List Member}

/-- What is told of some packet of a batch is told of any batch with the same packets. -/
theorem exists_mem_of_perm (hperm : (members.map Member.packet).Perm (others.map Member.packet))
    {p : Packet → Prop} (h : ∃ member ∈ members, p member.packet) :
    ∃ member ∈ others, p member.packet := by
  obtain ⟨member, hmember, hp⟩ := h
  have hpacket := hperm.mem_iff.mp (List.mem_map_of_mem hmember)
  obtain ⟨other, hother, heq⟩ := List.mem_map.mp hpacket
  exact ⟨other, hother, by rwa [heq]⟩

/-- The packets that are chosen from a batch by what they are do not depend on its order. -/
theorem perm_filter_packet (p : Packet → Bool)
    (hperm : (members.map Member.packet).Perm (others.map Member.packet)) :
    ((members.filter fun member => p member.packet).map Member.packet).Perm
      ((others.filter fun member => p member.packet).map Member.packet) := by
  have hfilter := hperm.filter p
  rw [List.filter_map, List.filter_map] at hfilter
  exact hfilter

/-- Packets of which only one is the earliest have the same first segment in any order. -/
theorem Packet.minOn?_perm {packets others : List Packet} (hperm : packets.Perm others)
    {earliest : Timestamp} (hleast : ∀ packet ∈ packets, earliest ≤ packet.timestamp)
    (hone : packets.countP (fun packet => packet.timestamp = earliest) = 1) :
    others.minOn? Packet.timestamp = packets.minOn? Packet.timestamp := by
  rw [List.countP_eq_length_filter, List.length_eq_one_iff] at hone
  obtain ⟨first, hfirst⟩ := hone
  have hmem : ∀ packet, packet ∈ packets ∧ packet.timestamp = earliest ↔ packet = first := by
    intro packet
    have hfilter : packet ∈ [first] ↔ _ := hfirst ▸ List.mem_filter
    rw [List.mem_singleton, decide_eq_true_eq] at hfilter
    exact hfilter.symm
  have hchosen : ∀ list : List Packet, list.Perm packets →
      list.minOn? Packet.timestamp = some first := by
    intro list hlist
    have hin := hlist.mem_iff.mpr ((hmem first).mpr rfl).1
    obtain ⟨chosen, hchosen⟩ : ∃ chosen, list.minOn? Packet.timestamp = some chosen :=
      Option.isSome_iff_exists.mp (List.isSome_minOn?_of_mem hin)
    have hle := List.apply_minOn_le_of_mem (f := Packet.timestamp) hin
    rw [List.minOn_eq_of_minOn?_eq_some hchosen, ((hmem first).mpr rfl).2] at hle
    have hfound := hlist.mem_iff.mp (List.minOn?_mem hchosen)
    rw [hchosen, (hmem chosen).mp ⟨hfound, Int64.le_antisymm hle (hleast chosen hfound)⟩]
  rw [hchosen others hperm.symm, hchosen packets (.refl _)]

/-- Batches with the same packets are gathered in tables that agree where the values of each
key in the batch do. -/
theorem Gathering.run_agree {π β κ : Type} [DecidableEq π] [DecidableEq κ] [Ord κ]
    [Std.TransOrd κ] [Std.LawfulEqOrd κ] {gathering : Gathering Member π κ β}
    {related : β → β → Prop} (hname : Function.Injective gathering.name)
    (key? : Packet → Option π) (hkey : ∀ member, gathering.key? member = key? member.packet)
    (hvalue : ∀ key, (∃ member ∈ members, key? member.packet = some key) →
      related (gathering.value key members) (gathering.value key others))
    (hperm : (members.map Member.packet).Perm (others.map Member.packet)) :
    Table.Agree related (gathering.run members) (gathering.run others) := by
  apply (holds_run hname members).increasing.agree (holds_run hname others).increasing
  · intro entry hentry
    obtain ⟨key, rfl, hmember⟩ := (mem_run_iff hname).mp hentry
    simp only [hkey] at hmember
    have hother := exists_mem_of_perm hperm (p := fun packet => key? packet = some key) hmember
    simp only [← hkey] at hother
    exact ⟨_, (mem_run_iff hname).mpr ⟨key, rfl, hother⟩, rfl, hvalue key hmember⟩
  · intro entry hentry
    obtain ⟨key, rfl, hother⟩ := (mem_run_iff hname).mp hentry
    simp only [hkey] at hother
    have hmember := exists_mem_of_perm hperm.symm (p := fun packet => key? packet = some key) hother
    simp only [← hkey] at hmember
    exact ⟨_, (mem_run_iff hname).mpr ⟨key, rfl, hmember⟩, rfl⟩

end Batches

/-! ## Flows of addresses -/

namespace IpFlow

/-- Two flows agree in everything but the order of their packets. -/
structure SameTotals (flow other : IpFlow) : Prop where
  /-- The pairs are the same. -/
  pair_eq : other.pair = flow.pair
  /-- There are as many packets. -/
  size_eq : other.members.size = flow.members.size
  /-- The spans are the same. -/
  span_eq : other.span = flow.span
  /-- There are as many octets on the wire. -/
  wireBytes_eq : other.wireBytes = flow.wireBytes
  /-- There are as many octets of IP payloads. -/
  payloadBytes_eq : other.payloadBytes = flow.payloadBytes

variable {members others : List Member}

/-- The flows that batches with the same packets build for a pair agree. -/
theorem ofMembers_sameTotals
    (hperm : (members.map Member.packet).Perm (others.map Member.packet)) (pair : AddressPair) :
    SameTotals (ofMembers pair members) (ofMembers pair others) := by
  have h := records_ofMembers pair members
  have hother := records_ofMembers pair others
  have htaken := perm_filter_packet
    (fun packet => (AddressPair.ofPacket packet).toOption = some pair) hperm
  have hlength := htaken.length_eq
  rw [List.length_map, List.length_map] at hlength
  exact {
    pair_eq := by rw [pair_ofMembers, pair_ofMembers]
    size_eq := by
      rw [← Array.length_toList, ← Array.length_toList, h.members_eq, hother.members_eq]
      exact hlength.symm
    span_eq := hother.span.eq_of_perm h.span htaken.symm
    wireBytes_eq := by
      rw [h.wireBytes_eq, hother.wireBytes_eq]
      exact Packet.total_perm _ htaken.symm
    payloadBytes_eq := by
      rw [h.payloadBytes_eq, hother.payloadBytes_eq]
      exact Packet.total_perm _ htaken.symm }

/-- The flows of batches with the same packets agree. -/
theorem group_agree (hperm : (members.map Member.packet).Perm (others.map Member.packet)) :
    Table.Agree SameTotals (group members) (group others) := by
  rw [group_eq_run]
  refine Gathering.run_agree AddressPair.text_injective
    (fun packet => (AddressPair.ofPacket packet).toOption) (fun _ => rfl) ?_ hperm
  intro pair _
  rw [value_gathering, value_gathering]
  exact ofMembers_sameTotals hperm pair

end IpFlow

/-! ## Flows of connections -/

/-- Two directions agree in everything but the order of their packets and what depends on it. -/
structure FlowSide.SameTotals (side other : FlowSide) : Prop where
  /-- There are as many packets. -/
  size_eq : other.members.size = side.members.size
  /-- There are as many octets of TCP payloads. -/
  payloadBytes_eq : other.payloadBytes = side.payloadBytes
  /-- There are as many octets of IP payloads. -/
  ipPayloadBytes_eq : other.ipPayloadBytes = side.ipPayloadBytes
  /-- There are as many octets on the wire. -/
  wireBytes_eq : other.wireBytes = side.wireBytes
  /-- The sequence numbers are the same. -/
  keys_eq : other.bySeq.map Prod.fst = side.bySeq.map Prod.fst
  /-- The first segments are the same where one packet only is the earliest. -/
  first_eq : ∀ earliest, (∀ member ∈ side.members, earliest ≤ member.packet.timestamp) →
    side.members.countP (fun member => member.packet.timestamp = earliest) = 1 →
    other.first = side.first

/-- Two connections agree in everything but the order of their packets and what depends on
it. -/
structure TcpFlow.SameTotals (flow other : TcpFlow) : Prop where
  /-- The pairs are the same. -/
  pair_eq : other.pair = flow.pair
  /-- The spans are the same. -/
  span_eq : other.span = flow.span
  /-- Each direction agrees with itself. -/
  sides : ∀ direction, (flow.side direction).SameTotals (other.side direction)

namespace FlowSide.Records

variable {side other : FlowSide} {taken others : List Member}

/-- A sequence number stands in the table when some packet has it. -/
theorem exists_mem_bySeq_iff (h : side.Records taken) {seq : UInt32} :
    (∃ entry ∈ side.bySeq, entry.1 = seq) ↔ ∃ member ∈ taken, member.packet.seq? = some seq := by
  have hfind : (side.bySeq.find? seq).isSome ↔ ∃ member ∈ taken, member.packet.seq? = some seq := by
    rw [h.bySeq_eq, List.findRev?_eq_find?_reverse, List.find?_isSome]
    simp only [List.mem_reverse, decide_eq_true_eq]
  rw [← hfind, Option.isSome_iff_exists]
  constructor
  · rintro ⟨⟨_, member⟩, hentry, rfl⟩
    exact ⟨member, h.increasing.mem_iff_find?.mp hentry⟩
  · rintro ⟨member, hmember⟩
    exact ⟨(seq, member), h.increasing.mem_iff_find?.mpr hmember, rfl⟩

/-- Directions that hold the same packets have the same sequence numbers. -/
theorem keys_eq (h : side.Records taken) (hother : other.Records others)
    (hperm : (taken.map Member.packet).Perm (others.map Member.packet)) :
    other.bySeq.map Prod.fst = side.bySeq.map Prod.fst := by
  have hagree : Table.Agree (fun _ _ => True) side.bySeq other.bySeq := by
    apply h.increasing.agree hother.increasing
    · intro entry hentry
      have hseq := h.exists_mem_bySeq_iff.mp ⟨entry, hentry, rfl⟩
      obtain ⟨entry', hentry', hkey⟩ := hother.exists_mem_bySeq_iff.mpr
        (exists_mem_of_perm hperm (p := fun packet => packet.seq? = some entry.1) hseq)
      exact ⟨entry', hentry', hkey, trivial⟩
    · intro entry' hentry'
      have hseq := hother.exists_mem_bySeq_iff.mp ⟨entry', hentry', rfl⟩
      exact h.exists_mem_bySeq_iff.mpr
        (exists_mem_of_perm hperm.symm (p := fun packet => packet.seq? = some entry'.1) hseq)
  exact hagree.keys_eq

/-- Directions that hold the same packets agree. -/
theorem sameTotals (h : side.Records taken) (hother : other.Records others)
    (hperm : (taken.map Member.packet).Perm (others.map Member.packet)) :
    side.SameTotals other where
  size_eq := by
    have hlength := hperm.length_eq
    rw [List.length_map, List.length_map] at hlength
    rw [← Array.length_toList, ← Array.length_toList, h.members_eq, hother.members_eq, hlength]
  payloadBytes_eq := by
    rw [h.payloadBytes_eq, hother.payloadBytes_eq, Packet.total_perm _ hperm]
  ipPayloadBytes_eq := by
    rw [h.ipPayloadBytes_eq, hother.ipPayloadBytes_eq, Packet.total_perm _ hperm]
  wireBytes_eq := by
    rw [h.wireBytes_eq, hother.wireBytes_eq, Packet.total_perm _ hperm]
  keys_eq := h.keys_eq hother hperm
  first_eq earliest hleast hone := by
    rw [h.first_eq, hother.first_eq]
    have hall : ∀ packet ∈ taken.map Member.packet, earliest ≤ packet.timestamp := by
      intro packet hpacket
      obtain ⟨member, hmember, rfl⟩ := List.mem_map.mp hpacket
      rw [← h.members_eq, Array.mem_toList_iff] at hmember
      exact hleast member hmember
    have hsingle : (taken.map Member.packet).countP
        (fun packet => packet.timestamp = earliest) = 1 := by
      rw [← Array.countP_toList, h.members_eq] at hone
      rw [List.countP_map]
      exact hone
    rw [Packet.minOn?_perm hperm hall hsingle]

end FlowSide.Records

namespace TcpFlow

variable {members others : List Member}

/-- The packets accepted in a direction are those of the batch that go that way. -/
theorem acceptedIn_calls (direction : Direction) (flow : TcpFlow) (members : List Member) :
    acceptedIn direction (calls flow members) =
      members.filter fun member => (flow.directionOf member.packet).toOption = some direction := by
  rw [calls_eq_map, acceptedIn, List.filter_map, List.map_map]
  exact List.map_id _

/-- The packets accepted are those of the batch that have a direction. -/
theorem accepted_calls (flow : TcpFlow) (members : List Member) :
    accepted (calls flow members) =
      members.filter fun member => (flow.directionOf member.packet).isOk := by
  rw [calls_eq_map, accepted, List.filter_map, List.map_map]
  exact List.map_id _

/-- The flows that batches with the same packets build for a pair agree. -/
theorem ofMembers_sameTotals
    (hperm : (members.map Member.packet).Perm (others.map Member.packet)) (pair : EndpointPair) :
    SameTotals (ofMembers pair members) (ofMembers pair others) := by
  have h := isRecord_ofMembers pair members
  have hother := isRecord_ofMembers pair others
  refine ⟨hother.pair_eq.trans h.pair_eq.symm, ?_, fun direction => ?_⟩
  · have hspan := h.span
    have hspan' := hother.span
    rw [accepted_calls] at hspan hspan'
    exact hspan'.eq_of_perm hspan
      (perm_filter_packet (fun packet => ((empty pair).directionOf packet).isOk) hperm.symm)
  · have hside := h.sides direction
    have hside' := hother.sides direction
    rw [acceptedIn_calls] at hside hside'
    exact hside.sameTotals hside' (perm_filter_packet
      (fun packet => ((empty pair).directionOf packet).toOption = some direction) hperm)

/-- The flows of batches with the same packets agree. -/
theorem group_agree (port : UInt16)
    (hperm : (members.map Member.packet).Perm (others.map Member.packet)) :
    Table.Agree SameTotals (group port members) (group port others) := by
  rw [group_eq_run]
  refine Gathering.run_agree EndpointPair.text_injective
    (fun packet => (serverPair port packet).toOption) (fun _ => rfl) ?_ hperm
  rintro pair ⟨member, -, hpair⟩
  have hfirst : serverPair port member.packet = .ok pair := key?_gathering.mp hpair
  rw [value_gathering hfirst, value_gathering hfirst]
  exact ofMembers_sameTotals hperm pair

end TcpFlow

/-! ## Batches in any order -/

/-- However a batch is ordered, its flows have the same keys and the same totals. -/
theorem flows_perm {packets others : List Packet} (hperm : packets.Perm others) :
    Table.Agree IpFlow.SameTotals (IpFlow.group (Member.ofBatch packets))
        (IpFlow.group (Member.ofBatch others)) ∧
      ∀ port, Table.Agree TcpFlow.SameTotals (TcpFlow.group port (Member.ofBatch packets))
        (TcpFlow.group port (Member.ofBatch others)) := by
  rw [← Member.map_packet_ofBatch packets, ← Member.map_packet_ofBatch others] at hperm
  exact ⟨IpFlow.group_agree hperm, fun port => TcpFlow.group_agree port hperm⟩

/-- A segment between two hosts, the first of which has the server's port. -/
def segment (timestamp : Timestamp) (toServer : Bool) (seq : UInt32) : Packet :=
  let server : Ipv4.Address := ⟨10, 0, 0, 1⟩
  let client : Ipv4.Address := ⟨10, 0, 0, 2⟩
  let network := if toServer then (client, server) else (server, client)
  let ports : UInt16 × UInt16 := if toServer then (51000, 80) else (80, 51000)
  ⟨timestamp, 60, 60,
    [.ethernet ⟨⟨[2, 0, 0, 0, 0, 3], rfl⟩, ⟨[2, 0, 0, 0, 0, 4], rfl⟩, 0x0800⟩,
      .ipv4 ⟨4, 5, network.1, network.2, 6, 46, 26⟩,
      .tcp ⟨ports.1, ports.2, seq, 7, 5, 0x10, 1024, 0, 0⟩]⟩

/-- Segments in both directions of a connection, the earliest of which come later, and a frame
without a network header. -/
def unorderedBatch : List Packet :=
  [segment 20 true 5, segment 30 false 9, ⟨5, 60, 60, []⟩, segment 10 true 4, segment 15 false 8]

/-- The flows of these packets and of the same packets read backwards agree. -/
theorem flows_perm_unorderedBatch :
    unorderedBatch.Perm unorderedBatch.reverse ∧
      Table.Agree TcpFlow.SameTotals (TcpFlow.group 80 (Member.ofBatch unorderedBatch))
        (TcpFlow.group 80 (Member.ofBatch unorderedBatch.reverse)) ∧
      (TcpFlow.group 80 (Member.ofBatch unorderedBatch)).map Prod.fst =
        ["10.0.0.1:80<->10.0.0.2:51000"] := by
  have hperm : unorderedBatch.Perm unorderedBatch.reverse := (List.reverse_perm _).symm
  exact ⟨hperm, (flows_perm hperm).2 80, by decide +kernel⟩

end CaptureFlow
