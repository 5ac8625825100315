import CaptureFlow.IpFlow
import CaptureFlow.Proofs.Flow.Pair
import CaptureFlow.Proofs.Flow.Totals
import CaptureFlow.Proofs.Gathering

/-!
# Grouping a batch by addresses

The flows of a batch are formed by the texts of their pairs, without another look at the
pairs. Since a text tells its pair, each flow is the one that is had by offering it every
packet of the batch and ignoring those that it refuses, and the flows part the packets that
have a network header among them.
-/

namespace CaptureFlow.IpFlow

/-- The flow with one more packet if that goes its way. -/
def addIfMember (flow : IpFlow) (member : Member) : IpFlow :=
  match flow.add member with
  | .ok flow => flow
  | .error _ => flow

/-- The flow of a pair with those packets that go its way. -/
def ofMembers (pair : AddressPair) (members : List Member) : IpFlow :=
  members.foldl addIfMember (empty pair)

/-- The pair of a packet, if the packet has a network header. -/
def pair? (member : Member) : Option AddressPair :=
  (AddressPair.ofPacket member.packet).toOption

/-- What a batch is grouped into. -/
structure IsPartition (members : List Member) (flows : Table String IpFlow) : Prop where
  /-- No two flows have the same key. -/
  keys : (flows.map Prod.fst).Nodup
  /-- A flow stands under the text of its pair and is what the batch builds for it. -/
  built : ∀ entry ∈ flows,
    entry.1 = entry.2.pair.text ∧ entry.2 = ofMembers entry.2.pair members
  /-- A packet with a network header is in the only flow that has its pair, and in no other. -/
  placed : ∀ member ∈ members, ∀ network, member.packet.network? = some network →
    ∃ entry ∈ flows, entry.2.pair = ⟨network.source, network.destination⟩ ∧
      member ∈ entry.2.members ∧ ∀ other ∈ flows,
        other.2.pair = entry.2.pair ∨ member ∈ other.2.members → other = entry
  /-- No other packet is in any flow. -/
  refused : ∀ member, ¬ (member ∈ members ∧ member.packet.network?.isSome) →
    ∀ entry ∈ flows, member ∉ entry.2.members
  /-- A flow holds the packets with its pair in order of arrival. -/
  ordered : ∀ entry ∈ flows,
    entry.2.members.toList = members.filter fun member => pair? member = some entry.2.pair
  /-- The octets on the wire are those of the packets with a network header. -/
  wireBytes_eq : (flows.map fun entry => entry.2.wireBytes).sum =
    Packet.total Packet.wireOctets
      ((members.map Member.packet).filter fun packet => packet.network?.isSome)
  /-- The octets of the IP payloads are those of the packets with a network header. -/
  payloadBytes_eq : (flows.map fun entry => entry.2.payloadBytes).sum =
    Packet.total Packet.ipPayloadOctets
      ((members.map Member.packet).filter fun packet => packet.network?.isSome)

/-! ## Offering packets to a flow -/

/-- The pair of a packet is that of its network header. -/
theorem pair?_eq (member : Member) :
    pair? member = member.packet.network?.map fun network =>
      ⟨network.source, network.destination⟩ := by
  unfold pair? AddressPair.ofPacket
  cases member.packet.network? <;> rfl

/-- A packet has a pair when it has a network header. -/
theorem isSome_pair? (member : Member) :
    (pair? member).isSome = member.packet.network?.isSome := by
  rw [pair?_eq, Option.isSome_map]

/-- A packet that goes the way of a flow is added to it. -/
theorem addIfMember_of_pair {flow : IpFlow} {member : Member} (h : pair? member = some flow.pair) :
    flow.addIfMember member = flow.push member := by
  unfold pair? at h
  unfold addIfMember add
  cases hpair : AddressPair.ofPacket member.packet with
  | error reason =>
    rw [hpair] at h
    cases h
  | ok pair =>
    rw [hpair] at h
    cases h
    simp [bind, Except.bind]

/-- Any other packet leaves the flow as it was. -/
theorem addIfMember_of_ne {flow : IpFlow} {member : Member} (h : pair? member ≠ some flow.pair) :
    flow.addIfMember member = flow := by
  unfold pair? at h
  unfold addIfMember add
  cases hpair : AddressPair.ofPacket member.packet with
  | error reason => rfl
  | ok pair =>
    rw [hpair] at h
    have hne : pair ≠ flow.pair := fun heq => h (congrArg some heq)
    simp [bind, Except.bind, hne]

/-- Offering packets to a flow is adding those that go its way. -/
theorem foldl_addIfMember (members : List Member) (flow : IpFlow) :
    members.foldl addIfMember flow =
      (members.filter fun member => pair? member = some flow.pair).foldl push flow := by
  induction members generalizing flow with
  | nil => rfl
  | cons member rest ih =>
    rw [List.foldl_cons]
    by_cases hpair : pair? member = some flow.pair
    · rw [addIfMember_of_pair hpair, ih, List.filter_cons_of_pos (by simpa using hpair),
        List.foldl_cons]
      rfl
    · rw [addIfMember_of_ne hpair, ih, List.filter_cons_of_neg (by simpa using hpair)]

/-! ## What a flow holds -/

/-- A flow holds these packets and tells their totals. -/
structure Records (flow : IpFlow) (taken : List Member) : Prop where
  /-- The packets stand in order. -/
  members_eq : flow.members.toList = taken
  /-- The span is that of the packets. -/
  span : Span.IsSpanOf flow.span (taken.map Member.packet)
  /-- The octets on the wire are summed up. -/
  wireBytes_eq : flow.wireBytes = Packet.total Packet.wireOctets (taken.map Member.packet)
  /-- The octets of the IP payloads are summed up. -/
  payloadBytes_eq :
    flow.payloadBytes = Packet.total Packet.ipPayloadOctets (taken.map Member.packet)

/-- A flow without packets holds none. -/
theorem records_empty (pair : AddressPair) : (empty pair).Records [] :=
  ⟨rfl, Span.isSpanOf_nil, rfl, rfl⟩

/-- One more packet is held behind the others. -/
theorem Records.push {flow : IpFlow} {taken : List Member} (h : flow.Records taken)
    (member : Member) : (flow.push member).Records (taken ++ [member]) where
  members_eq := by rw [IpFlow.push, Array.toList_push, h.members_eq]
  span := by
    rw [List.map_append]
    exact h.span.concat member.packet
  wireBytes_eq := by
    rw [List.map_append, List.map_singleton, Packet.total_concat, ← h.wireBytes_eq]
    rfl
  payloadBytes_eq := by
    rw [List.map_append, List.map_singleton, Packet.total_concat, ← h.payloadBytes_eq]
    rfl

/-- Packets that are added to a flow are held behind the others. -/
theorem Records.foldl_push {flow : IpFlow} {taken : List Member} (h : flow.Records taken)
    (members : List Member) : (members.foldl IpFlow.push flow).Records (taken ++ members) := by
  induction members generalizing flow taken with
  | nil => rwa [List.append_nil]
  | cons member rest ih =>
    rw [List.foldl_cons, ← List.singleton_append, ← List.append_assoc]
    exact ih (h.push member)

/-- The pair of a flow is the same after any packets. -/
theorem pair_foldl_push (members : List Member) (flow : IpFlow) :
    (members.foldl push flow).pair = flow.pair := by
  induction members generalizing flow with
  | nil => rfl
  | cons member rest ih => rw [List.foldl_cons, ih, push]

/-- A flow is built for the pair that it was asked for. -/
theorem pair_ofMembers (pair : AddressPair) (members : List Member) :
    (ofMembers pair members).pair = pair := by
  rw [ofMembers, foldl_addIfMember, pair_foldl_push, empty]

/-- The flow of a pair holds the packets with this pair. -/
theorem records_ofMembers (pair : AddressPair) (members : List Member) :
    (ofMembers pair members).Records (members.filter fun member => pair? member = some pair) := by
  have hrecords := (records_empty pair).foldl_push
    (members.filter fun member => pair? member = some pair)
  rw [ofMembers, foldl_addIfMember]
  exact hrecords

/-! ## The flows of a batch -/

/-- How packets are gathered in flows. -/
def gathering : Gathering Member AddressPair String IpFlow :=
  ⟨pair?, AddressPair.text, empty, push⟩

/-- A batch is grouped by gathering it. -/
theorem group_eq_run : group = gathering.run := by
  have hstep : groupStep = gathering.step := by
    funext table member
    simp only [groupStep, Gathering.step, gathering, pair?]
    cases AddressPair.ofPacket member.packet <;> rfl
  funext members
  rw [group, hstep]
  rfl

/-- What the packets with a pair make is what the batch builds for the pair. -/
theorem value_gathering (pair : AddressPair) (members : List Member) :
    gathering.value pair members = ofMembers pair members :=
  (foldl_addIfMember members (empty pair)).symm

variable {members : List Member} {entry : String × IpFlow}

/-- An entry is the flow of a pair that some packet of the batch has. -/
theorem mem_group_iff : entry ∈ group members ↔
    ∃ pair, entry = (pair.text, ofMembers pair members) ∧
      ∃ member ∈ members, pair? member = some pair := by
  rw [group_eq_run, Gathering.mem_run_iff AddressPair.text_injective]
  simp only [value_gathering]
  rfl

/-- An entry is named and built as its pair tells. -/
theorem eq_of_mem_group (h : entry ∈ group members) :
    entry.1 = entry.2.pair.text ∧ entry.2 = ofMembers entry.2.pair members := by
  obtain ⟨pair, rfl, -⟩ := mem_group_iff.mp h
  simp only [pair_ofMembers, and_self]

/-- An entry holds the packets of the batch with its pair, in order. -/
theorem toList_members_of_mem_group (h : entry ∈ group members) :
    entry.2.members.toList = members.filter fun member => pair? member = some entry.2.pair := by
  have hrecords := records_ofMembers entry.2.pair members
  rw [← (eq_of_mem_group h).2] at hrecords
  exact hrecords.members_eq

/-- A packet is in an entry when it is in the batch and has the pair of the entry. -/
theorem mem_members_iff (h : entry ∈ group members) {member : Member} :
    member ∈ entry.2.members ↔ member ∈ members ∧ pair? member = some entry.2.pair := by
  rw [← Array.mem_toList_iff, toList_members_of_mem_group h, List.mem_filter, decide_eq_true_eq]

/-- Entries with the same pair are the same. -/
theorem entry_eq_of_pair_eq {other : String × IpFlow} (h : entry ∈ group members)
    (hother : other ∈ group members) (hpair : other.2.pair = entry.2.pair) : other = entry := by
  obtain ⟨hkey, hflow⟩ := eq_of_mem_group h
  obtain ⟨hkey', hflow'⟩ := eq_of_mem_group hother
  rw [hpair] at hkey' hflow'
  exact Prod.ext (hkey'.trans hkey.symm) (hflow'.trans hflow.symm)

/-- The packets that have a pair are those with a network header. -/
theorem filter_isSome_pair? (members : List Member) :
    (members.filter fun member => (pair? member).isSome).map Member.packet =
      (members.map Member.packet).filter fun packet => packet.network?.isSome := by
  rw [List.filter_map]
  simp only [isSome_pair?]
  rfl

/-- A measure of flows that each packet raises by its own amount sums up to the packets with
a network header. -/
theorem sum_group {measure : IpFlow → Nat} {amount : Packet → Nat}
    (hempty : ∀ pair, measure (empty pair) = 0)
    (hpush : ∀ flow member, measure (push flow member) = measure flow + amount member.packet)
    (members : List Member) :
    ((group members).map fun entry => measure entry.2).sum = Packet.total amount
      ((members.map Member.packet).filter fun packet => packet.network?.isSome) := by
  rw [← filter_isSome_pair?, group_eq_run, Packet.total, List.map_map]
  exact gathering.sum_run hempty hpush members

/-- A batch is parted into its flows: each of them is what the batch builds for its pair, each
packet with a network header is in the one flow of its pair, and the octet counts of the flows
are those of these packets. -/
theorem group_isPartition (members : List Member) : IsPartition members (group members) where
  keys := by
    rw [group_eq_run]
    exact (Gathering.holds_run AddressPair.text_injective members).increasing.nodup_keys
  built entry hentry := eq_of_mem_group hentry
  placed member hmember network hnetwork := by
    have hpair : pair? member = some ⟨network.source, network.destination⟩ := by
      rw [pair?_eq, hnetwork, Option.map_some]
    have hentry := mem_group_iff.mpr ⟨_, rfl, member, hmember, hpair⟩
    refine ⟨_, hentry, pair_ofMembers _ _, ?_, ?_⟩
    · rw [mem_members_iff hentry, pair_ofMembers]
      exact ⟨hmember, hpair⟩
    · rintro other hother (hsame | hin)
      · exact entry_eq_of_pair_eq hentry hother hsame
      · have hfound := ((mem_members_iff hother).mp hin).2
        rw [hpair] at hfound
        apply entry_eq_of_pair_eq hentry hother
        rw [pair_ofMembers, ← Option.some.inj hfound]
  refused member hrefused entry hentry hin := by
    obtain ⟨hmember, hpair⟩ := (mem_members_iff hentry).mp hin
    refine hrefused ⟨hmember, ?_⟩
    rw [← isSome_pair?, hpair]
    rfl
  ordered entry hentry := toList_members_of_mem_group hentry
  wireBytes_eq := sum_group (fun _ => rfl) (fun _ _ => rfl) members
  payloadBytes_eq := sum_group (fun _ => rfl) (fun _ _ => rfl) members

end CaptureFlow.IpFlow
