import CaptureFlow.Proofs.Gathering
import CaptureFlow.Proofs.TcpFlow.Building

/-!
# Grouping a batch

A batch is gathered in one pass in a table whose keys are texts. It holds, under the
text of each connection of the batch, exactly the flow that the packets build for that
connection. No packet is lost on the way: the flow found under the text of a packet's
connection accepts it.
-/

namespace CaptureFlow.TcpFlow

/-- Whether a packet has the headers of a segment and tells the server's side,
because exactly one of its two ports is the server's. -/
def TellsServer (port : UInt16) (packet : Packet) : Prop :=
  ∃ network tcp, packet.network? = some network ∧ packet.tcp? = some tcp ∧
    (tcp.sourcePort = port ↔ tcp.destinationPort ≠ port)

/-- The pair of a packet with the server's side first. -/
def serverPair (port : UInt16) (packet : Packet) : Except FlowError EndpointPair :=
  (EndpointPair.ofPacket packet).bind (EndpointPair.serverFirst port)

/-- What a batch is grouped into. -/
structure IsGrouping (port : UInt16) (members : List Member) (flows : Table String TcpFlow) :
    Prop where
  /-- No two flows have the same key. -/
  keys : (flows.map Prod.fst).Nodup
  /-- A flow stands under the text of its pair and is what the batch builds for it. -/
  built : ∀ entry ∈ flows,
    entry.1 = entry.2.pair.text ∧ entry.2 = ofMembers entry.2.pair members
  /-- A packet that tells the server's side is in one flow and one direction only. -/
  placed : ∀ member ∈ members, TellsServer port member.packet →
    ∃ entry ∈ flows, ∃ direction, member ∈ (entry.2.side direction).members ∧
      ∀ other ∈ flows, ∀ way, member ∈ (other.2.side way).members →
        other = entry ∧ way = direction
  /-- No other packet is in any flow. -/
  refused : ∀ member, ¬ (member ∈ members ∧ TellsServer port member.packet) →
    ∀ entry ∈ flows, member ∉ entry.2.members ∧
      ∀ direction, member ∉ (entry.2.side direction).members
  /-- A flow holds each of its packets once, in order of arrival. -/
  ordered : ∀ entry ∈ flows, entry.2.members.toList.Nodup ∧
    entry.2.members.toList = members.filter entry.2.accepts ∧
    ∀ direction, (entry.2.side direction).members.toList =
      members.filter (entry.2.goes direction)
  /-- Two packets share a flow when they are of the same connection. -/
  shared : ∀ left ∈ members, ∀ right ∈ members,
    TellsServer port left.packet → TellsServer port right.packet →
    ((∃ entry ∈ flows, left ∈ entry.2.members ∧ right ∈ entry.2.members) ↔
      ∃ pair pair', EndpointPair.ofPacket left.packet = .ok pair ∧
        EndpointPair.ofPacket right.packet = .ok pair' ∧ pair.sameConnection pair' = true)

/-! ## Pairs with the server first -/

/-- A packet has a pair with the server first when that pair is the packet's own
pair in one of its directions. -/
theorem serverPair_eq_ok_iff {port : UInt16} {packet : Packet} {turned : EndpointPair} :
    serverPair port packet = .ok turned ↔
      turned.source.port = port ∧ turned.destination.port ≠ port ∧
        (EndpointPair.ofPacket packet = .ok turned ∨
          EndpointPair.ofPacket packet = .ok turned.reversed) := by
  unfold serverPair
  cases EndpointPair.ofPacket packet with
  | error reason => simp [Except.bind]
  | ok pair =>
    simp only [Except.bind, Except.ok.injEq]
    exact EndpointPair.serverFirst_eq_ok_iff

/-- A pair with the server first is the packet's own pair, turned. -/
theorem exists_pair_of_serverPair {port : UInt16} {packet : Packet} {turned : EndpointPair}
    (h : serverPair port packet = .ok turned) :
    ∃ pair, EndpointPair.ofPacket packet = .ok pair ∧
      EndpointPair.serverFirst port pair = .ok turned := by
  unfold serverPair at h
  cases hpair : EndpointPair.ofPacket packet with
  | error reason =>
    rw [hpair] at h
    cases h
  | ok pair =>
    rw [hpair] at h
    exact ⟨pair, rfl, h⟩

/-- A packet tells the server's side when it has a pair with the server first. -/
theorem tellsServer_iff {port : UInt16} {packet : Packet} :
    TellsServer port packet ↔ ∃ turned, serverPair port packet = .ok turned := by
  unfold TellsServer serverPair EndpointPair.ofPacket
  cases hnetwork : packet.network? with
  | none => simp [Except.bind]
  | some network =>
    cases htcp : packet.tcp? with
    | none => simp [Except.bind]
    | some tcp =>
      simp only [Except.bind, EndpointPair.serverFirst, Option.some.injEq]
      constructor
      · rintro ⟨_, _, rfl, rfl, hport⟩
        by_cases hsource : tcp.sourcePort = port
        · exact ⟨_, by rw [if_pos hsource, if_neg (hport.mp hsource)]⟩
        · have hdestination : tcp.destinationPort = port :=
            Classical.not_not.mp fun hne => hsource (hport.mpr hne)
          exact ⟨_, by rw [if_neg hsource, if_pos hdestination]⟩
      · rintro ⟨turned, hturned⟩
        refine ⟨network, tcp, rfl, rfl, ?_⟩
        split at hturned
        · split at hturned
          · cases hturned
          · rename_i hsource hdestination
            exact ⟨fun _ => hdestination, fun _ => hsource⟩
        · split at hturned
          · rename_i hsource hdestination
            exact ⟨fun h => absurd h hsource, fun h => absurd hdestination h⟩
          · cases hturned

/-- The flow of a pair with the server first accepts exactly the packets with that
pair. -/
theorem accepts_iff_serverPair {port : UInt16} {flow : TcpFlow} {member : Member}
    (hsource : flow.pair.source.port = port) (hdestination : flow.pair.destination.port ≠ port) :
    flow.accepts member = true ↔ serverPair port member.packet = .ok flow.pair := by
  rw [serverPair_eq_ok_iff, accepts_iff]
  simp only [goes_iff]
  rw [exists_directionOf_iff]
  exact ⟨fun h => ⟨hsource, hdestination, h⟩, fun h => h.2.2⟩

/-! ## The table of a batch -/

/-- What the table holds after some packets: under the text of each pair that one
of them has, and under no other key, the flow that they build for that pair. -/
structure Grouped (port : UInt16) (seen : List Member) (table : Table String TcpFlow) : Prop where
  /-- The keys of the table increase. -/
  increasing : Table.Increasing table
  /-- The table holds the flows of the pairs seen so far. -/
  find?_iff : ∀ key flow, Table.find? table key = some flow ↔
    ∃ pair, key = pair.text ∧ flow = ofMembers pair seen ∧
      ∃ member ∈ seen, serverPair port member.packet = .ok pair

/-- Packets are gathered by their pairs with the server first. -/
def gathering (port : UInt16) : Gathering Member EndpointPair String TcpFlow where
  key? member := (serverPair port member.packet).toOption
  name := EndpointPair.text
  fresh := empty
  add := addIfMember

variable {port : UInt16}

/-- A batch is grouped by gathering it. -/
theorem group_eq_run (port : UInt16) : group port = (gathering port).run := by
  have hstep : groupStep port = (gathering port).step := by
    funext table member
    simp only [groupStep, Gathering.step, gathering, serverPair]
    cases (EndpointPair.ofPacket member.packet).bind (EndpointPair.serverFirst port) <;> rfl
  funext members
  rw [group, hstep]
  rfl

/-- A packet is gathered under its pair with the server first. -/
theorem key?_gathering {member : Member} {pair : EndpointPair} :
    (gathering port).key? member = some pair ↔ serverPair port member.packet = .ok pair := by
  change (serverPair port member.packet).toOption = some pair ↔ _
  cases serverPair port member.packet <;> simp [Except.toOption]

/-- What the packets with a pair make is what the batch builds for the pair. -/
theorem value_gathering {pair : EndpointPair} {other : Member}
    (hpair : serverPair port other.packet = .ok pair) (members : List Member) :
    (gathering port).value pair members = ofMembers pair members := by
  obtain ⟨hsource, hdestination, -⟩ := serverPair_eq_ok_iff.mp hpair
  induction members using List.reverseRecOn with
  | nil => rfl
  | append_singleton members member ih =>
    -- the flow so far has this pair, so it accepts a packet just if that is its key
    have hsame := pair_ofMembers pair members
    have haccepts : (ofMembers pair members).accepts member = true ↔
        serverPair port member.packet = .ok (ofMembers pair members).pair :=
      accepts_iff_serverPair (by rwa [hsame]) (by rwa [hsame])
    rw [hsame, ← key?_gathering] at haccepts
    rw [ofMembers_append_singleton]
    by_cases hkey : (gathering port).key? member = some pair
    · rw [Gathering.value_concat_self hkey, ih]
      rfl
    · rw [Gathering.value_concat_of_ne hkey, ih, addIfMember_of_not_accepts]
      rwa [← Bool.not_eq_true, haccepts]

/-- The table of a batch holds the flows of its pairs. -/
theorem grouped_group (port : UInt16) (members : List Member) :
    Grouped port members (group port members) := by
  have hholds : (gathering port).Holds members ((gathering port).run members) :=
    Gathering.holds_run EndpointPair.text_injective members
  rw [group_eq_run]
  refine ⟨hholds.increasing, fun key flow => (hholds.find?_iff key flow).trans ?_⟩
  refine exists_congr fun pair => and_congr_right fun _ => ?_
  constructor
  · rintro ⟨hflow, member, hmember, hkey⟩
    have hpair := key?_gathering.mp hkey
    rw [value_gathering hpair] at hflow
    exact ⟨hflow, member, hmember, hpair⟩
  · rintro ⟨hflow, member, hmember, hpair⟩
    rw [← value_gathering hpair] at hflow
    exact ⟨hflow, member, hmember, key?_gathering.mpr hpair⟩

/-! ## The flows of a batch -/

/-- Members of a batch are told apart by their positions. -/
theorem nodup_ofBatch (packets : List Packet) : (Member.ofBatch packets).Nodup := by
  have hindex : (Member.ofBatch packets).map Member.index = List.range' 0 packets.length := by
    rw [Member.ofBatch, List.map_map, ← List.zipIdx_map_snd]
    rfl
  have hdistinct : ((Member.ofBatch packets).map Member.index).Nodup := by
    rw [hindex]
    exact List.nodup_range'
  rw [List.nodup_iff_pairwise_ne, List.pairwise_map] at hdistinct
  rw [List.nodup_iff_pairwise_ne]
  exact hdistinct.imp fun hne heq => hne (congrArg Member.index heq)

section Entries

variable {members : List Member} {entry : String × TcpFlow}

/-- An entry is the flow of a pair that some packet of the batch has. -/
theorem mem_group_iff : entry ∈ group port members ↔
    ∃ pair, entry = (pair.text, ofMembers pair members) ∧
      ∃ member ∈ members, serverPair port member.packet = .ok pair := by
  have hgrouped := grouped_group port members
  obtain ⟨key, flow⟩ := entry
  rw [hgrouped.increasing.mem_iff_find?, hgrouped.find?_iff]
  simp only [Prod.mk.injEq, and_assoc]

/-- An entry is named and built as its pair tells. -/
theorem eq_of_mem_group (h : entry ∈ group port members) :
    entry.1 = entry.2.pair.text ∧ entry.2 = ofMembers entry.2.pair members := by
  obtain ⟨pair, rfl, -⟩ := mem_group_iff.mp h
  simp only [pair_ofMembers, and_self]

/-- An entry accepts exactly the packets with its pair. -/
theorem accepts_iff_of_mem_group (h : entry ∈ group port members) {member : Member} :
    entry.2.accepts member = true ↔ serverPair port member.packet = .ok entry.2.pair := by
  obtain ⟨pair, rfl, other, -, hpair⟩ := mem_group_iff.mp h
  obtain ⟨hsource, hdestination, -⟩ := serverPair_eq_ok_iff.mp hpair
  apply accepts_iff_serverPair
  · rwa [pair_ofMembers]
  · rwa [pair_ofMembers]

/-- An entry holds the packets of the batch with its pair. -/
theorem mem_members_iff (h : entry ∈ group port members) {member : Member} :
    member ∈ entry.2.members ↔
      member ∈ members ∧ serverPair port member.packet = .ok entry.2.pair := by
  rw [← Array.mem_toList_iff, (eq_of_mem_group h).2, toList_members_ofMembers, List.mem_filter,
    ← (eq_of_mem_group h).2, accepts_iff_of_mem_group h]

/-- A direction of an entry holds the packets of the batch that go that way. -/
theorem mem_side_iff (h : entry ∈ group port members) {member : Member} {direction : Direction} :
    member ∈ (entry.2.side direction).members ↔
      member ∈ members ∧ entry.2.goes direction member = true := by
  rw [← Array.mem_toList_iff, (eq_of_mem_group h).2, toList_side_ofMembers, List.mem_filter]

/-- A packet in a direction of an entry has the pair of the entry. -/
theorem serverPair_of_mem_side (h : entry ∈ group port members) {member : Member}
    {direction : Direction} (hside : member ∈ (entry.2.side direction).members) :
    serverPair port member.packet = .ok entry.2.pair :=
  (accepts_iff_of_mem_group h).mp (accepts_iff.mpr ⟨direction, ((mem_side_iff h).mp hside).2⟩)

/-- Entries with the same pair are the same. -/
theorem entry_eq_of_pair_eq {other : String × TcpFlow} (h : entry ∈ group port members)
    (hother : other ∈ group port members) (hpair : other.2.pair = entry.2.pair) :
    other = entry := by
  obtain ⟨hkey, hflow⟩ := eq_of_mem_group h
  obtain ⟨hkey', hflow'⟩ := eq_of_mem_group hother
  rw [hpair] at hkey' hflow'
  exact Prod.ext (hkey'.trans hkey.symm) (hflow'.trans hflow.symm)

/-- A packet is in one direction of one entry at most. -/
theorem eq_of_mem_side {other : String × TcpFlow} {member : Member} {direction way : Direction}
    (h : entry ∈ group port members) (hother : other ∈ group port members)
    (hside : member ∈ (entry.2.side direction).members)
    (hway : member ∈ (other.2.side way).members) : other = entry ∧ way = direction := by
  have hpair := serverPair_of_mem_side h hside
  have hpair' := serverPair_of_mem_side hother hway
  rw [hpair] at hpair'
  have heq := entry_eq_of_pair_eq h hother (Except.ok.inj hpair').symm
  subst heq
  have hdirection := goes_iff.mp ((mem_side_iff h).mp hside).2
  have hdirection' := goes_iff.mp ((mem_side_iff hother).mp hway).2
  rw [hdirection] at hdirection'
  exact ⟨rfl, (Except.ok.inj hdirection').symm⟩

/-- The pair of a packet in the batch names an entry. -/
theorem mem_group_of_serverPair {member : Member} {pair : EndpointPair} (h : member ∈ members)
    (hpair : serverPair port member.packet = .ok pair) :
    (pair.text, ofMembers pair members) ∈ group port members :=
  mem_group_iff.mpr ⟨pair, rfl, member, h, hpair⟩

/-- Packets of the batch share an entry exactly when they have the same pair. -/
theorem exists_shared_iff {left right : Member} {pair pair' : EndpointPair}
    (hleft : left ∈ members) (hright : right ∈ members)
    (hpair : serverPair port left.packet = .ok pair)
    (hpair' : serverPair port right.packet = .ok pair') :
    (∃ entry ∈ group port members, left ∈ entry.2.members ∧ right ∈ entry.2.members) ↔
      pair = pair' := by
  constructor
  · rintro ⟨entry, hentry, hin, hin'⟩
    have hfound := ((mem_members_iff hentry).mp hin).2
    have hfound' := ((mem_members_iff hentry).mp hin').2
    rw [hpair] at hfound
    rw [hpair'] at hfound'
    rw [Except.ok.inj hfound, Except.ok.inj hfound']
  · rintro rfl
    have hentry := mem_group_of_serverPair hleft hpair
    refine ⟨_, hentry, ?_, ?_⟩
    · exact (mem_members_iff hentry).mpr ⟨hleft, by rwa [pair_ofMembers]⟩
    · exact (mem_members_iff hentry).mpr ⟨hright, by rwa [pair_ofMembers]⟩

end Entries

/-- A batch is grouped into its connections: each flow is what the batch builds for
its pair, each packet that tells the server's side is in one direction of one flow,
no other packet is in any, and packets share a flow when they share a connection. -/
theorem group_isGrouping (port : UInt16) (packets : List Packet) :
    IsGrouping port (Member.ofBatch packets) (group port (Member.ofBatch packets)) where
  keys := (grouped_group port _).increasing.nodup_keys
  built entry hentry := eq_of_mem_group hentry
  placed member hmember htells := by
    obtain ⟨pair, hpair⟩ := tellsServer_iff.mp htells
    have hentry := mem_group_of_serverPair hmember hpair
    obtain ⟨direction, hgoes⟩ := accepts_iff.mp
      ((accepts_iff_of_mem_group hentry).mpr (by rwa [pair_ofMembers]))
    have hside := (mem_side_iff hentry).mpr ⟨hmember, hgoes⟩
    refine ⟨_, hentry, direction, hside, ?_⟩
    intro other hother way hway
    exact eq_of_mem_side hentry hother hside hway
  refused member hrefused entry hentry := by
    have habsent : member ∈ Member.ofBatch packets →
        serverPair port member.packet ≠ .ok entry.2.pair :=
      fun hmember hpair => hrefused ⟨hmember, tellsServer_iff.mpr ⟨_, hpair⟩⟩
    constructor
    · intro hmember
      obtain ⟨hbatch, hpair⟩ := (mem_members_iff hentry).mp hmember
      exact habsent hbatch hpair
    · intro direction hside
      exact habsent ((mem_side_iff hentry).mp hside).1 (serverPair_of_mem_side hentry hside)
  ordered entry hentry := by
    have hflow := (eq_of_mem_group hentry).2
    have hmembers : entry.2.members.toList =
        (Member.ofBatch packets).filter entry.2.accepts := by
      rw [hflow]
      exact toList_members_ofMembers _ _
    refine ⟨?_, hmembers, fun direction => ?_⟩
    · rw [hmembers]
      exact (nodup_ofBatch packets).filter _
    · rw [hflow]
      exact toList_side_ofMembers _ _ direction
  shared left hleft right hright htells htells' := by
    obtain ⟨turned, hturned⟩ := tellsServer_iff.mp htells
    obtain ⟨turned', hturned'⟩ := tellsServer_iff.mp htells'
    obtain ⟨pair, hpair, hfirst⟩ := exists_pair_of_serverPair hturned
    obtain ⟨pair', hpair', hfirst'⟩ := exists_pair_of_serverPair hturned'
    rw [exists_shared_iff hleft hright hturned hturned',
      ← EndpointPair.sameConnection_iff hfirst hfirst']
    constructor
    · intro hsame
      exact ⟨pair, pair', hpair, hpair', hsame⟩
    · rintro ⟨_, _, hleft, hright, hsame⟩
      rw [hpair] at hleft
      rw [hpair'] at hright
      rwa [Except.ok.inj hleft, Except.ok.inj hright]

end CaptureFlow.TcpFlow
