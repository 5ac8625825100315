import CaptureFlow.Http.Exchange
import CaptureFlow.Proofs.Table
import Mathlib.Data.List.Induction
import Mathlib.Data.List.TakeWhile

/-!
# What the exchanges of a sequence are

The requests of a sequence cut it into spans, each from a request up to the next one or to
the end. A target has an exchange if a TCP packet carries a request for it, and the exchange
is that of the last such packet: its span, with the first response in it. A request that is
carried by no TCP packet still ends the span before it, and has no exchange of its own. So
an exchange holds one request, and no packet is in two exchanges.
-/

namespace CaptureFlow.Http

/-! ## Spans -/

/-- A request stands at a position. -/
def RequestAt (members : List Member) (position : Nat) : Prop :=
  ∃ member, members[position]? = some member ∧ isRequest member.packet = true

/-- A response stands at a position. -/
def ResponseAt (members : List Member) (position : Nat) : Prop :=
  ∃ member, members[position]? = some member ∧ isResponse member.packet = true

/-- A request is followed by others up to the next request or to the end. -/
structure IsSpan (members : List Member) (start stop : Nat) : Prop where
  /-- The request stands at the start. -/
  requestAt_start : RequestAt members start
  /-- The span holds the request. -/
  start_lt : start < stop
  /-- No other request is in it. -/
  not_requestAt : ∀ position, start < position → position < stop → ¬RequestAt members position
  /-- Behind it stands the next request or nothing. -/
  stop_eq : stop = members.length ∨ RequestAt members stop

/-- The members of a span. -/
def spanOf (members : List Member) (start stop : Nat) : List Member :=
  (members.drop start).take (stop - start)

variable {members : List Member} {start stop : Nat}

/-- Requests stand within a sequence. -/
theorem RequestAt.lt_length (h : RequestAt members start) : start < members.length := by
  obtain ⟨member, hmember, -⟩ := h
  exact (List.getElem?_eq_some_iff.mp hmember).1

/-- Spans end within a sequence. -/
theorem IsSpan.stop_le (h : IsSpan members start stop) : stop ≤ members.length := by
  rcases h.stop_eq with hend | hrequest
  · exact Nat.le_of_eq hend
  · exact Nat.le_of_lt hrequest.lt_length

/-- A request that stands behind another is not in the span of that one. -/
theorem IsSpan.stop_le_of_requestAt (h : IsSpan members start stop) {position : Nat}
    (hrequest : RequestAt members position) (hlt : start < position) : stop ≤ position :=
  Nat.le_of_not_lt fun hin => h.not_requestAt position hlt hin hrequest

/-- A request has one span. -/
theorem IsSpan.stop_unique (h : IsSpan members start stop) {other : Nat}
    (hother : IsSpan members start other) : stop = other := by
  have hle : ∀ {first second : Nat}, IsSpan members start first → IsSpan members start second →
      first ≤ second := by
    intro first second hfirst hsecond
    rcases hsecond.stop_eq with hend | hrequest
    · rw [hend]
      exact hfirst.stop_le
    · exact hfirst.stop_le_of_requestAt hrequest hsecond.start_lt
  exact Nat.le_antisymm (hle h hother) (hle hother h)

/-- A span has as many members as there are positions in it. -/
theorem IsSpan.length_spanOf (h : IsSpan members start stop) :
    (spanOf members start stop).length = stop - start := by
  have hstop := h.stop_le
  rw [spanOf, List.length_take, List.length_drop]
  omega

/-- The members of a span stand at its positions. -/
theorem getElem?_spanOf {offset : Nat} (h : offset < stop - start) :
    (spanOf members start stop)[offset]? = members[start + offset]? := by
  rw [spanOf, List.getElem?_take_of_lt h, List.getElem?_drop]

/-! ## The spans that are formed -/

/-- A request and those behind it up to the next one are a span. -/
theorem isSpan_takeWhile {member : Member} {rest : List Member}
    (hdrop : members.drop start = member :: rest) (hrequest : isRequest member.packet = true) :
    ∃ stop, IsSpan members start stop ∧
      spanOf members start stop =
        member :: rest.takeWhile fun next => !isRequest next.packet := by
  have hat : ∀ offset, members[start + offset]? = (member :: rest)[offset]? := by
    intro offset
    rw [← hdrop, List.getElem?_drop]
  have hlength : members.length = start + (rest.length + 1) := by
    have hcount := congrArg List.length hdrop
    rw [List.length_drop, List.length_cons] at hcount
    omega
  let here := rest.takeWhile fun next => !isRequest next.packet
  have hhere : rest.take here.length = here :=
    (List.prefix_iff_eq_take.mp (List.takeWhile_prefix _)).symm
  have hle : here.length ≤ rest.length := (List.takeWhile_prefix _).length_le
  refine ⟨start + (here.length + 1), ⟨?_, by omega, ?_, ?_⟩, ?_⟩
  · exact ⟨member, hat 0, hrequest⟩
  · rintro position hlt hin ⟨other, hother, hfound⟩
    obtain ⟨offset, rfl⟩ := Nat.exists_eq_add_of_lt hlt
    have hoffset : offset < here.length := by omega
    have hmem : other ∈ here := by
      rw [Nat.add_assoc, hat, List.getElem?_cons_succ] at hother
      rw [← hhere]
      exact List.mem_of_getElem? ((List.getElem?_take_of_lt hoffset).trans hother)
    have hnot := List.mem_takeWhile_imp hmem
    rw [hfound] at hnot
    cases hnot
  · have hsplit : here ++ rest.dropWhile (fun next => !isRequest next.packet) = rest :=
      List.takeWhile_append_dropWhile
    have hstops := List.head?_dropWhile_not (fun next => !isRequest next.packet) rest
    cases hbehind : rest.dropWhile fun next => !isRequest next.packet with
    | nil =>
      rw [hbehind, List.append_nil] at hsplit
      rw [hsplit]
      exact .inl hlength.symm
    | cons next behind =>
      rw [hbehind] at hsplit hstops
      refine .inr ⟨next, ?_, by simpa using hstops⟩
      rw [hat, List.getElem?_cons_succ, ← hsplit, List.getElem?_append_right (Nat.le_refl _),
        Nat.sub_self]
      rfl
  · have hcount : start + (here.length + 1) - start = here.length + 1 := by omega
    rw [spanOf, hdrop, hcount, List.take_succ_cons, hhere]

/-- Spans are formed from a position on. -/
theorem le_of_mem_spans {position : Nat} {left : List Member} {entry : Nat × List Member}
    (h : entry ∈ spans position left) : position ≤ entry.1 := by
  induction left generalizing position with
  | nil => cases h
  | cons member rest ih =>
    rw [spans] at h
    split at h
    · rcases List.mem_cons.mp h with rfl | hrest
      · exact Nat.le_refl position
      · exact Nat.le_of_succ_le (ih hrest)
    · exact Nat.le_of_succ_le (ih h)

/-- Spans are formed in their order. -/
theorem pairwise_spans (position : Nat) (left : List Member) :
    (spans position left).Pairwise fun earlier later => earlier.1 < later.1 := by
  induction left generalizing position with
  | nil => exact List.Pairwise.nil
  | cons member rest ih =>
    rw [spans]
    split
    · exact List.pairwise_cons.mpr ⟨fun later hlater => le_of_mem_spans hlater, ih (position + 1)⟩
    · exact ih (position + 1)

/-- What is formed is a span of the sequence. -/
theorem exists_isSpan_of_mem_spans {position : Nat} {left : List Member}
    (hleft : members.drop position = left) {entry : Nat × List Member}
    (h : entry ∈ spans position left) :
    ∃ stop, IsSpan members entry.1 stop ∧ entry.2 = spanOf members entry.1 stop := by
  induction left generalizing position with
  | nil => cases h
  | cons member rest ih =>
    have hrest : members.drop (position + 1) = rest := by
      rw [← List.tail_drop, hleft, List.tail_cons]
    rw [spans] at h
    split at h
    next hrequest =>
      rcases List.mem_cons.mp h with rfl | hbehind
      · obtain ⟨stop, hspan, hmembers⟩ := isSpan_takeWhile hleft hrequest
        exact ⟨stop, hspan, hmembers.symm⟩
      · exact ih hrest hbehind
    · exact ih hrest h

/-- Every request has its span formed. -/
theorem exists_mem_spans {position : Nat} {left : List Member}
    (hleft : members.drop position = left) {start : Nat} (hle : position ≤ start)
    (h : RequestAt members start) : ∃ span, (start, span) ∈ spans position left := by
  induction left generalizing position with
  | nil =>
    have hlt := h.lt_length
    have hend := List.drop_eq_nil_iff.mp hleft
    omega
  | cons member rest ih =>
    have hrest : members.drop (position + 1) = rest := by
      rw [← List.tail_drop, hleft, List.tail_cons]
    rcases Nat.eq_or_lt_of_le hle with heq | hlt
    · subst heq
      obtain ⟨found, hfound, hrequest⟩ := h
      have hhere : members[position]? = some member := by
        rw [← List.head?_drop, hleft, List.head?_cons]
      rw [hhere] at hfound
      cases hfound
      rw [spans, if_pos hrequest]
      exact ⟨_, List.mem_cons_self⟩
    · obtain ⟨span, hspan⟩ := ih hrest hlt
      rw [spans]
      split
      · exact ⟨span, List.mem_cons_of_mem _ hspan⟩
      · exact ⟨span, hspan⟩

/-- A span holds one request. -/
theorem countP_spanOf (h : IsSpan members start stop) :
    (spanOf members start stop).countP (fun member => isRequest member.packet) = 1 := by
  obtain ⟨member, hmember, hrequest⟩ := h.requestAt_start
  obtain ⟨hlt, hget⟩ := List.getElem?_eq_some_iff.mp hmember
  have hdrop : members.drop start = member :: members.drop (start + 1) := by
    rw [← hget, List.getElem_cons_drop]
  obtain ⟨other, hother, hmembers⟩ := isSpan_takeWhile hdrop hrequest
  have hnone : (List.takeWhile (fun next : Member => !isRequest next.packet)
      (members.drop (start + 1))).countP (fun member => isRequest member.packet) = 0 := by
    apply List.countP_eq_zero.mpr
    intro next hnext hfound
    have hnot := List.mem_takeWhile_imp hnext
    rw [hfound] at hnot
    cases hnot
  rw [h.stop_unique hother, hmembers, List.countP_cons, hnone, if_pos hrequest]

/-! ## Responses -/

/-- The first response of a span stands at a position. -/
structure IsFirstResponse (members : List Member) (start stop position : Nat) : Prop where
  /-- It stands behind the request. -/
  start_lt : start < position
  /-- It is in the span. -/
  lt_stop : position < stop
  /-- There is a response. -/
  responseAt : ResponseAt members position
  /-- There is none before it. -/
  not_responseAt : ∀ earlier, start < earlier → earlier < position → ¬ResponseAt members earlier

/-- A response stands in a span where it stands in the sequence. -/
theorem responseAt_spanOf_iff {offset : Nat} (h : offset < stop - start) :
    ResponseAt (spanOf members start stop) offset ↔ ResponseAt members (start + offset) := by
  rw [ResponseAt, ResponseAt, getElem?_spanOf h]

/-- A response behind the first member is one of those behind it. -/
theorem responseAt_succ_iff {offset : Nat} :
    ResponseAt members (offset + 1) ↔
      ∃ h : offset < members.tail.length, isResponse members.tail[offset].packet = true := by
  have hat : members[offset + 1]? = members.tail[offset]? := by
    rw [← List.drop_one, List.getElem?_drop, Nat.add_comm]
  rw [ResponseAt, hat]
  constructor
  · rintro ⟨member, hmember, hresponse⟩
    obtain ⟨hlt, hget⟩ := List.getElem?_eq_some_iff.mp hmember
    exact ⟨hlt, by rw [hget, hresponse]⟩
  · rintro ⟨hlt, hresponse⟩
    exact ⟨_, List.getElem?_eq_getElem hlt, hresponse⟩

/-- The response that is found in some members is the first one behind their request. -/
theorem firstResponse_eq_some_iff {offset : Nat} :
    Exchange.firstResponse members = some offset ↔ 0 < offset ∧ ResponseAt members offset ∧
      ∀ earlier, 0 < earlier → earlier < offset → ¬ResponseAt members earlier := by
  rw [Exchange.firstResponse, Option.map_eq_some_iff]
  constructor
  · rintro ⟨index, hfound, rfl⟩
    obtain ⟨hlt, hresponse, hbefore⟩ := List.findIdx?_eq_some_iff_getElem.mp hfound
    refine ⟨Nat.succ_pos index, responseAt_succ_iff.mpr ⟨hlt, hresponse⟩, ?_⟩
    intro earlier hpositive hearlier hat
    obtain ⟨before, rfl⟩ := Nat.exists_eq_add_of_lt hpositive
    rw [Nat.zero_add] at hat hearlier
    obtain ⟨hin, hother⟩ := responseAt_succ_iff.mp hat
    exact hbefore before (by omega) hother
  · rintro ⟨hpositive, hat, hbefore⟩
    obtain ⟨index, rfl⟩ := Nat.exists_eq_add_of_lt hpositive
    rw [Nat.zero_add] at hat hbefore ⊢
    obtain ⟨hlt, hresponse⟩ := responseAt_succ_iff.mp hat
    refine ⟨index, List.findIdx?_eq_some_iff_getElem.mpr ⟨hlt, hresponse, ?_⟩, rfl⟩
    intro before hless hother
    exact hbefore (before + 1) (Nat.succ_pos before) (by omega)
      (responseAt_succ_iff.mpr ⟨by omega, hother⟩)

/-! ## Exchanges -/

/-- A TCP packet at a position carries a request for a target. -/
structure RequestsAt (members : List Member) (uri : String) (position : Nat) : Prop where
  /-- There is a packet with a request for the target. -/
  exists_request : ∃ member request, members[position]? = some member ∧
    member.packet.http? = some request ∧ request.isRequest = true ∧ request.uri = uri ∧
    -- both headers that tell the endpoints are there
    member.packet.network?.isSome = true ∧ member.packet.tcp?.isSome = true

/-- An exchange is what the request at a position opens: the span of the request, with the
first response in it. -/
structure Exchange.IsOpenedAt (members : List Member) (start : Nat) (exchange : Exchange) :
    Prop where
  /-- It tells the position of its request. -/
  start_eq : exchange.start = start
  /-- Its request and its endpoints are those of the packet there. -/
  exists_first : ∃ member, members[start]? = some member ∧
    member.packet.http? = some exchange.request ∧
    EndpointPair.ofPacket member.packet = .ok exchange.pair
  /-- Its packets are those of the span, and its response is the first one in the span. -/
  exists_stop : ∃ stop, IsSpan members start stop ∧
    exchange.members = spanOf members start stop ∧
    ∀ position, exchange.responseIndex? = some position ↔
      IsFirstResponse members start stop position
  /-- The response is carried by the packet at its position. -/
  response?_eq : exchange.response? = exchange.responseIndex?.bind fun position =>
    members[position]?.bind fun member => member.packet.http?

/-- A TCP packet with a request opens an exchange, and no other packet does. -/
theorem Exchange.ofMembers_eq_ok_iff {member : Member} {rest : List Member}
    {exchange : Exchange} :
    ofMembers (member :: rest) start none = .ok exchange ↔ ∃ pair request,
      EndpointPair.ofPacket member.packet = .ok pair ∧ member.packet.http? = some request ∧
      request.isRequest = true ∧
      exchange = ⟨pair, request, member :: rest, start, firstResponse (member :: rest)⟩ := by
  rw [ofMembers]
  cases hpair : EndpointPair.ofPacket member.packet with
  | error error =>
    constructor
    · intro h
      cases h
    · rintro ⟨pair, request, hfound, -⟩
      cases hfound
  | ok pair =>
    have hhint : hintedResponse (member :: rest) none = none := rfl
    simp only [bind, Except.bind, hhint, Option.none_or]
    split
    next hnone =>
      constructor
      · intro h
        cases h
      · rintro ⟨_, request, -, hhttp, hrequest, -⟩
        rw [hhttp, Option.filter_some_pos hrequest] at hnone
        cases hnone
    next request hsome =>
      obtain ⟨hhttp, hrequest⟩ := Option.filter_eq_some_iff.mp hsome
      constructor
      · intro h
        cases h
        exact ⟨pair, request, rfl, hhttp, hrequest, rfl⟩
      · rintro ⟨pair', request', hpair', hhttp', -, rfl⟩
        cases hpair'
        rw [hhttp] at hhttp'
        cases hhttp'
        rfl

/-- The endpoints of a packet are told by its network and TCP headers. -/
theorem exists_pair_iff {packet : Packet} :
    (∃ pair, EndpointPair.ofPacket packet = .ok pair) ↔
      packet.network?.isSome = true ∧ packet.tcp?.isSome = true := by
  unfold EndpointPair.ofPacket
  cases packet.network? <;> cases packet.tcp? <;> simp

/-- The members of a span start with its request. -/
theorem IsSpan.exists_spanOf_eq (h : IsSpan members start stop) :
    ∃ member rest, members[start]? = some member ∧ isRequest member.packet = true ∧
      spanOf members start stop = member :: rest := by
  obtain ⟨member, hmember, hrequest⟩ := h.requestAt_start
  have hlt := h.start_lt
  have hfirst : (spanOf members start stop)[0]? = some member := by
    rw [getElem?_spanOf (by omega), Nat.add_zero, hmember]
  cases hspan : spanOf members start stop with
  | nil =>
    rw [hspan] at hfirst
    cases hfirst
  | cons first rest =>
    rw [hspan] at hfirst
    cases hfirst
    exact ⟨member, rest, hmember, hrequest, rfl⟩

/-- A span gives an exchange for a target if its request is one for that target in a TCP
packet. -/
theorem exists_ofMembers_iff (h : IsSpan members start stop) {uri : String} :
    (∃ exchange, Exchange.ofMembers (spanOf members start stop) start none = .ok exchange ∧
      exchange.request.uri = uri) ↔ RequestsAt members uri start := by
  obtain ⟨member, rest, hmember, -, hspan⟩ := h.exists_spanOf_eq
  rw [hspan]
  constructor
  · rintro ⟨exchange, hmade, huri⟩
    obtain ⟨pair, request, hpair, hhttp, hrequest, rfl⟩ := Exchange.ofMembers_eq_ok_iff.mp hmade
    exact ⟨⟨member, request, hmember, hhttp, hrequest, huri, exists_pair_iff.mp ⟨pair, hpair⟩⟩⟩
  · rintro ⟨found, request, hfound, hhttp, hrequest, huri, hheaders⟩
    rw [hmember] at hfound
    cases hfound
    obtain ⟨pair, hpair⟩ := exists_pair_iff.mpr hheaders
    exact ⟨_, Exchange.ofMembers_eq_ok_iff.mpr ⟨pair, request, hpair, hhttp, hrequest, rfl⟩, huri⟩

/-- The response that is found in the members of a span stands as far behind the request in
the sequence. -/
theorem IsSpan.firstResponse_spanOf_iff (h : IsSpan members start stop) {offset : Nat} :
    Exchange.firstResponse (spanOf members start stop) = some offset ↔
      IsFirstResponse members start stop (start + offset) := by
  have hlength := h.length_spanOf
  rw [firstResponse_eq_some_iff]
  constructor
  · rintro ⟨hpositive, hat, hbefore⟩
    have hin : offset < stop - start := by
      obtain ⟨found, hfound, -⟩ := hat
      rw [← hlength]
      exact (List.getElem?_eq_some_iff.mp hfound).1
    refine ⟨by omega, by omega, (responseAt_spanOf_iff hin).mp hat, ?_⟩
    intro earlier hlt hearlier hother
    obtain ⟨before, rfl⟩ := Nat.exists_eq_add_of_le (Nat.le_of_lt hlt)
    exact hbefore before (by omega) (by omega)
      ((responseAt_spanOf_iff (by omega)).mpr hother)
  · rintro ⟨hlt, hin, hat, hbefore⟩
    refine ⟨by omega, (responseAt_spanOf_iff (by omega)).mpr hat, ?_⟩
    intro before hpositive hless hother
    exact hbefore (start + before) (by omega) (by omega)
      ((responseAt_spanOf_iff (by omega)).mp hother)

/-- The exchange of a span is what its request opens. -/
theorem IsSpan.isOpenedAt (h : IsSpan members start stop) {exchange : Exchange}
    (hmade : Exchange.ofMembers (spanOf members start stop) start none = .ok exchange) :
    exchange.IsOpenedAt members start := by
  obtain ⟨member, rest, hmember, -, hspan⟩ := h.exists_spanOf_eq
  rw [hspan] at hmade
  obtain ⟨pair, request, hpair, hhttp, -, rfl⟩ := Exchange.ofMembers_eq_ok_iff.mp hmade
  rw [← hspan]
  refine ⟨rfl, ⟨member, hmember, hhttp, hpair⟩, ⟨stop, h, rfl, ?_⟩, ?_⟩
  · intro position
    rw [Exchange.responseIndex?, Option.map_eq_some_iff]
    constructor
    · rintro ⟨offset, hfound, rfl⟩
      rw [Nat.add_comm]
      exact h.firstResponse_spanOf_iff.mp hfound
    · intro hfirst
      obtain ⟨offset, rfl⟩ := Nat.exists_eq_add_of_le (Nat.le_of_lt hfirst.start_lt)
      exact ⟨offset, h.firstResponse_spanOf_iff.mpr hfirst, Nat.add_comm _ _⟩
  · rw [Exchange.response?, Exchange.responsePacket?, Exchange.responseIndex?]
    cases hfound : Exchange.firstResponse (spanOf members start stop) with
    | none => rfl
    | some offset =>
      have hfirst := h.firstResponse_spanOf_iff.mp hfound
      have hlt := hfirst.lt_stop
      simp only [Option.bind_some, Option.map_some]
      rw [getElem?_spanOf (by omega), Nat.add_comm, Option.bind_map]
      rfl

/-! ## The table of exchanges -/

/-- The exchange that is made of a span, if there is one. -/
def made (entry : Nat × List Member) : Except FlowError Exchange :=
  Exchange.ofMembers entry.2 entry.1 none

/-- The table with the exchange of one more span. -/
def enter (table : Table String Exchange) (entry : Nat × List Member) :
    Table String Exchange :=
  match made entry with
  | .ok exchange => table.insert exchange.request.uri exchange
  | .error _ => table

/-- The spans of a sequence are entered one after the other. -/
theorem exchanges_eq_foldl (members : List Member) :
    exchanges members = (spans 0 members).foldl enter [] :=
  rfl

/-- An exchange is that of the last one of some spans which gives one for a target. -/
def IsLastIn (seen : List (Nat × List Member)) (uri : String) (exchange : Exchange) : Prop :=
  ∃ entry ∈ seen, made entry = .ok exchange ∧ exchange.request.uri = uri ∧
    ∀ later ∈ seen, entry.1 < later.1 → ∀ other, made later = .ok other →
      other.request.uri ≠ uri

/-- What a table holds after some spans: under each target the exchange of the last span that
gives one for it. -/
structure HoldsLast (seen : List (Nat × List Member)) (table : Table String Exchange) :
    Prop where
  /-- The targets increase. -/
  increasing : table.Increasing
  /-- Under a target stands an exchange that no later span replaces. -/
  find?_iff : ∀ uri exchange, table.find? uri = some exchange ↔ IsLastIn seen uri exchange
  /-- No target of an exchange is left out. -/
  isSome_find? : ∀ entry ∈ seen, ∀ exchange, made entry = .ok exchange →
    (table.find? exchange.request.uri).isSome = true

/-- A table without spans holds nothing. -/
theorem holdsLast_nil : HoldsLast [] [] where
  increasing := Table.increasing_nil
  find?_iff uri exchange := by simp [Table.find?, IsLastIn]
  isSome_find? entry h := nomatch h

section

variable {seen : List (Nat × List Member)} {entry : Nat × List Member}

/-- A further span that gives nothing for a target leaves the last one for it. -/
theorem isLastIn_append_of_ne {uri : String} {exchange : Exchange}
    (hother : ∀ other, made entry = .ok other → other.request.uri ≠ uri) :
    IsLastIn (seen ++ [entry]) uri exchange ↔ IsLastIn seen uri exchange := by
  constructor
  · rintro ⟨earlier, hearlier, hmade, huri, hreplaced⟩
    rcases List.mem_append.mp hearlier with hseen | hself
    · refine ⟨earlier, hseen, hmade, huri, ?_⟩
      intro later hlater
      exact hreplaced later (List.mem_append_left _ hlater)
    · rw [List.mem_singleton.mp hself] at hmade
      exact absurd huri (hother exchange hmade)
  · rintro ⟨earlier, hearlier, hmade, huri, hreplaced⟩
    refine ⟨earlier, List.mem_append_left _ hearlier, hmade, huri, ?_⟩
    intro later hlater hlt other hmadeLater
    rcases List.mem_append.mp hlater with hseen | hself
    · exact hreplaced later hseen hlt other hmadeLater
    · rw [List.mem_singleton.mp hself] at hmadeLater
      exact hother other hmadeLater

variable (hbehind : ∀ earlier ∈ seen, earlier.1 < entry.1)

include hbehind

/-- A further span behind the others is the last one for its target. -/
theorem isLastIn_append_self {new exchange : Exchange} (hentry : made entry = .ok new) :
    IsLastIn (seen ++ [entry]) new.request.uri exchange ↔ exchange = new := by
  have hmem : entry ∈ seen ++ [entry] := List.mem_append_right _ (List.mem_singleton.mpr rfl)
  constructor
  · rintro ⟨earlier, hearlier, hmade, -, hreplaced⟩
    rcases List.mem_append.mp hearlier with hseen | hself
    · exact absurd rfl (hreplaced entry hmem (hbehind earlier hseen) new hentry)
    · rw [List.mem_singleton.mp hself, hentry] at hmade
      exact (Except.ok.inj hmade).symm
  · rintro rfl
    refine ⟨entry, hmem, hentry, rfl, ?_⟩
    -- no span stands behind it
    intro later hlater hlt
    rcases List.mem_append.mp hlater with hseen | hself
    · exact absurd hlt (Nat.lt_asymm (hbehind later hseen))
    · rw [List.mem_singleton.mp hself] at hlt
      exact absurd hlt (Nat.lt_irrefl _)

/-- A further span behind the others takes the place of those with its target. -/
theorem HoldsLast.enter {table : Table String Exchange} (h : HoldsLast seen table) :
    HoldsLast (seen ++ [entry]) (Http.enter table entry) := by
  unfold Http.enter
  cases hentry : made entry with
  | error error =>
    have hnone : ∀ other, made entry ≠ .ok other := by
      intro other hmade
      rw [hentry] at hmade
      cases hmade
    refine ⟨h.increasing, ?_, ?_⟩
    · intro uri exchange
      rw [isLastIn_append_of_ne fun other hmade => absurd hmade (hnone other)]
      exact h.find?_iff uri exchange
    · intro earlier hearlier exchange hmade
      rcases List.mem_append.mp hearlier with hseen | hself
      · exact h.isSome_find? earlier hseen exchange hmade
      · rw [List.mem_singleton.mp hself] at hmade
        exact absurd hmade (hnone exchange)
  | ok new =>
    have hself : (table.insert new.request.uri new).find? new.request.uri = some new :=
      Table.find?_update_self h.increasing _ _ _
    have hothers : ∀ uri, uri ≠ new.request.uri →
        (table.insert new.request.uri new).find? uri = table.find? uri :=
      fun uri hne => Table.find?_update_of_ne table hne _ _
    refine ⟨Table.increasing_update h.increasing _ _ _, ?_, ?_⟩
    · intro uri exchange
      dsimp only
      by_cases huri : uri = new.request.uri
      · rw [huri, hself, isLastIn_append_self hbehind hentry, Option.some.injEq, eq_comm]
      · have hother : ∀ other, made entry = .ok other → other.request.uri ≠ uri := by
          intro other hmade
          rw [hentry] at hmade
          cases hmade
          exact Ne.symm huri
        rw [hothers uri huri, isLastIn_append_of_ne hother]
        exact h.find?_iff uri exchange
    · intro earlier hearlier exchange hmade
      dsimp only
      by_cases huri : exchange.request.uri = new.request.uri
      · rw [huri, hself]
        rfl
      · rw [hothers _ huri]
        rcases List.mem_append.mp hearlier with hseen | hentryItself
        · exact h.isSome_find? earlier hseen exchange hmade
        · rw [List.mem_singleton.mp hentryItself, hentry] at hmade
          cases hmade
          exact absurd rfl huri

end

/-- Spans that are entered in their order are held as the last ones for their targets. -/
theorem holdsLast_foldl {seen : List (Nat × List Member)}
    (h : seen.Pairwise fun earlier later => earlier.1 < later.1) :
    HoldsLast seen (seen.foldl enter []) := by
  induction seen using List.reverseRecOn with
  | nil => exact holdsLast_nil
  | append_singleton seen entry ih =>
    obtain ⟨hseen, -, hbehind⟩ := List.pairwise_append.mp h
    rw [List.foldl_append, List.foldl_cons, List.foldl_nil]
    apply HoldsLast.enter _ (ih hseen)
    intro earlier hearlier
    exact hbehind earlier hearlier entry (List.mem_singleton.mpr rfl)

/-! ## What the exchanges mean -/

/-- A table holds the exchanges of a sequence. -/
structure IsReconstruction (members : List Member) (table : Table String Exchange) : Prop where
  /-- The targets increase. -/
  increasing : table.Increasing
  /-- A target has an exchange if a TCP packet carries a request for it. -/
  isSome_find?_iff : ∀ uri, (table.find? uri).isSome = true ↔
    ∃ position, RequestsAt members uri position
  /-- The exchange is what the last such packet opens. -/
  isOpenedAt : ∀ uri exchange, table.find? uri = some exchange →
    RequestsAt members uri exchange.start ∧
      (∀ position, RequestsAt members uri position → position ≤ exchange.start) ∧
      exchange.IsOpenedAt members exchange.start
  /-- An exchange holds one request. -/
  countP_eq_one : ∀ uri exchange, table.find? uri = some exchange →
    exchange.members.countP (fun member => isRequest member.packet) = 1
  /-- Different exchanges have no position in common. -/
  disjoint : ∀ uri uri' exchange exchange', table.find? uri = some exchange →
    table.find? uri' = some exchange' → uri ≠ uri' →
      exchange.start + exchange.members.length ≤ exchange'.start ∨
        exchange'.start + exchange'.members.length ≤ exchange.start

/-- A request for a target is a request. -/
theorem RequestsAt.requestAt {uri : String} (h : RequestsAt members uri start) :
    RequestAt members start := by
  obtain ⟨member, request, hmember, hhttp, hrequest, -⟩ := h.exists_request
  refine ⟨member, hmember, ?_⟩
  rw [isRequest, hhttp]
  exact hrequest

/-- A packet carries a request for one target. -/
theorem RequestsAt.uri_unique {uri other : String} (h : RequestsAt members uri start)
    (hother : RequestsAt members other start) : uri = other := by
  obtain ⟨member, request, hmember, hhttp, -, huri, -⟩ := h.exists_request
  obtain ⟨member', request', hmember', hhttp', -, huri', -⟩ := hother.exists_request
  rw [hmember] at hmember'
  cases hmember'
  rw [hhttp] at hhttp'
  cases hhttp'
  exact huri.symm.trans huri'

/-- A span that is formed gives an exchange for a target if its request is one for it. -/
theorem exists_made_iff {entry : Nat × List Member} (h : entry ∈ spans 0 members)
    {uri : String} :
    (∃ exchange, made entry = .ok exchange ∧ exchange.request.uri = uri) ↔
      RequestsAt members uri entry.1 := by
  obtain ⟨stop, hspan, hmembers⟩ := exists_isSpan_of_mem_spans List.drop_zero h
  rw [made, hmembers]
  exact exists_ofMembers_iff hspan

/-- What is made of a span that is formed is opened at its position. -/
theorem isOpenedAt_of_made {entry : Nat × List Member} (h : entry ∈ spans 0 members)
    {exchange : Exchange} (hmade : made entry = .ok exchange) :
    exchange.IsOpenedAt members entry.1 := by
  obtain ⟨stop, hspan, hmembers⟩ := exists_isSpan_of_mem_spans List.drop_zero h
  rw [made, hmembers] at hmade
  exact hspan.isOpenedAt hmade

/-- A packet with a request for a target has a span formed, which gives an exchange for it. -/
theorem RequestsAt.exists_mem_spans {uri : String} (h : RequestsAt members uri start) :
    ∃ entry ∈ spans 0 members, entry.1 = start ∧
      ∃ exchange, made entry = .ok exchange ∧ exchange.request.uri = uri := by
  obtain ⟨span, hspan⟩ := Http.exists_mem_spans List.drop_zero (Nat.zero_le start) h.requestAt
  exact ⟨(start, span), hspan, rfl, (exists_made_iff hspan).mpr h⟩

/-- An exchange that is opened at a request takes the positions of its span. -/
theorem Exchange.IsOpenedAt.isSpan {exchange : Exchange}
    (h : exchange.IsOpenedAt members start) :
    IsSpan members start (start + exchange.members.length) ∧
      exchange.members = spanOf members start (start + exchange.members.length) := by
  obtain ⟨stop, hspan, hmembers, -⟩ := h.exists_stop
  have hlength := hspan.length_spanOf
  rw [← hmembers] at hlength
  have hstop : start + exchange.members.length = stop := by
    have hlt := hspan.start_lt
    omega
  rw [hstop]
  exact ⟨hspan, hmembers⟩

/-- The exchanges of a sequence are those of its requests. -/
theorem exchanges_isReconstruction (members : List Member) :
    IsReconstruction members (exchanges members) := by
  have hholds : HoldsLast (spans 0 members) (exchanges members) := by
    rw [exchanges_eq_foldl]
    exact holdsLast_foldl (pairwise_spans 0 members)
  have hopened : ∀ uri exchange, (exchanges members).find? uri = some exchange →
      RequestsAt members uri exchange.start ∧
        (∀ position, RequestsAt members uri position → position ≤ exchange.start) ∧
        exchange.IsOpenedAt members exchange.start := by
    intro uri exchange hfound
    obtain ⟨entry, hentry, hmade, huri, hreplaced⟩ := (hholds.find?_iff uri exchange).mp hfound
    have hat := isOpenedAt_of_made hentry hmade
    rw [hat.start_eq]
    refine ⟨(exists_made_iff hentry).mp ⟨exchange, hmade, huri⟩, ?_, hat⟩
    intro position hrequests
    apply Nat.le_of_not_lt
    intro hlt
    obtain ⟨later, hlater, rfl, other, hother, hsame⟩ := hrequests.exists_mem_spans
    exact hreplaced later hlater hlt other hother hsame
  refine ⟨hholds.increasing, fun uri => ⟨?_, ?_⟩, hopened, ?_, ?_⟩
  · intro hsome
    obtain ⟨exchange, hfound⟩ := Option.isSome_iff_exists.mp hsome
    exact ⟨exchange.start, (hopened uri exchange hfound).1⟩
  · rintro ⟨position, hrequests⟩
    obtain ⟨entry, hentry, -, exchange, hmade, rfl⟩ := hrequests.exists_mem_spans
    exact hholds.isSome_find? entry hentry exchange hmade
  · intro uri exchange hfound
    obtain ⟨hspan, hmembers⟩ := (hopened uri exchange hfound).2.2.isSpan
    rw [hmembers]
    exact countP_spanOf hspan
  · intro uri uri' exchange exchange' hfound hfound' hne
    obtain ⟨hrequests, -, hat⟩ := hopened uri exchange hfound
    obtain ⟨hrequests', -, hat'⟩ := hopened uri' exchange' hfound'
    rcases Nat.lt_trichotomy exchange.start exchange'.start with hlt | heq | hgt
    · exact .inl (hat.isSpan.1.stop_le_of_requestAt hrequests'.requestAt hlt)
    · rw [← heq] at hrequests'
      exact absurd (hrequests.uri_unique hrequests') hne
    · exact .inr (hat'.isSpan.1.stop_le_of_requestAt hrequests.requestAt hgt)

end CaptureFlow.Http
