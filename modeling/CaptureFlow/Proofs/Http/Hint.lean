import CaptureFlow.Proofs.Http.Exchange
import CaptureFlow.Proofs.TcpFlow.Accounting

/-!
# Hints for responses

The exchange that a request opens can be made with a hint for the position of its response.
The hint is taken where there is a response behind the request, and passed over anywhere else.
So it spares the search for the first response and changes nothing but the position; and an
exchange of a sequence is had again from its own span and position. The time of a response is
told with its position, unless it does not fit in 64 bits.
-/

namespace CaptureFlow.Http

namespace Exchange

/-- What hints mean for the exchanges that some packets open. -/
structure TakesHints (members : List Member) : Prop where
  /-- With a hint there is no exchange for the same reason as without one. -/
  error_iff : ∀ hint reason,
    ofMembers members 0 (some hint) = .error reason ↔ ofMembers members 0 none = .error reason
  /-- Else a hint changes nothing but the position of the response, which is the hint if there
  is a response behind the first packet. -/
  hinted : ∀ hint plain, ofMembers members 0 none = .ok plain →
    ∃ exchange, ofMembers members 0 (some hint) = .ok exchange ∧
      exchange.pair = plain.pair ∧ exchange.request = plain.request ∧
      exchange.members = members ∧ plain.members = members ∧
      (0 < hint ∧ ResponseAt members hint → exchange.responseIndex? = some hint) ∧
      (¬(0 < hint ∧ ResponseAt members hint) →
        exchange.responseIndex? = plain.responseIndex?)
  /-- The position and the response are told together, or neither of them is. Where they are not,
  there is no time of the response. Where they are, there is one, unless the time from the request
  to the response overflows. -/
  together : ∀ start hint exchange, ofMembers members start hint = .ok exchange →
    exchange.response?.isSome = exchange.responseIndex?.isSome ∧
      (exchange.responseTime? = .ok none ↔ exchange.responseIndex? = none) ∧
      (exchange.responseTime? = .error .elapsed ↔ ∃ request response,
        exchange.members.head? = some request ∧ exchange.responsePacket? = some response ∧
          ¬Timestamp.ElapsedFits request.packet.timestamp response.timestamp)
  /-- An exchange of the sequence is had again from its own packets, with its own position of
  the response as the hint. -/
  again : ∀ uri exchange, (exchanges members).find? uri = some exchange →
    ∃ same, ofMembers exchange.members 0
        (exchange.responseIndex?.map (· - exchange.start)) = .ok same ∧
      same.request = exchange.request ∧ same.response? = exchange.response? ∧
      same.pair = exchange.pair

variable {members : List Member} {start : Nat} {hint : Option Nat} {exchange : Exchange}

/-- What an exchange is made of does not hang on its start and the hint, but for the position of
its response. -/
theorem ofMembers_eq_map (members : List Member) (start : Nat) (hint : Option Nat) :
    ofMembers members start hint = (ofMembers members 0 none).map fun plain =>
      { plain with
        start
        responseOffset := (hintedResponse members hint).or plain.responseOffset } := by
  cases members with
  | nil => rfl
  | cons first rest =>
    rw [ofMembers, ofMembers]
    cases EndpointPair.ofPacket first.packet with
    | error reason => rfl
    | ok pair =>
      cases hrequest : first.packet.http?.filter Header.isRequest with
      | none => rfl
      | some request => rfl

/-- An exchange is the one without a hint, but for its start and the position of its response. -/
theorem exists_plain (h : ofMembers members start hint = .ok exchange) :
    ∃ plain, ofMembers members 0 none = .ok plain ∧ exchange =
      { plain with
        start
        responseOffset := (hintedResponse members hint).or plain.responseOffset } := by
  rw [ofMembers_eq_map] at h
  cases hplain : ofMembers members 0 none with
  | error reason =>
    rw [hplain] at h
    cases h
  | ok plain =>
    rw [hplain] at h
    exact ⟨plain, rfl, (Except.ok.inj h).symm⟩

/-- A hint is taken where there is a response behind the first packet. -/
theorem hintedResponse_eq_some_iff {position : Nat} :
    hintedResponse members hint = some position ↔
      hint = some position ∧ 0 < position ∧ ResponseAt members position := by
  have hat : (members[position]?.any fun member => isResponse member.packet) = true ↔
      ResponseAt members position := by
    rw [Option.any_eq_true, ResponseAt]
  rw [hintedResponse, Option.filter_eq_some_iff, Bool.and_eq_true, decide_eq_true_eq, hat]

/-- Any other hint is passed over. -/
theorem hintedResponse_eq_none {position : Nat}
    (h : ¬(0 < position ∧ ResponseAt members position)) :
    hintedResponse members (some position) = none := by
  apply Option.eq_none_iff_forall_ne_some.mpr
  intro taken htaken
  obtain ⟨hhint, hresponse⟩ := hintedResponse_eq_some_iff.mp htaken
  rw [Option.some.inj hhint] at h
  exact h hresponse

/-- A hint that is taken is the position that it tells. -/
theorem hintedResponse_or_self (members : List Member) (hint : Option Nat) :
    (hintedResponse members hint).or hint = hint := by
  cases hfound : hintedResponse members hint with
  | none => rfl
  | some position => exact (hintedResponse_eq_some_iff.mp hfound).1.symm

/-- An exchange has the packets and the start that it was made of, and a response stands at the
position that it tells. -/
theorem responseAt_of_ofMembers (h : ofMembers members start hint = .ok exchange) :
    exchange.members = members ∧ exchange.start = start ∧
      ∀ position, exchange.responseOffset = some position → ResponseAt members position := by
  obtain ⟨plain, hplain, rfl⟩ := exists_plain h
  cases members with
  | nil => cases hplain
  | cons first rest =>
    obtain ⟨pair, request, -, -, -, rfl⟩ := ofMembers_eq_ok_iff.mp hplain
    refine ⟨rfl, rfl, fun position hposition => ?_⟩
    rcases Option.or_eq_some_iff.mp hposition with hhinted | ⟨-, hfirst⟩
    · exact (hintedResponse_eq_some_iff.mp hhinted).2.2
    · exact (firstResponse_eq_some_iff.mp hfirst).2.1

/-- An exchange that is made without a hint is had again with its own position of the response
as the hint. -/
theorem ofMembers_again (h : ofMembers members start none = .ok exchange) :
    ofMembers members 0 exchange.responseOffset = .ok { exchange with start := 0 } := by
  obtain ⟨plain, hplain, rfl⟩ := exists_plain h
  have hsame := hintedResponse_or_self members plain.responseOffset
  rw [ofMembers_eq_map, hplain]
  exact congrArg (fun responseOffset => Except.ok { plain with start := 0, responseOffset }) hsame

/-! ## Times of responses -/

/-- Where there is the packet of a response, the time of it is the one from the first packet. -/
theorem exists_of_responsePacket? {response : Packet}
    (h : exchange.responsePacket? = some response) :
    ∃ request, exchange.members.head? = some request ∧ exchange.responseTime? =
      (Timestamp.elapsed request.packet.timestamp response.timestamp).map some := by
  cases hmembers : exchange.members with
  | nil => simp [responsePacket?, hmembers] at h
  | cons request rest =>
    have hrequest : exchange.members.head? = some request := by rw [hmembers, List.head?_cons]
    exact ⟨request, rfl, responseTime?_of_eq_some hrequest h⟩

/-- There is no time of a response just if there is no packet with it. -/
theorem responseTime?_eq_ok_none_iff :
    exchange.responseTime? = .ok none ↔ exchange.responsePacket? = none := by
  refine ⟨fun h => ?_, responseTime?_of_eq_none⟩
  cases hresponse : exchange.responsePacket? with
  | none => rfl
  | some response =>
    obtain ⟨request, -, htime⟩ := exists_of_responsePacket? hresponse
    rw [htime] at h
    generalize Timestamp.elapsed request.packet.timestamp response.timestamp = told at h
    cases told with
    | error overflow => cases h
    | ok time => cases h

/-- It overflows just if the time from the first packet to the one with the response does not
fit. -/
theorem responseTime?_eq_error_iff : exchange.responseTime? = .error .elapsed ↔
    ∃ request response, exchange.members.head? = some request ∧
      exchange.responsePacket? = some response ∧
        ¬Timestamp.ElapsedFits request.packet.timestamp response.timestamp := by
  have herror : ∀ told : Except Overflow Int64,
      told.map some = .error .elapsed ↔ told = .error .elapsed := by
    intro told
    cases told <;> simp [Except.map]
  constructor
  · intro h
    cases hresponse : exchange.responsePacket? with
    | none =>
      rw [responseTime?_of_eq_none hresponse] at h
      cases h
    | some response =>
      obtain ⟨request, hrequest, htime⟩ := exists_of_responsePacket? hresponse
      rw [htime, herror] at h
      exact ⟨request, response, hrequest, rfl, Timestamp.elapsed_eq_error_iff.mp h⟩
  · rintro ⟨request, response, hrequest, hresponse, hnot⟩
    rw [responseTime?_of_eq_some hrequest hresponse, herror]
    exact Timestamp.elapsed_eq_error_iff.mpr hnot

/-- The position of a response is told just if there is a packet with it, and its header with
them. -/
theorem isSome_of_ofMembers (h : ofMembers members start hint = .ok exchange) :
    exchange.response?.isSome = exchange.responseIndex?.isSome ∧
      exchange.responsePacket?.isSome = exchange.responseIndex?.isSome := by
  obtain ⟨hmembers, -, hresponse⟩ := responseAt_of_ofMembers h
  rw [responseIndex?, Option.isSome_map, response?, responsePacket?]
  cases hposition : exchange.responseOffset with
  | none => exact ⟨rfl, rfl⟩
  | some position =>
    obtain ⟨member, hmember, hheader⟩ := hresponse position hposition
    rw [Option.bind_some, hmembers, hmember, Option.map_some, Option.bind_some]
    rw [isResponse] at hheader
    cases hhttp : member.packet.http? with
    | none =>
      rw [hhttp] at hheader
      cases hheader
    | some header => exact ⟨rfl, rfl⟩

/-- The position of a response among all packets is counted from the start of the exchange. -/
theorem responseIndex?_map_sub (exchange : Exchange) :
    exchange.responseIndex?.map (· - exchange.start) = exchange.responseOffset := by
  rw [responseIndex?]
  cases exchange.responseOffset with
  | none => rfl
  | some offset => exact congrArg some (Nat.add_sub_cancel_right offset exchange.start)

end Exchange

/-- An exchange of a sequence is made of one of the spans. -/
theorem exists_made_of_find? {members : List Member} {uri : String} {exchange : Exchange}
    (h : (exchanges members).find? uri = some exchange) :
    ∃ entry, made entry = .ok exchange := by
  have hholds := holdsLast_foldl (pairwise_spans 0 members)
  rw [exchanges_eq_foldl] at h
  obtain ⟨entry, -, hmade, -⟩ := (hholds.find?_iff uri exchange).mp h
  exact ⟨entry, hmade⟩

namespace Exchange

/-- A hint for the response of some packets spares the search for it, and changes nothing else. -/
theorem ofMembers_takesHints (members : List Member) : TakesHints members where
  error_iff hint reason := by
    rw [ofMembers_eq_map]
    cases ofMembers members 0 none with
    | error other => rfl
    | ok plain => exact ⟨nofun, nofun⟩
  hinted hint plain hplain := by
    have hexchange := ofMembers_eq_map members 0 (some hint)
    rw [hplain] at hexchange
    obtain ⟨hmembers, hstart, -⟩ := responseAt_of_ofMembers hplain
    refine ⟨_, hexchange, rfl, rfl, hmembers, hmembers, fun hresponse => ?_, fun hnone => ?_⟩
    · have htaken : hintedResponse members (some hint) = some hint :=
        hintedResponse_eq_some_iff.mpr ⟨rfl, hresponse⟩
      simp only [responseIndex?, htaken, Option.some_or, Option.map_some, Nat.add_zero]
    · simp only [responseIndex?, hintedResponse_eq_none hnone, Option.none_or, hstart]
  together start hint exchange h := by
    obtain ⟨hresponse, hpacket⟩ := isSome_of_ofMembers h
    have hnone : exchange.responsePacket? = none ↔ exchange.responseIndex? = none := by
      rw [← Option.isNone_iff_eq_none, ← Option.isNone_iff_eq_none, ← Option.not_isSome,
        ← Option.not_isSome, hpacket]
    exact ⟨hresponse, responseTime?_eq_ok_none_iff.trans hnone, responseTime?_eq_error_iff⟩
  again uri exchange h := by
    obtain ⟨⟨position, span⟩, hmade⟩ := exists_made_of_find? h
    obtain ⟨hmembers, -, -⟩ := responseAt_of_ofMembers hmade
    rw [hmembers, responseIndex?_map_sub]
    exact ⟨_, ofMembers_again hmade, rfl, rfl, rfl⟩

/-- A request from before 1970, and its response at the latest time that there is. -/
def distantAnswer : List Member :=
  let request := Health.retransmissionPacket ⟨10, 0, 0, 2⟩ ⟨10, 0, 0, 1⟩ 51000 80 1 5 27
  let response := Health.retransmissionPacket ⟨10, 0, 0, 1⟩ ⟨10, 0, 0, 2⟩ 80 51000 5 28 38
  Member.ofBatch [
    { request with
      timestamp := -1
      headers := request.headers ++ [.http (.request "GET" "/" 1)] },
    { response with
      timestamp := Int64.maxValue
      headers := response.headers ++ [.http (.response 200 (some "OK") 1)] }]

/-- The response is found, with a hint and without one, and its header as well. There is no time
of it, as the microseconds between the two packets do not fit in 64 bits. -/
theorem distantAnswer_untimed : ∃ exchange,
    ofMembers distantAnswer 0 (some 1) = .ok exchange ∧
      ofMembers distantAnswer 0 none = .ok exchange ∧ exchange.responseIndex? = some 1 ∧
      exchange.response? = some (.response 200 (some "OK") 1) ∧
      exchange.responseTime? = .error .elapsed :=
  ⟨_, rfl, rfl, by decide, by decide, by decide⟩

end Exchange

end CaptureFlow.Http
