import CaptureFlow.TcpFlow

/-!
# HTTP exchanges

A request opens an exchange, which runs up to the next request. The response is
the first one behind the request. Of requests with the same target the last one
counts.
-/

namespace CaptureFlow.Http

/-- Whether a packet carries a request. -/
def isRequest (packet : Packet) : Bool :=
  packet.http?.any Header.isRequest

/-- Whether a packet carries a response. -/
def isResponse (packet : Packet) : Bool :=
  packet.http?.any Header.isResponse

/-- A request with the packets that follow it. -/
structure Exchange where
  /-- The endpoints, the requesting one first. -/
  pair : EndpointPair
  /-- The request. -/
  request : Header
  /-- The packets, the request's first. -/
  members : List Member
  /-- The position of the request in the sequence it was cut from. -/
  start : Nat
  /-- The position of the response behind the request. -/
  responseOffset : Option Nat
  deriving DecidableEq

namespace Exchange

/-- The position of the first response behind the first packet. -/
def firstResponse (members : List Member) : Option Nat :=
  (members.tail.findIdx? fun member => isResponse member.packet).map (· + 1)

/-- A position behind the first packet where there is a response. -/
def hintedResponse (members : List Member) (hint : Option Nat) : Option Nat :=
  hint.filter fun i => 0 < i && (members[i]?.any fun member => isResponse member.packet)

/-- The exchange that the first packet opens. A hint that points to a response
is taken for its position. -/
def ofMembers (members : List Member) (start : Nat) (hint : Option Nat) :
    Except FlowError Exchange := do
  match members with
  | [] => .error .noPackets
  | first :: _ =>
    let pair ← EndpointPair.ofPacket first.packet
    match first.packet.http?.filter Header.isRequest with
    | none => .error .applicationMissing
    | some request =>
      .ok ⟨pair, request, members, start,
        (hintedResponse members hint).or (firstResponse members)⟩

/-- The packet with the response. -/
def responsePacket? (exchange : Exchange) : Option Packet :=
  exchange.responseOffset.bind fun i => exchange.members[i]?.map Member.packet

/-- The response. -/
def response? (exchange : Exchange) : Option Header :=
  exchange.responsePacket?.bind Packet.http?

/-- The position of the response in the sequence the exchange was cut from. -/
def responseIndex? (exchange : Exchange) : Option Nat :=
  exchange.responseOffset.map (· + exchange.start)

/-- Whether there is a response. -/
def isComplete (exchange : Exchange) : Bool :=
  exchange.response?.isSome

/-- The microseconds from the request to the response. -/
def responseTime? (exchange : Exchange) : Except Overflow (Option Int64) :=
  match exchange.members.head?, exchange.responsePacket? with
  | some request, some response =>
    (Timestamp.elapsed request.packet.timestamp response.timestamp).map some
  | _, _ => .ok none

/-- Without a response there is no time of it. -/
theorem responseTime?_of_eq_none {exchange : Exchange} (h : exchange.responsePacket? = none) :
    exchange.responseTime? = .ok none := by
  rw [responseTime?, h]
  cases exchange.members.head? <;> rfl

/-- Its time is the one from the first packet. -/
theorem responseTime?_of_eq_some {exchange : Exchange} {request : Member} {response : Packet}
    (hrequest : exchange.members.head? = some request)
    (hresponse : exchange.responsePacket? = some response) :
    exchange.responseTime? =
      (Timestamp.elapsed request.packet.timestamp response.timestamp).map some := by
  rw [responseTime?, hrequest, hresponse]

/-- The TCP flow of the packets. -/
def flow (exchange : Exchange) : TcpFlow :=
  TcpFlow.ofMembers exchange.pair exchange.members

end Exchange

/-- The requests of a sequence by position, each with the packets up to the
next one. -/
def spans : (position : Nat) → List Member → List (Nat × List Member)
  | _, [] => []
  | position, member :: rest =>
    if isRequest member.packet then
      (position, member :: rest.takeWhile fun next => !isRequest next.packet) ::
        spans (position + 1) rest
    else spans (position + 1) rest

/-- The exchanges of a sequence by request target; one that is no TCP packet is
left out. -/
def exchanges (members : List Member) : Table String Exchange :=
  (spans 0 members).foldl (fun table (position, span) =>
    match Exchange.ofMembers span position none with
    | .ok exchange => table.insert exchange.request.uri exchange
    | .error _ => table) []

end CaptureFlow.Http
