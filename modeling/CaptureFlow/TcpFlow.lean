import CaptureFlow.Flow.Member
import CaptureFlow.Flow.Pair
import CaptureFlow.Table

/-!
# TCP flows

A TCP flow holds the packets of one connection, all of them in order of arrival
and those of each direction apart. A direction knows its earliest segment and
finds its segments by sequence number.
-/

namespace CaptureFlow

/-- The side that sent a packet. -/
inductive Direction where
  /-- The first endpoint of the flow's pair. -/
  | forward
  /-- The second endpoint of the flow's pair. -/
  | reverse
  deriving DecidableEq, Repr

/-- The other side. -/
def Direction.opposite : Direction → Direction
  | forward => reverse
  | reverse => forward

/-- The other side of the other side is the side itself. -/
@[simp] theorem Direction.opposite_opposite (direction : Direction) :
    direction.opposite.opposite = direction := by
  cases direction <;> rfl

/-- The earliest segment of a direction. -/
structure FirstSegment where
  /-- When it was captured. -/
  timestamp : Timestamp
  /-- Its sequence number. -/
  seq : UInt32
  /-- Its acknowledgement number. -/
  ack : UInt32
  deriving DecidableEq

/-- The packets of one direction of a connection. -/
structure FlowSide where
  /-- The packets in order of arrival. -/
  members : Array Member := #[]
  /-- The latest packet with each sequence number. -/
  bySeq : Table UInt32 Member := []
  /-- The segment with the earliest timestamp, the first of several. -/
  first : Option FirstSegment := none
  /-- The sum of the lengths of the TCP payloads. -/
  payloadBytes : Nat := 0
  /-- The sum of the lengths of the IP payloads. -/
  ipPayloadBytes : Nat := 0
  /-- The sum of the lengths on the wire. -/
  wireBytes : Nat := 0
  deriving DecidableEq

/-- The side with one more packet, whose TCP header is given. -/
def FlowSide.push (side : FlowSide) (member : Member) (tcp : Tcp.Header) : FlowSide :=
  let packet := member.packet
  let earlier := match side.first with
    | none => true
    | some first => packet.timestamp < first.timestamp
  { members := side.members.push member
    bySeq := side.bySeq.insert tcp.seq member
    first := if earlier then some ⟨packet.timestamp, tcp.seq, tcp.ack⟩ else side.first
    payloadBytes := side.payloadBytes + (packet.payloadLength?.getD 0).toNat
    ipPayloadBytes := side.ipPayloadBytes + (packet.ipPayloadLength?.getD 0).toNat
    wireBytes := side.wireBytes + packet.wire.toNat }

/-- The packets of one connection. -/
structure TcpFlow where
  /-- The endpoints; the first one sends forward. -/
  pair : EndpointPair
  /-- The packets in order of arrival. -/
  members : Array Member
  /-- The packets sent by the first endpoint. -/
  forward : FlowSide
  /-- The packets sent by the second endpoint. -/
  reverse : FlowSide
  /-- The time from the earliest to the latest packet. -/
  span : Option Span
  deriving DecidableEq

namespace TcpFlow

/-- The flow of a pair without packets. -/
def empty (pair : EndpointPair) : TcpFlow :=
  ⟨pair, #[], {}, {}, none⟩

/-- The packets of a direction. -/
def side (flow : TcpFlow) : Direction → FlowSide
  | .forward => flow.forward
  | .reverse => flow.reverse

/-- The direction in which a packet of the connection goes. -/
def directionOf (flow : TcpFlow) (packet : Packet) : Except FlowError Direction := do
  let pair ← EndpointPair.ofPacket packet
  if pair = flow.pair then .ok .forward
  else if pair.isReverseOf flow.pair then .ok .reverse
  else .error (.mismatch flow.pair.text pair.text)

/-- The flow with one more packet in a direction, whose TCP header is given. -/
def push (flow : TcpFlow) (direction : Direction) (member : Member) (tcp : Tcp.Header) :
    TcpFlow where
  pair := flow.pair
  members := flow.members.push member
  forward := if direction = .forward then flow.forward.push member tcp else flow.forward
  reverse := if direction = .reverse then flow.reverse.push member tcp else flow.reverse
  span := some (Span.including member.packet.timestamp flow.span)

/-- The flow with one more packet of the connection, and its direction. -/
def add (flow : TcpFlow) (member : Member) : Except FlowError (Direction × TcpFlow) := do
  let direction ← flow.directionOf member.packet
  match member.packet.tcp? with
  | some tcp => .ok (direction, flow.push direction member tcp)
  | none => .error .transportMissing

/-- The flow with one more packet if that belongs to the connection. -/
def addIfMember (flow : TcpFlow) (member : Member) : TcpFlow :=
  match flow.add member with
  | .ok (_, flow) => flow
  | .error _ => flow

/-- The flow of a pair with those packets that belong to its connection. -/
def ofMembers (pair : EndpointPair) (members : List Member) : TcpFlow :=
  members.foldl addIfMember (empty pair)

/-- The microseconds from the earliest to the latest packet. -/
def duration (flow : TcpFlow) : Except Overflow Int64 :=
  Span.durationOf flow.span

/-- The text of a flow. -/
def text (flow : TcpFlow) : Except Overflow String := do
  let n := Numeral.decimal
  let duration ← flow.duration
  .ok (s!"{flow.pair.text} packets={n flow.members.size} " ++
    s!"(fwd {n flow.forward.members.size} / rev {n flow.reverse.members.size}) " ++
    s!"payload={n flow.forward.payloadBytes}/{n flow.reverse.payloadBytes} " ++
    s!"duration={Numeral.signed duration.toInt}us")

/-- The table with a packet added to the flow of its connection; a packet that
is not TCP, or does not tell the server's side, is left out. -/
def groupStep (port : UInt16) (table : Table String TcpFlow) (member : Member) :
    Table String TcpFlow :=
  match (EndpointPair.ofPacket member.packet).bind (EndpointPair.serverFirst port) with
  | .ok pair => table.update pair.text (empty pair) (addIfMember · member)
  | .error _ => table

/-- The flows of a batch by the texts of their pairs, the endpoint with the
server's port first. -/
def group (port : UInt16) (members : List Member) : Table String TcpFlow :=
  members.foldl (groupStep port) []

end TcpFlow

end CaptureFlow
