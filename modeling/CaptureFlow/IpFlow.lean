import CaptureFlow.Flow.Member
import CaptureFlow.Flow.Pair
import CaptureFlow.Table

/-!
# IP flows

An IP flow holds the packets that one address sent to another, in order of
arrival, with their byte counts and their span of time.
-/

namespace CaptureFlow

/-- The packets from one address to another. -/
structure IpFlow where
  /-- The sender and the receiver. -/
  pair : AddressPair
  /-- The packets in order of arrival. -/
  members : Array Member
  /-- The time from the earliest to the latest packet. -/
  span : Option Span
  /-- The sum of the lengths on the wire. -/
  wireBytes : Nat
  /-- The sum of the lengths of the IP payloads. -/
  payloadBytes : Nat
  deriving DecidableEq

namespace IpFlow

/-- The flow of a pair without packets. -/
def empty (pair : AddressPair) : IpFlow :=
  ⟨pair, #[], none, 0, 0⟩

/-- The flow with one more packet. -/
def push (flow : IpFlow) (member : Member) : IpFlow where
  pair := flow.pair
  members := flow.members.push member
  span := some (Span.including member.packet.timestamp flow.span)
  wireBytes := flow.wireBytes + member.packet.wire.toNat
  payloadBytes := flow.payloadBytes + (member.packet.ipPayloadLength?.getD 0).toNat

/-- The flow with one more packet, which has to go the same way. -/
def add (flow : IpFlow) (member : Member) : Except FlowError IpFlow := do
  let pair ← AddressPair.ofPacket member.packet
  if pair = flow.pair then .ok (flow.push member)
  else .error (.mismatch flow.pair.text pair.text)

/-- The microseconds from the earliest to the latest packet. -/
def duration (flow : IpFlow) : Except Overflow Int64 :=
  Span.durationOf flow.span

/-- The text of a flow. -/
def text (flow : IpFlow) : Except Overflow String := do
  let duration ← flow.duration
  .ok (s!"{flow.pair.text} packets={Numeral.decimal flow.members.size} " ++
    s!"bytes={Numeral.decimal flow.wireBytes} payload={Numeral.decimal flow.payloadBytes} " ++
    s!"duration={Numeral.signed duration.toInt}us")

/-- The table with a packet added to the flow of its pair; a packet without a
network header is left out. -/
def groupStep (table : Table String IpFlow) (member : Member) : Table String IpFlow :=
  match AddressPair.ofPacket member.packet with
  | .ok pair => table.update pair.text (empty pair) (push · member)
  | .error _ => table

/-- The flows of a batch by the texts of their pairs. -/
def group (members : List Member) : Table String IpFlow :=
  members.foldl groupStep []

end IpFlow

end CaptureFlow
