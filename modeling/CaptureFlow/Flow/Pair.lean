import CaptureFlow.Flow.Fault
import CaptureFlow.Packet

/-!
# Pairs of addresses and endpoints

A pair names one direction of a flow: who sends and who receives. The reversed
pair names the other direction. A pair of endpoints can be turned so that the
side with the server's port comes first.
-/

namespace CaptureFlow

/-- Sender and receiver of a datagram. -/
structure AddressPair where
  /-- The address of the sender. -/
  source : IpAddress
  /-- The address of the receiver. -/
  destination : IpAddress
  deriving DecidableEq

namespace AddressPair

/-- The pair of a packet's network header. -/
def ofPacket (packet : Packet) : Except FlowError AddressPair :=
  match packet.network? with
  | some network => .ok ⟨network.source, network.destination⟩
  | none => .error .networkMissing

/-- The pair of the other direction. -/
def reversed (pair : AddressPair) : AddressPair :=
  ⟨pair.destination, pair.source⟩

/-- Reversing twice gives the pair back. -/
@[simp] theorem reversed_reversed (pair : AddressPair) : pair.reversed.reversed = pair := rfl

/-- Whether another pair is this one reversed. -/
def isReverseOf (pair other : AddressPair) : Bool :=
  pair.source = other.destination && pair.destination = other.source

/-- The text of a pair. -/
def text (pair : AddressPair) : String :=
  s!"{pair.source.text}->{pair.destination.text}"

end AddressPair

/-- Sender and receiver of a segment. -/
structure EndpointPair where
  /-- The endpoint of the sender. -/
  source : Endpoint
  /-- The endpoint of the receiver. -/
  destination : Endpoint
  deriving DecidableEq

namespace EndpointPair

/-- The pair of a packet's network and TCP headers. -/
def ofPacket (packet : Packet) : Except FlowError EndpointPair :=
  match packet.network?, packet.tcp? with
  | some network, some tcp =>
    .ok ⟨⟨network.source, tcp.sourcePort⟩, ⟨network.destination, tcp.destinationPort⟩⟩
  | none, _ => .error .networkMissing
  | some _, none => .error .transportMissing

/-- The pair of the other direction. -/
def reversed (pair : EndpointPair) : EndpointPair :=
  ⟨pair.destination, pair.source⟩

/-- Reversing twice gives the pair back. -/
@[simp] theorem reversed_reversed (pair : EndpointPair) : pair.reversed.reversed = pair := rfl

/-- Whether another pair is this one reversed. -/
def isReverseOf (pair other : EndpointPair) : Bool :=
  pair.source = other.destination && pair.destination = other.source

/-- The only pair that reverses another one is its reversed pair. -/
theorem isReverseOf_iff {pair other : EndpointPair} :
    pair.isReverseOf other ↔ other = pair.reversed := by
  cases pair with
  | mk source destination =>
    cases other
    grind [isReverseOf, reversed]

/-- Whether two pairs name the same connection, in either direction. -/
def sameConnection (pair other : EndpointPair) : Bool :=
  pair = other || pair.isReverseOf other

/-- The pair or its reverse, so that the side that uses a port comes first. -/
def serverFirst (port : UInt16) (pair : EndpointPair) : Except FlowError EndpointPair :=
  if pair.source.port = port then
    if pair.destination.port = port then .error (.portOnBoth port) else .ok pair
  else if pair.destination.port = port then .ok pair.reversed
  else .error (.portOnNeither port)

/-- The text of a pair. -/
def text (pair : EndpointPair) : String :=
  s!"{pair.source.text}<->{pair.destination.text}"

end EndpointPair

end CaptureFlow
