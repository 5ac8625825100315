import CaptureFlow.Header.Cooked
import CaptureFlow.Header.Ethernet
import CaptureFlow.Header.Ipv4
import CaptureFlow.Header.Ipv6
import CaptureFlow.Header.Tcp
import CaptureFlow.Header.Udp
import CaptureFlow.Http.Header

/-!
# Headers of all layers

A packet has at most one header per layer in practice: framing, internet
protocol, transport, and application. Flows look at the network and transport
headers through views that do not tell the protocols apart.
-/

namespace CaptureFlow

/-- The layers of a packet, innermost last. -/
inductive Layer where
  /-- The framing. -/
  | link
  /-- The internet protocol. -/
  | network
  /-- The transport. -/
  | transport
  /-- The application. -/
  | application
  deriving DecidableEq, Repr

/-- The position of a layer's header in a packet. -/
def Layer.index : Layer → Nat
  | link => 0
  | network => 1
  | transport => 2
  | application => 3

/-- A header of any layer. -/
inductive Header where
  /-- Ethernet framing. -/
  | ethernet (header : Ethernet.Header)
  /-- Cooked framing. -/
  | cooked (header : Cooked.Header)
  /-- An IPv4 header. -/
  | ipv4 (header : Ipv4.Header)
  /-- An IPv6 header. -/
  | ipv6 (header : Ipv6.Header)
  /-- A TCP header. -/
  | tcp (header : Tcp.Header)
  /-- A UDP header. -/
  | udp (header : Udp.Header)
  /-- The head of an HTTP message. -/
  | http (header : Http.Header)
  deriving DecidableEq

/-- What a network header says about its datagram. -/
structure Network where
  /-- The address of the sender. -/
  source : IpAddress
  /-- The address of the receiver. -/
  destination : IpAddress
  /-- The protocol of what follows. -/
  protocol : UInt8
  /-- The length of what follows. -/
  payloadLength : UInt16
  deriving DecidableEq

namespace Header

/-- The layer of a header. -/
def layer : Header → Layer
  | ethernet _ | cooked _ => .link
  | ipv4 _ | ipv6 _ => .network
  | tcp _ | udp _ => .transport
  | http _ => .application

/-- The name of the kind of header. -/
def name : Header → String
  | ethernet _ => "ethernet"
  | cooked _ => "linux_sll"
  | ipv4 _ => "ipv4"
  | ipv6 _ => "ipv6"
  | tcp _ => "tcp"
  | udp _ => "udp"
  | http _ => "http"

/-- The report of a header. -/
def report : Header → Report
  | ethernet header => header.report
  | cooked header => header.report
  | ipv4 header => header.report
  | ipv6 header => header.report
  | tcp header => header.report
  | udp header => header.report
  | http header => header.report

/-- The view of a network header. -/
def network? : Header → Option Network
  | ipv4 header =>
    some ⟨.v4 header.source, .v4 header.destination, header.protocol, header.payloadLength⟩
  | ipv6 header =>
    some ⟨.v6 header.source, .v6 header.destination, header.nextHeader, header.payloadLength⟩
  | _ => none

/-- The ports of a transport header, the sender's first. -/
def ports? : Header → Option (UInt16 × UInt16)
  | tcp header => some (header.sourcePort, header.destinationPort)
  | udp header => some (header.sourcePort, header.destinationPort)
  | _ => none

/-- The length of what follows a transport header in an IP payload. -/
def payloadLength? (ipPayload : UInt16) : Header → Option UInt16
  | tcp header => some (header.payloadLength ipPayload)
  | udp header => some (header.payloadLength ipPayload)
  | _ => none

end Header

end CaptureFlow
