import CaptureFlow.Header
import CaptureFlow.Time.Timestamp

/-!
# Packets

A packet is what a frame was decoded to: when and how much of it was captured,
and its headers in order. The position of a header tells its layer, so a packet
whose headers stand elsewhere has none of that layer.
-/

namespace CaptureFlow

/-- A decoded frame. -/
structure Packet where
  /-- When it was captured. -/
  timestamp : Timestamp
  /-- The octets captured. -/
  captured : UInt32
  /-- The octets on the wire. -/
  wire : UInt32
  /-- The headers, outermost first. -/
  headers : List Header
  deriving DecidableEq

namespace Packet

/-- The header at the position of a layer. -/
def header? (packet : Packet) (layer : Layer) : Option Header :=
  packet.headers[layer.index]?

/-- Whether fewer octets were captured than were on the wire. -/
def isTruncated (packet : Packet) : Bool :=
  packet.captured < packet.wire

/-- The view of the network header. -/
def network? (packet : Packet) : Option Network :=
  (packet.header? .network).bind Header.network?

/-- The TCP header. -/
def tcp? (packet : Packet) : Option Tcp.Header :=
  match packet.header? .transport with
  | some (.tcp header) => some header
  | _ => none

/-- The UDP header. -/
def udp? (packet : Packet) : Option Udp.Header :=
  match packet.header? .transport with
  | some (.udp header) => some header
  | _ => none

/-- The head of the HTTP message. -/
def http? (packet : Packet) : Option Http.Header :=
  match packet.header? .application with
  | some (.http header) => some header
  | _ => none

/-- The ports of the transport header, the sender's first. -/
def ports? (packet : Packet) : Option (UInt16 × UInt16) :=
  (packet.header? .transport).bind Header.ports?

/-- The length of the IP payload. -/
def ipPayloadLength? (packet : Packet) : Option UInt16 :=
  packet.network?.map Network.payloadLength

/-- The length of what follows the transport header. -/
def payloadLength? (packet : Packet) : Option UInt16 := do
  let ipPayload ← packet.ipPayloadLength?
  let header ← packet.header? .transport
  header.payloadLength? ipPayload

/-- The timestamp in nanoseconds, held at the ends of the 64-bit range. -/
def nanoseconds (packet : Packet) : Int64 :=
  packet.timestamp.nanoseconds

/-- The JSON object of a packet; of two headers with the same key the later
one stands in the earlier one's place. -/
def json (packet : Packet) : Json :=
  .object (packet.headers.foldl
    (fun fields header => Json.insertField fields header.report.key (.object header.report.body))
    [("time", .number packet.nanoseconds.toInt)])

/-- The columns of the CSV line of a packet. -/
def columns (packet : Packet) : List Column :=
  .bare (Numeral.signed packet.nanoseconds.toInt) ::
    packet.headers.flatMap fun header => header.report.allColumns

/-- The CSV line of a packet. -/
def csv (packet : Packet) : String :=
  ",".intercalate (packet.columns.map Column.written)

/-- The text of a packet. -/
def text (packet : Packet) : String :=
  " ".intercalate (packet.timestamp.text :: packet.headers.map fun header => header.report.text)

end Packet

end CaptureFlow
