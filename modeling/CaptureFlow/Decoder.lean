import CaptureFlow.Http.Sniff
import CaptureFlow.Packet

/-!
# Decoding frames

A frame is decoded layer by layer, each header naming what follows it, until a
header is cut, malformed or unknown. What was decoded up to there is kept.
-/

namespace CaptureFlow

/-- The framings that can be decoded. -/
inductive LinkType where
  /-- Ethernet framing. -/
  | ethernet
  /-- Cooked framing. -/
  | cooked
  deriving DecidableEq, Repr

namespace LinkType

/-- The number of a framing in capture files. -/
def number : LinkType → UInt16
  | ethernet => 1
  | cooked => 113

/-- The framing with a number. -/
def ofNumber (number : UInt16) : Except DecodeError LinkType :=
  if number = ethernet.number then .ok ethernet
  else if number = cooked.number then .ok cooked
  else .error (.unsupportedLink number)

/-- A framing is found by its number. -/
theorem ofNumber_number (link : LinkType) : ofNumber link.number = .ok link := by
  cases link <;> rfl

end LinkType

/-- How frames are decoded. -/
structure Decoder where
  /-- The framing of the frames. -/
  link : LinkType := .ethernet
  /-- Whether TCP payloads are looked at for HTTP messages. -/
  sniffHttp : Bool := true
  /-- The greatest length of a payload that is not looked at. -/
  httpThreshold : Nat := 14
  /-- Whether cut frames are decoded as far as they go. -/
  allowTruncated : Bool := false
  deriving DecidableEq, Repr

namespace Decoder

/-- The decoder with default settings for the framing with a number. -/
def ofLinkNumber (number : UInt16) : Except DecodeError Decoder := do
  let link ← LinkType.ofNumber number
  .ok { link }

/-- The header behind a TCP header. -/
def applicationHeaders (decoder : Decoder) (payloadLength : UInt16) (bytes : Bytes) :
    List Header :=
  let length := payloadLength.toNat
  if decoder.sniffHttp && decoder.httpThreshold < length then
    match Http.sniff (bytes.take length) with
    | some header => [.http header]
    | none => []
  else []

/-- The headers behind a network header. -/
def transportHeaders (decoder : Decoder) (protocol : UInt8) (ipPayload : UInt16)
    (bytes : Bytes) : List Header :=
  if protocol = Tcp.protocolNumber then
    match Tcp.parse bytes with
    | .ok (header, rest) =>
      .tcp header :: decoder.applicationHeaders (header.payloadLength ipPayload) rest
    | .error _ => []
  else if protocol = Udp.protocolNumber then
    match Udp.parse bytes with
    | .ok (header, _) => [.udp header]
    | .error _ => []
  else []

/-- The headers behind the framing. -/
def networkHeaders (decoder : Decoder) (etherType : UInt16) (bytes : Bytes) : List Header :=
  if etherType = Ethernet.typeIpv4 then
    match Ipv4.parse bytes with
    | .ok (header, rest) =>
      .ipv4 header :: decoder.transportHeaders header.protocol header.payloadLength rest
    | .error _ => []
  else if etherType = Ethernet.typeIpv6 then
    match Ipv6.parse bytes with
    | .ok (header, rest) =>
      .ipv6 header :: decoder.transportHeaders header.nextHeader header.payloadLength rest
    | .error _ => []
  else []

/-- The headers of a frame. -/
def headers (decoder : Decoder) (frame : Bytes) : List Header :=
  match decoder.link with
  | .ethernet =>
    match Ethernet.parse frame with
    | .ok (header, rest) =>
      .ethernet header ::
        (if header.isCooked then
          decoder.networkHeaders Ethernet.typeIpv4 (rest.drop Ethernet.cookedPadding)
        else decoder.networkHeaders header.etherType rest)
    | .error _ => []
  | .cooked =>
    match Cooked.parse frame with
    | .ok (header, rest) => .cooked header :: decoder.networkHeaders header.protocol rest
    | .error _ => []

/-- Decodes a frame as far as it goes. -/
def decodePartial (decoder : Decoder) (timestamp : Timestamp) (captured wire : UInt32)
    (data : Bytes) : Packet :=
  ⟨timestamp, captured, wire, decoder.headers (data.take captured.toNat)⟩

/-- Decodes a frame that was captured whole. -/
def decode (decoder : Decoder) (timestamp : Timestamp) (captured wire : UInt32) (data : Bytes) :
    Except DecodeError Packet :=
  if captured < wire then .error (.incomplete captured wire)
  else .ok (decoder.decodePartial timestamp captured wire data)

/-- Decodes a frame as the settings say about cut frames. -/
def decodeAllowed (decoder : Decoder) (timestamp : Timestamp) (captured wire : UInt32)
    (data : Bytes) : Except DecodeError Packet :=
  if decoder.allowTruncated then .ok (decoder.decodePartial timestamp captured wire data)
  else decoder.decode timestamp captured wire data

end Decoder

end CaptureFlow
