import CaptureFlow.Address.Ip
import CaptureFlow.Header.Fault
import CaptureFlow.Report

/-!
# IPv4 headers

The fixed part of the header is kept and its options are passed over. The
length of the payload follows from the two length fields and never goes below
zero.
-/

namespace CaptureFlow.Ipv4

/-- An IPv4 header. -/
structure Header where
  /-- The version number. -/
  version : UInt8
  /-- The length of the header in 32-bit words. -/
  words : UInt8
  /-- The address of the sender. -/
  source : Address
  /-- The address of the receiver. -/
  destination : Address
  /-- The protocol of what follows. -/
  protocol : UInt8
  /-- The length of the datagram. -/
  totalLength : UInt16
  /-- The length of what follows the header. -/
  payloadLength : UInt16
  deriving DecidableEq

/-- The length of a header without options. -/
def minHeaderLength : Nat := 20

/-- The length of a header. -/
def Header.length (header : Header) : Nat :=
  4 * header.words.toNat

/-- Splits a header off a datagram. -/
def parse (data : Bytes) : Except DecodeError (Header × Bytes) :=
  let first := (octetAt data 0).toNat
  let version := first / 16
  let words := first % 16
  let length := 4 * words
  if data.length < minHeaderLength then .error (.tooShort .ipv4 minHeaderLength data.length)
  else if version ≠ 4 then .error (.malformed .ipv4 (.versionNot4 version))
  else if words < 5 then .error (.malformed .ipv4 (.headerLength words))
  else if data.length < length then .error (.malformed .ipv4 (.ipv4Cut length data.length))
  else
    let total := wordAt .big data 2
    .ok ({
      version := UInt8.ofNat version
      words := UInt8.ofNat words
      source := .readAt data 12
      destination := .readAt data 16
      protocol := octetAt data 9
      totalLength := total
      payloadLength := UInt16.ofNat (total.toNat - length)
    }, data.drop length)

/-- The report of a header. -/
def Header.report (header : Header) : Report where
  tag := "IP4"
  key := "iphdr"
  body := [("saddr", .text header.source.text), ("daddr", .text header.destination.text),
    ("protocol", .nat header.protocol.toNat)]
  columns := [.quoted header.source.text, .quoted header.destination.text,
    .nat header.protocol.toNat]
  text := s!"{header.source.text}->{header.destination.text} " ++
    Numeral.marked header.protocol.toNat

end CaptureFlow.Ipv4
