import CaptureFlow.Bytes
import CaptureFlow.Header.Fault
import CaptureFlow.Report

/-!
# TCP headers

The fixed part of the header is kept and its options are passed over.
-/

namespace CaptureFlow.Tcp

/-- A TCP header. -/
structure Header where
  /-- The port of the sender. -/
  sourcePort : UInt16
  /-- The port of the receiver. -/
  destinationPort : UInt16
  /-- The number of the first octet carried. -/
  seq : UInt32
  /-- The number of the next octet expected. -/
  ack : UInt32
  /-- The length of the header in 32-bit words. -/
  words : UInt8
  /-- The nine flags. -/
  flags : UInt16
  /-- The octets that may be sent. -/
  window : UInt16
  /-- The checksum as it was sent. -/
  checksum : UInt16
  /-- The offset of the last urgent octet. -/
  urgent : UInt16
  deriving DecidableEq

/-- The protocol number of TCP. -/
def protocolNumber : UInt8 := 6

/-- The length of a header without options. -/
def minHeaderLength : Nat := 20

/-- The names of the flags from the lowest bit on. -/
def flagTable : List String :=
  ["FIN", "SYN", "RST", "PSH", "ACK", "URG", "ECE", "CWR", "NS"]

/-- The bits that are flags. -/
def flagMask : UInt16 := 0x01ff

/-- The flag that opens a connection. -/
def flagSyn : UInt16 := 0x002

/-- The flag that acknowledges. -/
def flagAck : UInt16 := 0x010

namespace Header

/-- The length of a header. -/
def length (header : Header) : Nat :=
  4 * header.words.toNat

/-- Whether all flags of a mask are set. -/
def hasFlags (header : Header) (mask : UInt16) : Bool :=
  header.flags &&& mask == mask

/-- The names of the flags that are set, lowest bit first. -/
def flagNames (header : Header) : List String :=
  (flagTable.zipIdx.filter fun (_, bit) => header.flags.toNat.testBit bit).map Prod.fst

/-- The length of what follows the header in an IP payload. -/
def payloadLength (header : Header) (ipPayload : UInt16) : UInt16 :=
  UInt16.ofNat (ipPayload.toNat - header.length)

end Header

/-- Splits a header off a segment. -/
def parse (data : Bytes) : Except DecodeError (Header × Bytes) :=
  let words := (octetAt data 12).toNat / 16
  let length := 4 * words
  if data.length < minHeaderLength then .error (.tooShort .tcp minHeaderLength data.length)
  else if words < 5 then .error (.malformed .tcp (.dataOffset words))
  else if data.length < length then .error (.malformed .tcp (.tcpCut length data.length))
  else .ok ({
      sourcePort := wordAt .big data 0
      destinationPort := wordAt .big data 2
      seq := longAt .big data 4
      ack := longAt .big data 8
      words := UInt8.ofNat words
      flags := wordAt .big data 12 &&& flagMask
      window := wordAt .big data 14
      checksum := wordAt .big data 16
      urgent := wordAt .big data 18
    }, data.drop length)

/-- The report of a header. -/
def Header.report (header : Header) : Report where
  tag := "TCP"
  key := "tcphdr"
  body := [("source", .nat header.sourcePort.toNat), ("dest", .nat header.destinationPort.toNat),
    ("seq", .nat header.seq.toNat), ("ack_seq", .nat header.ack.toNat),
    ("flags", .nat header.flags.toNat)]
  columns := [.nat header.sourcePort.toNat, .nat header.destinationPort.toNat,
    .nat header.seq.toNat, .nat header.ack.toNat, .nat header.flags.toNat]
  text :=
    let n := fun (value : Nat) => Numeral.decimal value
    s!"{n header.sourcePort.toNat}->{n header.destinationPort.toNat} {n header.seq.toNat} " ++
      s!"{n header.ack.toNat} {Numeral.marked header.flags.toNat}"

end CaptureFlow.Tcp
