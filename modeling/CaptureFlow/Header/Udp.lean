import CaptureFlow.Bytes
import CaptureFlow.Header.Fault
import CaptureFlow.Report

/-!
# UDP headers

Two ports, the length of the datagram and its checksum.
-/

namespace CaptureFlow.Udp

/-- A UDP header. -/
structure Header where
  /-- The port of the sender. -/
  sourcePort : UInt16
  /-- The port of the receiver. -/
  destinationPort : UInt16
  /-- The length of the datagram with its header. -/
  length : UInt16
  /-- The checksum as it was sent. -/
  checksum : UInt16
  deriving DecidableEq

/-- The protocol number of UDP. -/
def protocolNumber : UInt8 := 17

/-- The length of a header. -/
def headerLength : Nat := 8

/-- The length of what follows the header in an IP payload. -/
def Header.payloadLength (_ : Header) (ipPayload : UInt16) : UInt16 :=
  UInt16.ofNat (ipPayload.toNat - headerLength)

/-- Splits a header off a datagram. -/
def parse (data : Bytes) : Except DecodeError (Header × Bytes) :=
  if data.length < headerLength then .error (.tooShort .udp headerLength data.length)
  else .ok (⟨wordAt .big data 0, wordAt .big data 2, wordAt .big data 4, wordAt .big data 6⟩,
    data.drop headerLength)

/-- The report of a header. -/
def Header.report (header : Header) : Report where
  tag := "UDP"
  key := "udphdr"
  body := [("source", .nat header.sourcePort.toNat), ("dest", .nat header.destinationPort.toNat),
    ("len", .nat header.length.toNat), ("check", .nat header.checksum.toNat)]
  columns := [.nat header.sourcePort.toNat, .nat header.destinationPort.toNat,
    .nat header.length.toNat, .nat header.checksum.toNat]
  text :=
    let n := fun (value : Nat) => Numeral.decimal value
    s!"{n header.sourcePort.toNat}->{n header.destinationPort.toNat} {n header.length.toNat} " ++
      n header.checksum.toNat

end CaptureFlow.Udp
