import CaptureFlow.Address.Octets
import CaptureFlow.Header.Fault
import CaptureFlow.Report

/-!
# Cooked headers

The framing of captures on all devices at once: how the packet came by, the
kind of device, an address of up to eight octets, and the type of what follows.
-/

namespace CaptureFlow.Cooked

/-- A cooked header. -/
structure Header where
  /-- How the packet came by. -/
  packetType : UInt16
  /-- The kind of device. -/
  deviceType : UInt16
  /-- The number of octets of the address that count. -/
  addressLength : UInt16
  /-- The room for the address. -/
  room : Octets 8
  /-- The type of what follows. -/
  protocol : UInt16
  deriving DecidableEq

/-- The length of a header. -/
def headerLength : Nat := 16

/-- The octets of the address that count. -/
def Header.address (header : Header) : Bytes :=
  header.room.bytes.take header.addressLength.toNat

/-- Splits a header off a frame. -/
def parse (data : Bytes) : Except DecodeError (Header × Bytes) :=
  if data.length < headerLength then .error (.tooShort .cooked headerLength data.length)
  else .ok (⟨wordAt .big data 0, wordAt .big data 2, wordAt .big data 4, .readAt 8 data 6,
    wordAt .big data 14⟩, data.drop headerLength)

/-- The report of a header. -/
def Header.report (header : Header) : Report where
  tag := "SLL"
  key := "sll_header"
  body := [("sll_pkttype", .nat header.packetType.toNat),
    ("sll_hatype", .nat header.deviceType.toNat),
    ("sll_addr", .text (hardwareText header.address)),
    ("sll_protocol", .nat header.protocol.toNat)]
  columns := [.nat header.packetType.toNat, .nat header.deviceType.toNat,
    .quoted (hardwareText header.address), .nat header.protocol.toNat]
  text := s!"{Numeral.decimal header.packetType.toNat} {hardwareText header.address} " ++
    Numeral.marked header.protocol.toNat

end CaptureFlow.Cooked
