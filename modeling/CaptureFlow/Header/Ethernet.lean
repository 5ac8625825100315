import CaptureFlow.Address.Octets
import CaptureFlow.Header.Fault
import CaptureFlow.Report

/-!
# Ethernet headers

Two hardware addresses and the type of what follows. The type zero marks a
frame captured on all devices at once, where two octets of padding and an
IPv4 datagram follow.
-/

namespace CaptureFlow.Ethernet

/-- An Ethernet header. -/
structure Header where
  /-- The address of the sender. -/
  source : Octets 6
  /-- The address of the receiver. -/
  destination : Octets 6
  /-- The type of what follows. -/
  etherType : UInt16
  deriving DecidableEq

/-- The length of a header. -/
def headerLength : Nat := 14

/-- The number of padding octets behind a header of type zero. -/
def cookedPadding : Nat := 2

/-- The type of an IPv4 datagram. -/
def typeIpv4 : UInt16 := 0x0800

/-- The type of an IPv6 datagram. -/
def typeIpv6 : UInt16 := 0x86dd

/-- Whether the header has the type zero. -/
def Header.isCooked (header : Header) : Bool :=
  header.etherType == 0

/-- Splits a header off a frame. -/
def parse (data : Bytes) : Except DecodeError (Header × Bytes) :=
  if data.length < headerLength then .error (.tooShort .ethernet headerLength data.length)
  else .ok (⟨.readAt 6 data 6, .readAt 6 data 0, wordAt .big data 12⟩, data.drop headerLength)

/-- The report of a header. -/
def Header.report (header : Header) : Report where
  tag := "ETH"
  key := "ether_header"
  body := [("ether_shost", .text (hardwareText header.source.bytes)),
    ("ether_dhost", .text (hardwareText header.destination.bytes)),
    ("ether_type", .nat header.etherType.toNat)]
  columns := [.quoted (hardwareText header.source.bytes),
    .quoted (hardwareText header.destination.bytes), .nat header.etherType.toNat]
  text := s!"{hardwareText header.source.bytes}->{hardwareText header.destination.bytes} " ++
    Numeral.marked header.etherType.toNat

end CaptureFlow.Ethernet
