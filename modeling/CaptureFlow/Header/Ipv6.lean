import CaptureFlow.Address.Ip
import CaptureFlow.Header.Fault
import CaptureFlow.Report

/-!
# IPv6 headers

The fixed header. Extension headers are not followed: their number stands as
the protocol of what comes next.
-/

namespace CaptureFlow.Ipv6

/-- An IPv6 header. -/
structure Header where
  /-- The address of the sender. -/
  source : Address
  /-- The address of the receiver. -/
  destination : Address
  /-- The protocol of what follows. -/
  nextHeader : UInt8
  /-- The length of what follows. -/
  payloadLength : UInt16
  deriving DecidableEq

/-- The length of a header. -/
def headerLength : Nat := 40

/-- Splits a header off a datagram. -/
def parse (data : Bytes) : Except DecodeError (Header × Bytes) :=
  let version := (octetAt data 0).toNat / 16
  if data.length < headerLength then .error (.tooShort .ipv6 headerLength data.length)
  else if version ≠ 6 then .error (.malformed .ipv6 (.versionNot6 version))
  else .ok (⟨.readAt data 8, .readAt data 24, octetAt data 6, wordAt .big data 4⟩,
    data.drop headerLength)

/-- The report of a header. -/
def Header.report (header : Header) : Report where
  tag := "IP6"
  key := "ip6hdr"
  body := [("ip6_src", .text header.source.text), ("ip6_dst", .text header.destination.text),
    ("next_header", .nat header.nextHeader.toNat)]
  columns := [.quoted header.source.text, .quoted header.destination.text,
    .nat header.nextHeader.toNat]
  text := s!"{header.source.text}->{header.destination.text} " ++
    Numeral.marked header.nextHeader.toNat

end CaptureFlow.Ipv6
