import CaptureFlow.Text.Numeral

/-!
# Why a frame is not decoded

A frame may be cut, its framing may be unknown, or a header may be missing
octets or contradict its own format.
-/

namespace CaptureFlow

/-- The protocols that have a header of fixed minimum length. -/
inductive Protocol where
  /-- Ethernet framing. -/
  | ethernet
  /-- Cooked framing of captures on all devices. -/
  | cooked
  /-- Version 4 of the internet protocol. -/
  | ipv4
  /-- Version 6 of the internet protocol. -/
  | ipv6
  /-- The transmission control protocol. -/
  | tcp
  /-- The user datagram protocol. -/
  | udp
  deriving DecidableEq, Repr

/-- The name of a protocol in messages. -/
def Protocol.name : Protocol → String
  | ethernet => "ethernet"
  | cooked => "linux_sll"
  | ipv4 => "ipv4"
  | ipv6 => "ipv6"
  | tcp => "tcp"
  | udp => "udp"

/-- How a header contradicts its own format. -/
inductive Malformation where
  /-- An IPv4 header of another version. -/
  | versionNot4 (version : Nat)
  /-- An IPv4 header shorter than its fixed part. -/
  | headerLength (words : Nat)
  /-- An IPv4 header longer than the data. -/
  | ipv4Cut (needed available : Nat)
  /-- An IPv6 header of another version. -/
  | versionNot6 (version : Nat)
  /-- A TCP header shorter than its fixed part. -/
  | dataOffset (words : Nat)
  /-- A TCP header longer than the data. -/
  | tcpCut (needed available : Nat)
  deriving DecidableEq, Repr

/-- The wording for a header that is longer than the data. -/
def cutMessage (protocol : String) (needed available : Nat) : String :=
  s!"{protocol} Header Error: Not enough data to decode '{protocol} header'. " ++
    s!"{Numeral.decimal needed} byte(s) would be required, but only " ++
    s!"{Numeral.decimal available} byte(s) are available based on the slice length."

/-- The wording of a malformation. -/
def Malformation.message : Malformation → String
  | versionNot4 version =>
    s!"IPv4 Header Error: Encountered '{Numeral.decimal version}' as IP version number " ++
      "in the IPv4 header (must be '4' in an IPv4 header)."
  | headerLength words =>
    s!"IPv4 Header Error: The 'internet header length' value '{Numeral.decimal words}' " ++
      "present in the IPv4 header is smaller than the minimum size of an IPv4 header. " ++
      "The minimum allowed value is '5'."
  | ipv4Cut needed available => cutMessage "IPv4" needed available
  | versionNot6 version =>
    s!"IPv6 Header Error: Encountered '{Numeral.decimal version}' as IP version number " ++
      "in the IPv6 header (must be '6' in an IPv6 header)."
  | dataOffset words =>
    s!"TCP Header Error: 'data offset' too small ({Numeral.decimal words}). " ++
      "The 'data offset' must be at least 5 so the data is not overlapping " ++
      "with the TCP header itself."
  | tcpCut needed available => cutMessage "TCP" needed available

/-- Why a frame or header is not decoded. -/
inductive DecodeError where
  /-- Fewer octets were captured than were on the wire. -/
  | incomplete (captured wire : UInt32)
  /-- The framing is not known. -/
  | unsupportedLink (number : UInt16)
  /-- The data is shorter than the fixed part of the header. -/
  | tooShort (protocol : Protocol) (needed available : Nat)
  /-- The header contradicts its own format. -/
  | malformed (protocol : Protocol) (malformation : Malformation)
  deriving DecidableEq, Repr

/-- The wording of a decoding error. -/
def DecodeError.message : DecodeError → String
  | incomplete captured wire =>
    s!"incomplete packet: captured {Numeral.decimal captured.toNat} of " ++
      s!"{Numeral.decimal wire.toNat} bytes"
  | unsupportedLink number => s!"unsupported link type: {Numeral.decimal number.toNat}"
  | tooShort protocol needed available =>
    s!"{protocol.name}: packet too short (need {Numeral.decimal needed} bytes, " ++
      s!"have {Numeral.decimal available})"
  | malformed protocol malformation =>
    s!"{protocol.name}: malformed header: {malformation.message}"

end CaptureFlow
