import CaptureFlow.Stream.Fault
import CaptureFlow.Text.Numeral

/-!
# Formats of capture files

A capture file starts with four octets that tell its format: the classic one in
either byte order, with micro- or nanoseconds, or the one made of blocks. The
ways in which a file fails to be read are listed here with their wording.
-/

namespace CaptureFlow.Savefile

/-- A format of capture files. -/
inductive Format where
  /-- The classic format. -/
  | classic (order : ByteOrder) (nanoseconds : Bool)
  /-- The format made of blocks. -/
  | blocks
  deriving DecidableEq, Repr

/-- Why the first block of a file cannot be read. -/
inductive OpeningFault where
  /-- So many octets are missing for the number being read. -/
  | incomplete (missing : Nat)
  /-- The block does not say that it is a capture file. -/
  | unrecognized
  /-- The block contradicts its own format. -/
  | inconsistent
  /-- The file cannot be read. -/
  | unreadable
  deriving DecidableEq, Repr

/-- The wording of an opening fault. -/
def OpeningFault.message : OpeningFault → String
  | incomplete missing => s!"Incomplete read: {Numeral.decimal missing}"
  | unrecognized => "Header not recognized as PCAP or PCAPNG"
  | inconsistent => "Internal parser error Verify"
  | unreadable => "Read error"

/-- Why a block of a file cannot be read. -/
inductive BlockFault where
  /-- The block is larger than the room for reading. -/
  | tooLarge
  /-- The file ends inside the block. -/
  | endOfFile
  /-- The section block does not tell its byte order. -/
  | unrecognized
  /-- The block contradicts its own format. -/
  | inconsistent
  deriving DecidableEq, Repr

/-- The wording of a block fault. -/
def BlockFault.message : BlockFault → String
  | tooLarge => "Buffer is too small"
  | endOfFile => "Unexpected end of file"
  | unrecognized => "Header not recognized as PCAP or PCAPNG"
  | inconsistent => "Internal parser error Verify"

/-- Why a file is no capture file. -/
inductive FormatFault where
  /-- It is too short to tell its format. -/
  | short
  /-- It starts with other octets than any format. -/
  | unknown (first : Bytes)
  /-- Its first block cannot be read. -/
  | opening (isBlocks : Bool) (fault : OpeningFault)
  /-- A block cannot be read. -/
  | block (fault : BlockFault)
  /-- Its stream fails. -/
  | refill
  deriving DecidableEq, Repr

/-- The wording of a format fault. -/
def FormatFault.message : FormatFault → String
  | short => "data too small for PCAP magic"
  | unknown first => s!"unknown PCAP magic: {Numeral.octets first}"
  | opening isBlocks fault =>
    let format := if isBlocks then "PCAPNG" else "legacy PCAP"
    s!"failed to parse {format}: {fault.message}"
  | block fault => s!"PCAP parse error: {fault.message}"
  | refill => "PCAP refill error: Read error"

/-- Why a capture file cannot be read. -/
inductive Fault where
  /-- There is no such file. -/
  | notFound (path : String)
  /-- It is no capture file. -/
  | invalid (fault : FormatFault)
  deriving DecidableEq, Repr

/-- The wording of a fault. -/
def Fault.message : Fault → String
  | notFound path => s!"File not found: {path}"
  | invalid fault => s!"Invalid PCAP format: {fault.message}"

namespace Format

/-- Whether the format is made of blocks. -/
def isBlocks : Format → Bool
  | blocks => true
  | classic _ _ => false

/-- Whether the fractions of timestamps are nanoseconds. -/
def isNanoseconds : Format → Bool
  | blocks => false
  | classic _ nanoseconds => nanoseconds

/-- The format that the first four octets tell. -/
def detect (bytes : Bytes) : Except FormatFault Format :=
  let first := bytes.take 4
  if first.length < 4 then .error .short
  else if first = [0xd4, 0xc3, 0xb2, 0xa1] then .ok (classic .little false)
  else if first = [0xa1, 0xb2, 0xc3, 0xd4] then .ok (classic .big false)
  else if first = [0x4d, 0x3c, 0xb2, 0xa1] then .ok (classic .little true)
  else if first = [0xa1, 0xb2, 0x3c, 0x4d] then .ok (classic .big true)
  else if first = [0x0a, 0x0d, 0x0d, 0x0a] then .ok blocks
  else .error (.unknown first)

end Format

end CaptureFlow.Savefile
