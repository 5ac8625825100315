import CaptureFlow.Gzip.Checksum
import CaptureFlow.Gzip.Window

/-!
# Gzip files

A gzip file is a header, compressed data, and a trailer with the checksum and
the length of the data. Only the first such member of a file is read. What a
damaged file delivers before its fault hangs on the stretches in which its data
is decompressed.
-/

namespace CaptureFlow.Gzip

/-- The two octets at the start of every gzip file. -/
def magic : Bytes := [0x1f, 0x8b]

/-- Splits `count` octets off the file. -/
def splitOff (count : Nat) (bytes : Bytes) : Except ReadFault (Bytes × Bytes) :=
  if bytes.length < count then .error .endOfFile else .ok (bytes.splitAt count)

/-- The greatest length of a name or comment in the header. -/
def maxTextLength : Nat := 65535

/-- Drops a text and the zero that ends it. -/
def skipText (bytes : Bytes) : Except ReadFault Bytes :=
  let length := (bytes.takeWhile (· != 0)).length
  if maxTextLength < length then .error .longHeader
  else match bytes.drop length with
    | _ :: rest => .ok rest
    | [] => .error .endOfFile

/-- Drops the extra field. -/
def skipExtra (bytes : Bytes) : Except ReadFault Bytes := do
  let (length, rest) ← splitOff 2 bytes
  let (_, rest) ← splitOff (ByteOrder.little.number length) rest
  .ok rest

/-- Drops the checksum of the header, which has to fit. -/
def skipHeaderChecksum (file bytes : Bytes) : Except ReadFault Bytes := do
  let (found, rest) ← splitOff 2 bytes
  let header := file.take (file.length - bytes.length)
  if ByteOrder.little.number found = (checksum header).toNat % UInt16.size then .ok rest
  else .error .badChecksum

/-- The file behind its header. -/
def behindHeader (file : Bytes) : Except ReadFault Bytes := do
  let (fixed, rest) ← splitOff 10 file
  let flags := (octetAt fixed 3).toNat
  if fixed.take 3 ≠ magic ++ [8] ∨ 0x20 ≤ flags then .error .badHeader
  else
    let rest ← if flags.testBit 2 then skipExtra rest else .ok rest
    let rest ← if flags.testBit 3 then skipText rest else .ok rest
    let rest ← if flags.testBit 4 then skipText rest else .ok rest
    if flags.testBit 1 then skipHeaderChecksum file rest else .ok rest

/-- How the stream of complete data ends. -/
def trailerEnding (data trailer : Bytes) : Ending :=
  if trailer.length < 8 then .always .endOfFile
  else if longAt .little trailer 0 = checksum data ∧
      longAt .little trailer 4 = UInt32.ofNat data.length then .clean
  else .once .badChecksum

/-- The stream of the octets of a gzip file. -/
def streamOfBytes (file : Bytes) : Stream :=
  ⟨[], match behindHeader file with
    | .error fault => .last [] (.once fault)
    | .ok rest => supply trailerEnding (file.length - rest.length) rest⟩

/-- The stream of a gzip file; one that cannot be read stays so. -/
def stream : Content → Stream
  | .octets file => streamOfBytes file
  | .unreadable fault => .failing (.system fault)

/-! ## Writing -/

/-- Blocks of plain octets that hold the data; `fuel` bounds their number. -/
def plainBlocks : (fuel : Nat) → (data : Bytes) → Bytes
  | 0, _ => []
  | fuel + 1, data =>
    let here := data.take 0xffff
    let rest := data.drop 0xffff
    let last : UInt8 := if rest.isEmpty then 1 else 0
    let order := ByteOrder.little
    last :: order.octets 2 here.length ++ order.octets 2 (0xffff - here.length) ++ here ++
      (if rest.isEmpty then [] else plainBlocks fuel rest)

/-- A gzip file that holds the data in blocks of plain octets. -/
def store (data : Bytes) : Bytes :=
  let order := ByteOrder.little
  magic ++ [8, 0, 0, 0, 0, 0, 0, 0xff] ++ plainBlocks (data.length + 1) data ++
    order.octets 4 (checksum data).toNat ++ order.octets 4 data.length

end CaptureFlow.Gzip
