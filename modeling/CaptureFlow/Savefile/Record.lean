import CaptureFlow.Savefile.Format

/-!
# Records of the classic format

A file header tells the byte order, the framing and the snap length. Every
record is a header with a timestamp and two lengths, and the data captured.
-/

namespace CaptureFlow.Savefile

/-- The header of a file in the classic format. -/
structure FileHeader where
  /-- The byte order of all numbers. -/
  order : ByteOrder
  /-- Whether the headers of records have eight octets more than usual. -/
  isExtended : Bool
  /-- The octets captured of a packet at most. -/
  snapLength : UInt32
  /-- The number of the framing. -/
  linkType : UInt16
  deriving DecidableEq, Repr

/-- The length of a file header. -/
def fileHeaderLength : Nat := 24

/-- The length of the header of a record. -/
def FileHeader.recordHeaderLength (header : FileHeader) : Nat :=
  if header.isExtended then 24 else 16

/-- The byte order that a magic number tells, by its value in little-endian
order, and whether the headers of records are extended. Only in one byte order
they can be. -/
def magicTable : List (Nat × ByteOrder × Bool) :=
  [(0xa1b2c3d4, .little, false), (0xa1b23c4d, .little, false), (0xa1b2cd34, .little, true),
    (0xd4c3b2a1, .big, false), (0x4d3cb2a1, .big, false)]

/-- The ends of the numbers in a file header. -/
def fileHeaderStops : List Nat := [4, 6, 8, 12, 16, 20, 24]

/-- The octets missing for the number being read when a file header ends early. -/
def missingOfFileHeader (length : Nat) : Nat :=
  ((fileHeaderStops.find? (length < ·)).getD length) - length

/-- Reads the header of a file. -/
def FileHeader.read (bytes : Bytes) : Except OpeningFault FileHeader :=
  let header := bytes.take fileHeaderLength
  if header.length < 4 then .error (.incomplete (missingOfFileHeader header.length))
  else match magicTable.lookup (ByteOrder.little.number (header.take 4)) with
    | none => .error .unrecognized
    | some (order, isExtended) =>
      if header.length < fileHeaderLength then
        .error (.incomplete (missingOfFileHeader header.length))
      else .ok {
        order
        isExtended
        snapLength := longAt order header 16
        linkType := (longAt order header 20).toUInt16 }

/-- What reading a block from the front of a file comes to. -/
inductive Parsed (α : Type) where
  /-- A block, and its length in octets. -/
  | block (value : α) (size : Nat)
  /-- So many octets are missing. -/
  | incomplete (missing : Nat)
  /-- The block cannot be read. -/
  | broken (fault : BlockFault)

/-- What reading a block comes to once something is made of the block. -/
def Parsed.map {α β : Type} (f : α → β) : Parsed α → Parsed β
  | block value size => .block (f value) size
  | incomplete missing => .incomplete missing
  | broken fault => .broken fault

/-- A record of the classic format. -/
structure Record where
  /-- The seconds of its timestamp. -/
  seconds : UInt32
  /-- The fraction of its timestamp. -/
  fraction : UInt32
  /-- The octets captured. -/
  captured : UInt32
  /-- The octets on the wire. -/
  wire : UInt32
  /-- The data captured. -/
  data : Bytes
  deriving DecidableEq, Repr

/-- Reads the record at the front of a file. -/
def Record.read (header : FileHeader) (bytes : Bytes) : Parsed Record :=
  let length := header.recordHeaderLength
  let front := bytes.take length
  if front.length < length then .incomplete (length - front.length)
  else
    let captured := longAt header.order front 8
    let data := slice bytes length captured.toNat
    if data.length < captured.toNat then .incomplete (captured.toNat - data.length)
    else .block ⟨longAt header.order front 0, longAt header.order front 4, captured,
      longAt header.order front 12, data⟩ (length + captured.toNat)

/-- The microseconds of a record's timestamp, whose fraction is told in
nanoseconds or in microseconds. -/
def Record.micros (nanoseconds : Bool) (record : Record) : Int :=
  let fraction := record.fraction.toNat
  record.seconds.toNat * 1000000 + (if nanoseconds then fraction / 1000 else fraction : Nat)

end CaptureFlow.Savefile
