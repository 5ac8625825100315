import CaptureFlow.Savefile.Record
import CaptureFlow.Time.Timestamp

/-!
# Blocks

A block is a type, its length, its content, and its length again. A section
block tells the byte order of the blocks behind it, an interface block their
framing; packet blocks hold the data captured, and other blocks are passed over.
A packet block that tells no time counts as of time zero.
-/

namespace CaptureFlow.Savefile

/-- What is kept of a block. -/
inductive Block where
  /-- A section starts, with a byte order. -/
  | sectionStart (order : ByteOrder)
  /-- An interface with its framing and snap length. -/
  | interface (linkType : UInt16) (snapLength : UInt32)
  /-- A packet with its timestamp, lengths and data. -/
  | packet (timestamp : Timestamp) (captured wire : UInt32) (data : Bytes)
  /-- Any other block. -/
  | other
  deriving DecidableEq, Repr

/-- The block that a record of the classic format stands for. -/
def Record.block (nanoseconds : Bool) (record : Record) : Block :=
  .packet (Int64.ofInt (record.micros nanoseconds)) record.captured record.wire record.data

/-- The kinds of blocks. -/
inductive BlockKind where
  /-- The start of a section. -/
  | sectionStart
  /-- The description of an interface. -/
  | interface
  /-- A packet without a timestamp. -/
  | simplePacket
  /-- A list of names. -/
  | names
  /-- Counters of an interface. -/
  | statistics
  /-- A packet with a timestamp. -/
  | packet
  /-- Secrets for decryption. -/
  | secrets
  /-- A block of somebody's own. -/
  | custom
  /-- What is known of a process. -/
  | process
  /-- A block of a kind that is not known. -/
  | unknown
  deriving DecidableEq, Repr

namespace BlockKind

/-- The kind with a type number. -/
def ofNumber (number : UInt32) : BlockKind :=
  if number = 0x0a0d0d0a then sectionStart
  else if number = 1 then interface
  else if number = 3 then simplePacket
  else if number = 4 then names
  else if number = 5 then statistics
  else if number = 6 then packet
  else if number = 10 then secrets
  else if number = 0xbad ∨ number = 0x40000bad then custom
  else if number = 0x80000001 then process
  else unknown

/-- The least length of a block. -/
def minLength : BlockKind → Nat
  | sectionStart => 28
  | interface => 20
  | simplePacket => 16
  | names => 12
  | statistics => 24
  | packet => 32
  | secrets => 20
  | custom => 16
  | process => 12
  | unknown => 12

/-- Whether the second length of a block has to equal the first one. -/
def comparesLengths : BlockKind → Bool
  | interface | names | statistics | packet | secrets | custom | process => true
  | sectionStart | simplePacket | unknown => false

end BlockKind

/-- A length rounded up to a multiple of four. -/
def aligned (n : Nat) : Nat :=
  (n + 3) / 4 * 4

/-- The lengths from which on rounding up does not fit in 32 bits. -/
def roundingLimit : Nat := UInt32.size - 5

/-- The content of a block up to a length found in it, rounded up. -/
def alignedContent (content : Bytes) (start length : Nat) (use : Bytes → Parsed Block) :
    Parsed Block :=
  if roundingLimit ≤ length then .broken .inconsistent
  else
    let data := slice content start (aligned length)
    if data.length < aligned length then .incomplete (aligned length - data.length)
    else use data

/-- Walks over the names of a block up to the four zeros that end them; every
name takes four octets at least. -/
def skipNames (order : ByteOrder) : (fuel : Nat) → Bytes → Parsed Unit
  | 0, _ => .incomplete 4
  | fuel + 1, content =>
    let front := content.take 4
    if front.all (· == 0) then
      if front.length < 4 then .incomplete (4 - front.length) else .block () 0
    else if front.length < 2 then .incomplete (2 - front.length)
    else if front.length < 4 then .incomplete (4 - front.length)
    else
      let length := aligned (wordAt order front 2).toNat
      let rest := content.drop 4
      if rest.length < length then .incomplete (length - rest.length)
      else skipNames order fuel (rest.drop length)

/-- Reads the content of a block whose length is `size`. -/
def blockOfContent (order : ByteOrder) (kind : BlockKind) (size : Nat) (content : Bytes) :
    Parsed Block :=
  match kind with
  | .sectionStart => .block (.sectionStart order) size
  | .interface => .block (.interface (wordAt order content 0) (longAt order content 4)) size
  | .simplePacket =>
    let data := content.drop 4
    .block (.packet 0 (UInt32.ofNat data.length) (longAt order content 0) data) size
  | .names =>
    match skipNames order (content.length + 1) content with
    | .block _ _ => .block .other size
    | .incomplete missing => .incomplete missing
    | .broken fault => .broken fault
  | .packet =>
    let high := (longAt order content 4).toUInt64
    let low := (longAt order content 8).toUInt64
    let captured := longAt order content 12
    alignedContent content 20 captured.toNat fun data =>
      .block (.packet (high <<< 32 + low).toInt64 captured (longAt order content 16) data) size
  | .secrets =>
    alignedContent content 8 (longAt order content 4).toNat fun _ => .block .other size
  | .process =>
    if content.length < 4 then .incomplete (4 - content.length) else .block .other size
  | .statistics | .custom | .unknown => .block .other size

/-- Reads the block of an expected kind and byte order at the front of a file. -/
def readBlockOf (order : ByteOrder) (kind : BlockKind) (bytes : Bytes) : Parsed Block :=
  let front := bytes.take kind.minLength
  let size := (longAt order front 4).toNat
  if front.length < kind.minLength then .incomplete (kind.minLength - front.length)
  else if size < kind.minLength ∨ BlockKind.ofNumber (longAt order front 0) ≠ kind then
    .broken .inconsistent
  else
    let content := slice bytes 8 (size - 12)
    let second := slice bytes (size - 4) 4
    if content.length < size - 12 then .incomplete (size - 12 - content.length)
    else if second.length < 4 then .incomplete (4 - second.length)
    else match blockOfContent order kind size content with
      | .block block size =>
        if kind.comparesLengths ∧ longAt order second 0 ≠ longAt order front 4 then
          .broken .inconsistent
        else .block block size
      | parsed => parsed

/-- The byte order that a section block tells. -/
def sectionOrder? (bytes : Bytes) : Option ByteOrder :=
  let mark := slice bytes 8 4
  if ByteOrder.little.number mark = 0x1a2b3c4d then some .little
  else if ByteOrder.big.number mark = 0x1a2b3c4d then some .big
  else none

/-- Reads the section block at the front of a file. -/
def readSection (bytes : Bytes) : Parsed Block :=
  let front := bytes.take 12
  if front.length < 12 then .incomplete (12 - front.length)
  else match sectionOrder? front with
    | some order => readBlockOf order .sectionStart bytes
    | none => .broken .unrecognized

/-- Reads the block at the front of a file, in the byte order of its section. -/
def readBlock (order : ByteOrder) (bytes : Bytes) : Parsed Block :=
  let front := bytes.take 4
  if front.length < 4 then .incomplete (4 - front.length)
  else match BlockKind.ofNumber (longAt order front 0) with
    | .sectionStart => readSection bytes
    | kind => readBlockOf order kind bytes

end CaptureFlow.Savefile
