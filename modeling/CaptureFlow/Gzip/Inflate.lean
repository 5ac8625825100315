import CaptureFlow.Gzip.Huffman

/-!
# Inflating compressed data

Compressed data is a row of blocks. A block holds octets as they are, or words
of two prefix codes: a word stands for an octet, for the end of the block, or
with a second word for a run that repeats earlier output. Octets before the
start of the output count as zero. Every octet of output keeps how far the file
has to be there for it.
-/

namespace CaptureFlow.Gzip

/-- An octet of output. -/
structure Output where
  /-- The octet. -/
  octet : UInt8
  /-- The number of octets of the file that tell it. -/
  reached : Nat
  /-- The number of octets of the file that are used up when it has no room. -/
  held : Nat
  deriving DecidableEq, Repr

/-- Output so far, and the data left or the reason to stop. -/
abbrev Inflated (α : Type) := Array Output × Except Halt α

/-- Base length and number of extra bits of the length symbols from 257 on. -/
def lengthTable : Array (Nat × Nat) :=
  #[(3, 0), (4, 0), (5, 0), (6, 0), (7, 0), (8, 0), (9, 0), (10, 0), (11, 1), (13, 1), (15, 1),
    (17, 1), (19, 2), (23, 2), (27, 2), (31, 2), (35, 3), (43, 3), (51, 3), (59, 3), (67, 4),
    (83, 4), (99, 4), (115, 4), (131, 5), (163, 5), (195, 5), (227, 5), (258, 0)]

/-- Base distance and number of extra bits of the distance symbols. -/
def distanceTable : Array (Nat × Nat) :=
  #[(1, 0), (2, 0), (3, 0), (4, 0), (5, 1), (7, 1), (9, 2), (13, 2), (17, 3), (25, 3), (33, 4),
    (49, 4), (65, 5), (97, 5), (129, 6), (193, 6), (257, 7), (385, 7), (513, 8), (769, 8),
    (1025, 9), (1537, 9), (2049, 10), (3073, 10), (4097, 11), (6145, 11), (8193, 12), (12289, 12),
    (16385, 13), (24577, 13)]

/-- Reads the number behind a symbol: its base in the table and extra bits. -/
def extended (table : Array (Nat × Nat)) (symbol : Nat) (bits : Bits) :
    Except Halt (Nat × Bits) := do
  match table[symbol]? with
  | some (base, extra) =>
    let (n, bits) ← bits.number extra
    .ok (base + n, bits)
  | none => .error bits.corrupt

/-- The octet of output that stands `distance` before the next one. -/
def earlier (out : Array Output) (distance : Nat) : UInt8 :=
  match if distance ≤ out.size then out[out.size - distance]? else none with
  | some output => output.octet
  | none => 0

/-- Output with `length` octets more, each repeating the one `distance` before it. -/
def repeated (out : Array Output) (distance reached : Nat) : (length : Nat) → Array Output
  | 0 => out
  | length + 1 =>
    repeated (out.push ⟨earlier out distance, reached, reached⟩) distance reached length

/-- Reads the length and distance of a run. -/
def run (distances : PrefixCode) (symbol : Nat) (bits : Bits) :
    Except Halt ((Nat × Nat) × Bits) := do
  let (length, bits) ← extended lengthTable (symbol - 257) bits
  let (symbol, bits) ← distances.decode bits
  let (distance, bits) ← extended distanceTable symbol bits
  .ok ((length, distance), bits)

/-- Reads the words of a block; every word takes a bit at least, and `fuel` bounds
the bits. -/
def words (literals distances : PrefixCode) :
    (fuel : Nat) → Array Output → Bits → Inflated Bits
  | 0, out, _ => (out, .error .cut)
  | fuel + 1, out, bits =>
    match literals.decode bits with
    | .error halt => (out, .error halt)
    | .ok (symbol, bits) =>
      if symbol < 256 then
        words literals distances fuel
          (out.push ⟨UInt8.ofNat symbol, bits.reached, bits.reached⟩) bits
      else if symbol = 256 then (out, .ok bits)
      else match run distances symbol bits with
        | .error halt => (out, .error halt)
        | .ok ((length, distance), bits) =>
          words literals distances fuel (repeated out distance bits.reached length) bits

/-- Reads a block of plain octets behind the octet being read. Such an octet is
not touched before there is room for it. -/
def plainBlock (out : Array Output) (bits : Bits) : Inflated Bits :=
  let head := bits.rest.take 4
  let start := bits.reached + 4
  if head.length < 4 then (out, .error .cut)
  else
    let length := (wordAt .little head 0).toNat
    let inverse := (wordAt .little head 2).toNat
    if length + inverse ≠ 0xffff then (out, .error (.corrupt start))
    else
      let data := (bits.rest.drop 4).take length
      let outputs : List Output :=
        data.zipIdx.map fun (b, i) => ⟨b, start + i + 1, start + i⟩
      let out := out ++ outputs
      if data.length < length then (out, .error .cut)
      else (out, .ok ⟨[], bits.rest.drop (4 + length), start + length⟩)

/-- The literal code of blocks that give none. -/
def fixedLiterals : PrefixCode :=
  .ofLengths (List.replicate 144 8 ++ List.replicate 112 9 ++ List.replicate 24 7 ++
    List.replicate 8 8)

/-- The distance code of blocks that give none. -/
def fixedDistances : PrefixCode :=
  .ofLengths (List.replicate 32 5)

/-- The order in which the lengths of the length code are given. -/
def lengthOrder : List Nat :=
  [16, 17, 18, 0, 8, 7, 9, 6, 10, 5, 11, 4, 12, 3, 13, 2, 14, 1, 15]

/-- Reads `count` numbers of three bits. -/
def threeBits : (count : Nat) → Bits → Except Halt (List Nat × Bits)
  | 0, bits => .ok ([], bits)
  | count + 1, bits => do
    let (n, bits) ← bits.number 3
    let (others, bits) ← threeBits count bits
    .ok (n :: others, bits)

/-- Reads `count` word lengths that are themselves coded, appending them to
those read so far; every code word gives one length at least. -/
def codedLengths (code : PrefixCode) (count : Nat) :
    (fuel : Nat) → Array Nat → Bits → Except Halt (Array Nat × Bits)
  | 0, _, bits => .error bits.corrupt
  | fuel + 1, done, bits => do
    if count ≤ done.size then
      if done.size = count then .ok (done, bits) else .error bits.corrupt
    else
      let (symbol, bits) ← code.decode bits
      if symbol < 16 then codedLengths code count fuel (done.push symbol) bits
      else if symbol = 16 then
        match done.back? with
        | none => .error bits.corrupt
        | some last =>
          let (n, bits) ← bits.number 2
          codedLengths code count fuel (done ++ List.replicate (3 + n) last) bits
      else if symbol = 17 then
        let (n, bits) ← bits.number 3
        codedLengths code count fuel (done ++ List.replicate (3 + n) 0) bits
      else
        let (n, bits) ← bits.number 7
        codedLengths code count fuel (done ++ List.replicate (11 + n) 0) bits

/-- The code of the given word lengths, if it is fit for use. -/
def codeOf (isFit : PrefixCode → Bool) (lengths : List Nat) (bits : Bits) :
    Except Halt PrefixCode :=
  let code := PrefixCode.ofLengths lengths
  if isFit code then .ok code else .error bits.corrupt

/-- Reads the two codes that a block gives. -/
def ownCodes (bits : Bits) : Except Halt ((PrefixCode × PrefixCode) × Bits) := do
  let (literalCount, bits) ← bits.number 5
  let (distanceCount, bits) ← bits.number 5
  let (lengthCount, bits) ← bits.number 4
  let literalCount := literalCount + 257
  let distanceCount := distanceCount + 1
  if 286 < literalCount ∨ 30 < distanceCount then .error bits.corrupt
  else
    let (given, bits) ← threeBits (lengthCount + 4) bits
    let placed := lengthOrder.zip given
    let lengthCode ← codeOf PrefixCode.isComplete
      ((List.range 19).map fun symbol => (placed.lookup symbol).getD 0) bits
    let count := literalCount + distanceCount
    let (lengths, bits) ← codedLengths lengthCode count (count + 1) #[] bits
    let literals ← codeOf PrefixCode.isUsable (lengths.toList.take literalCount) bits
    let distances ← codeOf PrefixCode.isUsable (lengths.toList.drop literalCount) bits
    .ok ((literals, distances), bits)

/-- Reads the codes of a block of the given kind. -/
def blockCodes (kind : Nat) (bits : Bits) : Except Halt ((PrefixCode × PrefixCode) × Bits) :=
  if kind = 1 then .ok ((fixedLiterals, fixedDistances), bits)
  else if kind = 2 then ownCodes bits
  else .error bits.corrupt

/-- Reads the mark of the last block and the kind of this one. -/
def blockHead (bits : Bits) : Except Halt ((Bool × Nat) × Bits) := do
  let (last, bits) ← bits.next
  let (kind, bits) ← bits.number 2
  .ok ((last, kind), bits)

/-- Reads the content of a block of the given kind. -/
def block (kind fuel : Nat) (out : Array Output) (bits : Bits) : Inflated Bits :=
  if kind = 0 then plainBlock out bits
  else match blockCodes kind bits with
    | .error halt => (out, .error halt)
    | .ok ((literals, distances), bits) => words literals distances fuel out bits

/-- Reads blocks up to the last one; every block takes three bits at least, and
`fuel` bounds the bits. -/
def blocks : (fuel : Nat) → Array Output → Bits → Inflated Bits
  | 0, out, _ => (out, .error .cut)
  | fuel + 1, out, bits =>
    match blockHead bits with
    | .error halt => (out, .error halt)
    | .ok ((last, kind), bits) =>
      match block kind fuel out bits with
      | (out, .error halt) => (out, .error halt)
      | (out, .ok bits) => if last then (out, .ok bits) else blocks fuel out bits

/-- The output of compressed data that `start` octets of a file precede, and
what is left behind the data or the reason why it stops early. -/
def inflate (start : Nat) (bytes : Bytes) : Inflated Bits :=
  blocks (8 * bytes.length + 1) #[] ⟨[], bytes, start⟩

end CaptureFlow.Gzip
