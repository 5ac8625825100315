import CaptureFlow.Bytes

/-!
# Bits of compressed data

Compressed data is a row of bits, the lowest bit of every octet first. A number
in it starts with its lowest bit. How far a file has to be there for something
to be told is counted in octets from its start.
-/

namespace CaptureFlow.Gzip

/-- How the reading of compressed data stops before its end. -/
inductive Halt where
  /-- The data ends. -/
  | cut
  /-- The data breaks the rules of the format, as its first `reached` octets tell. -/
  | corrupt (reached : Nat)
  deriving DecidableEq, Repr

/-- Compressed data not yet read. -/
structure Bits where
  /-- The bits left of the octet being read. -/
  pending : List Bool
  /-- The octets behind it. -/
  rest : Bytes
  /-- The number of octets in front of those, the one being read included. -/
  reached : Nat

namespace Bits

/-- The bits of an octet, lowest first. -/
def ofOctet (b : UInt8) : List Bool :=
  (List.range 8).map b.toNat.testBit

/-- The data is corrupt as far as it is read. -/
def corrupt (bits : Bits) : Halt :=
  .corrupt bits.reached

/-- Splits off the next bit. -/
def next (bits : Bits) : Except Halt (Bool × Bits) :=
  match bits.pending, bits.rest with
  | bit :: pending, rest => .ok (bit, ⟨pending, rest, bits.reached⟩)
  | [], b :: rest =>
    match ofOctet b with
    | bit :: pending => .ok (bit, ⟨pending, rest, bits.reached + 1⟩)
    | [] => .error bits.corrupt
  | [], [] => .error .cut

/-- Splits off a number of `count` bits. -/
def number : (count : Nat) → Bits → Except Halt (Nat × Bits)
  | 0, bits => .ok (0, bits)
  | count + 1, bits => do
    let (bit, bits) ← bits.next
    let (high, bits) ← number count bits
    .ok (bit.toNat + 2 * high, bits)

end Bits

end CaptureFlow.Gzip
