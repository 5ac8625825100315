import CaptureFlow.Gzip.Bits

/-!
# Canonical prefix codes

A code is given by the length of every symbol's code word; words of one length
are consecutive numbers in the order of their symbols, and shorter words come
first. A code is complete if it uses all words; where a code need not be, words
may be left over only as long as none in use has more than one bit.
-/

namespace CaptureFlow.Gzip

/-- The greatest length of a code word. -/
def maxWordLength : Nat := 15

/-- A prefix code in canonical order. -/
structure PrefixCode where
  /-- How many words there are of the lengths 1, 2, … in turn. -/
  counts : List Nat
  /-- The symbols by word length, those of one length in increasing order. -/
  symbols : Array Nat

namespace PrefixCode

/-- The words left over once words of the given lengths are handed out, none
if they run out. -/
def spare : (words : Nat) → (counts : List Nat) → Option Nat
  | words, [] => some words
  | words, count :: counts =>
    if count ≤ 2 * words then spare (2 * words - count) counts else none

/-- The code of the given word lengths; length zero means no word. -/
def ofLengths (lengths : List Nat) : PrefixCode :=
  let wordLengths := (List.range maxWordLength).map (· + 1)
  let symbols := wordLengths.flatMap fun n =>
    (lengths.zipIdx.filter fun (length, _) => length == n).map Prod.snd
  ⟨wordLengths.map fun n => lengths.count n, symbols.toArray⟩

/-- Whether the code uses all words. -/
def isComplete (code : PrefixCode) : Bool :=
  spare 1 code.counts == some 0

/-- Whether the code is complete, or leaves words over for want of symbols. -/
def isUsable (code : PrefixCode) : Bool :=
  code.isComplete || (spare 1 code.counts).isSome && code.counts.tail.all (· == 0)

/-- Reads a word bit by bit: `word` is its value so far, `first` the first word
of this length, and `index` the place of that word's symbol. -/
def decodeFrom (symbols : Array Nat) :
    (counts : List Nat) → (word first index : Nat) → Bits → Except Halt (Nat × Bits)
  | [], _, _, _, bits => .error bits.corrupt
  | count :: counts, word, first, index, bits => do
    let (bit, bits) ← bits.next
    let word := 2 * word + bit.toNat
    let first := 2 * first
    if word < first + count then
      match symbols[index + (word - first)]? with
      | some symbol => .ok (symbol, bits)
      | none => .error bits.corrupt
    else if counts.all (· == 0) then .error bits.corrupt
    else decodeFrom symbols counts word (first + count) (index + count) bits

/-- Reads a word and gives its symbol. -/
def decode (code : PrefixCode) (bits : Bits) : Except Halt (Nat × Bits) :=
  decodeFrom code.symbols code.counts 0 0 0 bits

end PrefixCode

end CaptureFlow.Gzip
