import CaptureFlow.Gzip.Inflate
import CaptureFlow.Proofs.Passes

/-!
# How far compressed data is read

Reading compressed data uses up octets of the file, one after the other: what was read and
what is left always make up the whole. An octet of output is told by no more of the file
than is used up when it is put out, so that all output is told by what is used up at the
end.
-/

namespace CaptureFlow.Gzip

/-- What is left of some bits once some of them are read. -/
structure Bits.Leaves (bits left : Bits) : Prop where
  /-- What was read and what is left make up the same file. -/
  total_eq : left.reached + left.rest.length = bits.reached + bits.rest.length
  /-- What was read stays so. -/
  reached_le : bits.reached ≤ left.reached

/-- Reading nothing leaves the bits. -/
theorem Bits.Leaves.refl (bits : Bits) : bits.Leaves bits :=
  ⟨rfl, Nat.le_refl _⟩

/-- What is left of what is left. -/
theorem Bits.Leaves.trans {bits next left : Bits} (h : bits.Leaves next)
    (hnext : next.Leaves left) : bits.Leaves left :=
  ⟨hnext.total_eq.trans h.total_eq, Nat.le_trans h.reached_le hnext.reached_le⟩

/-! ## Numbers and words -/

/-- Reading a bit leaves the others. -/
theorem Bits.leaves_next {bits left : Bits} {bit : Bool} (h : bits.next = .ok (bit, left)) :
    bits.Leaves left := by
  obtain ⟨pending, rest, reached⟩ := bits
  cases pending with
  | cons head pending =>
    cases h
    exact ⟨rfl, Nat.le_refl _⟩
  | nil =>
    cases rest with
    | nil => cases h
    | cons b rest =>
      simp only [next] at h
      split at h
      · cases h
        refine ⟨?_, Nat.le_succ _⟩
        simp only [List.length_cons]
        omega
      · cases h

/-- Reading a number leaves what is behind it. -/
theorem Bits.leaves_number {count value : Nat} {bits left : Bits}
    (h : bits.number count = .ok (value, left)) : bits.Leaves left := by
  induction count generalizing bits value with
  | zero =>
    cases h
    exact .refl _
  | succ count ih =>
    obtain ⟨⟨bit, next⟩, hbit, h⟩ := exists_of_bind_ok h
    obtain ⟨⟨high, behind⟩, hhigh, h⟩ := exists_of_bind_ok h
    cases h
    exact (leaves_next hbit).trans (ih hhigh)

/-- Reading a word leaves what is behind it. -/
theorem PrefixCode.leaves_decodeFrom {symbols : Array Nat} {counts : List Nat}
    {word first index symbol : Nat} {bits left : Bits}
    (h : decodeFrom symbols counts word first index bits = .ok (symbol, left)) :
    bits.Leaves left := by
  induction counts generalizing word first index bits with
  | nil => cases h
  | cons count counts ih =>
    obtain ⟨⟨bit, next⟩, hbit, h⟩ := exists_of_bind_ok h
    have hnext := Bits.leaves_next hbit
    dsimp only at h
    split at h
    · split at h
      · cases h
        exact hnext
      · cases h
    · split at h
      · cases h
      · exact hnext.trans (ih h)

/-- Reading a symbol and its extra bits leaves what is behind them. -/
theorem leaves_extended {table : Array (Nat × Nat)} {symbol value : Nat} {bits left : Bits}
    (h : extended table symbol bits = .ok (value, left)) : bits.Leaves left := by
  unfold extended at h
  split at h
  · obtain ⟨⟨n, next⟩, hnumber, h⟩ := exists_of_bind_ok h
    cases h
    exact Bits.leaves_number hnumber
  · cases h

/-- Reading a run leaves what is behind it. -/
theorem leaves_run {distances : PrefixCode} {symbol : Nat} {bits left : Bits}
    {found : Nat × Nat} (h : run distances symbol bits = .ok (found, left)) :
    bits.Leaves left := by
  obtain ⟨⟨length, next⟩, hlength, h⟩ := exists_of_bind_ok h
  obtain ⟨⟨word, behind⟩, hword, h⟩ := exists_of_bind_ok h
  obtain ⟨⟨distance, last⟩, hdistance, h⟩ := exists_of_bind_ok h
  cases h
  have hbehind : next.Leaves behind := PrefixCode.leaves_decodeFrom hword
  exact (leaves_extended hlength).trans (hbehind.trans (leaves_extended hdistance))

/-- Reading short numbers leaves what is behind them. -/
theorem leaves_threeBits {count : Nat} {bits left : Bits} {numbers : List Nat}
    (h : threeBits count bits = .ok (numbers, left)) : bits.Leaves left := by
  induction count generalizing bits numbers with
  | zero =>
    cases h
    exact .refl _
  | succ count ih =>
    obtain ⟨⟨n, next⟩, hnumber, h⟩ := exists_of_bind_ok h
    obtain ⟨⟨others, behind⟩, hothers, h⟩ := exists_of_bind_ok h
    cases h
    exact (Bits.leaves_number hnumber).trans (ih hothers)

/-- Reading coded lengths leaves what is behind them. -/
theorem leaves_codedLengths {code : PrefixCode} {count fuel : Nat} {done lengths : Array Nat}
    {bits left : Bits} (h : codedLengths code count fuel done bits = .ok (lengths, left)) :
    bits.Leaves left := by
  induction fuel generalizing done bits with
  | zero => cases h
  | succ fuel ih =>
    rw [codedLengths] at h
    split at h
    · split at h
      · cases h
        exact .refl _
      · cases h
    · obtain ⟨⟨symbol, next⟩, hsymbol, h⟩ := exists_of_bind_ok h
      have hnext : bits.Leaves next := PrefixCode.leaves_decodeFrom hsymbol
      dsimp only at h
      split at h
      · exact hnext.trans (ih h)
      split at h
      · split at h
        · cases h
        · obtain ⟨⟨n, behind⟩, hnumber, h⟩ := exists_of_bind_ok h
          exact hnext.trans ((Bits.leaves_number hnumber).trans (ih h))
      split at h
      all_goals
        obtain ⟨⟨n, behind⟩, hnumber, h⟩ := exists_of_bind_ok h
        exact hnext.trans ((Bits.leaves_number hnumber).trans (ih h))

/-- Reading the codes of a block leaves what is behind them. -/
theorem leaves_ownCodes {bits left : Bits} {codes : PrefixCode × PrefixCode}
    (h : ownCodes bits = .ok (codes, left)) : bits.Leaves left := by
  obtain ⟨⟨literalCount, first⟩, hliteral, h⟩ := exists_of_bind_ok h
  obtain ⟨⟨distanceCount, second⟩, hdistance, h⟩ := exists_of_bind_ok h
  obtain ⟨⟨lengthCount, third⟩, hlength, h⟩ := exists_of_bind_ok h
  have hcounts := (Bits.leaves_number hliteral).trans
    ((Bits.leaves_number hdistance).trans (Bits.leaves_number hlength))
  dsimp only at h
  split at h
  · cases h
  · obtain ⟨⟨given, fourth⟩, hgiven, h⟩ := exists_of_bind_ok h
    obtain ⟨lengthCode, -, h⟩ := exists_of_bind_ok h
    obtain ⟨⟨lengths, fifth⟩, hlengths, h⟩ := exists_of_bind_ok h
    obtain ⟨literals, -, h⟩ := exists_of_bind_ok h
    obtain ⟨distances, -, h⟩ := exists_of_bind_ok h
    cases h
    exact hcounts.trans ((leaves_threeBits hgiven).trans (leaves_codedLengths hlengths))

/-- Reading the codes of a block of any kind leaves what is behind them. -/
theorem leaves_blockCodes {kind : Nat} {bits left : Bits} {codes : PrefixCode × PrefixCode}
    (h : blockCodes kind bits = .ok (codes, left)) : bits.Leaves left := by
  unfold blockCodes at h
  split at h
  · cases h
    exact .refl _
  · split at h
    · exact leaves_ownCodes h
    · cases h

/-- Reading the front of a block leaves what is behind it. -/
theorem leaves_blockHead {bits left : Bits} {head : Bool × Nat}
    (h : blockHead bits = .ok (head, left)) : bits.Leaves left := by
  obtain ⟨⟨last, next⟩, hlast, h⟩ := exists_of_bind_ok h
  obtain ⟨⟨kind, behind⟩, hkind, h⟩ := exists_of_bind_ok h
  cases h
  exact (Bits.leaves_next hlast).trans (Bits.leaves_number hkind)

/-! ## Output -/

/-- All output is told by the first `limit` octets of a file. -/
def Within (limit : Nat) (outputs : Array Output) : Prop :=
  ∀ output ∈ outputs, output.reached ≤ limit ∧ output.held ≤ limit

/-- What is told by a part of a file is told by a longer one. -/
theorem Within.mono {limit more : Nat} {outputs : Array Output} (h : Within limit outputs)
    (hle : limit ≤ more) : Within more outputs := by
  intro output hmem
  obtain ⟨hreached, hheld⟩ := h output hmem
  exact ⟨Nat.le_trans hreached hle, Nat.le_trans hheld hle⟩

/-- Octets are put out behind others. -/
theorem Within.push {limit : Nat} {outputs : Array Output} (h : Within limit outputs)
    (octet : UInt8) : Within limit (outputs.push ⟨octet, limit, limit⟩) := by
  intro output hmem
  rcases Array.mem_push.mp hmem with hearlier | rfl
  · exact h output hearlier
  · exact ⟨Nat.le_refl _, Nat.le_refl _⟩

/-- A run is put out behind other octets. -/
theorem Within.repeated {limit : Nat} {outputs : Array Output} (h : Within limit outputs)
    (distance length : Nat) : Within limit (repeated outputs distance limit length) := by
  induction length generalizing outputs with
  | zero => exact h
  | succ length ih => exact ih (h.push _)

/-- What a reading leaves of the bits, with output that is told by those that were read. -/
structure Inflates (bits : Bits) (outputs : Array Output) (left : Bits) : Prop where
  /-- The bits left are those behind others. -/
  leaves : bits.Leaves left
  /-- The output is told by the others. -/
  within : Within left.reached outputs

-- the offset of the length symbols is not to be counted down when a word is unfolded
attribute [local irreducible] run

/-- A word is read, and those behind it with less fuel. -/
theorem words_succ (literals distances : PrefixCode) (fuel : Nat) (out : Array Output)
    (bits : Bits) : words literals distances (fuel + 1) out bits =
      match literals.decode bits with
      | .error halt => (out, .error halt)
      | .ok (symbol, bits) =>
        if symbol < 256 then
          words literals distances fuel
            (out.push ⟨UInt8.ofNat symbol, bits.reached, bits.reached⟩) bits
        else if symbol = 256 then (out, .ok bits)
        else match run distances symbol bits with
          | .error halt => (out, .error halt)
          | .ok ((length, distance), bits) =>
            words literals distances fuel (repeated out distance bits.reached length) bits :=
  rfl

/-- Reading the words of a block puts out what they tell. -/
theorem inflates_words {literals distances : PrefixCode} {fuel : Nat}
    {before outputs : Array Output} {bits left : Bits}
    (h : words literals distances fuel before bits = (outputs, .ok left))
    (hbefore : Within bits.reached before) : Inflates bits outputs left := by
  induction fuel generalizing before bits with
  | zero =>
    have hnone : words literals distances 0 before bits = (before, .error .cut) := rfl
    rw [hnone] at h
    cases h
  | succ fuel ih =>
    rw [words_succ] at h
    split at h
    · cases h
    · rename_i symbol next hsymbol
      have hnext : bits.Leaves next := PrefixCode.leaves_decodeFrom hsymbol
      have hout := hbefore.mono hnext.reached_le
      split at h
      · obtain ⟨hleaves, hwithin⟩ := ih h (hout.push _)
        exact ⟨hnext.trans hleaves, hwithin⟩
      split at h
      · cases h
        exact ⟨hnext, hout⟩
      split at h
      · cases h
      · rename_i length distance behind hrun
        have hbehind := leaves_run hrun
        obtain ⟨hleaves, hwithin⟩ :=
          ih h ((hout.mono hbehind.reached_le).repeated distance length)
        exact ⟨hnext.trans (hbehind.trans hleaves), hwithin⟩

/-- Reading a block of plain octets puts them out. -/
theorem inflates_plainBlock {before outputs : Array Output} {bits left : Bits}
    (h : plainBlock before bits = (outputs, .ok left))
    (hbefore : Within bits.reached before) : Inflates bits outputs left := by
  unfold plainBlock at h
  dsimp only at h
  split at h
  · cases h
  split at h
  · cases h
  split at h
  · cases h
  rename_i hhead _ hdata
  generalize (wordAt .little (bits.rest.take 4) 0).toNat = length at *
  generalize hhere : (bits.rest.drop 4).take length = here at *
  have hfour : 4 ≤ bits.rest.length := by
    rw [List.length_take] at hhead
    omega
  have hlong : here.length = length ∧ length ≤ bits.rest.length - 4 := by
    have hlength := congrArg List.length hhere
    rw [List.length_take, List.length_drop] at hlength
    omega
  cases h
  refine ⟨⟨?_, ?_⟩, ?_⟩
  · rw [List.length_drop]
    dsimp only
    omega
  · dsimp only
    omega
  · intro output hmem
    rw [← Array.mem_toList_iff, Array.toList_appendList, List.mem_append] at hmem
    rcases hmem with hearlier | hlater
    · obtain ⟨hreached, hheld⟩ := hbefore output (Array.mem_toList_iff.mp hearlier)
      dsimp only
      omega
    · obtain ⟨⟨octet, place⟩, hplace, rfl⟩ := List.mem_map.mp hlater
      have hbound := List.snd_lt_of_mem_zipIdx hplace
      dsimp only at hbound ⊢
      omega

/-- Reading a block puts out what it holds. -/
theorem inflates_block {kind fuel : Nat} {before outputs : Array Output} {bits left : Bits}
    (h : block kind fuel before bits = (outputs, .ok left))
    (hbefore : Within bits.reached before) : Inflates bits outputs left := by
  unfold block at h
  split at h
  · exact inflates_plainBlock h hbefore
  · split at h
    · cases h
    · rename_i literals distances next hcodes
      have hnext := leaves_blockCodes hcodes
      obtain ⟨hleaves, hwithin⟩ := inflates_words h (hbefore.mono hnext.reached_le)
      exact ⟨hnext.trans hleaves, hwithin⟩

/-- Reading blocks puts out what they hold. -/
theorem inflates_blocks {fuel : Nat} {before outputs : Array Output} {bits left : Bits}
    (h : blocks fuel before bits = (outputs, .ok left))
    (hbefore : Within bits.reached before) : Inflates bits outputs left := by
  induction fuel generalizing before bits with
  | zero => cases h
  | succ fuel ih =>
    rw [blocks] at h
    split at h
    · cases h
    · rename_i last kind next hhead
      have hnext := leaves_blockHead hhead
      split at h
      · cases h
      · rename_i made behind hblock
        obtain ⟨hbehind, hmade⟩ := inflates_block hblock (hbefore.mono hnext.reached_le)
        split at h
        · cases h
          exact ⟨hnext.trans hbehind, hmade⟩
        · obtain ⟨hleaves, hwithin⟩ := ih h hmade
          exact ⟨hnext.trans (hbehind.trans hleaves), hwithin⟩

/-- Decompressing data that is complete uses up octets of the file, and puts out what they
tell. -/
theorem inflates_inflate {start : Nat} {bytes : Bytes} {outputs : Array Output} {left : Bits}
    (h : inflate start bytes = (outputs, .ok left)) :
    start ≤ left.reached ∧ left.reached + left.rest.length = start + bytes.length ∧
      Within left.reached outputs := by
  have hnone : Within start #[] := by
    intro output hmem
    cases Array.not_mem_empty output hmem
  obtain ⟨hleaves, hwithin⟩ := inflates_blocks h hnone
  exact ⟨hleaves.reached_le, hleaves.total_eq, hwithin⟩

end CaptureFlow.Gzip
