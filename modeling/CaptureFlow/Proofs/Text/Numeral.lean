import CaptureFlow.Text.Numeral
import Mathlib.Algebra.Group.Nat.Defs

/-!
# Reading numerals back

The digits of a number read back as that number, in every base up to sixteen, so
that different numbers have different numerals. Decimal numerals are made of
decimal digits, and only that of zero starts with a zero. A reader that takes the
longest run of a class stops where the text goes on with something else.
-/

namespace CaptureFlow

/-- A text does not go on with an element of a class. -/
def Stops {α : Type} (p : α → Bool) (rest : List α) : Prop :=
  ∀ x ∈ rest.head?, p x = false

namespace Stops

variable {α : Type} {p : α → Bool} {run rest : List α}

/-- The end of the text stops every run. -/
@[simp] theorem nil : Stops p [] := by
  intro x hx
  cases hx

/-- A run stops in front of an element of no such class. -/
@[simp] theorem cons_iff {x : α} : Stops p (x :: rest) ↔ p x = false := by
  simp [Stops]

/-- The longest run in front is the one that was put there. -/
theorem takeWhile_append (hrest : Stops p rest) (hrun : ∀ x ∈ run, p x = true) :
    (run ++ rest).takeWhile p = run := by
  rw [List.takeWhile_append_of_pos hrun]
  cases rest with
  | nil => simp
  | cons x rest => simp [cons_iff.mp hrest]

/-- Behind the longest run stands what was put behind it. -/
theorem dropWhile_append (hrest : Stops p rest) (hrun : ∀ x ∈ run, p x = true) :
    (run ++ rest).dropWhile p = rest := by
  rw [List.dropWhile_append_of_pos hrun]
  cases rest with
  | nil => simp
  | cons x rest => simp [cons_iff.mp hrest]

/-- Nothing of the class stands in front of what follows. -/
theorem dropWhile_eq (hrest : Stops p rest) : rest.dropWhile p = rest := by
  cases rest with
  | nil => rfl
  | cons x rest => simp [cons_iff.mp hrest]

end Stops

end CaptureFlow

namespace CaptureFlow.Numeral

/-- Every digit that is written has its value when it is read. -/
theorem digit?_digitChar {base d : Nat} (hd : d < base) (hb : base ≤ 16) :
    digit? base d.digitChar = some d := by
  have hall : ∀ d < 16, digit? 16 d.digitChar = some d := by decide
  have h16 := hall d (by omega)
  simp only [digit?, Option.filter_eq_some_iff] at h16 ⊢
  exact ⟨h16.1, by simpa using hd⟩

/-- The digits of a number are digits of its base. -/
theorem exists_of_mem_toDigits {base n : Nat} {c : Char} (hb : 1 < base)
    (h : c ∈ Nat.toDigits base n) : ∃ d < base, c = d.digitChar := by
  induction n using Nat.base_induction base hb with
  | single n hn =>
    rw [Nat.toDigits_of_lt_base hn, List.mem_singleton] at h
    exact ⟨n, hn, h⟩
  | digit n d hd hn ih =>
    rw [← Nat.toDigits_append_toDigits hb hn hd, Nat.toDigits_of_lt_base hd,
      List.mem_append, List.mem_singleton] at h
    rcases h with h | h
    · exact ih h
    · exact ⟨d, hd, h⟩

/-- The digits of a number are readable in its base. -/
theorem digit?_of_mem_toDigits {base n : Nat} {c : Char} (hb : 1 < base) (hle : base ≤ 16)
    (h : c ∈ Nat.toDigits base n) : (digit? base c).isSome := by
  obtain ⟨d, hd, rfl⟩ := exists_of_mem_toDigits hb h
  rw [digit?_digitChar hd hle]
  rfl

/-- Reading the digits of a number gives the number. -/
theorem value?_toDigits {base : Nat} (hb : 1 < base) (hle : base ≤ 16) (n : Nat) :
    value? base (Nat.toDigits base n) = some n := by
  induction n using Nat.base_induction base hb with
  | single n hn =>
    rw [Nat.toDigits_of_lt_base hn]
    simp [value?, digit?_digitChar hn hle]
  | digit n d hd hn ih =>
    rw [← Nat.toDigits_append_toDigits hb hn hd, Nat.toDigits_of_lt_base hd]
    rw [value?] at ih ⊢
    rw [List.foldlM_append, ih]
    simp [digit?_digitChar hd hle]

/-- The digits of a number tell the number. -/
theorem toDigits_injective {base : Nat} (hb : 1 < base) (hle : base ≤ 16) :
    Function.Injective (Nat.toDigits base) := by
  intro m n h
  have hm := value?_toDigits hb hle m
  rw [h, value?_toDigits hb hle n] at hm
  exact (Option.some.inj hm).symm

/-- The characters of a decimal numeral. -/
@[simp] theorem toList_decimal (n : Nat) : (decimal n).toList = Nat.toDigits 10 n :=
  String.toList_ofList

/-- The characters of a hexadecimal numeral. -/
@[simp] theorem toList_hexadecimal (n : Nat) : (hexadecimal n).toList = Nat.toDigits 16 n :=
  String.toList_ofList

/-- Decimal numerals are made of decimal digits. -/
theorem isDigit_of_mem_toDigits {n : Nat} {c : Char} (h : c ∈ Nat.toDigits 10 n) :
    c.isDigit = true :=
  Nat.isDigit_of_mem_toDigits (by omega) (by omega) h

/-- A number of several digits does not start with a zero. -/
theorem head?_toDigits_ne_zero {base n : Nat} (hb : 1 < base) (hn : 0 < n) :
    (Nat.toDigits base n).head? ≠ some '0' := by
  induction n using Nat.base_induction base hb with
  | single n hlt =>
    rw [Nat.toDigits_of_lt_base hlt]
    simp only [List.head?_cons, ne_eq, Option.some.injEq, Nat.digitChar_eq_zero]
    omega
  | digit n d hd hpos ih =>
    have hne : Nat.toDigits base n ≠ [] := Nat.toDigits_ne_nil
    have hhead := ih hpos
    rw [← Nat.toDigits_append_toDigits hb hpos hd]
    cases hdigits : Nat.toDigits base n with
    | nil => exact absurd hdigits hne
    | cons c rest => simpa [hdigits] using hhead

/-! ## Padded numerals -/

/-- A run of decimal digits with the number that it tells. -/
structure Tells (digits : List Char) (n : Nat) : Prop where
  /-- There are digits. -/
  ne_nil : digits ≠ []
  /-- There is nothing else. -/
  isDigit : ∀ c ∈ digits, c.isDigit = true
  /-- They read as the number. -/
  value?_eq : value? 10 digits = some n

/-- Zeros in front of digits do not count. -/
theorem value?_replicate_append {base : Nat} (hb : 0 < base) (count : Nat) (digits : List Char) :
    value? base (List.replicate count '0' ++ digits) = value? base digits := by
  have hzero : digit? base '0' = some 0 := by simp [digit?, hb]
  induction count with
  | zero => rfl
  | succ count ih =>
    rw [List.replicate_succ, List.cons_append, value?, List.foldlM_cons, hzero]
    exact ih

/-- The characters of a padded numeral. -/
theorem toList_zeroPadded_decimal (width n : Nat) :
    (zeroPadded width (decimal n)).toList =
      List.replicate (width - (Nat.toDigits 10 n).length) '0' ++ Nat.toDigits 10 n := by
  rw [zeroPadded, String.toList_append, String.toList_ofList, toList_decimal, decimal,
    String.length_ofList]

/-- A padded numeral tells its number. -/
theorem tells_zeroPadded (width n : Nat) : Tells (zeroPadded width (decimal n)).toList n := by
  rw [toList_zeroPadded_decimal]
  refine ⟨?_, fun c hc => ?_, ?_⟩
  · exact List.append_ne_nil_of_right_ne_nil _ Nat.toDigits_ne_nil
  · rcases List.mem_append.mp hc with hc | hc
    · rw [List.eq_of_mem_replicate hc]
      rfl
    · exact isDigit_of_mem_toDigits hc
  · rw [value?_replicate_append (by decide), value?_toDigits (by decide) (by decide)]

/-- A numeral that fits its width has that width. -/
theorem length_zeroPadded {width n : Nat} (hwidth : 0 < width) (hn : n < 10 ^ width) :
    (zeroPadded width (decimal n)).toList.length = width := by
  have hlength : (Nat.toDigits 10 n).length ≤ width :=
    (Nat.length_toDigits_le_iff (by decide) hwidth).mpr hn
  rw [toList_zeroPadded_decimal, List.length_append, List.length_replicate]
  omega

end CaptureFlow.Numeral
