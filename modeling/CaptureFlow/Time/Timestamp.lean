import CaptureFlow.Time.Calendar

/-!
# Capture timestamps

A timestamp counts microseconds from 1970-01-01 in 64 bits. Its text is a UTC
date and time with six fraction digits where the calendar range has the date,
and the bare count elsewhere. The time between two timestamps is told in 64 bits
as well; one that is longer overflows.
-/

namespace CaptureFlow

/-- Microseconds since 1970-01-01T00:00:00Z. -/
abbrev Timestamp := Int64

/-- What stops a computation whose result does not fit in 64 bits. -/
inductive Overflow where
  /-- The time between two timestamps does not fit. -/
  | elapsed
  deriving DecidableEq, Repr

namespace Timestamp

/-- Microseconds in a second. -/
def micros : Int := 1000000

/-- The text of a timestamp. -/
def text (timestamp : Timestamp) : String :=
  let count := timestamp.toInt
  let seconds := count / micros
  let fraction := (count % micros).toNat
  let days := seconds / daySeconds
  let ofDay := (seconds % daySeconds).toNat
  if Date.minDays ≤ days ∧ days ≤ Date.maxDays then
    s!"{(Date.ofDays days).text}T{clockText ofDay (ofDay % 60)}." ++
      Numeral.zeroPadded 6 (Numeral.decimal fraction) ++ "Z"
  else Numeral.signed count

/-- The nearest 64-bit value to an integer. -/
def saturate (n : Int) : Int64 :=
  if n < Int64.minValue.toInt then Int64.minValue
  else if Int64.maxValue.toInt < n then Int64.maxValue
  else Int64.ofInt n

/-- A count of microseconds in nanoseconds, held at the ends of the 64-bit range. -/
def nanoseconds (timestamp : Timestamp) : Int64 :=
  saturate (timestamp.toInt * 1000)

/-- Whether the microseconds from one timestamp to another fit in 64 bits. -/
def ElapsedFits (earlier later : Timestamp) : Prop :=
  Int64.minValue.toInt ≤ later.toInt - earlier.toInt ∧
    later.toInt - earlier.toInt ≤ Int64.maxValue.toInt

instance (earlier later : Timestamp) : Decidable (ElapsedFits earlier later) :=
  inferInstanceAs (Decidable (_ ∧ _))

/-- The microseconds from one timestamp to another. -/
def elapsed (earlier later : Timestamp) : Except Overflow Int64 :=
  if ElapsedFits earlier later then .ok (later - earlier) else .error .elapsed

/-- The difference of two timestamps is exact where it fits. -/
theorem toInt_sub_of_fits {earlier later : Timestamp} (h : ElapsedFits earlier later) :
    (later - earlier).toInt = later.toInt - earlier.toInt := by
  have hlow : -2 ^ 63 ≤ later.toInt - earlier.toInt := h.1
  have hhigh : later.toInt - earlier.toInt ≤ 2 ^ 63 - 1 := h.2
  rw [Int64.toInt_sub, Int.bmod_def]
  split <;> omega

/-- Every 64-bit number of microseconds fits. -/
theorem elapsedFits_of_toInt_eq {earlier later : Timestamp} {time : Int64}
    (h : time.toInt = later.toInt - earlier.toInt) : ElapsedFits earlier later := by
  rw [ElapsedFits, ← h]
  exact ⟨time.minValue_le_toInt, time.toInt_le⟩

/-- The time between two timestamps is told just if it is their difference. -/
theorem elapsed_eq_ok_iff {earlier later : Timestamp} {time : Int64} :
    elapsed earlier later = .ok time ↔ time.toInt = later.toInt - earlier.toInt := by
  rw [elapsed]
  constructor
  · intro h
    split at h
    next hfits =>
      cases h
      exact toInt_sub_of_fits hfits
    · cases h
  · intro h
    have hfits := elapsedFits_of_toInt_eq h
    rw [if_pos hfits]
    exact congrArg Except.ok (Int64.toInt_inj.mp ((toInt_sub_of_fits hfits).trans h.symm))

/-- It overflows just if the difference does not fit. -/
theorem elapsed_eq_error_iff {earlier later : Timestamp} :
    elapsed earlier later = .error .elapsed ↔ ¬ElapsedFits earlier later := by
  rw [elapsed]
  split <;> simp [*]

end Timestamp

end CaptureFlow
