import CaptureFlow.Text.Numeral

/-!
# Civil dates

The proleptic Gregorian calendar as day numbers counted from 1970-01-01. The
year is taken to start in March, so that the leap day is its last day.
-/

namespace CaptureFlow

/-- A civil date. -/
structure Date where
  /-- The astronomical year: 0 is the year before year 1. -/
  year : Int
  /-- The month, January being 1. -/
  month : Nat
  /-- The day of the month, from 1. -/
  day : Nat
  deriving DecidableEq, Repr

namespace Date

/-- Days in four centuries. -/
def eraDays : Int := 146097

/-- Days from 0000-03-01 to 1970-01-01. -/
def epochOffset : Int := 719468

/-- Whether a year has a leap day. -/
def isLeap (year : Int) : Bool :=
  year % 4 == 0 && (year % 100 != 0 || year % 400 == 0)

/-- The length of a month. -/
def monthLength (year : Int) (month : Nat) : Nat :=
  if month == 2 then if isLeap year then 29 else 28
  else if month == 4 || month == 6 || month == 9 || month == 11 then 30
  else 31

/-- The day number of a date. -/
def toDays (date : Date) : Int :=
  let year := if date.month ≤ 2 then date.year - 1 else date.year
  let era := year / 400
  let yearOfEra := year % 400
  let month := (date.month + 9) % 12
  let dayOfYear : Int := ((153 * month + 2) / 5 + date.day : Nat) - 1
  let dayOfEra := yearOfEra * 365 + yearOfEra / 4 - yearOfEra / 100 + dayOfYear
  era * eraDays + dayOfEra - epochOffset

/-- The date of a day number. -/
def ofDays (days : Int) : Date :=
  let shifted := days + epochOffset
  let era := shifted / eraDays
  let dayOfEra := (shifted % eraDays).toNat
  let yearOfEra := (dayOfEra - dayOfEra / 1460 + dayOfEra / 36524 - dayOfEra / 146096) / 365
  let dayOfYear := dayOfEra - (365 * yearOfEra + yearOfEra / 4 - yearOfEra / 100)
  let monthFromMarch := (5 * dayOfYear + 2) / 153
  let day := dayOfYear - (153 * monthFromMarch + 2) / 5 + 1
  let month := if monthFromMarch < 10 then monthFromMarch + 3 else monthFromMarch - 9
  let year := yearOfEra + era * 400
  ⟨if month ≤ 2 then year + 1 else year, month, day⟩

/-- The least year a date in a capture or an archive can have. -/
def minYear : Int := -262143

/-- The greatest year a date in a capture or an archive can have. -/
def maxYear : Int := 262142

/-- The day number of the first day in range. -/
def minDays : Int := toDays ⟨minYear, 1, 1⟩

/-- The day number of the last day in range. -/
def maxDays : Int := toDays ⟨maxYear, 12, 31⟩

/-- Four digits for the years 0 to 9999, a sign in front for every other. -/
def yearText (year : Int) : String :=
  if 0 ≤ year ∧ year ≤ 9999 then Numeral.zeroPadded 4 (Numeral.decimal year.toNat)
  else (if year < 0 then "-" else "+") ++ Numeral.zeroPadded 4 (Numeral.decimal year.natAbs)

/-- Year, month and day joined by hyphens. -/
def text (date : Date) : String :=
  let two := fun n => Numeral.zeroPadded 2 (Numeral.decimal n)
  s!"{yearText date.year}-{two date.month}-{two date.day}"

end Date

/-- Hours, minutes and seconds of a time of day, joined by colons. -/
def clockText (secondOfDay : Nat) (second : Nat) : String :=
  let two := fun n => Numeral.zeroPadded 2 (Numeral.decimal n)
  s!"{two (secondOfDay / 3600)}:{two (secondOfDay / 60 % 60)}:{two second}"

/-- Seconds in a day. -/
def daySeconds : Nat := 86400

end CaptureFlow
