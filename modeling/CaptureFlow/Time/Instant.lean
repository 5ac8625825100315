import CaptureFlow.Text.Blank
import CaptureFlow.Time.Calendar

/-!
# Instants

A point in time to the nanosecond, its RFC 3339 text in UTC, and a lenient
reader of such texts: parts may lack leading zeros and stand apart, and the
zone may be any offset below a day.
-/

namespace CaptureFlow

/-- A point in time. -/
structure Instant where
  /-- Whole seconds since 1970-01-01T00:00:00Z. -/
  seconds : Int
  /-- Nanoseconds into that second; a leap second counts on beyond the first
  thousand million. -/
  nanos : Nat
  deriving DecidableEq, Repr

namespace Instant

/-- Nanoseconds in a second. -/
def nanosPerSecond : Nat := 1000000000

/-- Date and clock reading, without fraction and zone. -/
def clock (instant : Instant) : String :=
  let ofDay := (instant.seconds % daySeconds).toNat
  let second := ofDay % 60 + instant.nanos / nanosPerSecond
  s!"{(Date.ofDays (instant.seconds / daySeconds)).text}T{clockText ofDay second}"

/-- The text to whole seconds. -/
def textSeconds (instant : Instant) : String :=
  clock instant ++ "Z"

/-- The fraction with as few digits out of 0, 3, 6 and 9 as hold it. -/
def fraction (nanos : Nat) : String :=
  if nanos = 0 then ""
  else if nanos % 1000000 = 0 then "." ++ Numeral.zeroPadded 3 (Numeral.decimal (nanos / 1000000))
  else if nanos % 1000 = 0 then "." ++ Numeral.zeroPadded 6 (Numeral.decimal (nanos / 1000))
  else "." ++ Numeral.zeroPadded 9 (Numeral.decimal nanos)

/-- The text that loses nothing. -/
def text (instant : Instant) : String :=
  clock instant ++ fraction (instant.nanos % nanosPerSecond) ++ "Z"

/-- Why a text is no instant. -/
inductive Fault where
  /-- A character does not belong where it stands. -/
  | invalid
  /-- The text ends too early. -/
  | tooShort
  /-- A number is beyond its range. -/
  | outOfRange
  /-- Something follows the zone. -/
  | tooLong
  /-- In UTC the date is beyond the calendar range. -/
  | impossible
  deriving DecidableEq, Repr

/-- The wording of a fault. -/
def Fault.message : Fault → String
  | invalid => "input contains invalid characters"
  | tooShort => "premature end of input"
  | outOfRange => "input is out of range"
  | tooLong => "trailing input"
  | impossible => "no possible date and time matching input"

/-- A step of the reader: a value and the text behind it. -/
abbrev Step (α : Type) := List Char → Except Fault (α × List Char)

/-- Reads up to `limit` digits, at least one, as a 63-bit number. -/
def number (limit : Nat) : Step Nat := fun text =>
  match text with
  | [] => .error .tooShort
  | c :: _ =>
    if c.isDigit then
      let digits := (text.takeWhile Char.isDigit).take limit
      match Numeral.value? 10 digits with
      | some n =>
        if n < UInt64.size / 2 then .ok (n, text.drop digits.length) else .error .outOfRange
      | none => .error .invalid
    else .error .invalid

/-- Reads a number of up to `limit` digits within a range, blanks in front. -/
def ranged (limit low high : Nat) : Step Nat := fun text => do
  let (n, rest) ← number limit (Blank.trimStart text)
  if low ≤ n ∧ n ≤ high then .ok (n, rest) else .error .outOfRange

/-- Reads a year: up to four digits, or a sign and any number of digits. -/
def year : Step Int := fun text => do
  let text := Blank.trimStart text
  let limit : Nat := UInt32.size / 2
  let bounded : Int → List Char → Except Fault (Int × List Char) := fun n rest =>
    if -limit ≤ n ∧ n < limit then .ok (n, rest) else .error .outOfRange
  match text with
  | '-' :: rest => do
    let (n, rest) ← number rest.length rest
    bounded (-(n : Int)) rest
  | '+' :: rest => do
    let (n, rest) ← number rest.length rest
    bounded n rest
  | _ => do
    let (n, rest) ← number 4 text
    bounded n rest

/-- Drops one mark, blanks in front. -/
def mark (c : Char) (text : List Char) : Except Fault (List Char) :=
  match Blank.trimStart text with
  | [] => .error .tooShort
  | d :: rest => if d = c then .ok rest else .error .invalid

/-- Drops the mark between date and time. -/
def separator : List Char → Except Fault (List Char)
  | [] => .error .tooShort
  | c :: rest => if c = 't' ∨ c = 'T' ∨ c = ' ' then .ok rest else .error .invalid

/-- Reads an optional fraction of a second; digits beyond the ninth are dropped. -/
def nanoseconds : Step Nat := fun text =>
  match text with
  | '.' :: rest => do
    let (n, after) ← number 9 rest
    .ok (n * Nat.pow 10 (9 - (rest.length - after.length)), after.dropWhile Char.isDigit)
  | _ => .ok (0, text)

/-- The two characters in front as a number below a hundred. -/
def twoDigits : List Char → Except Fault (Nat × Nat × List Char)
  | a :: b :: rest =>
    match Numeral.digit? 10 a, Numeral.digit? 10 b with
    | some x, some y => .ok (x, y, rest)
    | _, _ => .error .invalid
  | text => if text.length = 1 ∧ (text.all fun c => c.utf8Size ≥ 2) then .error .invalid
    else .error .tooShort

/-- Reads a zone as an offset in seconds. -/
def zone : Step Int := fun text =>
  let text := Blank.trimStart text
  if (text.take 3).map Char.toUpper = ['U', 'T', 'C'] then .ok (0, text.drop 3)
  else match text with
    | [] => .error .tooShort
    | c :: rest =>
      if c = 'Z' ∨ c = 'z' then .ok (0, rest)
      else do
        let negative ←
          if c = '+' then .ok false
          else if c = '-' ∨ c = Char.ofNat 0x2212 then .ok true
          else .error .invalid
        let (x, y, rest) ← twoDigits rest
        let rest := rest.dropWhile fun d => d == ':' || Blank.isBlank d
        let (u, v, rest) ← twoDigits rest
        if u ≥ 6 then .error .outOfRange
        else
          let offset : Int := ((10 * x + y) * 3600 + (10 * u + v) * 60 : Nat)
          .ok (if negative then -offset else offset, rest)

/-- The instant of a date, a time of day and a zone. -/
def ofParts (date : Date) (hour minute second nanos : Nat) (offset : Int) :
    Except Fault Instant := do
  if date.year < Date.minYear ∨ Date.maxYear < date.year ∨
      Date.monthLength date.year date.month < date.day then .error .outOfRange
  else if offset ≤ -86400 ∨ 86400 ≤ offset then .error .outOfRange
  else
    let leap := second = 60
    let wall := date.toDays * daySeconds +
      (hour * 3600 + minute * 60 + (if leap then 59 else second) : Nat)
    let seconds := wall - offset
    let days := seconds / daySeconds
    if days < Date.minDays ∨ Date.maxDays < days then .error .impossible
    else .ok ⟨seconds, if leap then nanosPerSecond + nanos else nanos⟩

/-- The instant that a whole text stands for. -/
def parse (text : String) : Except Fault Instant := do
  let (year, rest) ← year text.toList
  let (month, rest) ← ranged 2 1 12 (← mark '-' rest)
  let (day, rest) ← ranged 2 1 31 (← mark '-' rest)
  let (hour, rest) ← ranged 2 0 23 (← separator rest)
  let (minute, rest) ← ranged 2 0 59 (← mark ':' rest)
  let (second, rest) ← ranged 2 0 60 (← mark ':' rest)
  let (nanos, rest) ← nanoseconds rest
  let (offset, rest) ← zone rest
  if (Blank.trimStart rest).isEmpty then ofParts ⟨year, month, day⟩ hour minute second nanos offset
  else .error .tooLong

end Instant

end CaptureFlow
