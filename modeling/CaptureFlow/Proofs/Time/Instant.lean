import CaptureFlow.Proofs.Text.Numeral
import CaptureFlow.Proofs.Time.Calendar
import CaptureFlow.Time.Instant

/-!
# Instants are read back from their texts

Each part of a text is followed by a mark that no numeral goes on with, so the reader
takes the parts apart as they were put together. The date and the clock reading then tell
the second they were made of.
-/

namespace CaptureFlow.Instant

open Numeral

/-- An instant of the calendar range; a leap second is the last one of its minute. -/
structure IsValid (instant : Instant) : Prop where
  /-- A second lasts twice as long at most. -/
  nanos_lt : instant.nanos < 2 * nanosPerSecond
  /-- Only the last second of a minute lasts longer than others. -/
  leap : nanosPerSecond ≤ instant.nanos → instant.seconds % 60 = 59
  /-- The day is not before the first one in range. -/
  minDays_le : Date.minDays ≤ instant.seconds / daySeconds
  /-- The day is not after the last one in range. -/
  le_maxDays : instant.seconds / daySeconds ≤ Date.maxDays

/-! ## Parts of a text -/

section Parts

variable {limit low high n : Nat} {digits rest : List Char}

/-- Decimal digits are no white space. -/
theorem isBlank_of_isDigit {c : Char} (h : c.isDigit = true) : Blank.isBlank c = false := by
  obtain ⟨hlow, hhigh⟩ : 48 ≤ c.toNat ∧ c.toNat ≤ 57 := Char.isDigit_iff_toNat.mp h
  simp only [Blank.isBlank, Blank.ranges, CodeRanges.hold, List.any_eq_false, Bool.and_eq_true,
    decide_eq_true_eq, List.forall_mem_cons]
  refine ⟨?_, ?_, ?_, ?_, ?_, ?_, ?_, ?_, ?_, ?_, nofun⟩ <;> omega

/-- There is no white space in front of a digit. -/
theorem trimStart_digits (h : Tells digits n) (rest : List Char) :
    Blank.trimStart (digits ++ rest) = digits ++ rest := by
  obtain ⟨c, digits, rfl⟩ := List.exists_cons_of_ne_nil h.ne_nil
  rw [Blank.trimStart, List.cons_append,
    List.dropWhile_cons_of_neg (by simp [isBlank_of_isDigit (h.isDigit c List.mem_cons_self)])]

/-- A number is read up to the end of its digits. -/
theorem number_append (h : Tells digits n) (hlimit : digits.length ≤ limit)
    (hn : n < UInt64.size / 2) (hrest : Stops Char.isDigit rest) :
    number limit (digits ++ rest) = .ok (n, rest) := by
  have htake : ((digits ++ rest).takeWhile Char.isDigit).take limit = digits := by
    rw [hrest.takeWhile_append h.isDigit, List.take_of_length_le hlimit]
  obtain ⟨c, tail, rfl⟩ := List.exists_cons_of_ne_nil h.ne_nil
  have hdigit := h.isDigit c List.mem_cons_self
  rw [List.cons_append] at htake ⊢
  unfold number
  simp only [hdigit, if_true, htake, h.value?_eq, hn]
  rw [← List.cons_append, List.drop_left]

/-- A number in range is read up to the end of its digits. -/
theorem ranged_append (h : Tells digits n) (hlimit : digits.length ≤ limit) (hlow : low ≤ n)
    (hhigh : n ≤ high) (hsize : high < UInt64.size / 2) (hrest : Stops Char.isDigit rest) :
    ranged limit low high (digits ++ rest) = .ok (n, rest) := by
  rw [ranged, trimStart_digits h rest, number_append h hlimit (by omega) hrest]
  exact if_pos ⟨hlow, hhigh⟩

/-- Two digits of a part of a date or a clock reading. -/
theorem ranged_two (hlow : low ≤ n) (hhigh : n ≤ high) (hsize : high < 100)
    (hrest : Stops Char.isDigit rest) :
    ranged 2 low high ((zeroPadded 2 (decimal n)).toList ++ rest) = .ok (n, rest) := by
  have hlength : (zeroPadded 2 (decimal n)).toList.length = 2 :=
    length_zeroPadded (by decide) (by omega)
  refine ranged_append (tells_zeroPadded 2 n) hlength.le hlow hhigh ?_ hrest
  exact hsize.trans (by decide)

/-- A mark is dropped. -/
theorem mark_cons {c : Char} (hc : Blank.isBlank c = false) :
    mark c (c :: rest) = .ok rest := by
  rw [mark, Blank.trimStart, List.dropWhile_cons_of_neg (by simp [hc])]
  exact if_pos rfl

/-- A year is held in 32 bits. -/
theorem year_bounds {n : Int} (hmin : Date.minYear ≤ n) (hmax : n ≤ Date.maxYear) :
    -((UInt32.size / 2 : Nat) : Int) ≤ n ∧ n < ((UInt32.size / 2 : Nat) : Int) ∧
      n.natAbs < UInt64.size / 2 := by
  have hleast : Date.minYear = -262143 := rfl
  have hgreatest : Date.maxYear = 262142 := rfl
  have hshort : UInt32.size / 2 = 2147483648 := rfl
  have hlong : UInt64.size / 2 = 9223372036854775808 := rfl
  omega

/-- A year without a sign has four digits at most. -/
theorem year_digits {year : Int} (h : Tells digits n) (hlength : digits.length ≤ 4)
    (hyear : year = n) (hmin : Date.minYear ≤ year) (hmax : year ≤ Date.maxYear)
    (hrest : Stops Char.isDigit rest) :
    Instant.year (digits ++ rest) = .ok (year, rest) := by
  subst hyear
  obtain ⟨hleast, hgreatest, hsize⟩ := year_bounds hmin hmax
  have hnumber := number_append h hlength hsize hrest
  have htrim := trimStart_digits h rest
  obtain ⟨c, tail, rfl⟩ := List.exists_cons_of_ne_nil h.ne_nil
  have hdigit := h.isDigit c List.mem_cons_self
  simp only [Instant.year, htrim, hnumber, bind, Except.bind]
  split
  · rename_i heq
    cases heq
    cases hdigit
  · rename_i heq
    cases heq
    cases hdigit
  · exact if_pos ⟨hleast, hgreatest⟩

/-- A year behind a sign may have any number of digits. -/
theorem year_signed {year : Int} {sign : Char} (h : Tells digits n)
    (hyear : sign = '-' ∧ year = -n ∨ sign = '+' ∧ year = n)
    (hmin : Date.minYear ≤ year) (hmax : year ≤ Date.maxYear)
    (hrest : Stops Char.isDigit rest) :
    Instant.year (sign :: (digits ++ rest)) = .ok (year, rest) := by
  obtain ⟨hleast, hgreatest, hsize⟩ := year_bounds hmin hmax
  have hnumber : number (digits ++ rest).length (digits ++ rest) = .ok (n, rest) :=
    number_append h (by simp) (by omega) hrest
  obtain ⟨rfl, rfl⟩ | ⟨rfl, rfl⟩ := hyear
  · have htrim : Blank.trimStart ('-' :: (digits ++ rest)) = '-' :: (digits ++ rest) := rfl
    simp only [Instant.year, htrim, hnumber, bind, Except.bind]
    exact if_pos ⟨hleast, hgreatest⟩
  · have htrim : Blank.trimStart ('+' :: (digits ++ rest)) = '+' :: (digits ++ rest) := rfl
    simp only [Instant.year, htrim, hnumber, bind, Except.bind]
    exact if_pos ⟨hleast, hgreatest⟩

/-- A year of the calendar range is read with its sign, if it has one. -/
theorem year_append {year : Int} (hmin : Date.minYear ≤ year) (hmax : year ≤ Date.maxYear)
    (hrest : Stops Char.isDigit rest) :
    Instant.year ((Date.yearText year).toList ++ rest) = .ok (year, rest) := by
  have htells := tells_zeroPadded 4 year.natAbs
  have hminus : "-".toList = ['-'] := rfl
  have hplus : "+".toList = ['+'] := rfl
  unfold Date.yearText
  split_ifs with hshort hneg
  · have hlength : (zeroPadded 4 (decimal year.toNat)).toList.length = 4 :=
      length_zeroPadded (by decide) (by omega)
    exact year_digits (tells_zeroPadded 4 year.toNat) hlength.le (by omega) hmin hmax hrest
  · rw [String.toList_append, List.append_assoc, hminus, List.singleton_append]
    exact year_signed htells (.inl ⟨rfl, by omega⟩) hmin hmax hrest
  · rw [String.toList_append, List.append_assoc, hplus, List.singleton_append]
    exact year_signed htells (.inr ⟨rfl, by omega⟩) hmin hmax hrest

/-- A fraction is scaled to its digits. -/
theorem nanoseconds_append {width nanos : Nat} (hwidth : 0 < width) (hle : width ≤ 9)
    (hn : n < 10 ^ width) (hnanos : n * 10 ^ (9 - width) = nanos)
    (hrest : Stops Char.isDigit rest) :
    nanoseconds (("." ++ zeroPadded width (decimal n)).toList ++ rest) = .ok (nanos, rest) := by
  have hlength := length_zeroPadded hwidth hn
  have hpow : 10 ^ width ≤ 10 ^ 9 := Nat.pow_le_pow_right (by decide) hle
  have hnumber : number 9 ((zeroPadded width (decimal n)).toList ++ rest) = .ok (n, rest) :=
    number_append (tells_zeroPadded width n) (hlength.trans_le hle)
      (hn.trans_le (hpow.trans (by decide))) hrest
  rw [String.toList_append, List.append_assoc]
  generalize (zeroPadded width (decimal n)).toList = digits at *
  have hscaled : n * Nat.pow 10 (9 - ((digits ++ rest).length - rest.length)) = nanos := by
    rw [List.length_append, Nat.add_sub_cancel, hlength]
    exact hnanos
  change nanoseconds ('.' :: (digits ++ rest)) = _
  simp only [nanoseconds, hnumber, bind, Except.bind, hrest.dropWhile_eq, hscaled]

/-- A fraction is read back from as many digits as hold it. -/
theorem nanoseconds_fraction {nanos : Nat} (h : nanos < nanosPerSecond) :
    nanoseconds ((fraction nanos).toList ++ ['Z']) = .ok (nanos, ['Z']) := by
  have hzone : Stops Char.isDigit ['Z'] := Stops.cons_iff.mpr rfl
  unfold nanosPerSecond at h
  unfold fraction
  split_ifs with hnone hmillis hmicros
  · rw [hnone]
    rfl
  · exact nanoseconds_append (by decide) (by decide) (by omega) (by omega) hzone
  · exact nanoseconds_append (by decide) (by decide) (by omega) (by omega) hzone
  · exact nanoseconds_append (by decide) (by decide) (by omega) (by omega) hzone

end Parts

/-! ## Whole texts -/

/-- The characters of a text by the parts of the date and of the time of day. -/
def characters (date : Date) (hour minute second nanos : Nat) : List Char :=
  let two := fun n => (zeroPadded 2 (decimal n)).toList
  (Date.yearText date.year).toList ++ '-' :: (two date.month ++ '-' :: (two date.day ++
    'T' :: (two hour ++ ':' :: (two minute ++ ':' :: (two second ++
      ((fraction nanos).toList ++ ['Z']))))))

/-- A text is made of the date and the time of day of its second. -/
theorem toList_text (instant : Instant) :
    instant.text.toList =
      let ofDay := (instant.seconds % daySeconds).toNat
      characters (Date.ofDays (instant.seconds / daySeconds)) (ofDay / 3600) (ofDay / 60 % 60)
        (ofDay % 60 + instant.nanos / nanosPerSecond) (instant.nanos % nanosPerSecond) := by
  simp [text, clock, Date.text, clockText, characters, toString]

/-- Neither a fraction nor the zone goes on with a digit. -/
theorem stops_fraction (nanos : Nat) :
    Stops Char.isDigit ((fraction nanos).toList ++ ['Z']) := by
  unfold fraction
  split_ifs <;> simp

/-- The parts that are read are those that were written. -/
theorem parse_of_characters {text : String} {date : Date} {hour minute second nanos : Nat}
    (htext : text.toList = characters date hour minute second nanos) (hcivil : date.IsCivil)
    (hmin : Date.minYear ≤ date.year) (hmax : date.year ≤ Date.maxYear) (hhour : hour ≤ 23)
    (hminute : minute ≤ 59) (hsecond : second ≤ 60) (hnanos : nanos < nanosPerSecond) :
    parse text = ofParts date hour minute second nanos 0 := by
  have hday : date.day ≤ 31 := hcivil.day_le.trans (Date.monthLength_le _ _)
  have hhyphen (rest : List Char) : Stops Char.isDigit ('-' :: rest) := Stops.cons_iff.mpr rfl
  have hcolon (rest : List Char) : Stops Char.isDigit (':' :: rest) := Stops.cons_iff.mpr rfl
  have htime (rest : List Char) : Stops Char.isDigit ('T' :: rest) := Stops.cons_iff.mpr rfl
  have hseparator (rest : List Char) : separator ('T' :: rest) = .ok rest := rfl
  have hzone : zone ['Z'] = .ok (0, []) := rfl
  -- each part stands in front of a mark, so the rest behind it is what the next step reads
  rw [parse, htext]
  simp only [characters, bind, Except.bind, year_append hmin hmax (hhyphen _),
    mark_cons (c := '-') rfl, mark_cons (c := ':') rfl,
    ranged_two hcivil.month_pos hcivil.month_le (by decide) (hhyphen _),
    ranged_two hcivil.day_pos hday (by decide) (htime _), hseparator,
    ranged_two (Nat.zero_le _) hhour (by decide) (hcolon _),
    ranged_two (Nat.zero_le _) hminute (by decide) (hcolon _),
    ranged_two (Nat.zero_le _) hsecond (by decide) (stops_fraction _),
    nanoseconds_fraction hnanos, hzone]
  rfl

/-- A leap second is told from the last second of its minute. -/
theorem leap_parts {second nanos : Nat} (hsecond : second < 60)
    (hnanos : nanos < 2 * nanosPerSecond) (hleap : nanosPerSecond ≤ nanos → second = 59) :
    second + nanos / nanosPerSecond ≤ 60 ∧
      (if second + nanos / nanosPerSecond = 60 then 59
        else second + nanos / nanosPerSecond) = second ∧
      (if second + nanos / nanosPerSecond = 60 then nanosPerSecond + nanos % nanosPerSecond
        else nanos % nanosPerSecond) = nanos := by
  by_cases hlong : nanosPerSecond ≤ nanos
  · have hlast := hleap hlong
    have hquotient : nanos / nanosPerSecond = 1 := Nat.div_eq_of_lt_le (by omega) (by omega)
    have hrest := Nat.div_add_mod nanos nanosPerSecond
    rw [hquotient, Nat.mul_one] at hrest
    simp [hlast, hquotient, hrest]
  · have hshort : nanos < nanosPerSecond := by omega
    have hbefore : ¬ second = 60 := by omega
    rw [Nat.div_eq_of_lt hshort, Nat.mod_eq_of_lt hshort, Nat.add_zero, if_neg hbefore,
      if_neg hbefore]
    exact ⟨hsecond.le, rfl, rfl⟩

/-- The date and the time of day of a second tell the second. -/
theorem ofParts_ofDays {days : Int} {ofDay nanos : Nat} (hmin : Date.minDays ≤ days)
    (hmax : days ≤ Date.maxDays) (hday : ofDay < daySeconds)
    (hnanos : nanos < 2 * nanosPerSecond) (hleap : nanosPerSecond ≤ nanos → ofDay % 60 = 59) :
    ofParts (Date.ofDays days) (ofDay / 3600) (ofDay / 60 % 60)
      (ofDay % 60 + nanos / nanosPerSecond) (nanos % nanosPerSecond) 0 =
        .ok ⟨days * daySeconds + ofDay, nanos⟩ := by
  obtain ⟨hminYear, hmaxYear⟩ := Date.year_ofDays hmin hmax
  have hdate : ¬ ((Date.ofDays days).year < Date.minYear ∨ Date.maxYear < (Date.ofDays days).year ∨
      Date.monthLength (Date.ofDays days).year (Date.ofDays days).month <
        (Date.ofDays days).day) := by
    have hday := (Date.isCivil_ofDays days).day_le
    omega
  have hzone : ¬ ((0 : Int) ≤ -86400 ∨ (86400 : Int) ≤ 0) := by decide
  have hclock : ofDay / 3600 * 3600 + ofDay / 60 % 60 * 60 + ofDay % 60 = ofDay := by omega
  have hback : (days * daySeconds + ofDay) / daySeconds = days := by
    unfold daySeconds at *
    omega
  have hrange : ¬ (days < Date.minDays ∨ Date.maxDays < days) := by omega
  obtain ⟨-, hsecond, hrest⟩ := leap_parts (Nat.mod_lt ofDay (by decide)) hnanos hleap
  simp only [ofParts, if_neg hdate, if_neg hzone, Date.toDays_ofDays, hsecond, hrest, hclock,
    Int.sub_zero, hback, if_neg hrange]

/-- A valid instant is read back from its text. -/
theorem parse_text {instant : Instant} (h : instant.IsValid) :
    parse instant.text = .ok instant := by
  obtain ⟨hnanos, hleap, hmin, hmax⟩ := h
  obtain ⟨hminYear, hmaxYear⟩ := Date.year_ofDays hmin hmax
  have hday : (instant.seconds % daySeconds).toNat < daySeconds := by
    unfold daySeconds
    omega
  have hlast : nanosPerSecond ≤ instant.nanos →
      (instant.seconds % daySeconds).toNat % 60 = 59 := by
    intro hlong
    have hminute := hleap hlong
    unfold daySeconds
    omega
  have hwhole : instant.seconds / daySeconds * daySeconds +
      ((instant.seconds % daySeconds).toNat : Int) = instant.seconds := by
    unfold daySeconds
    omega
  have htext := toList_text instant
  obtain ⟨hsecond, -⟩ :=
    leap_parts (Nat.mod_lt (instant.seconds % daySeconds).toNat (by decide)) hnanos hlast
  have hfraction : instant.nanos % nanosPerSecond < nanosPerSecond := Nat.mod_lt _ (by decide)
  have hdate := ofParts_ofDays hmin hmax hday hnanos hlast
  -- from here on the time of day is any number below that of a day's seconds
  generalize (instant.seconds % daySeconds).toNat = ofDay at *
  unfold daySeconds at hday
  rw [parse_of_characters htext (Date.isCivil_ofDays _) hminYear hmaxYear (by omega) (by omega)
    hsecond hfraction, hdate, hwhole]

end CaptureFlow.Instant
