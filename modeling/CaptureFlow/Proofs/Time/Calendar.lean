import Mathlib.Tactic.IntervalCases
import CaptureFlow.Time.Calendar

/-!
# Dates of day numbers

Every day number is that of a date of the calendar. An era of four centuries is made of
centuries, cycles of four years, and years that start in March; a year has a 366th day only
where the calendar year in which it ends is a leap year.
-/

namespace CaptureFlow.Date

/-! ## Days of an era -/

/-- A day of an era by its century, cycle and year: the last year of a cycle has one day more
than the others, except in the last cycle of a century that is not the last one. -/
structure IsDayOfEra (day century cycle year rest : Nat) : Prop where
  /-- There are four centuries. -/
  century_le : century ≤ 3
  /-- There are twenty-five cycles at most. -/
  cycle_le : cycle ≤ 24
  /-- There are four years at most. -/
  year_le : year ≤ 3
  /-- There are 366 days at most. -/
  rest_le : rest ≤ 365
  /-- The last day is a leap day. -/
  leap : rest = 365 → year = 3 ∧ (cycle = 24 → century = 3)
  /-- The day is counted from the start of the era. -/
  day_eq : day = 36524 * century + 1461 * cycle + 365 * year + rest

/-- Every day of an era has a century, a cycle and a year. -/
theorem exists_isDayOfEra {day : Nat} (h : day < 146097) :
    ∃ century cycle year rest, IsDayOfEra day century cycle year rest := by
  -- the last day of the era, and of a leap year, would begin a fifth century or a fifth year
  obtain ⟨century, ofCentury, hcentury, hday, hshort, hlong⟩ : ∃ century ofCentury,
      century ≤ 3 ∧ day = 36524 * century + ofCentury ∧ ofCentury ≤ 36524 ∧
        (ofCentury = 36524 → century = 3) :=
    ⟨min (day / 36524) 3, day - 36524 * min (day / 36524) 3,
      by omega, by omega, by omega, by omega⟩
  obtain ⟨year, rest, hyear, hcycle, hrest, hlast⟩ : ∃ year rest,
      year ≤ 3 ∧ ofCentury % 1461 = 365 * year + rest ∧ rest ≤ 365 ∧ (rest = 365 → year = 3) :=
    ⟨min (ofCentury % 1461 / 365) 3, ofCentury % 1461 - 365 * min (ofCentury % 1461 / 365) 3,
      by omega, by omega, by omega, by omega⟩
  exact ⟨century, ofCentury / 1461, year, rest, hcentury, by omega, hyear, hrest,
    fun h => ⟨hlast h, by omega⟩, by omega⟩

namespace IsDayOfEra

variable {day century cycle year rest : Nat}

/-- Only the last day of an era is beyond the fourth century as long as the others. -/
theorem century_eq (h : IsDayOfEra day century cycle year rest) :
    day / 36524 = century + day / 146096 := by
  have hshort : 1461 * cycle + 365 * year + rest < 36524 ∨
      1461 * cycle + 365 * year + rest = 36524 ∧ century = 3 := by
    have hcycle := h.cycle_le
    have hyear := h.year_le
    by_cases hrest : rest = 365
    · obtain ⟨_, hlast⟩ := h.leap hrest
      omega
    · have hrest' := h.rest_le
      omega
  have hcentury := h.century_le
  have hday := h.day_eq
  rcases hshort with hshort | ⟨hlast, rfl⟩
  · omega
  · omega

/-- The leap days of the cycles before a day are counted but for one at most. -/
theorem cycles_eq (h : IsDayOfEra day century cycle year rest) :
    day / 1460 =
      25 * century + cycle + (24 * century + cycle + 365 * year + rest) / 1460 := by
  have hday := h.day_eq
  omega

/-- Where one more is counted, the year has begun; where it has its last day, one more is. -/
theorem rest_bounds (h : IsDayOfEra day century cycle year rest) :
    (24 * century + cycle + 365 * year + rest) / 1460 ≤ rest ∧
      rest ≤ 364 + (24 * century + cycle + 365 * year + rest) / 1460 := by
  obtain ⟨hcentury, hcycle, hyear, hrest, hleap, -⟩ := h
  by_cases hlast : rest = 365
  · have hthird := (hleap hlast).1
    omega
  · omega

/-- Without the leap days before a day, its year is told by whole years. -/
theorem yearOfEra_eq (h : IsDayOfEra day century cycle year rest) :
    (day - day / 1460 + day / 36524 - day / 146096) / 365 =
      100 * century + 4 * cycle + year := by
  have hday := h.day_eq
  obtain ⟨hbegun, hlast⟩ := h.rest_bounds
  rw [h.cycles_eq, h.century_eq]
  generalize (24 * century + cycle + 365 * year + rest) / 1460 = extra at *
  generalize day / 146096 = final
  omega

/-- The rest is the day of its year. -/
theorem rest_eq (h : IsDayOfEra day century cycle year rest) :
    day - (365 * (100 * century + 4 * cycle + year) + (100 * century + 4 * cycle + year) / 4 -
      (100 * century + 4 * cycle + year) / 100) = rest := by
  obtain ⟨hcentury, hcycle, hyear, hrest, hleap, hday⟩ := h
  omega

end IsDayOfEra

/-! ## Years from March -/

/-- The days from the first of March of year 0 to that of another year. -/
def daysToMarch (year : Int) : Int :=
  365 * year + year / 4 - year / 100 + year / 400

/-- The days to the first of March of a year by its era, century and cycle. -/
theorem daysToMarch_eq {century cycle year : Nat} (hcentury : century ≤ 3) (hcycle : cycle ≤ 24)
    (hyear : year ≤ 3) (era : Int) :
    daysToMarch ((100 * century + 4 * cycle + year : Nat) + era * 400) =
      era * eraDays + (36524 * century + 1461 * cycle + 365 * year : Nat) := by
  have hfour : ((100 * century + 4 * cycle + year : Nat) + era * 400) / 4 =
      25 * century + cycle + era * 100 := by omega
  have hhundred : ((100 * century + 4 * cycle + year : Nat) + era * 400) / 100 =
      century + era * 4 := by omega
  have hera : ((100 * century + 4 * cycle + year : Nat) + era * 400) / 400 = era := by omega
  rw [daysToMarch, hfour, hhundred, hera, eraDays]
  omega

/-- The date of a day of a year that starts in March. -/
def ofMarch (year : Int) (dayOfYear : Nat) : Date :=
  let monthFromMarch := (5 * dayOfYear + 2) / 153
  let month := if monthFromMarch < 10 then monthFromMarch + 3 else monthFromMarch - 9
  ⟨if month ≤ 2 then year + 1 else year, month,
    dayOfYear - (153 * monthFromMarch + 2) / 5 + 1⟩

/-- A year that ends in a leap year has a leap day. -/
theorem isLeap_iff (year : Int) :
    isLeap year = true ↔ year % 4 = 0 ∧ (year % 100 ≠ 0 ∨ year % 400 = 0) := by
  simp [isLeap]

/-- A day number is that of a day of a year from March. -/
theorem exists_ofDays_eq (days : Int) : ∃ (year : Int) (dayOfYear : Nat),
    ofDays days = ofMarch year dayOfYear ∧
      days + epochOffset = daysToMarch year + dayOfYear ∧ dayOfYear ≤ 365 ∧
      (dayOfYear = 365 → isLeap (year + 1) = true) := by
  have hera : ((days + epochOffset) % eraDays).toNat < 146097 := by
    unfold eraDays
    omega
  obtain ⟨century, cycle, year, rest, hday⟩ := exists_isDayOfEra hera
  refine ⟨(100 * century + 4 * cycle + year : Nat) + (days + epochOffset) / eraDays * 400, rest,
    ?_, ?_, hday.rest_le, fun hlast => ?_⟩
  · unfold ofDays
    simp only [hday.yearOfEra_eq, hday.rest_eq]
    rfl
  · rw [daysToMarch_eq hday.century_le hday.cycle_le hday.year_le]
    have hsum := hday.day_eq
    unfold eraDays at hsum ⊢
    omega
  · obtain ⟨hthird, hcycles⟩ := hday.leap hlast
    have hcycle := hday.cycle_le
    rw [isLeap_iff]
    generalize (days + epochOffset) / eraDays = era
    omega

/-! ## Dates from March -/

/-- The days to the first of March of a year, counted by whole eras first. -/
theorem eras_add_eq (year : Int) :
    year / 400 * eraDays + (year % 400 * 365 + year % 400 / 4 - year % 400 / 100) =
      daysToMarch year := by
  obtain ⟨era, ofEra, hera, hbelow, hyear⟩ : ∃ era ofEra : Int,
      0 ≤ ofEra ∧ ofEra < 400 ∧ year = 400 * era + ofEra :=
    ⟨year / 400, year % 400, by omega, by omega, by omega⟩
  have hdiv : year / 400 = era := by omega
  have hmod : year % 400 = ofEra := by omega
  have hfour : year / 4 = 100 * era + ofEra / 4 := by omega
  have hhundred : year / 100 = 4 * era + ofEra / 100 := by omega
  rw [daysToMarch, hdiv, hmod, hfour, hhundred, eraDays]
  omega

section March

variable {year : Int} {dayOfYear : Nat}

/-- The months March to December are those of the year in which it begins. -/
theorem ofMarch_of_lt {month : Nat} (hmonth : (5 * dayOfYear + 2) / 153 = month) (h : month < 10) :
    ofMarch year dayOfYear =
      ⟨year, month + 3, dayOfYear - (153 * month + 2) / 5 + 1⟩ := by
  have hlater : ¬ month + 3 ≤ 2 := by omega
  simp only [ofMarch, hmonth, if_pos h, if_neg hlater]

/-- January and February are those of the next one. -/
theorem ofMarch_of_le {month : Nat} (hmonth : (5 * dayOfYear + 2) / 153 = month) (h : 10 ≤ month)
    (hmonths : month < 12) :
    ofMarch year dayOfYear =
      ⟨year + 1, month - 9, dayOfYear - (153 * month + 2) / 5 + 1⟩ := by
  have hlater : ¬ month < 10 := by omega
  have hsooner : month - 9 ≤ 2 := by omega
  simp only [ofMarch, hmonth, if_neg hlater, if_pos hsooner]

/-- A month from March begins at or before its days. -/
theorem monthFromMarch_bounds (h : dayOfYear ≤ 365) :
    (5 * dayOfYear + 2) / 153 < 12 ∧
      (153 * ((5 * dayOfYear + 2) / 153) + 2) / 5 ≤ dayOfYear := by
  omega

/-- The number of a date is counted from the first of March before it. -/
theorem toDays_ofMarch (h : dayOfYear ≤ 365) :
    (ofMarch year dayOfYear).toDays = daysToMarch year + dayOfYear - epochOffset := by
  obtain ⟨hmonths, hbegun⟩ := monthFromMarch_bounds h
  rw [← eras_add_eq]
  generalize hmonth : (5 * dayOfYear + 2) / 153 = month at *
  by_cases hmarch : month < 10
  · have hback : (month + 3 + 9) % 12 = month := by omega
    have hlater : ¬ month + 3 ≤ 2 := by omega
    rw [ofMarch_of_lt hmonth hmarch]
    simp only [toDays, if_neg hlater, hback]
    omega
  · have hback : (month - 9 + 9) % 12 = month := by omega
    have hsooner : month - 9 ≤ 2 := by omega
    rw [ofMarch_of_le hmonth (by omega) hmonths]
    simp only [toDays, if_pos hsooner, hback, Int.add_sub_cancel]
    omega

/-- The months are those of the calendar, and January begins the next year. -/
theorem month_ofMarch (year : Int) (h : dayOfYear ≤ 365) :
    1 ≤ (ofMarch year dayOfYear).month ∧ (ofMarch year dayOfYear).month ≤ 12 ∧
      (ofMarch year dayOfYear).year = if dayOfYear < 306 then year else year + 1 := by
  have hmonths := (monthFromMarch_bounds h).1
  have hjanuary : (5 * dayOfYear + 2) / 153 < 10 ↔ dayOfYear < 306 := by omega
  generalize hmonth : (5 * dayOfYear + 2) / 153 = month at *
  by_cases hmarch : month < 10
  · rw [ofMarch_of_lt hmonth hmarch, if_pos (hjanuary.mp hmarch)]
    dsimp only
    omega
  · rw [ofMarch_of_le hmonth (by omega) hmonths, if_neg (fun h => hmarch (hjanuary.mpr h))]
    dsimp only
    omega

/-- The days are those of their months. -/
theorem day_ofMarch (h : dayOfYear ≤ 365) (hleap : dayOfYear = 365 → isLeap (year + 1) = true) :
    1 ≤ (ofMarch year dayOfYear).day ∧ (ofMarch year dayOfYear).day ≤
      monthLength (ofMarch year dayOfYear).year (ofMarch year dayOfYear).month := by
  have hmonths := (monthFromMarch_bounds h).1
  obtain ⟨month, hmonth⟩ : ∃ month, (5 * dayOfYear + 2) / 153 = month := ⟨_, rfl⟩
  by_cases hmarch : month < 10
  · rw [ofMarch_of_lt hmonth hmarch]
    refine ⟨Nat.succ_pos _, ?_⟩
    clear hleap
    interval_cases month <;> simp [monthLength] <;> omega
  · rw [ofMarch_of_le hmonth (by omega) (by omega)]
    refine ⟨Nat.succ_pos _, ?_⟩
    obtain rfl | rfl : month = 10 ∨ month = 11 := by omega
    · simp [monthLength]
      omega
    · -- February has a 29th day where the year from March has a 366th
      by_cases hlast : dayOfYear = 365
      · simp [monthLength, hleap hlast, hlast]
      · have hshort : dayOfYear - 337 + 1 ≤ 28 := by omega
        change dayOfYear - 337 + 1 ≤ if isLeap (year + 1) then 29 else 28
        split
        · exact hshort.trans (by decide)
        · exact hshort

end March

/-! ## Dates of day numbers -/

/-- A date is told back by its day number. -/
theorem toDays_ofDays (days : Int) : (ofDays days).toDays = days := by
  obtain ⟨year, dayOfYear, hdate, hdays, hbound, -⟩ := exists_ofDays_eq days
  rw [hdate, toDays_ofMarch hbound, ← hdays, Int.add_sub_cancel]

/-- A date has a month of the calendar and a day of the month. -/
structure IsCivil (date : Date) : Prop where
  /-- Months are counted from January. -/
  month_pos : 1 ≤ date.month
  /-- There are twelve months. -/
  month_le : date.month ≤ 12
  /-- Days are counted from the first. -/
  day_pos : 1 ≤ date.day
  /-- The month is as long as the year has it. -/
  day_le : date.day ≤ monthLength date.year date.month

/-- Every day number is that of a date of the calendar. -/
theorem isCivil_ofDays (days : Int) : (ofDays days).IsCivil := by
  obtain ⟨year, dayOfYear, hdate, -, hbound, hleap⟩ := exists_ofDays_eq days
  obtain ⟨hpos, hle, -⟩ := month_ofMarch year hbound
  obtain ⟨hdaypos, hdayle⟩ := day_ofMarch hbound hleap
  rw [hdate]
  exact ⟨hpos, hle, hdaypos, hdayle⟩

/-- No month has more than 31 days. -/
theorem monthLength_le (year : Int) (month : Nat) : monthLength year month ≤ 31 := by
  unfold monthLength
  split_ifs <;> decide

/-- The years from March come one after another. -/
theorem daysToMarch_mono {year next : Int} (h : year ≤ next) :
    daysToMarch year ≤ daysToMarch next := by
  unfold daysToMarch
  omega

/-- A day number in range has a year in range. -/
theorem year_ofDays {days : Int} (hmin : minDays ≤ days) (hmax : days ≤ maxDays) :
    minYear ≤ (ofDays days).year ∧ (ofDays days).year ≤ maxYear := by
  obtain ⟨year, dayOfYear, hdate, hdays, hbound, -⟩ := exists_ofDays_eq days
  obtain ⟨-, -, hyear⟩ := month_ofMarch year hbound
  have hfirst : minDays + epochOffset = daysToMarch (minYear - 1) + 306 := by decide
  have hfinal : maxDays + epochOffset = daysToMarch maxYear + 305 := by decide
  have hbefore : daysToMarch (minYear - 2) + 365 ≤ daysToMarch (minYear - 1) := by decide
  have hafter : daysToMarch maxYear + 365 ≤ daysToMarch (maxYear + 1) := by decide
  rw [hdate, hyear]
  constructor
  · by_contra hyears
    split_ifs at hyears with hjanuary
    · have := daysToMarch_mono (show year ≤ minYear - 1 by omega)
      omega
    · have := daysToMarch_mono (show year ≤ minYear - 2 by omega)
      omega
  · by_contra hyears
    split_ifs at hyears with hjanuary
    · have := daysToMarch_mono (show maxYear + 1 ≤ year by omega)
      omega
    · have := daysToMarch_mono (show maxYear ≤ year by omega)
      omega

end CaptureFlow.Date
