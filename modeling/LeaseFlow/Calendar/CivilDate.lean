import LeaseFlow.Contract.Records
import LeaseFlow.Foundations.Calendar
import LeaseFlow.Foundations.Checked

/-!
# Dates of timestamps

The conversion of a timestamp to year, month and day, which `leaseflow_math` and
`proration` each carry a copy of, and the month lengths they use beside it.  Years
are counted from March within eras of four hundred years.
-/

set_option autoImplicit false

namespace LeaseFlow

abbrev U8 := Nat

def addU64 (left right : U64) : Checked U64 := Checked.upTo u64Max (left + right)
def mulU64 (left right : U64) : Checked U64 := Checked.upTo u64Max (left * right)
def subU64 (left right : U64) : Checked U64 := Checked.difference left right

namespace LeaseflowMath

def timestampToYmd (timestamp : U64) : Checked (U64 × U8 × U8) := do
  let daysSinceEpoch := timestamp / 86400
  let z ← addU64 daysSinceEpoch 719468
  let era := z / 146097
  let doe ← subU64 z (← mulU64 era 146097)
  let yearDays ← subU64 (← addU64 (← subU64 doe (doe / 1460)) (doe / 36524)) (doe / 146096)
  let yoe := yearDays / 365
  let y ← addU64 yoe (← mulU64 era 400)
  let doy ← subU64 doe (← subU64 (← addU64 (← mulU64 365 yoe) (yoe / 4)) (yoe / 100))
  let mp := (← addU64 (← mulU64 5 doy) 2) / 153
  let d ← addU64 (← subU64 doy ((← addU64 (← mulU64 153 mp) 2) / 5)) 1
  let m ← if mp < 10 then addU64 mp 3 else subU64 mp 9
  let year ← if m ≤ 2 then addU64 y 1 else pure y
  pure (year, m % 256, d % 256)

def isLeapYear (year : U64) : Bool :=
  (year % 4 == 0 && year % 100 != 0) || year % 400 == 0

def daysInMonth (year : U64) (month : U8) : U64 :=
  match month with
  | 4 | 6 | 9 | 11 => 30
  | 2 => if isLeapYear year then 29 else 28
  | _ => 31

end LeaseflowMath

namespace Proration

def timestampToYmd (timestamp : U64) : Checked (U64 × U8 × U8) := do
  let daysSinceEpoch := timestamp / 86400
  let z ← addU64 daysSinceEpoch 719468
  let era := z / 146097
  let doe ← subU64 z (← mulU64 era 146097)
  let yearDays ← subU64 (← addU64 (← subU64 doe (doe / 1460)) (doe / 36524)) (doe / 146096)
  let yoe := yearDays / 365
  let y ← addU64 yoe (← mulU64 era 400)
  let doy ← subU64 doe (← subU64 (← addU64 (← mulU64 365 yoe) (yoe / 4)) (yoe / 100))
  let mp := (← addU64 (← mulU64 5 doy) 2) / 153
  let d ← addU64 (← subU64 doy ((← addU64 (← mulU64 153 mp) 2) / 5)) 1
  let m ← if mp < 10 then addU64 mp 3 else subU64 mp 9
  let year ← if m ≤ 2 then addU64 y 1 else pure y
  pure (year, m % 256, d % 256)

def isLeapYear (year : U64) : Bool :=
  (year % 4 == 0 && year % 100 != 0) || year % 400 == 0

def daysInMonth (year : U64) (month : U8) : U64 :=
  match month with
  | 4 | 6 | 9 | 11 => 30
  | 2 => if isLeapYear year then 29 else 28
  | _ => 31

end Proration

/-! ## The year of an era -/

/-- A day of an era by centuries, four-year spans, years and days.  The last century of
an era and the last year of a span are one day longer. -/
structure DayOfEra (doe century span year day : Nat) : Prop where
  split : doe = 36524 * century + 1461 * span + 365 * year + day
  century_lt : century < 4
  span_lt : span < 25
  year_lt : year < 4
  day_le : day ≤ 365
  leapDay : day = 365 → year = 3 ∧ (span = 24 → century = 3)

theorem exists_block {value size parts : Nat} (size_pos : 0 < size) (parts_pos : 0 < parts)
    (within : value ≤ size * parts) :
    ∃ block rest, value = size * block + rest ∧ block < parts ∧ rest ≤ size ∧
      (rest = size → block + 1 = parts) := by
  by_cases full : value = size * parts
  · refine ⟨parts - 1, size, ?_, Nat.sub_one_lt parts_pos.ne', le_rfl, fun _ => by omega⟩
    rw [full, ← Nat.mul_succ, Nat.succ_eq_add_one, Nat.sub_add_cancel parts_pos]
  · have below : value % size < size := Nat.mod_lt value size_pos
    refine ⟨value / size, value % size, (Nat.div_add_mod value size).symm,
      Nat.div_lt_of_lt_mul (lt_of_le_of_ne within full), below.le, fun last => ?_⟩
    exact absurd last below.ne

theorem exists_dayOfEra {doe : Nat} (inEra : doe < 146097) :
    ∃ century span year day, DayOfEra doe century span year day := by
  obtain ⟨century, inCentury, centuries, century_lt, inCentury_le, lastCentury⟩ :
      ∃ century inCentury, doe = 36524 * century + inCentury ∧ century < 4 ∧
        inCentury ≤ 36524 ∧ (inCentury = 36524 → century + 1 = 4) :=
    exists_block (by decide) (by decide) (by omega)
  obtain ⟨span, inSpan, spans, span_lt, inSpan_lt⟩ :
      ∃ span inSpan, inCentury = 1461 * span + inSpan ∧ span < 25 ∧ inSpan < 1461 :=
    ⟨inCentury / 1461, inCentury % 1461, (Nat.div_add_mod inCentury 1461).symm,
      Nat.div_lt_of_lt_mul (by omega), Nat.mod_lt inCentury (by decide)⟩
  obtain ⟨year, day, years, year_lt, day_le, lastYear⟩ :
      ∃ year day, inSpan = 365 * year + day ∧ year < 4 ∧ day ≤ 365 ∧ (day = 365 → year + 1 = 4) :=
    exists_block (by decide) (by decide) (by omega)
  refine ⟨century, span, year, day, by omega, century_lt, span_lt, year_lt, day_le, fun leap => ?_⟩
  have last := lastYear leap
  exact ⟨by omega, fun lastSpan => by omega⟩

namespace DayOfEra

variable {doe century span year day : Nat}

def yearOfEra (century span year : Nat) : Nat :=
  100 * century + 4 * span + year

theorem yearOfEra_lt (split : DayOfEra doe century span year day) :
    yearOfEra century span year < 400 := by
  have century_lt := split.century_lt
  have span_lt := split.span_lt
  have year_lt := split.year_lt
  unfold yearOfEra
  omega

theorem quarters (split : DayOfEra doe century span year day) :
    yearOfEra century span year / 4 = 25 * century + span := by
  have year_lt := split.year_lt
  unfold yearOfEra
  exact Nat.div_eq_of_lt_le (by omega) (by omega)

theorem hundredths (split : DayOfEra doe century span year day) :
    yearOfEra century span year / 100 = century := by
  have span_lt := split.span_lt
  have year_lt := split.year_lt
  unfold yearOfEra
  exact Nat.div_eq_of_lt_le (by omega) (by omega)

theorem yearStart (split : DayOfEra doe century span year day) :
    365 * yearOfEra century span year + yearOfEra century span year / 4 -
      yearOfEra century span year / 100 + day = doe := by
  rw [split.quarters, split.hundredths, split.split, yearOfEra]
  omega

theorem div_36524 (split : DayOfEra doe century span year day) :
    doe / 36524 = century + doe / 146096 := by
  have total := split.split
  have century_lt := split.century_lt
  have span_lt := split.span_lt
  have year_lt := split.year_lt
  have day_le := split.day_le
  have leapDay := split.leapDay
  by_cases last : doe = 146096
  · have final : century = 3 := by omega
    rw [last, final]
  · have early : doe / 146096 = 0 := Nat.div_eq_of_lt (by omega)
    rw [early, add_zero]
    exact Nat.div_eq_of_lt_le (by omega) (by omega)

/-- The estimate of the source: a day too early exactly when the remainders add up to
another span. -/
theorem div_365 (split : DayOfEra doe century span year day) :
    (doe - doe / 1460 + doe / 36524 - doe / 146096) / 365 = yearOfEra century span year := by
  have total := split.split
  have century_lt := split.century_lt
  have span_lt := split.span_lt
  have year_lt := split.year_lt
  have day_le := split.day_le
  have leapDay := split.leapDay
  rw [split.div_36524, yearOfEra]
  by_cases carried : 1460 ≤ 24 * century + span + 365 * year + day
  · have spans : doe / 1460 = 25 * century + span + 1 :=
      Nat.div_eq_of_lt_le (by omega) (by omega)
    rw [spans]
    exact Nat.div_eq_of_lt_le (by omega) (by omega)
  · have spans : doe / 1460 = 25 * century + span :=
      Nat.div_eq_of_lt_le (by omega) (by omega)
    rw [spans]
    exact Nat.div_eq_of_lt_le (by omega) (by omega)

theorem marchStart_eq (split : DayOfEra doe century span year day) (era : Nat) :
    Gregorian.marchStart (yearOfEra century span year + 400 * era) + day =
      146097 * era + doe := by
  have start := split.yearStart
  have fourths := split.quarters
  have centuries := split.hundredths
  have below := split.yearOfEra_lt
  generalize yearOfEra century span year = yoe at *
  have quarter : (yoe + 400 * era) / 4 = yoe / 4 + 100 * era := by omega
  have hundredth : (yoe + 400 * era) / 100 = yoe / 100 + 4 * era := by omega
  have fourHundredth : (yoe + 400 * era) / 400 = era := by omega
  rw [Gregorian.marchStart, quarter, hundredth, fourHundredth]
  omega

theorem day_lt (split : DayOfEra doe century span year day) (era : Nat) :
    day < Gregorian.yearLength (yearOfEra century span year + 400 * era + 1) := by
  have day_le := split.day_le
  unfold Gregorian.yearLength
  by_cases leap : day = 365
  · obtain ⟨lastYear, lastSpan⟩ := split.leapDay leap
    have span_lt := split.span_lt
    have leapYear : Gregorian.IsLeap (yearOfEra century span year + 400 * era + 1) := by
      unfold Gregorian.IsLeap yearOfEra
      by_cases lastOfCentury : span = 24
      · exact .inr (by have final := lastSpan lastOfCentury; omega)
      · exact .inl ⟨by omega, by omega⟩
    rw [if_pos leapYear, leap]
    decide
  · split <;> omega

end DayOfEra

/-! ## The date of a day -/

/-- Months from March on: the source's month and day formulas give a date of the year
that begins in March. -/
theorem exists_marchDate {y doy mp : Nat} (within : doy < Gregorian.yearLength (y + 1))
    (months : mp = (5 * doy + 2) / 153) :
    (153 * mp + 2) / 5 ≤ doy ∧ ∃ date : Gregorian.Date,
      date.number = Gregorian.marchStart y + 60 + doy ∧
      date.month = (if mp < 10 then mp + 3 else mp - 9) ∧
      date.year = (if mp < 10 then y else y + 1) ∧
      date.day = doy - (153 * mp + 2) / 5 + 1 := by
  have doy_lt : doy < 366 := within.trans_le (by unfold Gregorian.yearLength; split <;> decide)
  have mp_le : mp ≤ 11 := by omega
  have start : (153 * mp + 2) / 5 ≤ doy := by omega
  have stop : doy < (153 * (mp + 1) + 2) / 5 := by omega
  refine ⟨start, ?_⟩
  by_cases beforeJanuary : mp < 10
  · have fits : doy - (153 * mp + 2) / 5 + 1 ≤ Gregorian.monthLength y (mp + 3) := by
      clear months
      interval_cases mp <;> simp [Gregorian.monthLength] at * <;> omega
    refine ⟨⟨y, mp + 3, doy - (153 * mp + 2) / 5 + 1, by omega, by omega, by omega, fits⟩, ?_,
      (if_pos beforeJanuary).symm, (if_pos beforeJanuary).symm, rfl⟩
    rw [Gregorian.Date.number_of_march_le (Nat.le_add_left 3 mp)]
    simp only [Nat.add_sub_cancel]
    omega
  · have fits : doy - (153 * mp + 2) / 5 + 1 ≤ Gregorian.monthLength (y + 1) (mp - 9) := by
      clear months
      unfold Gregorian.yearLength at within
      interval_cases mp
      · simp [Gregorian.monthLength] at *
        omega
      · by_cases leap : Gregorian.IsLeap (y + 1) <;>
          simp [Gregorian.monthLength, leap] at * <;> omega
    refine ⟨⟨y + 1, mp - 9, doy - (153 * mp + 2) / 5 + 1, by omega, by omega, by omega, fits⟩,
      ?_, (if_neg beforeJanuary).symm, (if_neg beforeJanuary).symm, rfl⟩
    rw [Gregorian.Date.number_of_le_february rfl (show mp - 9 ≤ 2 by omega)]
    rw [Nat.sub_add_cancel (show 9 ≤ mp by omega)]
    simp only [Nat.add_sub_cancel]
    omega

theorem addU64_of_le {left right : Nat} (le : left + right ≤ 18446744073709551615) :
    addU64 left right = some (left + right) :=
  Checked.upTo_of_le le

theorem mulU64_of_le {left right : Nat} (le : left * right ≤ 18446744073709551615) :
    mulU64 left right = some (left * right) :=
  Checked.upTo_of_le le

theorem subU64_of_le {left right : Nat} (le : right ≤ left) :
    subU64 left right = some (left - right) :=
  Checked.difference_of_le le

/-- The steps of the source on a day of an era, none of which overflows. -/
theorem timestampToYmd_steps {timestamp z era doe yoe doy mp : Nat}
    (shifted : timestamp / 86400 + 719468 = z) (z_le : z ≤ 213504702635364)
    (eras : z / 146097 = era) (inEra : z - era * 146097 = doe) (doe_lt : doe < 146097)
    (years : (doe - doe / 1460 + doe / 36524 - doe / 146096) / 365 = yoe) (yoe_lt : yoe < 400)
    (yearStart : 365 * yoe + yoe / 4 - yoe / 100 + doy = doe) (doy_le : doy ≤ 365)
    (months : (5 * doy + 2) / 153 = mp) (mp_le : mp ≤ 11) (monthStart : (153 * mp + 2) / 5 ≤ doy) :
    LeaseflowMath.timestampToYmd timestamp =
      some (if mp < 10 then yoe + era * 400 else yoe + era * 400 + 1,
        if mp < 10 then mp + 3 else mp - 9, doy - (153 * mp + 2) / 5 + 1) := by
  have era_le : era * 146097 ≤ z := eras ▸ Nat.div_mul_le_self z 146097
  have eraYears_le : era * 400 ≤ 213504702635364 :=
    (Nat.mul_le_mul_left era (by decide)).trans (era_le.trans z_le)
  have leaps : doe / 1460 ≤ doe := Nat.div_le_self doe 1460
  have centuries : doe / 146096 ≤ doe - doe / 1460 + doe / 36524 :=
    (Nat.div_le_div_left (by decide) (by decide)).trans (Nat.le_add_left _ _)
  have hundredths : yoe / 100 ≤ 365 * yoe + yoe / 4 :=
    (Nat.div_le_div_left (by decide) (by decide)).trans (Nat.le_add_left _ _)
  have sum_le : doe - doe / 1460 + doe / 36524 ≤ 18446744073709551615 := by
    clear years
    omega
  have start_le : 365 * yoe + yoe / 4 - yoe / 100 ≤ doe := by
    rw [← yearStart]
    exact Nat.le_add_right _ _
  have day : doe - (365 * yoe + yoe / 4 - yoe / 100) = doy := by
    rw [← yearStart]
    exact Nat.add_sub_cancel_left _ _
  have shift : addU64 (timestamp / 86400) 719468 = some z := by
    rw [addU64_of_le (by omega), shifted]
  have eraDays : mulU64 era 146097 = some (era * 146097) :=
    mulU64_of_le (era_le.trans (z_le.trans (by decide)))
  have dayOfEra : subU64 z (era * 146097) = some doe := by rw [subU64_of_le era_le, inEra]
  have lessLeaps : subU64 doe (doe / 1460) = some (doe - doe / 1460) := subU64_of_le leaps
  have moreCenturies : addU64 (doe - doe / 1460) (doe / 36524) =
      some (doe - doe / 1460 + doe / 36524) := addU64_of_le sum_le
  have lessEras : subU64 (doe - doe / 1460 + doe / 36524) (doe / 146096) =
      some (doe - doe / 1460 + doe / 36524 - doe / 146096) := subU64_of_le centuries
  have eraYears : mulU64 era 400 = some (era * 400) :=
    mulU64_of_le (eraYears_le.trans (by decide))
  have firstYear : addU64 yoe (era * 400) = some (yoe + era * 400) :=
    addU64_of_le ((Nat.add_le_add yoe_lt.le eraYears_le).trans (by decide))
  have commonDays : mulU64 365 yoe = some (365 * yoe) := mulU64_of_le (by omega)
  have julianDays : addU64 (365 * yoe) (yoe / 4) = some (365 * yoe + yoe / 4) :=
    addU64_of_le (by omega)
  have yearDays : subU64 (365 * yoe + yoe / 4) (yoe / 100) =
      some (365 * yoe + yoe / 4 - yoe / 100) := subU64_of_le hundredths
  have dayOfYear : subU64 doe (365 * yoe + yoe / 4 - yoe / 100) = some doy := by
    rw [subU64_of_le start_le, day]
  have fiveDays : mulU64 5 doy = some (5 * doy) := mulU64_of_le (by omega)
  have rounded : addU64 (5 * doy) 2 = some (5 * doy + 2) := addU64_of_le (by omega)
  have monthDays : mulU64 153 mp = some (153 * mp) := mulU64_of_le (by omega)
  have monthRounded : addU64 (153 * mp) 2 = some (153 * mp + 2) := addU64_of_le (by omega)
  have intoMonth : subU64 doy ((153 * mp + 2) / 5) = some (doy - (153 * mp + 2) / 5) :=
    subU64_of_le monthStart
  have dayOfMonth : addU64 (doy - (153 * mp + 2) / 5) 1 = some (doy - (153 * mp + 2) / 5 + 1) :=
    addU64_of_le (by omega)
  have smallDay : (doy - (153 * mp + 2) / 5 + 1) % 256 = doy - (153 * mp + 2) / 5 + 1 :=
    Nat.mod_eq_of_lt (by omega)
  unfold LeaseflowMath.timestampToYmd
  dsimp only
  rw [Checked.bind_of_eq shift, eras, Checked.bind_of_eq eraDays, Checked.bind_of_eq dayOfEra,
    Checked.bind_of_eq lessLeaps, Checked.bind_of_eq moreCenturies, Checked.bind_of_eq lessEras,
    years, Checked.bind_of_eq eraYears, Checked.bind_of_eq firstYear, Checked.bind_of_eq commonDays,
    Checked.bind_of_eq julianDays, Checked.bind_of_eq yearDays, Checked.bind_of_eq dayOfYear,
    Checked.bind_of_eq fiveDays, Checked.bind_of_eq rounded, months, Checked.bind_of_eq monthDays,
    Checked.bind_of_eq monthRounded, Checked.bind_of_eq intoMonth, Checked.bind_of_eq dayOfMonth,
    smallDay]
  clear years
  by_cases early : mp < 10
  · have later : ¬ mp + 3 ≤ 2 := by omega
    have small : (mp + 3) % 256 = mp + 3 := Nat.mod_eq_of_lt (by omega)
    rw [if_pos early, if_pos early, if_pos early, Checked.bind_of_eq (addU64_of_le (by omega)),
      if_neg later, small]
    rfl
  · have january : mp - 9 ≤ 2 := by omega
    have lastYear_le : yoe + era * 400 + 1 ≤ 18446744073709551615 :=
      (Nat.add_le_add_right (Nat.add_le_add yoe_lt.le eraYears_le) 1).trans (by decide)
    have small : (mp - 9) % 256 = mp - 9 := Nat.mod_eq_of_lt (by omega)
    rw [if_neg early, if_neg early, if_neg early, Checked.bind_of_eq (subU64_of_le (by omega)),
      if_pos january, Checked.bind_of_eq (addU64_of_le lastYear_le), small]
    rfl

/-- A date as the source returns it. -/
def ymd (date : Gregorian.Date) : U64 × U8 × U8 :=
  (date.year, date.month, date.day)

/-- No step overflows, and the result is the Gregorian date of the timestamp's day. -/
theorem timestampToYmd_eq {timestamp : Nat} (range : timestamp ≤ u64Max) :
    ∃ date : Gregorian.Date, date.number = timestamp / 86400 + 719528 ∧
      LeaseflowMath.timestampToYmd timestamp = some (ymd date) := by
  have room : u64Max = 18446744073709551615 := rfl
  have days_le : timestamp / 86400 + 719468 ≤ 213504702635364 := by omega
  obtain ⟨z, shifted⟩ : ∃ z, timestamp / 86400 + 719468 = z := ⟨_, rfl⟩
  obtain ⟨era, eras⟩ : ∃ era, z / 146097 = era := ⟨_, rfl⟩
  obtain ⟨doe, inEra⟩ : ∃ doe, z - era * 146097 = doe := ⟨_, rfl⟩
  have doe_lt : doe < 146097 := by omega
  obtain ⟨century, span, year, day, split⟩ := exists_dayOfEra doe_lt
  obtain ⟨start, date, number, month, years, dayOfMonth⟩ :=
    exists_marchDate (split.day_lt era) rfl
  refine ⟨date, ?_, ?_⟩
  · rw [number, Nat.add_right_comm, split.marchStart_eq era]
    omega
  · have day_le := split.day_le
    rw [timestampToYmd_steps shifted (shifted ▸ days_le) eras inEra doe_lt split.div_365
      split.yearOfEra_lt split.yearStart day_le rfl (by omega) start, ymd, month, years,
      dayOfMonth, Nat.mul_comm era 400]

theorem daysInMonth_of_month (year : Nat) {month : Nat} (january : 1 ≤ month)
    (december : month ≤ 12) :
    LeaseflowMath.daysInMonth year month = Gregorian.monthLength year month := by
  have leap : LeaseflowMath.isLeapYear year = decide (Gregorian.IsLeap year) := by
    rw [Bool.eq_iff_iff, decide_eq_true_iff]
    simp [LeaseflowMath.isLeapYear, Gregorian.IsLeap]
  unfold LeaseflowMath.daysInMonth
  rw [leap]
  interval_cases month <;> simp [Gregorian.monthLength]

theorem daysInMonth_eq (date : Gregorian.Date) :
    LeaseflowMath.daysInMonth date.year date.month =
      Gregorian.monthLength date.year date.month :=
  daysInMonth_of_month date.year date.month_pos date.month_le

def epoch : Gregorian.Date :=
  ⟨1970, 1, 1, Nat.le_refl 1, Nat.le_of_ble_eq_true rfl, Nat.le_refl 1,
    Nat.le_of_ble_eq_true rfl⟩

theorem epoch_number : epoch.number = 0 + 719528 :=
  Gregorian.Date.number_of_le_february (show epoch.year = 1969 + 1 from rfl) (by decide)

/-- The conversion gives the Gregorian date: it is valid, starts with 1 January 1970,
depends on the day alone and moves to the next date with each day.  The copy in
`proration` returns the same. -/
theorem timestampToYmd_gregorian (timestamp : UInt64) :
    ∃ date : Gregorian.Date,
      LeaseflowMath.timestampToYmd timestamp.toNat = some (ymd date) ∧
      date.day ≤ LeaseflowMath.daysInMonth date.year date.month ∧
      (timestamp.toNat < 86400 → ymd date = (1970, 1, 1)) ∧
      (∀ other : UInt64, other.toNat / 86400 = timestamp.toNat / 86400 →
        LeaseflowMath.timestampToYmd other.toNat = some (ymd date)) ∧
      (timestamp.toNat + 86400 ≤ u64Max →
        LeaseflowMath.timestampToYmd (timestamp.toNat + 86400) = some (ymd date.next)) ∧
      Proration.timestampToYmd timestamp.toNat =
        LeaseflowMath.timestampToYmd timestamp.toNat ∧
      Proration.daysInMonth date.year date.month =
        LeaseflowMath.daysInMonth date.year date.month := by
  have bounded : ∀ value : UInt64, value.toNat ≤ u64Max := by
    intro value
    have room : u64Max = 18446744073709551615 := rfl
    have below := value.toNat_lt
    omega
  obtain ⟨date, number, converted⟩ := timestampToYmd_eq (bounded timestamp)
  refine ⟨date, converted, ?_, fun early => ?_, fun other sameDay => ?_, fun fits => ?_, rfl, rfl⟩
  · rw [daysInMonth_eq]
    exact date.day_le
  · rw [Nat.div_eq_of_lt early, ← epoch_number] at number
    rw [Gregorian.Date.number_injective number]
    rfl
  · obtain ⟨same, sameNumber, sameConverted⟩ := timestampToYmd_eq (bounded other)
    have equal : same = date := by
      apply Gregorian.Date.number_injective
      rw [sameNumber, sameDay, number]
    rw [sameConverted, equal]
  · obtain ⟨later, laterNumber, laterConverted⟩ := timestampToYmd_eq fits
    have next : later = date.next := by
      apply Gregorian.Date.eq_next_of_number
      have nextDay : (timestamp.toNat + 86400) / 86400 = timestamp.toNat / 86400 + 1 :=
        Nat.add_div_right timestamp.toNat (by decide)
      rw [nextDay] at laterNumber
      omega
    rw [laterConverted, next]

end LeaseFlow
