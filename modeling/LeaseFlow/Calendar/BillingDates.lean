import LeaseFlow.Calendar.CivilDate
import LeaseFlow.Foundations.Months

/-!
# Billing dates

The conversion of a date back to a timestamp, and the monthly billing dates that
`leaseflow_math` counts from the inception of a lease.
-/

set_option autoImplicit false

namespace LeaseFlow

def u32Max : Nat := 2 ^ 32 - 1

def addU32 (left right : U32) : Checked U32 := Checked.upTo u32Max (left + right)

namespace LeaseflowMath

/-- The second part of `ymd_to_timestamp`, from a year that begins in March. -/
def marchToTimestamp (y m : U64) (day : U8) : Checked U64 := do
  let era := y / 400
  let yoe ← subU64 y (← mulU64 era 400)
  let doy ← subU64 (← addU64 ((← addU64 (← mulU64 153 m) 2) / 5) day) 1
  let doe ← addU64 (← subU64 (← addU64 (← mulU64 yoe 365) (yoe / 4)) (yoe / 100)) doy
  let days ← addU64 (← mulU64 era 146097) doe
  -- The subtraction saturates: the days before 1970 all convert to 0.
  mulU64 (days - 719468) 86400

def ymdToTimestamp (year : U64) (month day : U8) : Checked U64 := do
  let (y, m) ←
    if month ≤ 2 then do pure (← subU64 year 1, ← addU64 month 9)
    else do pure (year, ← subU64 month 3)
  marchToTimestamp y m day

def nextBillingDate (inceptionTs : U64) (n : U32) : Checked U64 := do
  let (year, month, day) ← timestampToYmd inceptionTs
  let totalMonths ← addU32 (month - 1) n
  let newMonth := (totalMonths % 12 + 1) % 256
  let newYear ← addU64 year (totalMonths / 12)
  let maxDay := daysInMonth newYear newMonth % 256
  let clampedDay := min day maxDay
  ymdToTimestamp newYear newMonth clampedDay

end LeaseflowMath

/-! ## The timestamp of a date -/

/-- The first second of a date, counted from 1 January 1970. -/
def midnight (date : Gregorian.Date) : Nat :=
  (date.number - epoch.number) * 86400

theorem marchStart_era (y : Nat) :
    Gregorian.marchStart y = 146097 * (y / 400) +
      (365 * (y - y / 400 * 400) + (y - y / 400 * 400) / 4 - (y - y / 400 * 400) / 100) := by
  unfold Gregorian.marchStart
  omega

/-- The seconds of a day counted from a year that begins in March. -/
def marchSeconds (y m day : Nat) : Nat :=
  (Gregorian.marchStart y + (153 * m + 2) / 5 + (day - 1) - 719468) * 86400

theorem marchToTimestamp_eq_some {y m day timestamp : Nat} (first : 1 ≤ day)
    (converted : LeaseflowMath.marchToTimestamp y m day = some timestamp) :
    marchSeconds y m day ≤ u64Max ∧ timestamp = marchSeconds y m day := by
  have start := marchStart_era y
  simp only [LeaseflowMath.marchToTimestamp, addU64, mulU64, subU64, Option.bind_eq_bind,
    Option.bind_eq_some_iff, Checked.upTo_eq_some, Checked.difference_eq_some] at converted
  obtain ⟨_, ⟨_, rfl⟩, _, ⟨_, rfl⟩, _, ⟨_, rfl⟩, _, ⟨_, rfl⟩, _, ⟨_, rfl⟩, _, ⟨_, rfl⟩, _, ⟨_, rfl⟩,
    _, ⟨_, rfl⟩, _, ⟨_, rfl⟩, _, ⟨_, rfl⟩, _, ⟨_, rfl⟩, _, ⟨_, rfl⟩, fits, rfl⟩ := converted
  unfold marchSeconds
  omega

theorem marchToTimestamp_of_le {y m day : Nat} (m_le : m ≤ 11) (first : 1 ≤ day) (last : day ≤ 31)
    (fits : marchSeconds y m day ≤ 18446744073709551615) :
    LeaseflowMath.marchToTimestamp y m day = some (marchSeconds y m day) := by
  have start := marchStart_era y
  unfold marchSeconds at fits ⊢
  have start_le : Gregorian.marchStart y ≤ 213503983054070 := by omega
  obtain ⟨era, eras⟩ : ∃ era, y / 400 = era := ⟨_, rfl⟩
  obtain ⟨yoe, inEra⟩ : ∃ yoe, y - era * 400 = yoe := ⟨_, rfl⟩
  obtain ⟨months, monthDays⟩ : ∃ months, (153 * m + 2) / 5 = months := ⟨_, rfl⟩
  rw [eras, inEra] at start
  rw [monthDays] at fits ⊢
  generalize Gregorian.marchStart y = march at start start_le fits ⊢
  -- The bound on the seconds serves the last step only.
  revert fits
  have eraYears_le : era * 400 ≤ y := eras ▸ Nat.div_mul_le_self y 400
  have yoe_lt : yoe < 400 := by omega
  have months_le : months ≤ 337 := by omega
  have eraYears := @mulU64_of_le era 400 (by omega)
  have yearOfEra : subU64 y (era * 400) = some yoe := by rw [subU64_of_le eraYears_le, inEra]
  have tripled : mulU64 153 m = some (153 * m) := mulU64_of_le (by omega)
  have rounded : addU64 (153 * m) 2 = some (153 * m + 2) := addU64_of_le (by omega)
  have intoYear := @addU64_of_le months day (by omega)
  have dayOfYear := @subU64_of_le (months + day) 1 (by omega)
  have commonDays : mulU64 yoe 365 = some (365 * yoe) := by
    have fits : 365 * yoe ≤ 18446744073709551615 := by omega
    rw [Nat.mul_comm] at fits ⊢
    exact mulU64_of_le fits
  have julianDays := @addU64_of_le (365 * yoe) (yoe / 4) (by omega)
  have yearDays := @subU64_of_le (365 * yoe + yoe / 4) (yoe / 100) (by omega)
  have dayOfEra := @addU64_of_le (365 * yoe + yoe / 4 - yoe / 100) (months + day - 1) (by omega)
  have eraDays : mulU64 era 146097 = some (146097 * era) := by
    have fits : 146097 * era ≤ 18446744073709551615 := by omega
    rw [Nat.mul_comm] at fits ⊢
    exact mulU64_of_le fits
  have sum : 146097 * era + (365 * yoe + yoe / 4 - yoe / 100 + (months + day - 1)) =
      march + months + (day - 1) := by omega
  have days := @addU64_of_le (146097 * era)
    (365 * yoe + yoe / 4 - yoe / 100 + (months + day - 1)) (by omega)
  unfold LeaseflowMath.marchToTimestamp
  dsimp only
  rw [eras, Checked.bind_of_eq eraYears, Checked.bind_of_eq yearOfEra, Checked.bind_of_eq tripled,
    Checked.bind_of_eq rounded, monthDays, Checked.bind_of_eq intoYear,
    Checked.bind_of_eq dayOfYear, Checked.bind_of_eq commonDays, Checked.bind_of_eq julianDays,
    Checked.bind_of_eq yearDays, Checked.bind_of_eq dayOfEra, Checked.bind_of_eq eraDays,
    Checked.bind_of_eq days, sum]
  exact mulU64_of_le

theorem midnight_of_march_le {date : Gregorian.Date} (march : 3 ≤ date.month) :
    midnight date = marchSeconds date.year (date.month - 3) date.day := by
  have start := epoch_number
  have number := Gregorian.Date.number_of_march_le march
  unfold midnight marchSeconds
  omega

theorem midnight_of_le_february {date : Gregorian.Date} {year : Nat}
    (follows : date.year = year + 1) (february : date.month ≤ 2) :
    midnight date = marchSeconds year (date.month + 9) date.day := by
  have start := epoch_number
  have number := Gregorian.Date.number_of_le_february follows february
  unfold midnight marchSeconds
  omega

theorem monthLength_le (year month : Nat) : Gregorian.monthLength year month ≤ 31 := by
  unfold Gregorian.monthLength
  split <;> split <;> decide

/-- The conversion first moves January and February into the year before. -/
theorem exists_marchToTimestamp (date : Gregorian.Date) (since1970 : 1970 ≤ date.year) :
    ∃ y m, m ≤ 11 ∧ midnight date = marchSeconds y m date.day ∧
      LeaseflowMath.ymdToTimestamp date.year date.month date.day =
        LeaseflowMath.marchToTimestamp y m date.day := by
  have december := date.month_le
  by_cases february : date.month ≤ 2
  · obtain ⟨year, follows⟩ := Nat.exists_eq_add_of_le' (show 1 ≤ date.year by omega)
    have lastYear : subU64 date.year 1 = some year := by
      rw [follows, subU64_of_le (Nat.le_add_left 1 year), Nat.add_sub_cancel]
    have month : addU64 date.month 9 = some (date.month + 9) := addU64_of_le (by omega)
    refine ⟨year, date.month + 9, by omega, midnight_of_le_february follows february, ?_⟩
    unfold LeaseflowMath.ymdToTimestamp
    rw [if_pos february, Checked.bind_of_eq lastYear, Checked.bind_of_eq month]
    exact Checked.bind_of_eq rfl _
  · have march : 3 ≤ date.month := by omega
    refine ⟨date.year, date.month - 3, by omega, midnight_of_march_le march, ?_⟩
    unfold LeaseflowMath.ymdToTimestamp
    rw [if_neg february, Checked.bind_of_eq (subU64_of_le march)]
    exact Checked.bind_of_eq rfl _

/-- The conversion gives the first second of the date, and overflows only if that second
does not fit. -/
theorem ymdToTimestamp_eq_some {date : Gregorian.Date} (since1970 : 1970 ≤ date.year)
    {timestamp : Nat} :
    LeaseflowMath.ymdToTimestamp date.year date.month date.day = some timestamp ↔
      midnight date ≤ u64Max ∧ timestamp = midnight date := by
  obtain ⟨y, m, m_le, seconds, converted⟩ := exists_marchToTimestamp date since1970
  rw [converted, seconds]
  constructor
  · exact marchToTimestamp_eq_some date.day_pos
  · intro ⟨fits, same⟩
    rw [same]
    exact marchToTimestamp_of_le m_le date.day_pos (date.day_le.trans (monthLength_le _ _)) fits

theorem midnight_of_number {date : Gregorian.Date} {timestamp : Nat}
    (number : date.number = timestamp / 86400 + 719528) :
    1970 ≤ date.year ∧ midnight date = timestamp - timestamp % 86400 := by
  have start := epoch_number
  constructor
  · by_contra! early
    have before : date.number < epoch.number := Gregorian.Date.number_lt_of_year_lt early
    omega
  · unfold midnight
    omega

theorem epoch_le_number {date : Gregorian.Date} (since1970 : 1970 ≤ date.year) :
    epoch.number ≤ date.number := by
  have first : epoch.dayOfYear = 0 := rfl
  rw [Gregorian.Date.number, first, Nat.add_zero]
  exact @Gregorian.Date.daysBeforeYear_le_number date epoch.year since1970

theorem timestampToYmd_midnight {date : Gregorian.Date} (since1970 : 1970 ≤ date.year)
    (fits : midnight date ≤ u64Max) :
    LeaseflowMath.timestampToYmd (midnight date) = some (ymd date) := by
  have later := epoch_le_number since1970
  obtain ⟨other, number, converted⟩ := timestampToYmd_eq fits
  have same : other = date := by
    apply Gregorian.Date.number_injective
    have start := epoch_number
    unfold midnight at number
    rw [Nat.mul_div_cancel _ (by decide)] at number
    omega
  rw [converted, same]

/-- Each conversion undoes the other: a timestamp goes back to the start of its day, and a
valid date whose timestamp fits comes back unchanged. -/
theorem dates_round_trip :
    (∀ timestamp : UInt64, ∃ year month day,
      LeaseflowMath.timestampToYmd timestamp.toNat = some (year, month, day) ∧
      LeaseflowMath.ymdToTimestamp year month day =
        some (timestamp.toNat - timestamp.toNat % 86400)) ∧
    ∀ year month day : Nat, 1970 ≤ year → 1 ≤ month → month ≤ 12 → 1 ≤ day →
      day ≤ LeaseflowMath.daysInMonth year month →
      ∃ date : Gregorian.Date, ymd date = (year, month, day) ∧
        (midnight date ≤ u64Max →
          LeaseflowMath.ymdToTimestamp year month day = some (midnight date)) ∧
        ∀ timestamp, LeaseflowMath.ymdToTimestamp year month day = some timestamp →
          LeaseflowMath.timestampToYmd timestamp = some (year, month, day) := by
  constructor
  · intro timestamp
    have room : u64Max = 18446744073709551615 := rfl
    have below := timestamp.toNat_lt
    obtain ⟨date, number, converted⟩ := timestampToYmd_eq (show timestamp.toNat ≤ u64Max by omega)
    obtain ⟨since1970, start⟩ := midnight_of_number number
    refine ⟨date.year, date.month, date.day, converted, ?_⟩
    rw [ymdToTimestamp_eq_some since1970, start]
    exact ⟨(Nat.sub_le _ _).trans (by omega), rfl⟩
  · intro year month day since1970 january december first last
    rw [daysInMonth_of_month year january december] at last
    obtain ⟨date, dated⟩ : ∃ date : Gregorian.Date, ymd date = (year, month, day) :=
      ⟨⟨year, month, day, january, december, first, last⟩, rfl⟩
    cases dated
    have converts := @ymdToTimestamp_eq_some date since1970
    refine ⟨date, rfl, fun fits => converts.mpr ⟨fits, rfl⟩, fun timestamp converted => ?_⟩
    obtain ⟨fits, same⟩ := converts.mp converted
    rw [same]
    exact timestampToYmd_midnight since1970 fits

/-- The leap day of 2024. -/
theorem leap_day_round_trip :
    ∃ timestamp, LeaseflowMath.ymdToTimestamp 2024 2 29 = some timestamp ∧
      LeaseflowMath.timestampToYmd timestamp = some (2024, 2, 29) := by
  obtain ⟨_, _, _, back⟩ := dates_round_trip.2 2024 2 29 (by decide) (by decide) (by decide)
    (by decide) (by decide)
  have converted : LeaseflowMath.ymdToTimestamp 2024 2 29 = some 1709164800 := by decide
  exact ⟨1709164800, converted, back _ converted⟩

/-! ## Monthly billing dates -/

theorem year_le_of_fits {date : Gregorian.Date} (fits : midnight date ≤ u64Max) :
    date.year ≤ 18446744073709551615 := by
  have room : u64Max = 18446744073709551615 := rfl
  have start := epoch_number
  have whole : date.year ≤ date.number :=
    (Gregorian.le_daysBeforeYear date.year).trans (Gregorian.Date.daysBeforeYear_le_number le_rfl)
  unfold midnight at fits
  omega

theorem nextBillingDate_eq {inceptionTs n : Nat} {start : Gregorian.Date}
    (since1970 : 1970 ≤ start.year)
    (converted : LeaseflowMath.timestampToYmd inceptionTs = some (ymd start))
    (counted : start.month - 1 + n ≤ u32Max) (fits : midnight (start.monthsAfter n) ≤ u64Max) :
    LeaseflowMath.nextBillingDate inceptionTs n = some (midnight (start.monthsAfter n)) := by
  have year_le := year_le_of_fits fits
  have months : addU32 (start.month - 1) n = some (start.month - 1 + n) :=
    Checked.upTo_of_le counted
  have month : ((start.month - 1 + n) % 12 + 1) % 256 = (start.monthsAfter n).month :=
    Nat.mod_eq_of_lt (by omega)
  have year := @addU64_of_le start.year ((start.month - 1 + n) / 12) year_le
  have later : start.year + (start.month - 1 + n) / 12 = (start.monthsAfter n).year := rfl
  have clamped : min start.day (LeaseflowMath.daysInMonth (start.monthsAfter n).year
      (start.monthsAfter n).month % 256) = (start.monthsAfter n).day := by
    have length_le := monthLength_le (start.monthsAfter n).year (start.monthsAfter n).month
    rw [daysInMonth_eq, Nat.mod_eq_of_lt (by omega)]
    rfl
  unfold LeaseflowMath.nextBillingDate
  rw [Checked.bind_of_eq converted]
  simp only [ymd]
  rw [Checked.bind_of_eq months, month, Checked.bind_of_eq year, later,
    clamped]
  exact (ymdToTimestamp_eq_some (since1970.trans (Nat.le_add_right _ _))).mpr ⟨fits, rfl⟩

/-- Billing does not drift: the `n`-th billing date is midnight `n` calendar months after the
inception, on the inception's day of the month or the last day of a shorter month, and
the dates increase with `n`. -/
theorem billing_dates_monthly (inception : UInt64) :
    ∃ start : Gregorian.Date,
      LeaseflowMath.timestampToYmd inception.toNat = some (ymd start) ∧
      ∀ n, start.month - 1 + n ≤ u32Max → midnight (start.monthsAfter n) ≤ u64Max →
        ∃ due : Gregorian.Date,
          LeaseflowMath.nextBillingDate inception.toNat n = some (midnight due) ∧
          LeaseflowMath.timestampToYmd (midnight due) = some (ymd due) ∧
          due.monthIndex = start.monthIndex + n ∧
          due.day = min start.day (LeaseflowMath.daysInMonth due.year due.month) ∧
          ∀ m < n, ∃ earlier < midnight due,
            LeaseflowMath.nextBillingDate inception.toNat m = some earlier := by
  have room : u64Max = 18446744073709551615 := rfl
  have below := inception.toNat_lt
  obtain ⟨start, number, converted⟩ := timestampToYmd_eq (show inception.toNat ≤ u64Max by omega)
  have since1970 := (midnight_of_number number).1
  refine ⟨start, converted, ?_⟩
  intro n counted fits
  have due1970 : 1970 ≤ (start.monthsAfter n).year := since1970.trans (Nat.le_add_right _ _)
  refine ⟨start.monthsAfter n, nextBillingDate_eq since1970 converted counted fits,
    timestampToYmd_midnight due1970 fits, start.monthIndex_monthsAfter n, ?_, ?_⟩
  · rw [daysInMonth_eq]
    rfl
  · intro m before
    have earlier : midnight (start.monthsAfter m) < midnight (start.monthsAfter n) := by
      have first := epoch_le_number (since1970.trans (Nat.le_add_right _ _) :
        1970 ≤ (start.monthsAfter m).year)
      have ordered := start.number_monthsAfter_lt before
      unfold midnight
      omega
    exact ⟨midnight (start.monthsAfter m), earlier, nextBillingDate_eq since1970 converted
      (le_trans (by omega) counted) (earlier.le.trans fits)⟩

/-- A lease that began on 31 January 2024 is billed on the leap day. -/
theorem leap_day_billed :
    ∃ due : Gregorian.Date, ymd due = (2024, 2, 29) ∧
      LeaseflowMath.nextBillingDate 1706659200 1 = some (midnight due) := by
  obtain ⟨start, converted, billed⟩ := billing_dates_monthly 1706659200
  have january : LeaseflowMath.timestampToYmd 1706659200 = some (2024, 1, 31) := by decide
  have dated : ymd start = (2024, 1, 31) := Option.some.inj (converted.symm.trans january)
  obtain ⟨inYear, inMonth, onDay⟩ : start.year = 2024 ∧ start.month = 1 ∧ start.day = 31 := by
    simpa [ymd] using dated
  have follows : (start.monthsAfter 1).year = 2023 + 1 := by
    simp [Gregorian.Date.monthsAfter, inYear, inMonth]
  have february : (start.monthsAfter 1).month = 2 := by
    simp [Gregorian.Date.monthsAfter, inMonth]
  have lastDay : (start.monthsAfter 1).day = 29 := by
    simp [Gregorian.Date.monthsAfter, inYear, inMonth, onDay, Gregorian.monthLength,
      Gregorian.IsLeap]
  have fits : midnight (start.monthsAfter 1) ≤ u64Max := by
    rw [midnight_of_le_february follows february.le, february, lastDay]
    decide
  obtain ⟨due, converted, _, month, day, _⟩ := billed 1 (by rw [inMonth]; decide) fits
  have first := due.month_pos
  have last := due.month_le
  unfold Gregorian.Date.monthIndex at month
  obtain ⟨year, month⟩ : due.year = 2024 ∧ due.month = 2 := by omega
  have leapDay : LeaseflowMath.daysInMonth 2024 2 = 29 := by decide
  rw [onDay, year, month, leapDay] at day
  refine ⟨due, ?_, converted⟩
  rw [ymd, year, month, day]
  rfl

/-! ## Billing periods -/

/-- A billing date that is computed is the date the given number of months after the
inception, and neither the count of months nor the second overflows. -/
theorem nextBillingDate_eq_some {inceptionTs n due : Nat} {start : Gregorian.Date}
    (since1970 : 1970 ≤ start.year)
    (converted : LeaseflowMath.timestampToYmd inceptionTs = some (ymd start))
    (computed : LeaseflowMath.nextBillingDate inceptionTs n = some due) :
    start.month - 1 + n ≤ u32Max ∧ midnight (start.monthsAfter n) ≤ u64Max ∧
      due = midnight (start.monthsAfter n) := by
  have month : ((start.month - 1 + n) % 12 + 1) % 256 = (start.monthsAfter n).month :=
    Nat.mod_eq_of_lt (by omega)
  have later : start.year + (start.month - 1 + n) / 12 = (start.monthsAfter n).year := rfl
  have clamped : min start.day (LeaseflowMath.daysInMonth (start.monthsAfter n).year
      (start.monthsAfter n).month % 256) = (start.monthsAfter n).day := by
    have length_le := monthLength_le (start.monthsAfter n).year (start.monthsAfter n).month
    rw [daysInMonth_eq, Nat.mod_eq_of_lt (by omega)]
    rfl
  unfold LeaseflowMath.nextBillingDate at computed
  rw [Checked.bind_of_eq converted] at computed
  simp only [ymd, addU32, addU64, Option.bind_eq_bind, Option.bind_eq_some_iff,
    Checked.upTo_eq_some] at computed
  obtain ⟨_, ⟨counted, rfl⟩, _, ⟨_, rfl⟩, computed⟩ := computed
  rw [month, later, clamped, ymdToTimestamp_eq_some (since1970.trans (Nat.le_add_right _ _))]
    at computed
  exact ⟨counted, computed⟩

theorem midnight_monthsAfter_succ {start : Gregorian.Date} (since1970 : 1970 ≤ start.year)
    (n : Nat) :
    midnight (start.monthsAfter n) + 28 * 86400 ≤ midnight (start.monthsAfter (n + 1)) ∧
      midnight (start.monthsAfter (n + 1)) ≤ midnight (start.monthsAfter n) + 31 * 86400 := by
  have first := epoch_le_number (since1970.trans (Nat.le_add_right _ _) :
    1970 ≤ (start.monthsAfter n).year)
  have length := start.number_monthsAfter_succ n
  unfold midnight
  omega

theorem midnight_monthsAfter_mono {start : Gregorian.Date} (since1970 : 1970 ≤ start.year) :
    Monotone fun n => midnight (start.monthsAfter n) := by
  apply monotone_nat_of_le_succ
  intro n
  exact (Nat.le_add_right _ _).trans (midnight_monthsAfter_succ since1970 n).1

theorem monthsAfter_zero (date : Gregorian.Date) : date.monthsAfter 0 = date := by
  have january := date.month_pos
  have december := date.month_le
  have year : (date.monthsAfter 0).year = date.year := by
    unfold Gregorian.Date.monthsAfter
    dsimp only
    omega
  have month : (date.monthsAfter 0).month = date.month := by
    unfold Gregorian.Date.monthsAfter
    dsimp only
    omega
  have day : (date.monthsAfter 0).day =
      min date.day (Gregorian.monthLength (date.monthsAfter 0).year (date.monthsAfter 0).month) :=
    rfl
  rw [year, month, min_eq_left date.day_le] at day
  ext
  · exact year
  · exact month
  · exact day

/-- A period that opens on one billing date and closes on the next, four weeks to thirty-one days
later, with a time in it. -/
def BilledIn (inceptionTs : U64) (time : U64) (n : U32) : Prop :=
  ∃ opens closes, LeaseflowMath.nextBillingDate inceptionTs n = some opens ∧
    LeaseflowMath.nextBillingDate inceptionTs (n + 1) = some closes ∧
    opens ≤ time ∧ time < closes ∧
    opens + 28 * 86400 ≤ closes ∧ closes ≤ opens + 31 * 86400

/-- The billing dates of a lease divide time: from the day of the inception to the last date that
is computed, every second is in exactly one period. -/
theorem billing_periods_divide_time (inception : UInt64) {count last time : Nat}
    (reached : LeaseflowMath.nextBillingDate inception.toNat count = some last)
    (since : inception.toNat - inception.toNat % 86400 ≤ time) (before : time < last) :
    ∃! n, n < count ∧ BilledIn inception.toNat time n := by
  have room : u64Max = 18446744073709551615 := rfl
  have below := inception.toNat_lt
  obtain ⟨start, number, converted⟩ := timestampToYmd_eq (show inception.toNat ≤ u64Max by omega)
  obtain ⟨since1970, dayStart⟩ := midnight_of_number number
  obtain ⟨counted, fits, due⟩ := nextBillingDate_eq_some since1970 converted reached
  have ordered := midnight_monthsAfter_mono since1970
  have opened : midnight (start.monthsAfter 0) ≤ time := by
    rw [monthsAfter_zero, dayStart]
    exact since
  have computed : ∀ n ≤ count,
      LeaseflowMath.nextBillingDate inception.toNat n = some (midnight (start.monthsAfter n)) := by
    intro n within
    apply nextBillingDate_eq since1970 converted
    · omega
    · exact (ordered within).trans fits
  obtain ⟨n, ⟨within, started, ongoing⟩, only⟩ :=
    Gregorian.existsUnique_period ordered opened (due ▸ before)
  have length := midnight_monthsAfter_succ since1970 n
  refine ⟨n, ⟨within, _, _, computed n within.le, computed (n + 1) within, started, ongoing,
    length⟩, ?_⟩
  intro other ⟨otherWithin, opens, closes, otherOpens, otherCloses, otherStarted, otherOngoing, _⟩
  rw [computed other otherWithin.le] at otherOpens
  rw [computed (other + 1) otherWithin] at otherCloses
  apply only
  refine ⟨otherWithin, ?_, ?_⟩
  · exact (Option.some.inj otherOpens).le.trans otherStarted
  · exact otherOngoing.trans_le (Option.some.inj otherCloses).ge

/-- The last second before the leap day is in one of the two periods of a lease that began on
31 January 2024. -/
theorem leap_periods_divide_time :
    ∃! n, n < 2 ∧ BilledIn 1706659200 1709164799 n :=
  billing_periods_divide_time 1706659200 (show LeaseflowMath.nextBillingDate 1706659200 2 =
    some 1711843200 by decide) (by decide) (by decide)

end LeaseFlow
