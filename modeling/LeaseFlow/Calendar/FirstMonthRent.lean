import LeaseFlow.Calendar.BillingDates
import LeaseFlow.Foundations.Arithmetic
import LeaseFlow.Foundations.Eras
import LeaseFlow.Foundations.Months
import LeaseFlow.Foundations.Proportion

/-!
# Rent of the first month

`calculate_first_month_rent` charges a move-in month by the seconds that are left of it.  The
calendar conversion gives those seconds for every timestamp, and no operation saturates.
-/

set_option autoImplicit false

namespace LeaseFlow

namespace Proration

def calculateFirstMonthRent (startDate : U64) (rentAmount : I128) : Checked I128 := do
  let (year, month, day) ← timestampToYmd startDate
  let totalDays := daysInMonth year month
  let totalMonthSecs ← mulU64 totalDays 86400
  let daysElapsed ← subU64 day 1
  let secsInCurrentDayElapsed := startDate % 86400
  let elapsedSecs ← addU64 (← mulU64 daysElapsed 86400) secsInCurrentDayElapsed
  let occupiedSecs := totalMonthSecs - elapsedSecs
  pure ((saturatingI128 (rentAmount * occupiedSecs)).tdiv totalMonthSecs)

end Proration

/-! ## The seconds of a month -/

/-- The first second of the month of a date. -/
def monthStart (date : Gregorian.Date) : Nat :=
  midnight date.firstOfMonth

/-- The first second of the month after a date. -/
def monthEnd (date : Gregorian.Date) : Nat :=
  midnight date.nextMonth

section Months

variable {date : Gregorian.Date}

theorem monthStart_of_since1970 (since1970 : 1970 ≤ date.year) :
    monthStart date + 86400 * 719528 = date.firstOfMonth.number * 86400 := by
  have start := epoch_number
  have later := @epoch_le_number date.firstOfMonth since1970
  unfold monthStart midnight
  omega

theorem monthEnd_eq (since1970 : 1970 ≤ date.year) :
    monthEnd date =
      monthStart date + Gregorian.monthLength date.year date.month * 86400 := by
  have start := epoch_number
  have later := @epoch_le_number date.firstOfMonth since1970
  have next := date.number_nextMonth
  unfold monthEnd monthStart midnight
  omega

theorem seconds_of_month {timestamp : Nat}
    (number : date.number = timestamp / 86400 + 719528) :
    timestamp = monthStart date + ((date.day - 1) * 86400 + timestamp % 86400) := by
  have since1970 := (midnight_of_number number).1
  have start := monthStart_of_since1970 since1970
  have first := date.number_firstOfMonth
  omega

theorem timestamp_lt_monthEnd {timestamp : Nat}
    (number : date.number = timestamp / 86400 + 719528) : timestamp < monthEnd date := by
  have since1970 := (midnight_of_number number).1
  have seconds := seconds_of_month number
  have positive := date.day_pos
  have within := date.day_le
  rw [monthEnd_eq since1970]
  omega

theorem exists_date_of_month (since1970 : 1970 ≤ date.year) {timestamp : Nat}
    (since : monthStart date ≤ timestamp) (before : timestamp < monthEnd date) :
    ∃ other : Gregorian.Date, other.number = timestamp / 86400 + 719528 ∧
      other.year = date.year ∧ other.month = date.month ∧
      (other.day = 1 ↔ timestamp / 86400 = monthStart date / 86400) := by
  obtain ⟨other, number⟩ := Gregorian.exists_date (timestamp / 86400 + 719528)
  have start := monthStart_of_since1970 since1970
  have ends := monthEnd_eq since1970
  have next := date.number_nextMonth
  obtain ⟨sameYear, sameMonth⟩ := @Gregorian.Date.same_month date other (by omega) (by omega)
  have day := other.number_firstOfMonth
  have positive := other.day_pos
  have same : other.firstOfMonth = date.firstOfMonth :=
    Gregorian.Date.ext sameYear sameMonth rfl
  rw [same] at day
  refine ⟨other, number, sameYear, sameMonth, ?_⟩
  constructor
  · intro first
    omega
  · intro onFirst
    omega

theorem month_eq_of_same {other : Gregorian.Date} (sameYear : other.year = date.year)
    (sameMonth : other.month = date.month) :
    monthStart other = monthStart date ∧ monthEnd other = monthEnd date := by
  have same : other.firstOfMonth = date.firstOfMonth :=
    Gregorian.Date.ext sameYear sameMonth rfl
  unfold monthStart monthEnd Gregorian.Date.nextMonth
  rw [same]
  exact ⟨rfl, rfl⟩

end Months

/-! ## The rent -/

section Rent

variable {date : Gregorian.Date} {startDate : Nat} {rentAmount : Int}

/-- Only the multiplication of the rent saturates. -/
theorem calculateFirstMonthRent_eq (range : startDate ≤ u64Max)
    (number : date.number = startDate / 86400 + 719528) :
    Proration.calculateFirstMonthRent startDate rentAmount =
      some ((saturatingI128 (rentAmount * (monthEnd date - startDate : Nat))).tdiv
        (monthEnd date - monthStart date : Nat)) := by
  obtain ⟨other, otherNumber, converted⟩ := timestampToYmd_eq range
  obtain rfl : other = date :=
    Gregorian.Date.number_injective (otherNumber.trans number.symm)
  have seconds := seconds_of_month number
  have since1970 := (midnight_of_number number).1
  have length_le := monthLength_le other.year other.month
  have positive := other.day_pos
  have within := other.day_le
  have total := @mulU64_of_le (Gregorian.monthLength other.year other.month) 86400 (by omega)
  have before : subU64 other.day 1 = some (other.day - 1) := subU64_of_le positive
  have days := @mulU64_of_le (other.day - 1) 86400 (by omega)
  have elapsed := @addU64_of_le ((other.day - 1) * 86400) (startDate % 86400) (by omega)
  have occupied : Gregorian.monthLength other.year other.month * 86400 -
      ((other.day - 1) * 86400 + startDate % 86400) = monthEnd other - startDate := by
    rw [monthEnd_eq since1970]
    omega
  have months : monthEnd other - monthStart other =
      Gregorian.monthLength other.year other.month * 86400 := by
    rw [monthEnd_eq since1970, Nat.add_sub_cancel_left]
  have days_eq : Proration.daysInMonth other.year other.month =
      Gregorian.monthLength other.year other.month := daysInMonth_eq other
  change (LeaseflowMath.timestampToYmd startDate >>= _) = _
  rw [Checked.bind_of_eq converted, ymd]
  dsimp only
  rw [days_eq, Checked.bind_of_eq total, Checked.bind_of_eq before, Checked.bind_of_eq days,
    Checked.bind_of_eq elapsed, occupied, months]
  rfl

theorem rent_times_seconds_le (nonneg : 0 ≤ rentAmount) (fits : rentAmount ≤ i128Max / 2678400)
    {seconds : Nat} (within : seconds ≤ 2678400) :
    i128Min ≤ rentAmount * seconds ∧ rentAmount * seconds ≤ i128Max := by
  constructor
  · exact (by decide : i128Min ≤ 0).trans (mul_nonneg nonneg (Int.natCast_nonneg _))
  · calc rentAmount * seconds
        ≤ i128Max / 2678400 * 2678400 :=
          mul_le_mul fits (by exact_mod_cast within) (Int.natCast_nonneg _) (by decide)
      _ ≤ i128Max := by decide

theorem calculateFirstMonthRent_of_le (range : startDate ≤ u64Max)
    (number : date.number = startDate / 86400 + 719528) (nonneg : 0 ≤ rentAmount)
    (fits : rentAmount ≤ i128Max / 2678400) :
    Proration.calculateFirstMonthRent startDate rentAmount =
      some (rentAmount * (monthEnd date - startDate : Nat) /
        (monthEnd date - monthStart date : Nat)) := by
  have since1970 := (midnight_of_number number).1
  have seconds := seconds_of_month number
  have length_le := monthLength_le date.year date.month
  have months := monthEnd_eq since1970
  have product := rent_times_seconds_le nonneg fits
    (show monthEnd date - startDate ≤ 2678400 by omega)
  rw [calculateFirstMonthRent_eq range number, saturatingI128,
    BoundedArithmetic.saturate_of_range product.1 product.2,
    Int.tdiv_eq_ediv_of_nonneg (mul_nonneg nonneg (Int.natCast_nonneg _))]

/-- So it is for every second of the month of a date. -/
theorem calculateFirstMonthRent_within (since1970 : 1970 ≤ date.year) (range : startDate ≤ u64Max)
    (since : monthStart date ≤ startDate) (before : startDate < monthEnd date)
    (nonneg : 0 ≤ rentAmount) (fits : rentAmount ≤ i128Max / 2678400) :
    Proration.calculateFirstMonthRent startDate rentAmount =
      some (rentAmount * (monthEnd date - startDate : Nat) /
        (monthEnd date - monthStart date : Nat)) := by
  obtain ⟨other, number, sameYear, sameMonth, _⟩ := exists_date_of_month since1970 since before
  obtain ⟨sameStart, sameEnd⟩ := month_eq_of_same sameYear sameMonth
  rw [calculateFirstMonthRent_of_le range number nonneg fits, sameStart, sameEnd]

end Rent

/-- The first month's rent is the share of the seconds from the start date to the next month,
rounded down.  It is at most the rent, all of it from the first second of the month, falls
within the month, and neither operation that could saturate does. -/
theorem first_month_rent_exact (startDate : UInt64) (rentAmount : Int) (nonneg : 0 ≤ rentAmount)
    (fits : rentAmount ≤ i128Max / 2678400) :
    ∃ (date : Gregorian.Date) (rent : Int),
      Proration.timestampToYmd startDate.toNat = some (ymd date) ∧
      monthStart date ≤ startDate.toNat ∧ startDate.toNat < monthEnd date ∧
      Proration.calculateFirstMonthRent startDate.toNat rentAmount = some rent ∧
      rent = rentAmount * (monthEnd date - startDate.toNat : Nat) /
        (monthEnd date - monthStart date : Nat) ∧
      0 ≤ rent ∧ rent ≤ rentAmount ∧
      (startDate.toNat = monthStart date → rent = rentAmount) ∧
      (∀ later : UInt64, startDate ≤ later → later.toNat < monthEnd date → ∃ laterRent,
        Proration.calculateFirstMonthRent later.toNat rentAmount = some laterRent ∧
          laterRent ≤ rent) ∧
      (date.day - 1) * 86400 + startDate.toNat % 86400 ≤
        Proration.daysInMonth date.year date.month * 86400 ∧
      i128Min ≤ rentAmount * (Proration.daysInMonth date.year date.month * 86400 -
        ((date.day - 1) * 86400 + startDate.toNat % 86400) : Nat) ∧
      rentAmount * (Proration.daysInMonth date.year date.month * 86400 -
        ((date.day - 1) * 86400 + startDate.toNat % 86400) : Nat) ≤ i128Max := by
  have bounded : ∀ time : UInt64, time.toNat ≤ u64Max := by
    intro time
    have room : u64Max = 18446744073709551615 := rfl
    have below := time.toNat_lt
    omega
  obtain ⟨date, number, converted⟩ := timestampToYmd_eq (bounded startDate)
  have since1970 := (midnight_of_number number).1
  have seconds := seconds_of_month number
  have before := timestamp_lt_monthEnd number
  have months := monthEnd_eq since1970
  have length_le := monthLength_le date.year date.month
  have length_pos := Gregorian.monthLength_pos date.year date.month
  have days_eq : Proration.daysInMonth date.year date.month =
      Gregorian.monthLength date.year date.month := daysInMonth_eq date
  have elapsed_le : (date.day - 1) * 86400 + startDate.toNat % 86400 ≤
      Gregorian.monthLength date.year date.month * 86400 := by omega
  have start_le : monthStart date ≤ startDate.toNat := by omega
  have month_pos : (0 : Int) < (monthEnd date - monthStart date : Nat) :=
    Int.natCast_pos.mpr (by omega)
  refine ⟨date, _, converted, start_le, before,
    calculateFirstMonthRent_of_le (bounded startDate) number nonneg fits, rfl,
    Int.ediv_nonneg (mul_nonneg nonneg (Int.natCast_nonneg _)) month_pos.le,
    Int.ediv_le_of_le_mul month_pos (mul_le_mul_of_nonneg_left
      (Int.ofNat_le.mpr (Nat.sub_le_sub_left start_le _)) nonneg),
    fun first => ?_, fun later after within => ?_, days_eq ▸ elapsed_le, ?_⟩
  · rw [first, Int.mul_ediv_cancel _ month_pos.ne']
  · have waits : startDate.toNat ≤ later.toNat := UInt64.le_iff_toNat_le.mp after
    refine ⟨_, calculateFirstMonthRent_within since1970 (bounded later) (start_le.trans waits)
      within nonneg fits, ?_⟩
    exact Int.ediv_le_ediv month_pos
      (mul_le_mul_of_nonneg_left (Int.ofNat_le.mpr (Nat.sub_le_sub_left waits _)) nonneg)
  · rw [days_eq]
    exact rent_times_seconds_le nonneg fits (by omega)

/-- A move-in on 16 April 2024, with half of the month left. -/
theorem half_of_april : ∃ (date : Gregorian.Date) (rent : Int),
    Proration.timestampToYmd 1713225600 = some (ymd date) ∧
    Proration.calculateFirstMonthRent 1713225600 30000000000 = some rent ∧
    0 ≤ rent ∧ rent ≤ 30000000000 := by
  obtain ⟨date, rent, converted, _, _, found, _, rent_nonneg, rent_le, _⟩ :=
    first_month_rent_exact 1713225600 30000000000 (by decide) (by decide)
  exact ⟨date, rent, converted, found, rent_nonneg, rent_le⟩

end LeaseFlow
