import Mathlib.Algebra.Order.BigOperators.Group.Finset
import Mathlib.Tactic.IntervalCases
import Mathlib.Tactic.Linarith

/-!
# The Gregorian calendar

Valid dates, the day after a date, and the number of a date in days counted from
1 January of year 0.  A number belongs to one date only, and the day after a date
has the next number.
-/

set_option autoImplicit false

namespace Gregorian

/-! ## Consecutive blocks -/

/-- Where block `n` begins when blocks of the given lengths follow one another. -/
def blockStart (length : Nat → Nat) (n : Nat) : Nat :=
  ∑ k ∈ Finset.range n, length k

section Blocks

variable {length : Nat → Nat}

theorem blockStart_succ (n : Nat) : blockStart length (n + 1) = blockStart length n + length n :=
  Finset.sum_range_succ length n

theorem blockStart_mono : Monotone (blockStart length) :=
  monotone_nat_of_le_succ fun n => by
    rw [blockStart_succ]
    exact Nat.le_add_right _ _

/-- A position lies in one block only, at one offset. -/
theorem block_unique {left right i j : Nat} (inLeft : i < length left) (inRight : j < length right)
    (same : blockStart length left + i = blockStart length right + j) : left = right ∧ i = j := by
  have ordered : ∀ {a b p q : Nat}, a < b → p < length a →
      blockStart length a + p ≠ blockStart length b + q := by
    intro a b p q before within equal
    have next : blockStart length (a + 1) ≤ blockStart length b := blockStart_mono before
    rw [blockStart_succ] at next
    omega
  rcases lt_trichotomy left right with before | rfl | after
  · exact absurd same (ordered before inLeft)
  · exact ⟨rfl, Nat.add_left_cancel same⟩
  · exact absurd same.symm (ordered after inRight)

end Blocks

/-! ## Years and months -/

def IsLeap (year : Nat) : Prop :=
  (year % 4 = 0 ∧ year % 100 ≠ 0) ∨ year % 400 = 0

instance : DecidablePred IsLeap :=
  fun _ => inferInstanceAs (Decidable (_ ∨ _))

def yearLength (year : Nat) : Nat :=
  if IsLeap year then 366 else 365

def monthLength (year month : Nat) : Nat :=
  if month = 2 then (if IsLeap year then 29 else 28)
  else if month = 4 ∨ month = 6 ∨ month = 9 ∨ month = 11 then 30
  else 31

def daysBeforeYear (year : Nat) : Nat :=
  blockStart yearLength year

def daysBeforeMonth (year month : Nat) : Nat :=
  blockStart (fun k => monthLength year (k + 1)) (month - 1)

theorem daysBeforeYear_succ (year : Nat) :
    daysBeforeYear (year + 1) = daysBeforeYear year + yearLength year :=
  blockStart_succ year

theorem le_daysBeforeYear (year : Nat) : year ≤ daysBeforeYear year := by
  induction year with
  | zero => exact Nat.zero_le _
  | succ year ih =>
      have positive : 1 ≤ yearLength year := by
        unfold yearLength
        split <;> decide
      rw [daysBeforeYear_succ]
      omega

theorem daysBeforeMonth_succ (year : Nat) {month : Nat} (positive : 1 ≤ month) :
    daysBeforeMonth year (month + 1) = daysBeforeMonth year month + monthLength year month := by
  obtain ⟨k, rfl⟩ := Nat.exists_eq_add_of_le' positive
  exact blockStart_succ k

theorem daysBeforeMonth_mono (year : Nat) : Monotone (daysBeforeMonth year) :=
  fun _ _ le => blockStart_mono (Nat.sub_le_sub_right le 1)

theorem daysBeforeMonth_thirteen (year : Nat) : daysBeforeMonth year 13 = yearLength year := by
  by_cases leap : IsLeap year <;>
    simp [daysBeforeMonth, blockStart, Finset.sum_range_succ, monthLength, yearLength, leap]

/-! ## Dates -/

@[ext] structure Date where
  year : Nat
  month : Nat
  day : Nat
  month_pos : 1 ≤ month
  month_le : month ≤ 12
  day_pos : 1 ≤ day
  day_le : day ≤ monthLength year month
  deriving DecidableEq

theorem monthLength_pos (year month : Nat) : 1 ≤ monthLength year month := by
  unfold monthLength
  split <;> split <;> decide

/-- The day after a date. -/
def Date.next (date : Date) : Date :=
  if later : date.day < monthLength date.year date.month then
    ⟨date.year, date.month, date.day + 1, date.month_pos, date.month_le, by omega, later⟩
  else if within : date.month < 12 then
    ⟨date.year, date.month + 1, 1, by omega, within, le_rfl, monthLength_pos _ _⟩
  else
    ⟨date.year + 1, 1, 1, le_rfl, by decide, le_rfl, monthLength_pos _ _⟩

/-- Days since 1 January of the same year. -/
def Date.dayOfYear (date : Date) : Nat :=
  daysBeforeMonth date.year date.month + (date.day - 1)

/-- Days since 1 January of year 0. -/
def Date.number (date : Date) : Nat :=
  daysBeforeYear date.year + date.dayOfYear

theorem Date.dayOfYear_lt (date : Date) : date.dayOfYear < yearLength date.year := by
  have month := daysBeforeMonth_succ date.year date.month_pos
  have year := daysBeforeMonth_mono date.year (Nat.succ_le_succ date.month_le)
  rw [daysBeforeMonth_thirteen, Nat.succ_eq_add_one, month] at year
  have positive := date.day_pos
  have within := date.day_le
  unfold Date.dayOfYear
  omega

theorem Date.number_injective : Function.Injective Date.number := by
  intro left right same
  obtain ⟨year, inYear⟩ := block_unique left.dayOfYear_lt right.dayOfYear_lt same
  have leftDay := left.day_pos
  have rightDay := right.day_pos
  have leftMonth := left.month_pos
  have rightMonth := right.month_pos
  have leftWithin : left.day - 1 < monthLength left.year (left.month - 1 + 1) := by
    rw [Nat.sub_add_cancel leftMonth]
    exact Nat.sub_one_lt_of_le leftDay left.day_le
  have rightWithin : right.day - 1 < monthLength left.year (right.month - 1 + 1) := by
    rw [Nat.sub_add_cancel rightMonth, year]
    exact Nat.sub_one_lt_of_le rightDay right.day_le
  rw [Date.dayOfYear, Date.dayOfYear, ← year] at inYear
  obtain ⟨month, day⟩ :=
    @block_unique (fun k => monthLength left.year (k + 1)) _ _ _ _ leftWithin rightWithin inYear
  exact Date.ext year (by omega) (by omega)

theorem Date.daysBeforeYear_le_number {date : Date} {year : Nat} (within : year ≤ date.year) :
    daysBeforeYear year ≤ date.number :=
  (blockStart_mono within).trans (Nat.le_add_right _ _)

/-- A date of an earlier year has a smaller number. -/
theorem Date.number_lt_of_year_lt {left right : Date} (before : left.year < right.year) :
    left.number < right.number := by
  have within := left.dayOfYear_lt
  calc left.number = daysBeforeYear left.year + left.dayOfYear := rfl
    _ < daysBeforeYear left.year + yearLength left.year := Nat.add_lt_add_left within _
    _ = daysBeforeYear (left.year + 1) := (daysBeforeYear_succ left.year).symm
    _ ≤ right.number := Date.daysBeforeYear_le_number before

/-- The day after a date has the next number. -/
theorem Date.number_next (date : Date) : date.next.number = date.number + 1 := by
  have positive := date.day_pos
  have within := date.day_le
  unfold Date.next
  split
  · simp only [Date.number, Date.dayOfYear]
    omega
  · next last =>
      have full : date.day = monthLength date.year date.month := by omega
      have month := daysBeforeMonth_succ date.year date.month_pos
      split
      · simp only [Date.number, Date.dayOfYear]
        omega
      · next december =>
          have twelve : date.month = 12 := le_antisymm date.month_le (not_lt.mp december)
          have year : daysBeforeMonth date.year 12 + monthLength date.year 12 =
              yearLength date.year :=
            (daysBeforeMonth_succ date.year (by decide)).symm.trans (daysBeforeMonth_thirteen _)
          have first : daysBeforeMonth (date.year + 1) 1 = 0 := rfl
          rw [twelve] at full
          simp only [Date.number, Date.dayOfYear, daysBeforeYear_succ, first, twelve]
          omega

/-- A date is the day after another if its number says so. -/
theorem Date.eq_next_of_number {date later : Date} (same : later.number = date.number + 1) :
    later = date.next :=
  Date.number_injective (same.trans date.number_next.symm)

/-! ## Years that begin in March -/

/-- Days from 1 March of year 0 to 1 March of the given year. -/
def marchStart (year : Nat) : Nat :=
  365 * year + year / 4 - year / 100 + year / 400

theorem isLeap_iff_dvd (year : Nat) : IsLeap year ↔ (4 ∣ year ∧ ¬ 100 ∣ year) ∨ 400 ∣ year := by
  simp only [IsLeap, Nat.dvd_iff_mod_eq_zero, ne_eq]

/-- A year that begins in March holds the February of the next calendar year. -/
theorem marchStart_succ (year : Nat) :
    marchStart (year + 1) = marchStart year + yearLength (year + 1) := by
  have fourth : 100 ∣ year + 1 → 4 ∣ year + 1 := Nat.dvd_trans (by decide)
  have hundredth : 400 ∣ year + 1 → 100 ∣ year + 1 := Nat.dvd_trans (by decide)
  have fewer : year / 100 ≤ year / 4 := Nat.div_le_div_left (by decide) (by decide)
  rw [marchStart, marchStart, yearLength, @Nat.succ_div year 4,
    @Nat.succ_div year 100, @Nat.succ_div year 400]
  simp only [isLeap_iff_dvd]
  by_cases four : 4 ∣ year + 1
  · by_cases hundred : 100 ∣ year + 1
    · by_cases fourHundred : 400 ∣ year + 1 <;> simp [four, hundred, fourHundred] <;> omega
    · have other : ¬ 400 ∣ year + 1 := fun dvd => hundred (hundredth dvd)
      simp [four, hundred, other]
      omega
  · have other : ¬ 100 ∣ year + 1 := fun dvd => four (fourth dvd)
    have last : ¬ 400 ∣ year + 1 := fun dvd => other (hundredth dvd)
    simp [four, other, last]
    omega

theorem daysBeforeMonth_march (year : Nat) :
    daysBeforeMonth year 3 + 306 = yearLength year := by
  by_cases leap : IsLeap year <;>
    simp [daysBeforeMonth, blockStart, Finset.sum_range_succ, monthLength, yearLength, leap]

theorem daysBeforeYear_march (year : Nat) :
    daysBeforeYear year + daysBeforeMonth year 3 = marchStart year + 60 := by
  induction year with
  | zero => rfl
  | succ year ih =>
      have first := daysBeforeMonth_march year
      have second := daysBeforeMonth_march (year + 1)
      have next := marchStart_succ year
      rw [daysBeforeYear_succ]
      omega

/-- From March on the months go by fives of 153 days. -/
theorem daysBeforeMonth_add_three (year : Nat) {months : Nat} (months_le : months ≤ 9) :
    daysBeforeMonth year (months + 3) = daysBeforeMonth year 3 + (153 * months + 2) / 5 := by
  induction months with
  | zero => rfl
  | succ months ih =>
      have length : monthLength year (months + 3) =
          (153 * (months + 1) + 2) / 5 - (153 * months + 2) / 5 := by
        have months_lt : months < 9 := months_le
        interval_cases months <;> rfl
      have next := daysBeforeMonth_succ year (Nat.le_add_left 1 (months + 2))
      rw [ih (Nat.le_of_succ_le months_le), length] at next
      rw [next]
      omega

theorem Date.number_of_march_le {date : Date} (march : 3 ≤ date.month) :
    date.number =
      marchStart date.year + 60 + (153 * (date.month - 3) + 2) / 5 + (date.day - 1) := by
  have start := daysBeforeYear_march date.year
  have months : daysBeforeMonth date.year date.month =
      daysBeforeMonth date.year 3 + (153 * (date.month - 3) + 2) / 5 := by
    have counted := @daysBeforeMonth_add_three date.year (date.month - 3)
      (Nat.sub_le_sub_right date.month_le 3)
    rwa [Nat.sub_add_cancel march] at counted
  rw [Date.number, Date.dayOfYear, months]
  omega

theorem Date.number_of_le_february {date : Date} {year : Nat} (follows : date.year = year + 1)
    (february : date.month ≤ 2) :
    date.number = marchStart year + 60 + (153 * (date.month + 9) + 2) / 5 + (date.day - 1) := by
  have start := daysBeforeYear_march year
  have length := daysBeforeMonth_march year
  have months : daysBeforeMonth date.year date.month + 306 = (153 * (date.month + 9) + 2) / 5 := by
    have january := date.month_pos
    generalize date.month = month at february january
    interval_cases month <;> simp [daysBeforeMonth, blockStart, monthLength]
  rw [Date.number, Date.dayOfYear, follows, daysBeforeYear_succ, ← months, follows]
  omega

/-! ## Months after a date -/

/-- The month of a date, counted from January of year 0. -/
def Date.monthIndex (date : Date) : Nat :=
  12 * date.year + (date.month - 1)

/-- A date of an earlier month has a smaller number. -/
theorem Date.number_lt_of_monthIndex_lt {left right : Date}
    (earlier : left.monthIndex < right.monthIndex) : left.number < right.number := by
  have leftMonth := left.month_le
  have rightMonth := right.month_le
  unfold Date.monthIndex at earlier
  have ordered : left.year ≤ right.year := by omega
  rcases Nat.lt_or_eq_of_le ordered with before | same
  · exact Date.number_lt_of_year_lt before
  · have next := daysBeforeMonth_mono left.year (show left.month + 1 ≤ right.month by omega)
    rw [daysBeforeMonth_succ left.year left.month_pos] at next
    have positive := left.day_pos
    have within := left.day_le
    unfold Date.number Date.dayOfYear
    rw [← same]
    omega

/-- The date `n` months later, on the same day of the month or on the last day of a
month that is too short for it. -/
def Date.monthsAfter (date : Date) (n : Nat) : Date :=
  let year := date.year + (date.month - 1 + n) / 12
  let month := (date.month - 1 + n) % 12 + 1
  ⟨year, month, min date.day (monthLength year month), Nat.le_add_left 1 _,
    Nat.succ_le_of_lt (Nat.mod_lt _ (by decide)), le_min date.day_pos (monthLength_pos _ _),
    min_le_right _ _⟩

theorem Date.monthIndex_monthsAfter (date : Date) (n : Nat) :
    (date.monthsAfter n).monthIndex = date.monthIndex + n := by
  unfold Date.monthsAfter Date.monthIndex
  dsimp only
  omega

/-- Later months have later dates, whatever the days were cut to. -/
theorem Date.number_monthsAfter_lt (date : Date) {m n : Nat} (before : m < n) :
    (date.monthsAfter m).number < (date.monthsAfter n).number := by
  apply Date.number_lt_of_monthIndex_lt
  rw [Date.monthIndex_monthsAfter, Date.monthIndex_monthsAfter]
  exact Nat.add_lt_add_left before _

end Gregorian
