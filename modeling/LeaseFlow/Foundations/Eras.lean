import LeaseFlow.Foundations.Calendar

/-!
# Eras of the calendar

The lengths of years and months come back every four hundred years, every number of days
belongs to a date, and the length of the month changes with almost every first of a month.
-/

set_option autoImplicit false

namespace Gregorian

/-! ## Four hundred years later -/

section Eras

variable (year month eras : Nat)

theorem isLeap_add_eras : IsLeap (year + 400 * eras) ↔ IsLeap year := by
  unfold IsLeap
  omega

theorem yearLength_add_eras : yearLength (year + 400 * eras) = yearLength year := by
  simp only [yearLength, isLeap_add_eras]

theorem monthLength_add_eras :
    monthLength (year + 400 * eras) month = monthLength year month := by
  simp only [monthLength, isLeap_add_eras]

/-- The days before a year, by the leap years before it. -/
theorem daysBeforeYear_eq : daysBeforeYear (year + 1) = marchStart year + 366 := by
  have march := daysBeforeYear_march year
  have rest := daysBeforeMonth_march year
  rw [daysBeforeYear_succ]
  omega

theorem marchStart_add_eras :
    marchStart (year + 400 * eras) = marchStart year + 146097 * eras := by
  unfold marchStart
  omega

theorem daysBeforeYear_add_eras :
    daysBeforeYear (year + 400 * eras) = daysBeforeYear year + 146097 * eras := by
  have now := daysBeforeYear_eq year
  have later := daysBeforeYear_eq (year + 400 * eras)
  rw [marchStart_add_eras, daysBeforeYear_succ, yearLength_add_eras] at later
  rw [daysBeforeYear_succ] at now
  omega

end Eras

/-! ## The date of a number -/

theorem exists_date (number : Nat) : ∃ date : Date, date.number = number := by
  induction number with
  | zero =>
      -- The first of January of year 0.
      exact ⟨⟨0, 1, 1, Nat.one_pos, by decide, Nat.one_pos, monthLength_pos 0 1⟩, rfl⟩
  | succ number ih =>
      obtain ⟨date, counted⟩ := ih
      exact ⟨date.next, by rw [Date.number_next, counted]⟩

/-- The same date some eras later. -/
def Date.addEras (date : Date) (eras : Nat) : Date :=
  ⟨date.year + 400 * eras, date.month, date.day, date.month_pos, date.month_le, date.day_pos,
    (monthLength_add_eras date.year date.month eras).symm ▸ date.day_le⟩

theorem Date.number_addEras (date : Date) (eras : Nat) :
    (date.addEras eras).number = date.number + 146097 * eras := by
  have months : daysBeforeMonth (date.year + 400 * eras) date.month =
      daysBeforeMonth date.year date.month := by
    simp only [daysBeforeMonth, monthLength_add_eras]
  simp only [Date.number, Date.dayOfYear, Date.addEras, daysBeforeYear_add_eras, months]
  omega

/-- Days that are whole eras apart lie in months of the same length. -/
theorem Date.monthLength_eq_of_eras {date later : Date} {eras : Nat}
    (apart : later.number = date.number + 146097 * eras) :
    monthLength later.year later.month = monthLength date.year date.month := by
  rw [← Date.number_addEras] at apart
  rw [Date.number_injective apart]
  exact monthLength_add_eras date.year date.month eras

/-- A day within a year belongs to a date of that year. -/
theorem exists_dayOfYear {year day : Nat} (within : day < yearLength year) :
    ∃ date : Date, date.year = year ∧ date.dayOfYear = day := by
  obtain ⟨date, counted⟩ := exists_date (daysBeforeYear year + day)
  exact ⟨date, block_unique date.dayOfYear_lt within counted⟩

/-- The day after lies in a month of the same length, unless it is the first of one.  Of those
only January and August follow a month as long as they are. -/
theorem Date.monthLength_next_iff (date : Date) :
    monthLength date.year date.month = monthLength date.next.year date.next.month ↔
      date.next.day ≠ 1 ∨ date.next.month = 1 ∨ date.next.month = 8 := by
  have january := date.month_pos
  have december := date.month_le
  have positive := date.day_pos
  unfold Date.next
  split
  · simp only [ne_eq, true_iff]
    exact .inl (by omega)
  · split
    · next within =>
        dsimp only
        generalize date.month = month at january within
        interval_cases month <;> by_cases leap : IsLeap date.year <;> simp [monthLength, leap]
    · next last =>
        have twelve : date.month = 12 := by omega
        simp [twelve, monthLength]

end Gregorian
