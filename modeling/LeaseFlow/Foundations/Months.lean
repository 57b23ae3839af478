import LeaseFlow.Foundations.Calendar

/-!
# Months of the calendar

The first day of the month of a date, the first day of the next, the days between them, and the
periods between the same day of one month and the next.
-/

set_option autoImplicit false

namespace Gregorian

/-- The first day of the month of a date. -/
def Date.firstOfMonth (date : Date) : Date :=
  ⟨date.year, date.month, 1, date.month_pos, date.month_le, Nat.one_pos, monthLength_pos _ _⟩

/-- The first day of the month after a date. -/
def Date.nextMonth (date : Date) : Date :=
  date.firstOfMonth.monthsAfter 1

variable (date : Date)

theorem Date.number_firstOfMonth :
    date.firstOfMonth.number + (date.day - 1) = date.number := by
  unfold Date.number Date.dayOfYear Date.firstOfMonth
  dsimp only
  omega

theorem Date.day_nextMonth : date.nextMonth.day = 1 :=
  min_eq_left (monthLength_pos _ _)

/-- A month has the days of its length. -/
theorem Date.number_nextMonth : date.nextMonth.number =
    date.firstOfMonth.number + monthLength date.year date.month := by
  have january := date.month_pos
  have december := date.month_le
  have first := date.day_nextMonth
  have days := daysBeforeMonth_succ date.year date.month_pos
  have index := date.firstOfMonth.monthIndex_monthsAfter 1
  change date.nextMonth.monthIndex = date.firstOfMonth.monthIndex + 1 at index
  have nextJanuary := date.nextMonth.month_pos
  have nextDecember := date.nextMonth.month_le
  unfold Date.number Date.dayOfYear
  rw [first]
  unfold Date.monthIndex Date.firstOfMonth at index
  dsimp only at index
  by_cases last : date.month = 12
  · -- December is followed by January of the next year.
    have year : date.nextMonth.year = date.year + 1 := by omega
    have month : date.nextMonth.month = 1 := by omega
    have none : daysBeforeMonth (date.year + 1) 1 = 0 := rfl
    rw [last, daysBeforeMonth_thirteen] at days
    rw [year, month, daysBeforeYear_succ, none, Date.firstOfMonth]
    dsimp only
    rw [last]
    omega
  · have year : date.nextMonth.year = date.year := by omega
    have month : date.nextMonth.month = date.month + 1 := by omega
    rw [year, month, days, Date.firstOfMonth]
    dsimp only
    omega

/-- The days from the first of a month to the first of the next are the dates of the month. -/
theorem Date.same_month {other : Date} (since : date.firstOfMonth.number ≤ other.number)
    (before : other.number < date.nextMonth.number) :
    other.year = date.year ∧ other.month = date.month := by
  have index := date.firstOfMonth.monthIndex_monthsAfter 1
  change date.nextMonth.monthIndex = date.firstOfMonth.monthIndex + 1 at index
  have january := other.month_pos
  have december := other.month_le
  have notEarlier : ¬ other.monthIndex < date.firstOfMonth.monthIndex := fun earlier =>
    absurd (Date.number_lt_of_monthIndex_lt earlier) (not_lt.mpr since)
  have notLater : ¬ date.nextMonth.monthIndex < other.monthIndex := fun later =>
    absurd (Date.number_lt_of_monthIndex_lt later) (not_lt.mpr before.le)
  have notNext : other.monthIndex ≠ date.nextMonth.monthIndex := by
    intro same
    have first := other.number_firstOfMonth
    have dateJanuary := date.nextMonth.month_pos
    have dateDecember := date.nextMonth.month_le
    have day := date.day_nextMonth
    have equal : other.firstOfMonth = date.nextMonth := by
      unfold Date.monthIndex at same
      ext
      · change other.year = date.nextMonth.year
        omega
      · change other.month = date.nextMonth.month
        omega
      · exact day.symm
    rw [equal] at first
    omega
  have dateJanuary := date.month_pos
  have dateDecember := date.month_le
  unfold Date.monthIndex Date.firstOfMonth at *
  dsimp only at *
  omega

theorem monthLength_bounds (year month : Nat) :
    28 ≤ monthLength year month ∧ monthLength year month ≤ 31 := by
  unfold monthLength
  split <;> split <;> decide

theorem Date.firstOfMonth_eq_nextMonth {later : Date}
    (follows : later.monthIndex = date.monthIndex + 1) :
    later.firstOfMonth = date.nextMonth := by
  have index := date.firstOfMonth.monthIndex_monthsAfter 1
  change date.nextMonth.monthIndex = date.firstOfMonth.monthIndex + 1 at index
  have january := later.month_pos
  have december := later.month_le
  have nextJanuary := date.nextMonth.month_pos
  have nextDecember := date.nextMonth.month_le
  have day := date.day_nextMonth
  unfold Date.monthIndex Date.firstOfMonth at index
  unfold Date.monthIndex at follows
  dsimp only at index
  ext
  · change later.year = date.nextMonth.year
    omega
  · change later.month = date.nextMonth.month
    omega
  · exact day.symm

/-- Wherever the day is cut, the same day a month later is four weeks to thirty-one days away. -/
theorem Date.number_monthsAfter_succ (n : Nat) :
    (date.monthsAfter n).number + 28 ≤ (date.monthsAfter (n + 1)).number ∧
      (date.monthsAfter (n + 1)).number ≤ (date.monthsAfter n).number + 31 := by
  have follows : (date.monthsAfter (n + 1)).monthIndex = (date.monthsAfter n).monthIndex + 1 := by
    rw [date.monthIndex_monthsAfter, date.monthIndex_monthsAfter, Nat.add_assoc]
  have opens := (date.monthsAfter n).number_firstOfMonth
  have closes := (date.monthsAfter (n + 1)).number_firstOfMonth
  rw [Date.firstOfMonth_eq_nextMonth _ follows, Date.number_nextMonth] at closes
  have length := monthLength_bounds (date.monthsAfter n).year (date.monthsAfter n).month
  have nextLength :=
    monthLength_bounds (date.monthsAfter (n + 1)).year (date.monthsAfter (n + 1)).month
  have cut : (date.monthsAfter n).day = min date.day
      (monthLength (date.monthsAfter n).year (date.monthsAfter n).month) := rfl
  have nextCut : (date.monthsAfter (n + 1)).day = min date.day
      (monthLength (date.monthsAfter (n + 1)).year (date.monthsAfter (n + 1)).month) := rfl
  have positive := date.day_pos
  have within := date.day_le.trans (monthLength_bounds date.year date.month).2
  omega

/-! ## Periods that follow one another -/

/-- Between the first and the last of some increasing times every time is in one period. -/
theorem existsUnique_period {opens : Nat → Nat} (increasing : Monotone opens) {count time : Nat}
    (since : opens 0 ≤ time) (before : time < opens count) :
    ∃! n, n < count ∧ opens n ≤ time ∧ time < opens (n + 1) := by
  have found : ∃ n < count, opens n ≤ time ∧ time < opens (n + 1) := by
    induction count with
    | zero => exact absurd since (not_le.mpr before)
    | succ count ih =>
        by_cases earlier : time < opens count
        · obtain ⟨n, within, period⟩ := ih earlier
          exact ⟨n, Nat.lt_succ_of_lt within, period⟩
        · exact ⟨count, Nat.lt_succ_self count, not_lt.mp earlier, before⟩
  obtain ⟨n, within, started, ongoing⟩ := found
  refine ⟨n, ⟨within, started, ongoing⟩, ?_⟩
  intro other ⟨_, otherStarted, otherOngoing⟩
  apply le_antisymm
  · by_contra! later
    have ordered : opens (n + 1) ≤ opens other := increasing later
    omega
  · by_contra! sooner
    have ordered : opens (other + 1) ≤ opens n := increasing sooner
    omega

end Gregorian
