import LeaseFlow.Calendar.RentShare
import LeaseFlow.Calendar.BillingDates
import LeaseFlow.Foundations.Eras

/-!
# The month length used for proration

`get_seconds_in_month` estimates a year, takes off the leap days up to that year, and walks to
the year and the month the remaining days fall in.  The walk is that of the calendar, from
whatever estimate it starts.  A leap year counts its own leap day as gone by, so the days of
an estimated leap year are read as the day before.
-/

set_option autoImplicit false

namespace LeaseFlow

open Gregorian (daysBeforeYear yearLength monthLength IsLeap)

/-! ## Signed years -/

/-- An `i32` year counted from an era that begins before all of them. -/
def eraYear (year : Int) : Nat :=
  (year + 2147484000).toNat

section SignedYears

variable {year : Int}

theorem eraYear_succ (low : i32Min ≤ year) : eraYear (year + 1) = eraYear year + 1 := by
  unfold eraYear i32Min at *
  omega

theorem isLeapYearI32_eq (low : i32Min ≤ year) :
    LeaseflowMath.isLeapYearI32 year = decide (IsLeap (eraYear year)) := by
  rw [Bool.eq_iff_iff, decide_eq_true_iff]
  simp only [LeaseflowMath.isLeapYearI32, IsLeap, Bool.or_eq_true, Bool.and_eq_true, beq_iff_eq,
    bne_iff_ne, ne_eq, ← Int.dvd_iff_tmod_eq_zero, eraYear]
  unfold i32Min at low
  omega

theorem daysInYear_eq (low : i32Min ≤ year) :
    LeaseflowMath.daysInYear year = yearLength (eraYear year) := by
  unfold LeaseflowMath.daysInYear yearLength
  rw [isLeapYearI32_eq low]
  by_cases leap : IsLeap (eraYear year) <;> simp [leap]

theorem daysBeforeYear_eraYear_succ (low : i32Min ≤ year) :
    (daysBeforeYear (eraYear (year + 1)) : Int) =
      daysBeforeYear (eraYear year) + LeaseflowMath.daysInYear year := by
  rw [eraYear_succ low, Gregorian.daysBeforeYear_succ, daysInYear_eq low]
  push_cast
  rfl

theorem lt_of_daysBeforeYear_lt {other : Int} (before : daysBeforeYear (eraYear year) <
    daysBeforeYear (eraYear other)) : year < other := by
  by_contra! later
  have ordered : eraYear other ≤ eraYear year := Int.toNat_le_toNat (by omega)
  exact absurd (Gregorian.blockStart_mono ordered) (not_le.mpr before)

end SignedYears

/-! ## The walk to the year -/

theorem rewindYears_eq {year remainingDays : Int} {number : Nat}
    (bounded : daysBeforeYear (eraYear i32Min) ≤ number)
    (low : i32Min ≤ year) (high : year ≤ i32Max)
    (counted : (daysBeforeYear (eraYear year) : Int) + remainingDays = number) :
    ∃ early fewer, LeaseflowMath.rewindYears year remainingDays = some (early, fewer) ∧
      i32Min ≤ early ∧ early ≤ i32Max ∧ 0 ≤ fewer ∧
      (daysBeforeYear (eraYear early) : Int) + fewer = number := by
  by_cases negative : remainingDays < 0
  · have later : i32Min < year := lt_of_daysBeforeYear_lt (by omega)
    have previous : subI32 year 1 = some (year - 1) := by
      refine if_pos ?_
      unfold i32Max at *
      omega
    have whole := @daysBeforeYear_eraYear_succ (year - 1) (by omega)
    have positive := LeaseflowMath.daysInYear_pos (year - 1)
    rw [sub_add_cancel] at whole
    rw [LeaseflowMath.rewindYears, if_pos negative, Checked.bind_of_eq previous]
    exact rewindYears_eq bounded (by omega) (by omega) (by omega)
  · rw [LeaseflowMath.rewindYears, if_neg negative]
    exact ⟨year, remainingDays, rfl, low, high, not_lt.mp negative, counted⟩
termination_by (-remainingDays).toNat

theorem advanceYears_eq {year remainingDays : Int} {number : Nat}
    (bounded : number < daysBeforeYear (eraYear (i32Max + 1)))
    (low : i32Min ≤ year) (nonneg : 0 ≤ remainingDays)
    (counted : (daysBeforeYear (eraYear year) : Int) + remainingDays = number) :
    ∃ last rest, LeaseflowMath.advanceYears year remainingDays = some (last, rest) ∧
      i32Min ≤ last ∧ 0 ≤ rest ∧ rest < LeaseflowMath.daysInYear last ∧
      (daysBeforeYear (eraYear last) : Int) + rest = number := by
  by_cases full : remainingDays ≥ LeaseflowMath.daysInYear year
  · have whole := daysBeforeYear_eraYear_succ low
    have positive := LeaseflowMath.daysInYear_pos year
    have earlier : year + 1 < i32Max + 1 := lt_of_daysBeforeYear_lt (by omega)
    have next : addI32 year 1 = some (year + 1) := by
      refine if_pos ?_
      unfold i32Min at *
      omega
    rw [LeaseflowMath.advanceYears, if_pos full, Checked.bind_of_eq next]
    exact advanceYears_eq bounded (by omega) (by omega) (by omega)
  · rw [LeaseflowMath.advanceYears, if_neg full]
    exact ⟨year, remainingDays, rfl, low, nonneg, not_le.mp full, counted⟩
termination_by remainingDays.toNat

/-! ## The walk to the month -/

section Month

variable {january daysInMonth remainingDays : Int} (later : List I64)

theorem lengthOfMonth_of_lt (within : remainingDays < daysInMonth) :
    LeaseflowMath.lengthOfMonth january (daysInMonth :: later) remainingDays = daysInMonth :=
  if_pos within

theorem lengthOfMonth_of_le (full : daysInMonth ≤ remainingDays) :
    LeaseflowMath.lengthOfMonth january (daysInMonth :: later) remainingDays =
      LeaseflowMath.lengthOfMonth january later (remainingDays - daysInMonth) :=
  if_neg (not_lt.mpr full)

end Month

/-- The month in which the days run out, of months with the given lengths. -/
theorem lengthOfMonth_blocks (january : I64) {length : Nat → Nat} {first count month day : Nat}
    (listed : month < count) (within : day < length (first + month)) :
    LeaseflowMath.lengthOfMonth january
        ((List.range' first count).map fun month => (length month : Int))
        ((Gregorian.blockStart (fun k => length (first + k)) month + day : Nat) : Int) =
      length (first + month) := by
  induction count generalizing first month with
  | zero => exact absurd listed (Nat.not_lt_zero month)
  | succ count ih =>
      rw [List.range'_succ, List.map_cons]
      cases month with
      | zero =>
          have none : Gregorian.blockStart (fun k => length (first + k)) 0 = 0 := rfl
          rw [Nat.add_zero] at within ⊢
          rw [none, Nat.zero_add]
          exact lengthOfMonth_of_lt _ (by omega)
      | succ month =>
          have start : Gregorian.blockStart (fun k => length (first + k)) (month + 1) =
              length first + Gregorian.blockStart (fun k => length (first + 1 + k)) month := by
            unfold Gregorian.blockStart
            rw [Finset.sum_range_succ', Nat.add_comm]
            simp only [Nat.add_right_comm first 1, Nat.add_assoc, Nat.add_zero]
          have same : first + (month + 1) = first + 1 + month := by omega
          rw [same] at within ⊢
          rw [start, lengthOfMonth_of_le _ (by omega)]
          have rest : ((length first + Gregorian.blockStart (fun k => length (first + 1 + k)) month
              + day : Nat) : Int) - length first =
              ((Gregorian.blockStart (fun k => length (first + 1 + k)) month + day : Nat) : Int) := by
            omega
          rw [rest]
          exact ih (by omega) within

theorem monthDays_eq {year : Int} (low : i32Min ≤ year) :
    LeaseflowMath.monthDays year =
      (List.range' 1 12).map fun month => (monthLength (eraYear year) month : Int) := by
  unfold LeaseflowMath.monthDays
  rw [isLeapYearI32_eq low]
  by_cases leap : IsLeap (eraYear year) <;> simp [leap, monthLength, List.range']

theorem lengthOfMonth_date {year : Int} (low : i32Min ≤ year) {date : Gregorian.Date}
    (inYear : date.year = eraYear year) :
    LeaseflowMath.lengthOfMonth 31 (LeaseflowMath.monthDays year) date.dayOfYear =
      monthLength date.year date.month := by
  have january := date.month_pos
  have december := date.month_le
  have positive := date.day_pos
  have within := date.day_le
  obtain ⟨month, counted⟩ : ∃ month, date.month = 1 + month := ⟨date.month - 1, by omega⟩
  have start : date.dayOfYear =
      Gregorian.blockStart (fun k => monthLength date.year (1 + k)) month + (date.day - 1) := by
    simp only [Gregorian.Date.dayOfYear, Gregorian.daysBeforeMonth, counted, Nat.add_comm 1,
      Nat.add_sub_cancel]
  rw [monthDays_eq low, ← inYear, start, counted]
  rw [counted] at within
  exact lengthOfMonth_blocks 31 (by omega) (by omega)

/-! ## The day that is read -/

/-- The year the source starts from. -/
def estimatedYear (timestamp : U64) : Int :=
  1970 + asI32 (((asI64 timestamp).tdiv 86400).tdiv 365)

/-- The leap days the source takes off for a year. -/
def leapDaysTaken (year : Int) : Int :=
  (year - 1968).tdiv 4 - (year - 1900).tdiv 100 + (year - 1600).tdiv 400

/-- The number of the day whose month the source takes, counted as the years of `eraYear`. -/
def dayRead (timestamp : U64) : Int :=
  daysBeforeYear (eraYear (estimatedYear timestamp)) +
    (((asI64 timestamp).tdiv 86400).tmod 365 - leapDaysTaken (estimatedYear timestamp))

theorem estimatedYear_ge (timestamp : Nat) : -2147481678 ≤ estimatedYear timestamp := by
  have low : -2147483648 ≤ asI32 (((asI64 timestamp).tdiv 86400).tdiv 365) :=
    Int.le_bmod (by decide)
  unfold estimatedYear
  exact Int.add_le_add_left low 1970

theorem tdiv_bounds (value : Int) {size : Int} (positive : 0 < size) :
    value / size ≤ value.tdiv size ∧ value.tdiv size ≤ value / size + 1 := by
  rw [Int.tdiv_eq_ediv, Int.sign_eq_one_of_pos positive]
  split <;> omega

section Reading

variable {year : Int}

theorem leapDaysTaken_bounds :
    (year - 1968) / 4 - (year - 1900) / 100 + (year - 1600) / 400 - 1 ≤ leapDaysTaken year ∧
      leapDaysTaken year ≤ (year - 1968) / 4 - (year - 1900) / 100 + (year - 1600) / 400 + 2 := by
  have fourths := tdiv_bounds (year - 1968) (show (0 : Int) < 4 by decide)
  have hundredths := tdiv_bounds (year - 1900) (show (0 : Int) < 100 by decide)
  have fourHundredths := tdiv_bounds (year - 1600) (show (0 : Int) < 400 by decide)
  have split : leapDaysTaken year =
      (year - 1968).tdiv 4 - (year - 1900).tdiv 100 + (year - 1600).tdiv 400 := rfl
  omega

theorem leapYearsBefore_eq (low : -2147481678 ≤ year) (high : year ≤ i32Max) :
    LeaseflowMath.leapYearsBefore year = some (leapDaysTaken year) := by
  have within {value : Int} (low : i32Min ≤ value) (high : value ≤ i32Max) :
      Checked.within i32Min i32Max value = some value := if_pos ⟨low, high⟩
  have least : i32Min = -2147483648 := rfl
  have most : i32Max = 2147483647 := rfl
  have fourths := tdiv_bounds (year - 1968) (show (0 : Int) < 4 by decide)
  have hundredths := tdiv_bounds (year - 1900) (show (0 : Int) < 100 by decide)
  have fourHundredths := tdiv_bounds (year - 1600) (show (0 : Int) < 400 by decide)
  unfold LeaseflowMath.leapYearsBefore subI32 addI32
  rw [Checked.bind_of_eq (within (by omega) (by omega)),
    Checked.bind_of_eq (within (by omega) (by omega)),
    Checked.bind_of_eq (within (by omega) (by omega)),
    Checked.bind_of_eq (within (by omega) (by omega))]
  exact within (by omega) (by omega)

theorem daysBeforeYear_eraYear (low : -2147483648 ≤ year) :
    (daysBeforeYear (eraYear year) : Int) = 365 * (year + 2147483999) + (year + 2147483999) / 4 -
      (year + 2147483999) / 100 + (year + 2147483999) / 400 + 366 := by
  obtain ⟨earlier, counted⟩ : ∃ earlier : Nat, year + 2147483999 = earlier :=
    Int.eq_ofNat_of_zero_le (by omega)
  have next : eraYear year = earlier + 1 := by
    unfold eraYear
    omega
  rw [next, Gregorian.daysBeforeYear_eq, Gregorian.marchStart, counted]
  omega

variable {timestamp : Nat}

theorem daysBeforeYear_i32Min_le : (daysBeforeYear (eraYear i32Min) : Int) ≤ dayRead timestamp := by
  have low := estimatedYear_ge timestamp
  have taken := @leapDaysTaken_bounds (estimatedYear timestamp)
  have intoYear := Int.lt_tmod_of_pos ((asI64 timestamp).tdiv 86400) (show (0 : Int) < 365 by decide)
  have first : (daysBeforeYear (eraYear i32Min) : Int) = 128565 :=
    (daysBeforeYear_eraYear (by decide)).trans (by decide)
  rw [dayRead, first, daysBeforeYear_eraYear (by omega)]
  omega

theorem dayRead_lt (fits : estimatedYear timestamp ≤ i32Max) :
    dayRead timestamp < daysBeforeYear (eraYear (i32Max + 1)) := by
  have most : i32Max = 2147483647 := rfl
  have low := estimatedYear_ge timestamp
  have taken := @leapDaysTaken_bounds (estimatedYear timestamp)
  have intoYear := Int.tmod_lt_of_pos ((asI64 timestamp).tdiv 86400) (show (0 : Int) < 365 by decide)
  rw [dayRead, daysBeforeYear_eraYear (by omega), daysBeforeYear_eraYear (by omega)]
  omega

end Reading

theorem addI32_of_range {left right : Int} (low : i32Min ≤ left + right)
    (high : left + right ≤ i32Max) : addI32 left right = some (left + right) :=
  if_pos ⟨low, high⟩

theorem addI32_of_lt {left right : Int} (exceeds : i32Max < left + right) :
    addI32 left right = none :=
  if_neg fun within => absurd within.2 (not_le.mpr exceeds)

/-- The month the source takes for the timestamp has the given length. -/
def ReadsLength (timestamp : U64) (length : Nat) : Prop :=
  estimatedYear timestamp ≤ i32Max ∧ ∃ read : Gregorian.Date,
    (read.number : Int) = dayRead timestamp ∧ length = monthLength read.year read.month

/-- From any estimate the walk ends in the month of the day that is read. -/
theorem getSecondsInMonth_of_fits {timestamp : Nat} (fits : estimatedYear timestamp ≤ i32Max) :
    ∃ read : Gregorian.Date, (read.number : Int) = dayRead timestamp ∧
      LeaseflowMath.getSecondsInMonth timestamp =
        some (monthLength read.year read.month * 86400) := by
  have least' : i32Min ≤ -2147481678 := by decide
  have low := estimatedYear_ge timestamp
  have least := @daysBeforeYear_i32Min_le timestamp
  have most := dayRead_lt fits
  obtain ⟨number, counted⟩ := Int.eq_ofNat_of_zero_le
    ((Int.natCast_nonneg _).trans (@daysBeforeYear_i32Min_le timestamp))
  rw [counted] at least most
  have estimate : addI32 1970 (asI32 (((asI64 timestamp).tdiv 86400).tdiv 365)) =
      some (estimatedYear timestamp) := addI32_of_range (least'.trans low) fits
  obtain ⟨early, fewer, rewound, early_ge, _, nonneg, earlier⟩ :=
    rewindYears_eq (Int.ofNat_le.mp least) (least'.trans low) fits counted
  obtain ⟨last, rest, advanced, last_ge, rest_nonneg, within, later⟩ :=
    advanceYears_eq (Int.ofNat_lt.mp most) early_ge nonneg earlier
  rw [daysInYear_eq last_ge] at within
  obtain ⟨day, same⟩ := Int.eq_ofNat_of_zero_le rest_nonneg
  rw [same] at within later advanced
  obtain ⟨read, inYear, dayOfYear⟩ := Gregorian.exists_dayOfYear (Int.ofNat_lt.mp within)
  refine ⟨read, ?_, ?_⟩
  · rw [counted, ← later, Gregorian.Date.number, inYear, dayOfYear]
    push_cast
    rfl
  · have walked := lengthOfMonth_date last_ge inYear
    rw [dayOfYear] at walked
    unfold LeaseflowMath.getSecondsInMonth
    dsimp only
    rw [Checked.bind_of_eq estimate, Checked.bind_of_eq (leapYearsBefore_eq low fits),
      Checked.bind_of_eq rewound]
    dsimp only
    rw [Checked.bind_of_eq advanced]
    dsimp only
    rw [walked]
    exact congrArg some (Int.toNat_natCast (monthLength read.year read.month * 86400))

theorem getSecondsInMonth_eq_some {timestamp seconds : Nat} :
    LeaseflowMath.getSecondsInMonth timestamp = some seconds ↔
      ∃ length, ReadsLength timestamp length ∧ seconds = length * 86400 := by
  by_cases fits : estimatedYear timestamp ≤ i32Max
  · obtain ⟨read, number, returned⟩ := getSecondsInMonth_of_fits fits
    rw [returned, Option.some.injEq]
    constructor
    · rintro rfl
      exact ⟨_, ⟨fits, read, number, rfl⟩, rfl⟩
    · rintro ⟨_, ⟨_, other, same, rfl⟩, rfl⟩
      rw [Gregorian.Date.number_injective (Int.ofNat.inj (number.trans same.symm))]
  · have panics : addI32 1970 (asI32 (((asI64 timestamp).tdiv 86400).tdiv 365)) = none :=
      addI32_of_lt (not_le.mp fits)
    constructor
    · intro returned
      unfold LeaseflowMath.getSecondsInMonth at returned
      dsimp only at returned
      rw [panics] at returned
      cases returned
    · rintro ⟨_, reads, _⟩
      exact absurd reads.1 fits

/-! ## Agreement with the calendar -/

theorem tdiv_natCast (value size : Nat) : (value : Int).tdiv size = ((value / size : Nat) : Int) :=
  (Int.ofNat_tdiv value size).symm

theorem tmod_natCast (value size : Nat) : (value : Int).tmod size = ((value % size : Nat) : Int) :=
  (Int.ofNat_tmod value size).symm

/-- From 1968 on, the leap days taken off are those since 1970, the year's own included. -/
theorem leapDaysTaken_of_ge {year : Int} (late : 1968 ≤ year) :
    leapDaysTaken year = (year - 1968) / 4 - (year - 1900) / 100 + (year - 1600) / 400 := by
  unfold leapDaysTaken
  rw [Int.tdiv_eq_ediv_of_nonneg (by omega), Int.tdiv_eq_ediv_of_nonneg (by omega),
    Int.tdiv_eq_ediv_of_nonneg (by omega)]

theorem daysBeforeYear_sub_leapDaysTaken {year : Nat} (late : 1968 ≤ year) :
    (daysBeforeYear (eraYear year) : Int) - leapDaysTaken year =
      365 * ((year : Int) - 1970) + 719528 + 784352424870 - if IsLeap year then 1 else 0 := by
  rw [daysBeforeYear_eraYear (by omega), leapDaysTaken_of_ge (by omega)]
  by_cases leap : IsLeap year
  · rw [if_pos leap]
    unfold IsLeap at leap
    omega
  · rw [if_neg leap]
    unfold IsLeap at leap
    omega

theorem leapDaysTaken_of_nonpos {year : Int} (early : year ≤ 0) :
    leapDaysTaken year =
      -((1968 - year) / 4) + (1900 - year) / 100 - (1600 - year) / 400 := by
  have flipped (zero : Int) {size : Int} (before : year ≤ zero) :
      (year - zero).tdiv size = -((zero - year) / size) := by
    rw [← neg_sub, Int.neg_tdiv, Int.tdiv_eq_ediv_of_nonneg (by omega)]
  unfold leapDaysTaken
  rw [flipped 1968 (by omega), flipped 1900 (by omega), flipped 1600 (by omega)]
  omega

section Agreement

variable {timestamp : Nat}

theorem days_of_lt (few : timestamp / 86400 < 100000000000000) :
    (asI64 timestamp).tdiv 86400 = ((timestamp / 86400 : Nat) : Int) := by
  have modulus : ((2 ^ 64 : Nat) : Int) = 18446744073709551616 := rfl
  have kept : asI64 timestamp = timestamp := by
    refine Int.bmod_eq_of_le ?_ ?_ <;> omega
  rw [kept]
  exact tdiv_natCast timestamp 86400

theorem estimatedYear_of_lt (few : timestamp / 86400 < 100000000000000) :
    estimatedYear timestamp = 1970 + asI32 ((timestamp / 86400 / 365 : Nat) : Int) := by
  have years : ((timestamp / 86400 : Nat) : Int).tdiv 365 = ((timestamp / 86400 / 365 : Nat) : Int) :=
    tdiv_natCast _ 365
  rw [estimatedYear, days_of_lt few, years]

theorem eq_asI32_of_lt {value : Nat} (small : value < 2147483648) : (value : Int) = asI32 value := by
  have modulus : ((2 ^ 32 : Nat) : Int) = 4294967296 := rfl
  refine (Int.bmod_eq_of_le ?_ ?_).symm <;> omega

/-- Where the estimate fits, the day read is the day itself, or the one before it in an
estimated leap year. -/
theorem dayRead_of_fits (fits : 1970 + timestamp / 86400 / 365 ≤ 2147483647) :
    estimatedYear timestamp = ((1970 + timestamp / 86400 / 365 : Nat) : Int) ∧
      dayRead timestamp = ((timestamp / 86400 + 719528 + 784352424870 : Nat) : Int) -
        if IsLeap (1970 + timestamp / 86400 / 365) then 1 else 0 := by
  have few : timestamp / 86400 < 100000000000000 := by omega
  have rest : ((timestamp / 86400 : Nat) : Int).tmod 365 = ((timestamp / 86400 % 365 : Nat) : Int) :=
    tmod_natCast _ 365
  have estimate : estimatedYear timestamp = ((1970 + timestamp / 86400 / 365 : Nat) : Int) := by
    rw [estimatedYear_of_lt few, ← eq_asI32_of_lt (by omega)]
    push_cast
    rfl
  refine ⟨estimate, ?_⟩
  have whole := daysBeforeYear_sub_leapDaysTaken
    (show 1968 ≤ 1970 + timestamp / 86400 / 365 by omega)
  have split := Nat.div_add_mod (timestamp / 86400) 365
  rw [dayRead, estimate, days_of_lt few, rest]
  omega

/-- Where the estimate wraps around, the day read lies 2^32 years of 365 days and one day
back. -/
theorem dayRead_of_wrap (exceeds : 2147483647 < timestamp / 86400 / 365)
    (small : timestamp / 86400 / 365 < 4294965000) :
    estimatedYear timestamp ≤ 0 ∧
      dayRead timestamp + 1567663063041 =
        ((timestamp / 86400 + 719528 + 784352424870 : Nat) : Int) := by
  have few : timestamp / 86400 < 100000000000000 := by omega
  have rest : ((timestamp / 86400 : Nat) : Int).tmod 365 = ((timestamp / 86400 % 365 : Nat) : Int) :=
    tmod_natCast _ 365
  have wrapped : asI32 ((timestamp / 86400 / 365 : Nat) : Int) =
      ((timestamp / 86400 / 365 : Nat) : Int) - 4294967296 := by
    have modulus : ((2 ^ 32 : Nat) : Int) = 4294967296 := rfl
    have shifted : asI32 ((timestamp / 86400 / 365 : Nat) : Int) =
        (((timestamp / 86400 / 365 : Nat) : Int) - ((2 ^ 32 : Nat) : Int)).bmod (2 ^ 32) :=
      (Int.sub_bmod_right _ _).symm
    rw [shifted, modulus]
    refine Int.bmod_eq_of_le ?_ ?_ <;> omega
  have estimate : estimatedYear timestamp =
      ((1970 + timestamp / 86400 / 365 : Nat) : Int) - 4294967296 := by
    rw [estimatedYear_of_lt few, wrapped]
    push_cast
    exact (add_sub_assoc _ _ _).symm
  refine ⟨by omega, ?_⟩
  unfold dayRead
  rw [estimate, days_of_lt few, rest, daysBeforeYear_eraYear (by omega),
    leapDaysTaken_of_nonpos (by omega)]
  omega

end Agreement

/-- The source takes a month as long as that of the date.  The estimated year is not a leap
year, or the day before the date lies in a month of the same length; where the estimate
wraps around, the day that takes the place of the date lies in one. -/
inductive ReadsMonth (timestamp : Nat) (date : Gregorian.Date) : Prop where
  | estimated (fits : 1970 + timestamp / 86400 / 365 ≤ 2147483647)
      (same : ¬ IsLeap (1970 + timestamp / 86400 / 365) ∨
        date.day ≠ 1 ∨ date.month = 1 ∨ date.month = 8)
  | wrapped (exceeds : 2147483647 < timestamp / 86400 / 365) (read : Gregorian.Date)
      (later : read.number = date.number + 115089)
      (same : monthLength read.year read.month = monthLength date.year date.month)

section Dates

variable {timestamp : Nat} {date : Gregorian.Date}

theorem readsLength_of_read {read : Gregorian.Date} (fits : estimatedYear timestamp ≤ i32Max)
    {eras : Nat} (number : ((read.number + 146097 * eras : Nat) : Int) = dayRead timestamp)
    (length : Nat) :
    ReadsLength timestamp length ↔ length = monthLength read.year read.month := by
  have shifted := Gregorian.Date.number_addEras read eras
  have same := Gregorian.Date.monthLength_eq_of_eras shifted
  rw [← shifted] at number
  constructor
  · rintro ⟨_, other, found, rfl⟩
    rw [Gregorian.Date.number_injective (Int.ofNat.inj (found.trans number.symm)), same]
  · rintro rfl
    exact ⟨fits, _, number, same.symm⟩

theorem readsLength_iff_of_fits (number : date.number = timestamp / 86400 + 719528)
    (fits : 1970 + timestamp / 86400 / 365 ≤ 2147483647) :
    ReadsLength timestamp (monthLength date.year date.month) ↔
      ¬ IsLeap (1970 + timestamp / 86400 / 365) ∨
        date.day ≠ 1 ∨ date.month = 1 ∨ date.month = 8 := by
  obtain ⟨estimate, day⟩ := dayRead_of_fits fits
  have estimated : estimatedYear timestamp ≤ i32Max := by
    rw [estimate]
    exact Int.ofNat_le.mpr fits
  by_cases leap : IsLeap (1970 + timestamp / 86400 / 365)
  · rw [if_pos leap] at day
    obtain ⟨read, counted⟩ := Gregorian.exists_date (timestamp / 86400 + 719527)
    have next : date = read.next := Gregorian.Date.eq_next_of_number (by omega)
    rw [readsLength_of_read estimated (show ((read.number + 146097 * 5368710 : Nat) : Int) = _ by
      omega), eq_comm, next, Gregorian.Date.monthLength_next_iff]
    exact (or_iff_right (not_not_intro leap)).symm
  · rw [if_neg leap] at day
    rw [readsLength_of_read estimated (show ((date.number + 146097 * 5368710 : Nat) : Int) = _ by
      omega)]
    exact iff_of_true rfl (.inl leap)

theorem readsLength_iff_of_wrap (number : date.number = timestamp / 86400 + 719528)
    (exceeds : 2147483647 < timestamp / 86400 / 365)
    (small : timestamp / 86400 / 365 < 4294965000) :
    ReadsLength timestamp (monthLength date.year date.month) ↔ ∃ read : Gregorian.Date,
      read.number = date.number + 115089 ∧
        monthLength read.year read.month = monthLength date.year date.month := by
  obtain ⟨estimate, day⟩ := dayRead_of_wrap exceeds small
  have estimated : estimatedYear timestamp ≤ i32Max := estimate.trans (by decide)
  obtain ⟨read, counted⟩ := Gregorian.exists_date (date.number + 115089 - 146097 * 5361580)
  obtain ⟨later, laterNumber⟩ := Gregorian.exists_date (date.number + 115089)
  have same := @Gregorian.Date.monthLength_eq_of_eras read later 5361580 (by omega)
  rw [readsLength_of_read estimated (show ((read.number + 146097 * 0 : Nat) : Int) = _ by omega)]
  constructor
  · intro equal
    exact ⟨later, laterNumber, same.trans equal.symm⟩
  · rintro ⟨other, otherNumber, equal⟩
    rw [Gregorian.Date.number_injective (otherNumber.trans laterNumber.symm)] at equal
    exact equal.symm.trans same

/-- In the years of an `i32` the day is read as it should exactly in the cases of
`ReadsMonth`. -/
theorem readsLength_iff (number : date.number = timestamp / 86400 + 719528)
    (inRange : date.year ≤ 2147483647) :
    ReadsLength timestamp (monthLength date.year date.month) ↔ ReadsMonth timestamp date := by
  have before : date.number < daysBeforeYear (2147483647 + 1) :=
    (Nat.add_lt_add_left date.dayOfYear_lt _).trans_le
      (Gregorian.daysBeforeYear_succ date.year ▸ Gregorian.blockStart_mono
        (Nat.succ_le_succ inRange))
  rw [Gregorian.daysBeforeYear_eq, Gregorian.marchStart] at before
  by_cases fits : 1970 + timestamp / 86400 / 365 ≤ 2147483647
  · rw [readsLength_iff_of_fits number fits]
    constructor
    · exact .estimated fits
    · rintro (⟨_, same⟩ | ⟨exceeds, _, _, _⟩)
      · exact same
      · omega
  · by_cases exceeds : 2147483647 < timestamp / 86400 / 365
    · rw [readsLength_iff_of_wrap number exceeds (by omega)]
      constructor
      · rintro ⟨read, later, same⟩
        exact .wrapped exceeds read later same
      · rintro (⟨estimated, _⟩ | ⟨_, read, later, same⟩)
        · exact absurd estimated fits
        · exact ⟨read, later, same⟩
    · -- The estimate itself overflows, and the source panics.
      refine iff_of_false (fun reads => ?_) ?_
      · have panics : i32Max < estimatedYear timestamp := by
          have most : i32Max = 2147483647 := rfl
          rw [estimatedYear_of_lt (by omega), ← eq_asI32_of_lt (by omega)]
          omega
        exact absurd reads.1 (not_le.mpr panics)
      · rintro (⟨estimated, _⟩ | ⟨wraps, _, _, _⟩)
        · exact fits estimated
        · exact exceeds wraps

end Dates

/-- The month length of the source is that of the calendar exactly where `ReadsMonth` says so,
for every timestamp whose year fits an `i32`. -/
theorem secondsInMonth_calendar_iff (timestamp : UInt64) :
    ∃ date : Gregorian.Date, LeaseflowMath.timestampToYmd timestamp.toNat = some (ymd date) ∧
      (date.year ≤ 2147483647 →
        (LeaseflowMath.getSecondsInMonth timestamp.toNat =
            some (86400 * LeaseflowMath.daysInMonth date.year date.month) ↔
          ReadsMonth timestamp.toNat date)) := by
  have room : u64Max = 18446744073709551615 := rfl
  have below := timestamp.toNat_lt
  obtain ⟨date, number, converted⟩ := timestampToYmd_eq (show timestamp.toNat ≤ u64Max by omega)
  refine ⟨date, converted, fun inRange => ?_⟩
  rw [← readsLength_iff number inRange, daysInMonth_eq, getSecondsInMonth_eq_some]
  constructor
  · rintro ⟨length, reads, same⟩
    rwa [Nat.eq_of_mul_eq_mul_left (show 0 < 86400 by decide)
      (same.trans (Nat.mul_comm length 86400))]
  · intro reads
    exact ⟨_, reads, Nat.mul_comm _ _⟩

theorem getSecondsInMonth_of_estimate {timestamp : Nat} (year leapYears : I32)
    (remainingDays : I64)
    (estimate : addI32 1970 (asI32 (((asI64 timestamp).tdiv 86400).tdiv 365)) = some year)
    (taken : LeaseflowMath.leapYearsBefore year = some leapYears)
    (remaining : ((asI64 timestamp).tdiv 86400).tmod 365 - leapYears = remainingDays)
    (nonneg : ¬ remainingDays < 0) (within : ¬ remainingDays ≥ LeaseflowMath.daysInYear year) :
    LeaseflowMath.getSecondsInMonth timestamp = some
      (LeaseflowMath.lengthOfMonth 31 (LeaseflowMath.monthDays year) remainingDays * 86400).toNat := by
  have rewound : LeaseflowMath.rewindYears year remainingDays = some (year, remainingDays) := by
    rw [LeaseflowMath.rewindYears, if_neg nonneg]
    rfl
  have advanced : LeaseflowMath.advanceYears year remainingDays = some (year, remainingDays) := by
    rw [LeaseflowMath.advanceYears, if_neg within]
    rfl
  unfold LeaseflowMath.getSecondsInMonth
  dsimp only
  rw [Checked.bind_of_eq estimate, Checked.bind_of_eq taken, remaining,
    Checked.bind_of_eq rewound]
  exact Checked.bind_of_eq advanced _

/-- The first day of February 2024 is read as the last of January. -/
theorem february_read_as_january :
    LeaseflowMath.timestampToYmd 1706745600 = some (2024, 2, 1) ∧
      LeaseflowMath.getSecondsInMonth 1706745600 = some (31 * 86400) ∧
      LeaseflowMath.getSecondsInMonth 1706745600 ≠
        some (86400 * LeaseflowMath.daysInMonth 2024 2) := by
  have read : LeaseflowMath.getSecondsInMonth 1706745600 = some (31 * 86400) :=
    getSecondsInMonth_of_estimate 2024 14 30 (by decide) (by decide) (by decide) (by decide)
      (by decide)
  refine ⟨by decide, read, ?_⟩
  rw [read]
  decide

end LeaseFlow
