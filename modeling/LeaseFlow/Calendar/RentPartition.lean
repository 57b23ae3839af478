import LeaseFlow.Calendar.FirstMonthRent
import LeaseFlow.Calendar.TerminationRefund
import LeaseFlow.Foundations.Periods

/-!
# The rent of a month in parts

A month cut into periods, each charged by `calculate_prorated_rent`.  Every period takes the
length of the month from its own start, so the parts add up to the rent exactly when these
lengths agree on the month.
-/

set_option autoImplicit false

namespace LeaseFlow

/-- The rent for a period, where the source finds one. -/
def proratedRent (monthlyRent : Int) (start finish : Nat) : Option Int :=
  (LeaseflowMath.calculateProratedRent monthlyRent start finish).bind (Option.map Prod.fst)

/-- The seconds of the month that the source takes for a timestamp. -/
def SecondsRead (timestamp seconds : Nat) : Prop :=
  ∃ length, ReadsLength timestamp length ∧ seconds = length * 86400

theorem reads_getSecondsInMonth :
    Periods.Reads LeaseflowMath.getSecondsInMonth = SecondsRead := by
  funext timestamp seconds
  exact propext getSecondsInMonth_eq_some

theorem secondsRead_unique : Periods.Unique SecondsRead :=
  reads_getSecondsInMonth ▸ Periods.reads_unique

section Parts

variable {monthlyRent : Int} {start finish : Nat}

theorem rentShare_eq {duration secondsInMonth : Nat} (rent_nonneg : 0 ≤ monthlyRent)
    (rent_le : monthlyRent ≤ i64Max) (duration_le : duration ≤ u64Max) :
    LeaseflowMath.rentShare monthlyRent duration secondsInMonth =
      if monthlyRent * duration / secondsInMonth ≤ i64Max then
        some (monthlyRent * duration / secondsInMonth)
      else none := by
  have product_nonneg : 0 ≤ monthlyRent * duration :=
    mul_nonneg rent_nonneg (Int.natCast_nonneg _)
  have product_le : monthlyRent * duration ≤ i128Max :=
    (mul_le_mul rent_le (Int.ofNat_le.mpr duration_le) (Int.natCast_nonneg _) (by decide)).trans
      (by decide)
  have product : mulI128 monthlyRent duration = some (monthlyRent * duration) :=
    if_pos ⟨(by decide : i128Min ≤ 0).trans product_nonneg, product_le⟩
  have share_nonneg : 0 ≤ monthlyRent * duration / secondsInMonth :=
    Int.ediv_nonneg product_nonneg (Int.natCast_nonneg _)
  unfold LeaseflowMath.rentShare
  rw [Checked.bind_of_eq product]
  dsimp only
  rw [Int.tdiv_eq_ediv_of_nonneg product_nonneg]
  by_cases within : monthlyRent * duration / secondsInMonth ≤ i64Max
  · rw [if_neg (not_lt.mpr within), if_pos within, ← asI64_of_range share_nonneg within]
  · rw [if_pos (not_le.mp within), if_neg within]

theorem proratedRent_eq_charge (rent_pos : 0 < monthlyRent) (rent_le : monthlyRent ≤ i64Max)
    (before : start < finish) (finish_le : finish ≤ u64Max) :
    proratedRent monthlyRent start finish =
      Periods.charge LeaseflowMath.getSecondsInMonth i64Max monthlyRent start finish := by
  unfold proratedRent LeaseflowMath.calculateProratedRent Periods.charge
  rw [if_neg (not_or.mpr ⟨not_le.mpr before, not_le.mpr rent_pos⟩)]
  cases read : LeaseflowMath.getSecondsInMonth start with
  | none => rfl
  | some secondsInMonth =>
      have share := @rentShare_eq monthlyRent (finish - start) secondsInMonth rent_pos.le rent_le
        ((Nat.sub_le _ _).trans finish_le)
      change Option.bind (if secondsInMonth = 0 then _ else _) _ = _
      rw [if_neg (secondsInMonth_pos read).ne', share]
      dsimp only [Option.bind_some]
      split
      · rfl
      · rfl

end Parts

/-! ## A month -/

section Month

variable {month : Gregorian.Date}

theorem secondsInMonth_dvd {timestamp secondsInMonth : Nat}
    (read : LeaseflowMath.getSecondsInMonth timestamp = some secondsInMonth) :
    secondsInMonth ∣ 32622912000 := by
  obtain ⟨_, ⟨_, date, _, rfl⟩, rfl⟩ := getSecondsInMonth_eq_some.mp read
  change _ ∣ 377580 * 86400
  apply Nat.mul_dvd_mul_right
  unfold Gregorian.monthLength
  split <;> split <;> decide

/-- Rents of every size add up exactly when the periods, by the months read for their starts,
measure one month and no later one is read in a shorter month. -/
theorem addsUp_iff_measures (since1970 : 1970 ≤ month.year) (fits : monthEnd month ≤ u64Max)
    (periods : Periods (monthEnd month) (monthStart month)) :
    (∀ monthlyRent : Int, 0 < monthlyRent → monthlyRent ≤ i64Max →
        periods.AddsUp (proratedRent monthlyRent) monthlyRent) ↔
      periods.Measures SecondsRead 1 ∧ periods.Ordered SecondsRead := by
  have count_le := periods.count_le
  have length_le := monthLength_le month.year month.month
  have ends := monthEnd_eq since1970
  have seconds_le : periods.count ≤ 2678400 := by omega
  have wide : (periods.count : Int) * (32622912000 : Nat) ≤ i64Max :=
    (mul_le_mul_of_nonneg_right (Int.ofNat_le.mpr seconds_le) (Int.natCast_nonneg _)).trans
      (by norm_num [i64Max])
  rw [← reads_getSecondsInMonth, ← Periods.addsUp_iff secondsInMonth_pos secondsInMonth_dvd
    (by decide) wide (by decide)]
  refine forall_congr' fun monthlyRent => forall_congr' fun rent_pos => forall_congr'
    fun rent_le => Periods.addsUp_congr periods fun first finish _ before finish_le => ?_
  exact proratedRent_eq_charge rent_pos rent_le before (finish_le.trans fits)

/-! ## Months whose year the source estimates -/

theorem readsLength_of_same_day {timestamp other length : Nat}
    (few : timestamp / 86400 < 100000000000000) (same : timestamp / 86400 = other / 86400) :
    ReadsLength timestamp length ↔ ReadsLength other length := by
  have days : (asI64 timestamp).tdiv 86400 = (asI64 other).tdiv 86400 := by
    rw [days_of_lt few, days_of_lt (same ▸ few), same]
  unfold ReadsLength dayRead estimatedYear
  rw [days]

theorem weight_month (since1970 : 1970 ≤ month.year) :
    Periods.weight (Gregorian.monthLength month.year month.month * 86400) (monthStart month)
      (monthEnd month) = 1 := by
  have start := monthStart_of_since1970 since1970
  have ends := monthEnd_eq since1970
  have length_pos := Gregorian.monthLength_pos month.year month.month
  have seconds : monthEnd month - monthStart month =
      Gregorian.monthLength month.year month.month * 86400 := by
    omega
  rw [Periods.weight, seconds]
  exact div_self (Nat.cast_ne_zero.mpr (by omega))

section Estimated

variable (since1970 : 1970 ≤ month.year)
  (estimated : 1970 + (monthEnd month - 1) / 86400 / 365 ≤ 2147483647)

include since1970 estimated

/-- While the estimate fits, only the first day of a month is read in another one. -/
theorem readsLength_within_iff {timestamp : Nat} (since : monthStart month ≤ timestamp)
    (before : timestamp < monthEnd month) :
    ReadsLength timestamp (Gregorian.monthLength month.year month.month) ↔
      ¬ Gregorian.IsLeap (1970 + timestamp / 86400 / 365) ∨
        timestamp / 86400 ≠ monthStart month / 86400 ∨ month.month = 1 ∨ month.month = 8 := by
  obtain ⟨date, number, sameYear, sameMonth, onFirst⟩ :=
    exists_date_of_month since1970 since before
  rw [← sameYear, ← sameMonth, readsLength_iff_of_fits number (by omega), ne_eq, onFirst]

theorem secondsRead_of_later {timestamp : Nat} (since : monthStart month + 86400 ≤ timestamp)
    (before : timestamp < monthEnd month) :
    SecondsRead timestamp (Gregorian.monthLength month.year month.month * 86400) := by
  have start := monthStart_of_since1970 since1970
  exact ⟨_, (readsLength_within_iff since1970 estimated (by omega) before).mpr
    (.inr (.inl (by omega))), rfl⟩

theorem secondsRead_start {periods : Periods (monthEnd month) (monthStart month)}
    (whole : periods.Measures SecondsRead 1) :
    SecondsRead (monthStart month) (Gregorian.monthLength month.year month.month * 86400) := by
  have start := monthStart_of_since1970 since1970
  have length_pos := Gregorian.monthLength_pos month.year month.month
  obtain ⟨size, sized⟩ := Periods.reads_start whole
  -- The first day is read in one month as a whole.
  have early (time : Nat) (since : monthStart month ≤ time)
      (before : time < monthStart month + 86400) : SecondsRead time size := by
    obtain ⟨length, reads, rfl⟩ := sized
    have ends := monthEnd_eq since1970
    exact ⟨length, (readsLength_of_same_day (by omega) (by omega)).mp reads, rfl⟩
  rw [← weight_month since1970] at whole
  have same := Periods.eq_of_measures_weight secondsRead_unique
    (fun time since before => secondsRead_of_later since1970 estimated since before) (by omega)
    (by omega) early whole
  rwa [same] at sized

/-- While the estimate fits, the periods of a month are read by its length unless the first day
is read in another month. -/
theorem measures_month_iff (periods : Periods (monthEnd month) (monthStart month)) :
    periods.Measures SecondsRead 1 ∧ periods.Ordered SecondsRead ↔
      ¬ Gregorian.IsLeap (1970 + monthStart month / 86400 / 365) ∨
        month.month = 1 ∨ month.month = 8 := by
  constructor
  · rintro ⟨whole, _⟩
    obtain ⟨length, reads, sizes⟩ := secondsRead_start since1970 estimated whole
    rw [← Nat.eq_of_mul_eq_mul_right (show 0 < 86400 by decide) sizes] at reads
    refine ((readsLength_within_iff since1970 estimated le_rfl periods.start_lt).mp reads).imp_right
      fun onFirst => ?_
    exact onFirst.resolve_left (not_not_intro rfl)
  · intro calendar
    have uniform (time : Nat) (since : monthStart month ≤ time) (before : time < monthEnd month) :
        SecondsRead time (Gregorian.monthLength month.year month.month * 86400) := by
      refine ⟨_, (readsLength_within_iff since1970 estimated since before).mpr ?_, rfl⟩
      by_cases onFirst : time / 86400 = monthStart month / 86400
      · rw [onFirst]
        exact calendar.imp_right .inr
      · exact .inr (.inl onFirst)
    have measure := Periods.measures_of_uniform periods uniform
    rw [weight_month since1970] at measure
    exact ⟨measure, Periods.ordered_of_uniform secondsRead_unique periods uniform⟩

end Estimated

/-- The parts of a month's rent add up, for rents of every size, exactly when the months read
for the periods make up one month and do not get shorter.  While the source's estimate of the
year fits, that is when the year estimated for the start of the month is no leap year, or the
month follows one as long as itself. -/
theorem prorated_month_iff (since1970 : 1970 ≤ month.year) (fits : monthEnd month ≤ u64Max)
    (periods : Periods (monthEnd month) (monthStart month)) :
    ((∀ monthlyRent : Int, 0 < monthlyRent → monthlyRent ≤ i64Max →
        periods.AddsUp (proratedRent monthlyRent) monthlyRent) ↔
      periods.Measures SecondsRead 1 ∧ periods.Ordered SecondsRead) ∧
    (1970 + (monthEnd month - 1) / 86400 / 365 ≤ 2147483647 →
      ((∀ monthlyRent : Int, 0 < monthlyRent → monthlyRent ≤ i64Max →
          periods.AddsUp (proratedRent monthlyRent) monthlyRent) ↔
        ¬ Gregorian.IsLeap (1970 + monthStart month / 86400 / 365) ∨
          month.month = 1 ∨ month.month = 8)) := by
  have law := addsUp_iff_measures since1970 fits periods
  exact ⟨law, fun estimated => law.trans (measures_month_iff since1970 estimated periods)⟩

end Month

/-- The two halves of January 1970, cut at noon of the sixteenth. -/
theorem halves_of_january : ∃ periods : Periods (monthEnd epoch) (monthStart epoch),
    periods.count = 2 ∧ ∀ monthlyRent : Int, 0 < monthlyRent → monthlyRent ≤ i64Max →
      periods.AddsUp (proratedRent monthlyRent) monthlyRent := by
  have start : monthStart epoch = 0 := by
    rw [monthStart, midnight, show epoch.firstOfMonth = epoch from rfl, Nat.sub_self, Nat.zero_mul]
  have ends : monthEnd epoch = 2678400 := by
    rw [monthEnd_eq (show 1970 ≤ epoch.year from le_rfl), start]
    decide
  have room : u64Max = 18446744073709551615 := rfl
  have first : monthStart epoch < 1339200 := by omega
  have second : 1339200 < monthEnd epoch := by omega
  refine ⟨.cons 1339200 first (.one second), rfl, ?_⟩
  exact ((prorated_month_iff (show 1970 ≤ epoch.year from le_rfl) (by omega) _).2
    (by omega)).mpr (.inr (.inl rfl))

/-- The rent of April 2024 in one part is charged by the length of March. -/
theorem april_charged_by_march :
    LeaseflowMath.timestampToYmd 1711929600 = some (2024, 4, 1) ∧
      LeaseflowMath.timestampToYmd 1714521600 = some (2024, 5, 1) ∧
      proratedRent 1000 1711929600 1714521600 = some 967 ∧
      ¬ (Periods.one (by decide) : Periods 1714521600 1711929600).AddsUp (proratedRent 1000) 1000
      := by
  have read : LeaseflowMath.getSecondsInMonth 1711929600 = some (31 * 86400) :=
    getSecondsInMonth_of_estimate 2024 14 90 (by decide) (by decide) (by decide) (by decide)
      (by decide)
  have charged : proratedRent 1000 1711929600 1714521600 = some 967 := by
    rw [proratedRent_eq_charge (by decide) (by decide) (by decide) (by decide)]
    exact Periods.charge_eq_some.mpr ⟨_, read, by decide, by decide⟩
  refine ⟨by decide, by decide, charged, fun law => ?_⟩
  obtain ⟨sum, summed, _, _, single⟩ := law.sum
  have found : sum = 967 := Option.some.inj (summed.symm.trans charged)
  exact absurd (single rfl) (by omega)

end LeaseFlow
