import LeaseFlow.Foundations.Proportion
import Mathlib.Data.Rat.Floor

/-!
# Consecutive periods charged by a scale

A stretch of time is cut into consecutive periods, and each is charged the share of an amount
that it makes up of a scale read at its first instant.  The charges add up to the amount, for
every amount, exactly when the periods measure one scale together and none is read by a smaller
scale than the period before it.
-/

set_option autoImplicit false

/-- The consecutive non-empty periods from a start to `last`. -/
inductive Periods (last : Nat) : Nat → Type
  | one {start : Nat} (before : start < last) : Periods last start
  | cons {start : Nat} (cut : Nat) (before : start < cut) (later : Periods last cut) :
      Periods last start

namespace Periods

variable {last : Nat}

def count : {start : Nat} → Periods last start → Nat
  | _, .one _ => 1
  | _, .cons _ _ later => later.count + 1

/-- The sum of the values of the periods, where each has one. -/
def total (value : Nat → Nat → Option Int) : {start : Nat} → Periods last start → Option Int
  | start, .one _ => value start last
  | start, .cons cut _ later => do pure ((← value start cut) + (← later.total value))

/-- Two neighbouring periods are joined to one. -/
inductive Joins : {start : Nat} → Periods last start → Periods last start → Prop
  | last {start cut : Nat} {before : start < cut} {after : cut < last} :
      Joins (.cons cut before (.one after)) (.one (before.trans after))
  | inner {start cut next : Nat} {before : start < cut} {after : cut < next}
      {later : Periods last next} :
      Joins (.cons cut before (.cons next after later)) (.cons next (before.trans after) later)
  | skip {start cut : Nat} {before : start < cut} {later joined : Periods last cut}
      (joins : Joins later joined) : Joins (.cons cut before later) (.cons cut before joined)

/-- The values fall short of the amount by less than one for each period, by nothing where there
is one period, and do not grow where a period is split. -/
structure AddsUp (value : Nat → Nat → Option Int) (amount : Int) {start : Nat}
    (periods : Periods last start) : Prop where
  sum : ∃ sum, periods.total value = some sum ∧ amount - periods.count < sum ∧ sum ≤ amount ∧
    (periods.count = 1 → sum = amount)
  split {joined : Periods last start} (joins : Joins periods joined) {sum joinedSum : Int}
    (summed : periods.total value = some sum) (joinedSummed : joined.total value = some joinedSum) :
    sum ≤ joinedSum

section Counting

variable {start : Nat} {periods : Periods last start}

theorem start_lt : ∀ {start : Nat}, Periods last start → start < last := by
  intro start periods
  induction periods with
  | one before => exact before
  | cons cut before _ ih => exact before.trans ih

theorem count_le : ∀ {start : Nat} (periods : Periods last start),
    periods.count ≤ last - start := by
  intro start periods
  induction periods with
  | one before =>
      rw [count]
      omega
  | cons cut before later ih =>
      have ends := later.start_lt
      rw [count]
      omega

theorem total_cons {value : Nat → Nat → Option Int} {cut : Nat} {before : start < cut}
    {later : Periods last cut} {sum : Int} :
    (cons cut before later).total value = some sum ↔ ∃ first rest,
      value start cut = some first ∧ later.total value = some rest ∧ sum = first + rest := by
  simp only [total, Option.bind_eq_bind, Option.bind_eq_some_iff, Option.pure_def,
    Option.some.injEq, eq_comm (a := sum)]
  grind

/-- The total reads the values of periods up to the last instant only. -/
theorem total_congr {value other : Nat → Nat → Option Int} : ∀ {start : Nat}
    (periods : Periods last start) (_ : ∀ first finish, start ≤ first → first < finish →
      finish ≤ last → value first finish = other first finish),
    periods.total value = periods.total other := by
  intro start periods
  induction periods with
  | one before =>
      intro same
      exact same _ _ le_rfl before le_rfl
  | cons cut before later ih =>
      intro same
      rw [total, total, same _ _ le_rfl before later.start_lt.le,
        ih fun first finish since => same first finish (before.le.trans since)]

theorem addsUp_congr {value other : Nat → Nat → Option Int} {amount : Int}
    (periods : Periods last start) (same : ∀ first finish, start ≤ first → first < finish →
      finish ≤ last → value first finish = other first finish) :
    periods.AddsUp value amount ↔ periods.AddsUp other amount := by
  have totals (periods : Periods last start) : periods.total value = periods.total other :=
    total_congr periods same
  constructor
  · intro law
    refine ⟨totals periods ▸ law.sum, fun {joined} joins _ _ summed joinedSummed => ?_⟩
    exact law.split joins ((totals periods).trans summed) ((totals joined).trans joinedSummed)
  · intro law
    refine ⟨(totals periods).symm ▸ law.sum, fun {joined} joins _ _ summed joinedSummed => ?_⟩
    exact law.split joins ((totals periods).symm.trans summed)
      ((totals joined).symm.trans joinedSummed)

end Counting

/-! ## The measure of the periods -/

/-- The part a period makes up of a scale. -/
def weight (size start finish : Nat) : ℚ :=
  ((finish - start : Nat) : ℚ) / size

/-- The periods, each by the scale of its first instant, measure so much together. -/
inductive Measures (reads : Nat → Nat → Prop) : {start : Nat} → Periods last start → ℚ → Prop
  | one {start size : Nat} {before : start < last} (sized : reads start size) :
      Measures reads (.one before) (weight size start last)
  | cons {start cut size : Nat} {before : start < cut} {later : Periods last cut} {rest : ℚ}
      (sized : reads start size) (measured : Measures reads later rest) :
      Measures reads (.cons cut before later) (weight size start cut + rest)

/-- No period has a smaller scale than the one before it. -/
def Ordered (reads : Nat → Nat → Prop) : {start : Nat} → Periods last start → Prop
  | _, .one _ => True
  | start, .cons cut _ later =>
      (∀ size next, reads start size → reads cut next → size ≤ next) ∧ later.Ordered reads

/-- No more than one scale is read at an instant. -/
def Unique (reads : Nat → Nat → Prop) : Prop :=
  ∀ ⦃time size other⦄, reads time size → reads time other → size = other

section Scales

variable {reads : Nat → Nat → Prop} {start size other : Nat}

theorem weight_nonneg (size start finish : Nat) : 0 ≤ weight size start finish := by
  unfold weight
  positivity

theorem weight_add {cut finish : Nat} (before : start ≤ cut) (after : cut ≤ finish) :
    weight size start cut + weight size cut finish = weight size start finish := by
  unfold weight
  rw [← add_div, ← Nat.cast_add]
  congr 2
  omega

theorem measures_nonneg : ∀ {start : Nat} {periods : Periods last start} {measure : ℚ},
    Measures reads periods measure → 0 ≤ measure := by
  intro start periods measure measured
  induction measured with
  | one => exact weight_nonneg _ _ _
  | cons _ _ ih => exact add_nonneg (weight_nonneg _ _ _) ih

theorem measures_unique (unique : Unique reads) :
    ∀ {start : Nat} {periods : Periods last start} {measure other : ℚ},
      Measures reads periods measure → Measures reads periods other → measure = other := by
  intro start periods measure other measured
  induction measured generalizing other with
  | one sized =>
      intro again
      cases again with
      | one otherSized => rw [unique sized otherSized]
  | cons sized _ ih =>
      intro again
      cases again with
      | cons otherSized otherMeasured => rw [unique sized otherSized, ih otherMeasured]

theorem reads_start {periods : Periods last start} {measure : ℚ}
    (measured : Measures reads periods measure) : ∃ size, reads start size := by
  cases measured with
  | one sized => exact ⟨_, sized⟩
  | cons sized _ => exact ⟨_, sized⟩

/-- Where one scale is read throughout, cuts do not change the measure. -/
theorem measures_of_uniform : ∀ {start : Nat} (periods : Periods last start)
    (_ : ∀ time, start ≤ time → time < last → reads time size),
    Measures reads periods (weight size start last) := by
  intro start periods
  induction periods with
  | one before =>
      intro uniform
      exact .one (uniform _ le_rfl before)
  | cons cut before later ih =>
      intro uniform
      have ends := later.start_lt
      rw [← weight_add before.le ends.le]
      exact .cons (uniform _ le_rfl (before.trans ends))
        (ih fun time since => uniform time (before.le.trans since))

theorem ordered_of_uniform (unique : Unique reads) :
    ∀ {start : Nat} (periods : Periods last start)
      (_ : ∀ time, start ≤ time → time < last → reads time size), periods.Ordered reads := by
  intro start periods
  induction periods with
  | one before =>
      intro uniform
      trivial
  | cons cut before later ih =>
      intro uniform
      have ends := later.start_lt
      refine ⟨fun first next sized nextSized => ?_,
        ih fun time since => uniform time (before.le.trans since)⟩
      rw [unique sized (uniform _ le_rfl (before.trans ends)),
        unique nextSized (uniform _ before.le ends)]

/-- Where another scale is read up to some instant, it takes its part of the measure. -/
theorem measures_split {bound : Nat} (unique : Unique reads)
    (late : ∀ time, bound ≤ time → time < last → reads time other) :
    ∀ {start : Nat} {periods : Periods last start} {measure : ℚ}, start < bound →
      (∀ time, start ≤ time → time < bound → reads time size) →
      Measures reads periods measure → ∃ part : ℚ, 0 < part ∧
        measure = part / size + (((last - start : Nat) : ℚ) - part) / other := by
  intro start periods measure starts early measured
  induction measured with
  | @one start _ before sized =>
      obtain rfl := unique sized (early _ le_rfl starts)
      refine ⟨(last - start : Nat), by exact_mod_cast Nat.sub_pos_of_lt before, ?_⟩
      rw [sub_self, zero_div, add_zero, weight]
  | @cons start cut _ before later rest sized measured ih =>
      obtain rfl := unique sized (early _ le_rfl starts)
      have ends := later.start_lt
      have first : (0 : ℚ) < (cut - start : Nat) := by exact_mod_cast Nat.sub_pos_of_lt before
      have whole : ((last - start : Nat) : ℚ) = (cut - start : Nat) + (last - cut : Nat) := by
        rw [← Nat.cast_add]
        congr 1
        omega
      by_cases within : cut < bound
      · obtain ⟨part, part_pos, rfl⟩ :=
          ih within fun time since => early time (before.le.trans since)
        refine ⟨(cut - start : Nat) + part, add_pos first part_pos, ?_⟩
        rw [whole, weight, add_div]
        ring
      · have measure := measures_of_uniform later fun time since =>
          late time ((not_lt.mp within).trans since)
        refine ⟨(cut - start : Nat), first, ?_⟩
        rw [measures_unique unique measured measure, whole, add_sub_cancel_left, weight, weight]

/-- Periods that measure as much as by the later scale alone are read by it from the start. -/
theorem eq_of_measures_weight {bound : Nat} (unique : Unique reads)
    (late : ∀ time, bound ≤ time → time < last → reads time other) (positive : 0 < other)
    {periods : Periods last start} (starts : start < bound)
    (early : ∀ time, start ≤ time → time < bound → reads time size)
    (measured : Measures reads periods (weight other start last)) : size = other := by
  obtain ⟨part, part_pos, split⟩ := measures_split unique late starts early measured
  have other_ne : (other : ℚ) ≠ 0 := Nat.cast_ne_zero.mpr positive.ne'
  have shares : part / size = part / other := by
    rw [weight, sub_div] at split
    linarith
  rw [div_eq_mul_inv, div_eq_mul_inv] at shares
  exact_mod_cast inv_injective (mul_left_cancel₀ part_pos.ne' shares)

end Scales

/-- The scale read where there is one. -/
abbrev Reads (scale : Nat → Option Nat) (time size : Nat) : Prop :=
  scale time = some size

/-- The share of an amount for a period, where it does not exceed the limit. -/
def charge (scale : Nat → Option Nat) (limit amount : Int) (start finish : Nat) : Option Int :=
  (scale start).bind fun size =>
    if amount * (finish - start : Nat) / size ≤ limit then
      some (amount * (finish - start : Nat) / size)
    else none

section Charges

variable {scale : Nat → Option Nat} {limit amount : Int} {start finish size : Nat}

theorem charge_eq_some {value : Int} : charge scale limit amount start finish = some value ↔
    ∃ size, scale start = some size ∧ value = amount * (finish - start : Nat) / size ∧
      value ≤ limit := by
  unfold charge
  rw [Option.bind_eq_some_iff]
  refine exists_congr fun size => and_congr_right fun _ => ?_
  split
  · next within =>
      constructor
      · intro same
        exact ⟨(Option.some.inj same).symm, Option.some.inj same ▸ within⟩
      · rintro ⟨rfl, _⟩
        rfl
  · next exceeds =>
      constructor
      · intro same
        cases same
      · rintro ⟨rfl, within⟩
        exact absurd within exceeds

/-- A share is the weight of its period in the amount, rounded down. -/
theorem share_bounds (amount : Int) (start finish size : Nat) :
    ((amount * (finish - start : Nat) / size : Int) : ℚ) ≤ amount * weight size start finish ∧
      amount * weight size start finish <
        (amount * (finish - start : Nat) / size : Int) + 1 := by
  have rounded := Rat.floor_intCast_div_natCast (amount * (finish - start : Nat)) size
  have exact' : (amount : ℚ) * weight size start finish =
      ((amount * (finish - start : Nat) : Int) : ℚ) / size := by
    unfold weight
    push_cast
    ring
  rw [exact', ← rounded]
  exact ⟨Int.floor_le _, Int.lt_floor_add_one _⟩

/-- A total of charges is the measure of the amount, less a rounding for each period. -/
theorem total_bounds : ∀ {start : Nat} {periods : Periods last start} {sum : Int},
    periods.total (charge scale limit amount) = some sum →
      ∃ measure, Measures (Reads scale) periods measure ∧ (sum : ℚ) ≤ amount * measure ∧
        amount * measure < sum + periods.count := by
  intro start periods
  induction periods with
  | @one start before =>
      intro sum summed
      obtain ⟨size, sized, rfl, _⟩ := charge_eq_some.mp summed
      have bounds := share_bounds amount start last size
      refine ⟨_, .one sized, bounds.1, ?_⟩
      rw [count, Nat.cast_one]
      exact bounds.2
  | @cons start cut before later ih =>
      intro sum summed
      obtain ⟨first, rest, charged, restSummed, rfl⟩ := total_cons.mp summed
      obtain ⟨size, sized, rfl, _⟩ := charge_eq_some.mp charged
      obtain ⟨measure, measured, below, above⟩ := ih restSummed
      have bounds := share_bounds amount start cut size
      refine ⟨_, .cons sized measured, ?_, ?_⟩
      · rw [mul_add]
        push_cast at bounds ⊢
        linarith [bounds.1]
      · rw [mul_add, count]
        push_cast at bounds above ⊢
        linarith [bounds.2]

/-- Periods that measure at most one are all charged. -/
theorem exists_total (nonneg : 0 ≤ amount) (within : amount ≤ limit) :
    ∀ {start : Nat} {periods : Periods last start} {measure : ℚ},
      Measures (Reads scale) periods measure → measure ≤ 1 →
        ∃ sum, periods.total (charge scale limit amount) = some sum := by
  have amount_nonneg : (0 : ℚ) ≤ amount := by exact_mod_cast nonneg
  have charged {start finish size : Nat} (sized : scale start = some size)
      (part : weight size start finish ≤ 1) :
      ∃ value, charge scale limit amount start finish = some value := by
    refine ⟨_, charge_eq_some.mpr ⟨size, sized, rfl, ?_⟩⟩
    have below := (share_bounds amount start finish size).1
    have le : ((amount * (finish - start : Nat) / size : Int) : ℚ) ≤ amount :=
      below.trans (mul_le_of_le_one_right amount_nonneg part)
    exact (Int.cast_le.mp le).trans within
  intro start periods measure measured
  induction measured with
  | one sized => exact charged sized
  | @cons start cut size _ _ _ sized measured ih =>
      intro whole
      have rest := measures_nonneg measured
      have first := weight_nonneg size start cut
      obtain ⟨value, valued⟩ := charged sized (by linarith)
      obtain ⟨restSum, restSummed⟩ := ih (by linarith)
      exact ⟨_, total_cons.mpr ⟨value, restSum, valued, restSummed, rfl⟩⟩

theorem reads_unique : Unique (Reads scale) :=
  fun _ _ _ sized again => Option.some.inj (sized.symm.trans again)

/-- Scales that divide a base measure in fractions of the base. -/
theorem exists_fraction {base : Nat} (positive : ∀ {time size}, scale time = some size → 0 < size)
    (divides : ∀ {time size}, scale time = some size → size ∣ base) :
    ∀ {start : Nat} {periods : Periods last start} {measure : ℚ},
      Measures (Reads scale) periods measure → ∃ parts : Int, measure * base = parts := by
  have fraction {start finish size : Nat} (sized : scale start = some size) :
      ∃ parts : Int, weight size start finish * base = parts := by
    obtain ⟨times, rfl⟩ := divides sized
    have size_ne : (size : ℚ) ≠ 0 := Nat.cast_ne_zero.mpr (positive sized).ne'
    refine ⟨((finish - start : Nat) * times : Nat), ?_⟩
    unfold weight
    rw [div_mul_eq_mul_div, div_eq_iff size_ne]
    push_cast
    ring
  intro start periods measure measured
  induction measured with
  | one sized => exact fraction sized
  | cons sized _ ih =>
      obtain ⟨first, firstParts⟩ := fraction sized
      obtain ⟨rest, restParts⟩ := ih
      refine ⟨first + rest, ?_⟩
      rw [add_mul, firstParts, restParts]
      push_cast
      rfl

/-! ## Splitting a period -/

/-- A share of what is split, the second part by a scale that is no smaller. -/
theorem share_split {size next start cut finish : Nat} (nonneg : 0 ≤ amount)
    (positive : 0 < size) (ordered : size ≤ next) (before : start ≤ cut) (after : cut ≤ finish) :
    amount * (cut - start : Nat) / size + amount * (finish - cut : Nat) / next ≤
      amount * (finish - start : Nat) / size := by
  have shorter : amount * (finish - cut : Nat) / next ≤ amount * (finish - cut : Nat) / size :=
    Proportion.ediv_le_ediv_of_cross (Int.natCast_pos.mpr (positive.trans_le ordered))
      (Int.natCast_pos.mpr positive) (mul_le_mul_of_nonneg_left (Int.ofNat_le.mpr ordered)
        (mul_nonneg nonneg (Int.natCast_nonneg _)))
  have whole : amount * (finish - start : Nat) =
      amount * (cut - start : Nat) + amount * (finish - cut : Nat) := by
    rw [← mul_add, ← Nat.cast_add]
    congr 2
    omega
  rw [whole]
  exact (Int.add_le_add_left shorter _).trans
    (Int.ediv_add_ediv_le_add_ediv (Int.natCast_pos.mpr positive))

theorem total_le_of_joins (nonneg : 0 ≤ amount)
    (positive : ∀ {time size}, scale time = some size → 0 < size) :
    ∀ {start : Nat} {periods joined : Periods last start} {sum joinedSum : Int},
      Joins periods joined → periods.Ordered (Reads scale) →
      periods.total (charge scale limit amount) = some sum →
      joined.total (charge scale limit amount) = some joinedSum → sum ≤ joinedSum := by
  intro start periods joined sum joinedSum joins
  induction joins generalizing sum joinedSum with
  | @last start cut before after =>
      intro ordered summed joinedSummed
      obtain ⟨_, _, first, second, rfl⟩ := total_cons.mp summed
      obtain ⟨size, sized, rfl, _⟩ := charge_eq_some.mp first
      obtain ⟨next, nextSized, rfl, _⟩ := charge_eq_some.mp second
      obtain ⟨_, again, rfl, _⟩ := charge_eq_some.mp joinedSummed
      obtain rfl := Option.some.inj (sized.symm.trans again)
      exact share_split nonneg (positive sized) (ordered.1 _ _ sized nextSized) before.le after.le
  | @inner start cut next before after later =>
      intro ordered summed joinedSummed
      obtain ⟨_, _, first, others, rfl⟩ := total_cons.mp summed
      obtain ⟨_, rest, second, restSummed, rfl⟩ := total_cons.mp others
      obtain ⟨_, _, joint, restAgain, rfl⟩ := total_cons.mp joinedSummed
      obtain ⟨size, sized, rfl, _⟩ := charge_eq_some.mp first
      obtain ⟨nextSize, nextSized, rfl, _⟩ := charge_eq_some.mp second
      obtain ⟨_, again, rfl, _⟩ := charge_eq_some.mp joint
      obtain rfl := Option.some.inj (sized.symm.trans again)
      obtain rfl := Option.some.inj (restSummed.symm.trans restAgain)
      rw [← add_assoc]
      exact Int.add_le_add_right
        (share_split nonneg (positive sized) (ordered.1 _ _ sized nextSized) before.le after.le) _
  | skip _ ih =>
      intro ordered summed joinedSummed
      obtain ⟨_, _, first, rest, rfl⟩ := total_cons.mp summed
      obtain ⟨_, _, again, joinedRest, rfl⟩ := total_cons.mp joinedSummed
      obtain rfl := Option.some.inj (first.symm.trans again)
      exact Int.add_le_add_left (ih ordered.2 rest joinedRest) _

/-- Where a scale falls, joining its period to the one before makes the periods measure less. -/
theorem exists_joins_of_not_ordered
    (positive : ∀ {time size}, scale time = some size → 0 < size) :
    ∀ {start : Nat} {periods : Periods last start} {measure : ℚ},
      Measures (Reads scale) periods measure → ¬ periods.Ordered (Reads scale) →
      ∃ joined joinedMeasure, Joins periods joined ∧ Measures (Reads scale) joined joinedMeasure ∧
        joinedMeasure < measure := by
  have less {size next start finish : Nat} (next_pos : 0 < next) (falls : next < size)
      (before : start < finish) : weight size start finish < weight next start finish := by
    unfold weight
    exact div_lt_div_of_pos_left (by exact_mod_cast Nat.sub_pos_of_lt before)
      (by exact_mod_cast next_pos) (by exact_mod_cast falls)
  intro start periods measure measured
  induction measured with
  | one _ =>
      intro unordered
      exact absurd trivial unordered
  | @cons start cut size before later rest sized measured ih =>
      intro unordered
      by_cases ordered : later.Ordered (Reads scale)
      · have falls : ∃ next, scale cut = some next ∧ next < size := by
          by_contra! grows
          refine unordered ⟨fun _ next again nextSized => ?_, ordered⟩
          rw [← Option.some.inj (sized.symm.trans again)]
          exact grows next nextSized
        obtain ⟨next, nextSized, falls⟩ := falls
        have next_pos := positive nextSized
        cases measured with
        | @one _ _ after again =>
            obtain rfl := Option.some.inj (nextSized.symm.trans again)
            refine ⟨_, _, .last, .one sized, ?_⟩
            rw [← weight_add before.le after.le]
            exact add_lt_add_right (less next_pos falls after) _
        | @cons _ finish _ after _ others again measured =>
            obtain rfl := Option.some.inj (nextSized.symm.trans again)
            refine ⟨_, _, .inner, .cons sized measured, ?_⟩
            rw [← weight_add before.le after.le, add_assoc]
            exact add_lt_add_right (add_lt_add_left (less next_pos falls after) _) _
      · obtain ⟨joined, joinedMeasure, joins, joinedMeasured, smaller⟩ := ih ordered
        exact ⟨_, _, .skip joins, .cons sized joinedMeasured, add_lt_add_right smaller _⟩

/-! ## When the charges add up -/

theorem addsUp_of_measures (positive : ∀ {time size}, scale time = some size → 0 < size)
    {periods : Periods last start} (nonneg : 0 ≤ amount) (within : amount ≤ limit)
    (whole : Measures (Reads scale) periods 1) (ordered : periods.Ordered (Reads scale)) :
    AddsUp (charge scale limit amount) amount periods where
  sum := by
    obtain ⟨sum, summed⟩ := exists_total nonneg within whole le_rfl
    obtain ⟨measure, measured, below, above⟩ := total_bounds summed
    obtain rfl := measures_unique reads_unique whole measured
    rw [mul_one] at below above
    have sum_le : sum ≤ amount := by exact_mod_cast below
    have lt_sum : amount < sum + periods.count := by exact_mod_cast above
    exact ⟨sum, summed, by omega, sum_le, fun single => by omega⟩
  split := by
    intro joined joins sum joinedSum summed joinedSummed
    exact total_le_of_joins nonneg positive joins ordered summed joinedSummed

/-- A bound by a fraction of the limit, in parts of the base. -/
theorem scaled_le {sum base parts : Int} {measure : ℚ} (base_pos : 0 < base)
    (fraction : measure * base = parts) (below : (sum : ℚ) ≤ limit * measure) :
    sum * base ≤ limit * parts := by
  have base_nonneg : (0 : ℚ) ≤ base := by exact_mod_cast base_pos.le
  have scaled := mul_le_mul_of_nonneg_right below base_nonneg
  rw [mul_assoc, fraction] at scaled
  exact_mod_cast scaled

/-- Charges of the largest amount that are off by less than one for each period leave no room for
a measure other than one. -/
theorem measure_eq_one (sum count : Int) {base parts : Int} {measure : ℚ} (base_pos : 0 < base)
    (limit_pos : 0 < limit) (wide : count * base ≤ limit) (fraction : measure * base = parts)
    (below : (sum : ℚ) ≤ limit * measure) (above : limit * measure < sum + count)
    (short : limit - count < sum) (sum_le : sum ≤ limit) : measure = 1 := by
  have base_pos' : (0 : ℚ) < base := by exact_mod_cast base_pos
  have lower : sum * base ≤ limit * parts := scaled_le base_pos fraction below
  have upper : limit * parts < (sum + count) * base := by
    have scaled := mul_lt_mul_of_pos_right above base_pos'
    rw [mul_assoc, fraction] at scaled
    exact_mod_cast scaled
  have parts_le : parts < base + 1 := by
    refine lt_of_mul_lt_mul_left ?_ limit_pos.le
    calc limit * parts < (sum + count) * base := upper
      _ ≤ (limit + count) * base :=
          mul_le_mul_of_nonneg_right (Int.add_le_add_right sum_le count) base_pos.le
      _ = limit * base + count * base := add_mul _ _ _
      _ ≤ limit * (base + 1) := by linarith
  have le_parts : base - 1 < parts := by
    refine lt_of_mul_lt_mul_left ?_ limit_pos.le
    calc limit * (base - 1) ≤ (limit - count) * base := by linarith
      _ < sum * base := mul_lt_mul_of_pos_right short base_pos
      _ ≤ limit * parts := lower
  have whole : parts = base := by omega
  rw [whole] at fraction
  exact mul_right_cancel₀ base_pos'.ne' (fraction.trans (one_mul _).symm)

/-- Where the charges of the largest amount fall short by less than one for each period, no scale
falls: joining the two periods where it did would lower the total. -/
theorem ordered_of_addsUp {base : Nat}
    (positive : ∀ {time size}, scale time = some size → 0 < size)
    (divides : ∀ {time size}, scale time = some size → size ∣ base) (base_pos : 0 < base)
    {periods : Periods last start} (wide : (periods.count : Int) * base ≤ limit)
    (limit_pos : 0 < limit) (largest : AddsUp (charge scale limit limit) limit periods)
    (measured : Measures (Reads scale) periods 1) : periods.Ordered (Reads scale) := by
  by_contra unordered
  obtain ⟨sum, summed, short, _, _⟩ := largest.sum
  obtain ⟨joined, joinedMeasure, joins, joinedMeasured, smaller⟩ :=
    exists_joins_of_not_ordered positive measured unordered
  obtain ⟨joinedSum, joinedSummed⟩ := exists_total limit_pos.le le_rfl joinedMeasured smaller.le
  have sum_le_joined := largest.split joins summed joinedSummed
  obtain ⟨again, againMeasured, below, _⟩ := total_bounds joinedSummed
  obtain rfl := measures_unique reads_unique joinedMeasured againMeasured
  obtain ⟨parts, fraction⟩ := exists_fraction positive divides joinedMeasured
  have base_pos' : (0 : Int) < base := Int.natCast_pos.mpr base_pos
  have base_rat : (0 : ℚ) < base := by exact_mod_cast base_pos
  have parts_lt : parts < base := by
    have scaled := mul_lt_mul_of_pos_right smaller base_rat
    rw [fraction, one_mul] at scaled
    exact_mod_cast scaled
  have impossible : limit * base - limit < limit * base - limit := by
    calc limit * base - limit ≤ (limit - periods.count) * base := by linarith
      _ < sum * base := mul_lt_mul_of_pos_right short base_pos'
      _ ≤ joinedSum * base := mul_le_mul_of_nonneg_right sum_le_joined base_pos'.le
      _ ≤ limit * parts := scaled_le base_pos' (by exact_mod_cast fraction) below
      _ ≤ limit * (base - 1) :=
          mul_le_mul_of_nonneg_left (Int.le_sub_one_of_lt parts_lt) limit_pos.le
      _ = limit * base - limit := by rw [mul_sub, mul_one]
  exact absurd impossible (lt_irrefl _)

/-- The charges of every amount add up exactly when the periods measure one scale together and
none is read by a smaller scale than the one before. -/
theorem addsUp_iff {base : Nat} (positive : ∀ {time size}, scale time = some size → 0 < size)
    (divides : ∀ {time size}, scale time = some size → size ∣ base) (base_pos : 0 < base)
    {periods : Periods last start} (wide : (periods.count : Int) * base ≤ limit)
    (limit_pos : 0 < limit) :
    (∀ amount : Int, 0 < amount → amount ≤ limit →
      AddsUp (charge scale limit amount) amount periods) ↔
        Measures (Reads scale) periods 1 ∧ periods.Ordered (Reads scale) := by
  constructor
  · intro law
    have largest := law limit limit_pos le_rfl
    obtain ⟨sum, summed, short, sum_le, _⟩ := largest.sum
    obtain ⟨measure, measured, below, above⟩ := total_bounds summed
    obtain ⟨parts, fraction⟩ := exists_fraction positive divides measured
    have base_pos' : (0 : Int) < base := Int.natCast_pos.mpr base_pos
    obtain rfl := measure_eq_one sum periods.count base_pos' limit_pos wide
      (by exact_mod_cast fraction) below (by exact_mod_cast above) short sum_le
    exact ⟨measured, ordered_of_addsUp positive divides base_pos wide limit_pos largest measured⟩
  · rintro ⟨whole, ordered⟩ amount amount_pos within
    exact addsUp_of_measures positive amount_pos.le within whole ordered

end Charges

end Periods
