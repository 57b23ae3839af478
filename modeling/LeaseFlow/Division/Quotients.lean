import LeaseFlow.Division.Safety
import Mathlib.Algebra.Order.Ring.Int
import Mathlib.Tactic.Linarith

/-!
# When a verified division returns its quotient

The checks multiply the quotient back.  That fits for a quotient rounded down, and for one rounded
up only where a multiple of the divisor lies between the dividend and the end of the type.
-/

set_option autoImplicit false

namespace LeaseFlow.Division

open Transaction DivisionSafety

/-! ## Arithmetic -/

section Checked

variable {left right : I128}

theorem withinI128_of_nonneg {value : Int} (nonneg : 0 ≤ value) (le : value ≤ i128Max) :
    Checked.within i128Min i128Max value = some value := by
  have minimum : i128Min ≤ 0 := by decide
  exact Checked.within_eq_some.mpr ⟨⟨minimum.trans nonneg, le⟩, rfl⟩

theorem divI128_of_nonneg (nonneg : 0 ≤ left) (le : left ≤ i128Max) (positive : 0 < right) :
    divI128 left right = some (left / right) := by
  rw [divI128, if_neg positive.ne', Int.tdiv_eq_ediv_of_nonneg nonneg]
  apply withinI128_of_nonneg (Int.ediv_nonneg nonneg positive.le)
  exact (Int.ediv_le_self right nonneg).trans le

theorem remI128_of_nonneg (nonneg : 0 ≤ left) (le : left ≤ i128Max) (positive : 0 < right) :
    remI128 left right = some (left % right) := by
  rw [remI128, if_neg positive.ne', Int.tmod_eq_emod_of_nonneg nonneg]
  apply withinI128_of_nonneg (Int.emod_nonneg left positive.ne')
  have divided := Int.emod_add_mul_ediv left right
  have quotient_nonneg := mul_nonneg positive.le (Int.ediv_nonneg nonneg positive.le)
  linarith

end Checked

section Ceiling

variable {left right : Int}

/-- The quotient rounded up is the one rounded down, or the next where something remains. -/
theorem neg_neg_ediv (positive : 0 < right) :
    -(-left / right) = if left % right > 0 then left / right + 1 else left / right := by
  have divided := Int.emod_add_mul_ediv left right
  have remainder_nonneg := Int.emod_nonneg left positive.ne'
  have remainder_lt := Int.emod_lt_of_pos left positive
  by_cases rest : left % right > 0
  · rw [if_pos rest]
    have next : -left / right = -(left / right) - 1 ∧ -left % right = right - left % right := by
      apply (Int.ediv_emod_unique positive).mpr
      refine ⟨?_, by omega, by omega⟩
      rw [mul_sub, mul_neg, mul_one]
      omega
    rw [next.1]
    omega
  · have exact' : left % right = 0 := le_antisymm (not_lt.mp rest) remainder_nonneg
    rw [if_neg rest]
    have same : -left / right = -(left / right) ∧ -left % right = 0 := by
      apply (Int.ediv_emod_unique positive).mpr
      refine ⟨?_, Int.le_refl 0, positive⟩
      rw [mul_neg]
      omega
    rw [same.1, neg_neg]

theorem ediv_le_neg_neg_ediv (positive : 0 < right) : left / right ≤ -(-left / right) := by
  rw [neg_neg_ediv positive]
  split <;> omega

theorem neg_neg_ediv_le (positive : 0 < right) : -(-left / right) ≤ left / right + 1 := by
  rw [neg_neg_ediv positive]
  split <;> omega

theorem le_neg_neg_ediv_mul (positive : 0 < right) : left ≤ -(-left / right) * right := by
  have floored := Int.ediv_mul_le (-left) positive.ne'
  linarith

/-- The number after a quotient stays below a bound on the dividend, unless the bound itself is
divided by one. -/
theorem ediv_add_one_le {bound : Int} (nonneg : 0 ≤ left) (within : left ≤ bound)
    (bound_pos : 0 < bound) (positive : 0 < right) (notMost : ¬ (left = bound ∧ right = 1)) :
    left / right + 1 ≤ bound := by
  by_contra above
  have least : bound ≤ left / right := Int.lt_add_one_iff.mp (not_le.mp above)
  have most := le_antisymm ((Int.ediv_le_self right nonneg).trans within) least
  have whole := Int.ediv_mul_le left positive.ne'
  rw [most] at whole
  by_cases one : right = 1
  · rw [one, mul_one] at whole
    exact notMost ⟨le_antisymm within whole, one⟩
  · have two : 2 ≤ right := by omega
    have doubled := mul_le_mul_of_nonneg_left two bound_pos.le
    linarith

/-- A multiple of the divisor not below the dividend fits below a bound exactly where the
greatest multiple below the bound is one. -/
theorem next_multiple_le_iff {bound : Int} (positive : 0 < right) (within : left ≤ bound) :
    -(-left / right) * right ≤ bound ↔ left ≤ bound / right * right := by
  have divided := Int.emod_add_mul_ediv left right
  rw [neg_neg_ediv positive, ← Int.le_ediv_iff_mul_le positive]
  by_cases rest : left % right > 0
  · rw [if_pos rest]
    constructor
    · intro next
      have multiple := mul_le_mul_of_nonneg_right next positive.le
      exact (Int.lt_ediv_add_one_mul_self left positive).le.trans multiple
    · intro greatest
      by_contra above
      have same := mul_le_mul_of_nonneg_right (Int.lt_add_one_iff.mp (not_le.mp above))
        positive.le
      rw [mul_comm right] at divided
      linarith
  · have exact' : left % right = 0 :=
      le_antisymm (not_lt.mp rest) (Int.emod_nonneg left positive.ne')
    rw [if_neg rest]
    have ordered : left / right ≤ bound / right := Int.ediv_le_ediv positive within
    apply iff_of_true ordered
    have multiple := mul_le_mul_of_nonneg_right ordered positive.le
    rw [exact', zero_add, mul_comm] at divided
    rw [divided] at multiple
    exact multiple

end Ceiling

/-! ## The laws of the divisions -/

/-- The counters have room for one more division and for what it adds to them. -/
structure DivisionSafety.HasRoom (added : I128) (safety : DivisionSafety) : Prop where
  loss : i128Min ≤ safety.cumulativeTruncationLoss ∧ safety.cumulativeTruncationLoss ≤ i128Max
  dust : i128Min ≤ safety.divisionDust ∧ safety.divisionDust + added ≤ i128Max
  count : safety.divisionCount + 1 ≤ u64Max

/-- The division goes through and returns the quotient. -/
def Returns (division : Body I128) (self : DivisionSafety) (quotient : I128) : Prop :=
  ∃ after, Commits division self quotient after

section Divisions

variable {self : DivisionSafety}

theorem trackRemainder_commits {remainder : I128} (nonneg : 0 ≤ remainder)
    (room : self.HasRoom remainder) :
    ∃ after, Commits (trackRemainder remainder) self () after := by
  have dust : addI128 self.divisionDust remainder = some (self.divisionDust + remainder) :=
    Checked.within_eq_some.mpr
      ⟨⟨room.dust.1.trans (le_add_of_nonneg_right nonneg), room.dust.2⟩, rfl⟩
  have count : addU64 self.divisionCount 1 = some (self.divisionCount + 1) :=
    Checked.upTo_of_le room.count
  unfold Commits
  rw [trackRemainder, execute_get_bind]
  simp only [safely, compute]
  rw [execute_fetch_bind dust, execute_modify_bind, execute_fetch_bind count]
  exact ⟨_, rfl⟩

/-! ### Basis points -/

section BasisPoints

variable {estimate : LossEstimate} {amount : I128} {bps : U32}

theorem mul_bps_le (nonneg : 0 ≤ amount) (fits : amount * 10000 ≤ i128Max) (bps_le : bps ≤ 10000) :
    amount * bps ≤ i128Max := by
  have scaled : amount * bps ≤ amount * 10000 :=
    mul_le_mul_of_nonneg_left (by exact_mod_cast bps_le) nonneg
  exact scaled.trans fits

/-- The reconstruction of the quotient divides by the basis points. -/
theorem verifyBpsDivisionSafety_positive {quotient : I128}
    (returns : Returns (verifyBpsDivisionSafety estimate amount bps) self quotient) : 0 < bps := by
  obtain ⟨after, run⟩ := returns
  by_contra none
  have zero : bps = 0 := Nat.eq_zero_of_not_pos none
  simp only [verifyBpsDivisionSafety, verifyDivisionProperties, compute, commits_bind,
    commits_ensure, commits_fetch] at run
  obtain ⟨_, _, _, _, _, _, _, _, _, result, _, _, _, _, checked, _⟩ := run
  obtain ⟨_, _, _, _, _, _, _, _, _, scaledBack, _, _, reconstructed, _, divided, _⟩ := checked
  rw [zero] at divided
  cases divided.1

theorem verifyDivisionProperties_commits (nonneg : 0 ≤ amount)
    (product_le : amount * bps ≤ i128Max) (bps_le : bps ≤ 10000) (positive : 0 < bps) :
    Commits (verifyDivisionProperties amount bps (amount * bps / 10000) 0) self () self := by
  have positive' : 0 < (bps : Int) := by exact_mod_cast positive
  have result_nonneg : 0 ≤ amount * bps / 10000 :=
    Int.ediv_nonneg (mul_nonneg nonneg positive'.le) (by decide)
  have result_le : amount * bps / 10000 ≤ amount := by
    apply Int.ediv_le_of_le_mul (by decide)
    exact mul_le_mul_of_nonneg_left (by exact_mod_cast bps_le) nonneg
  have loss_le : (0 : I128) ≤ if bps > 0 then (bps : I128) - 1 else 0 := by
    rw [if_pos positive]
    exact Int.sub_nonneg_of_le positive'
  have back := Int.ediv_mul_le (amount * bps) (by decide : (10000 : Int) ≠ 0)
  have scaled_nonneg := mul_nonneg result_nonneg (by decide : (0 : Int) ≤ 10000)
  have scaled : mulI128 (amount * bps / 10000) 10000 = some (amount * bps / 10000 * 10000) :=
    withinI128_of_nonneg scaled_nonneg (back.trans product_le)
  have reconstruction : divI128 (amount * bps / 10000 * 10000) bps =
      some (amount * bps / 10000 * 10000 / bps) :=
    divI128_of_nonneg scaled_nonneg (back.trans product_le) positive'
  have reconstructed_le : amount * bps / 10000 * 10000 / bps ≤ amount :=
    Int.ediv_le_of_le_mul positive' back
  unfold Commits
  rw [verifyDivisionProperties, execute_ensure_bind result_nonneg,
    execute_ensure_bind result_le, execute_ensure_bind loss_le]
  simp only [compute]
  rw [execute_fetch_bind scaled, execute_fetch_bind reconstruction, ensure,
    if_pos fun both => absurd both.2 (not_lt.mpr reconstructed_le)]
  rfl

/-- The reconstruction of a quotient of basis points divides by them: without any it panics. -/
theorem bps_returns_iff (nonneg : 0 ≤ amount) (fits : amount * 10000 ≤ i128Max)
    (bps_le : bps ≤ 10000) (exact' : estimate amount bps = 0) (room : self.HasRoom 0) :
    Returns (verifyBpsDivisionSafety estimate amount bps) self (amount * bps / 10000) ↔
      0 < bps := by
  apply Iff.intro verifyBpsDivisionSafety_positive
  intro positive
  have product_le := mul_bps_le nonneg fits bps_le
  have product_nonneg : 0 ≤ amount * (bps : Int) := mul_nonneg nonneg (Int.natCast_nonneg bps)
  have product : mulI128 amount bps = some (amount * bps) :=
    withinI128_of_nonneg product_nonneg product_le
  have quotient : divI128 (amount * bps) 10000 = some (amount * bps / 10000) :=
    divI128_of_nonneg product_nonneg product_le (by decide)
  have verified := @verifyDivisionProperties_commits self amount bps nonneg product_le bps_le
    positive
  have loss : addI128 self.cumulativeTruncationLoss 0 =
      some (self.cumulativeTruncationLoss + 0) := by
    apply Checked.within_eq_some.mpr
    rw [add_zero]
    exact ⟨room.loss, rfl⟩
  have dust : addI128 self.divisionDust 0 = some (self.divisionDust + 0) := by
    apply Checked.within_eq_some.mpr
    refine ⟨⟨?_, room.dust.2⟩, rfl⟩
    rw [add_zero]
    exact room.dust.1
  have count : addU64 self.divisionCount 1 = some (self.divisionCount + 1) :=
    Checked.upTo_of_le room.count
  unfold Returns Commits
  rw [verifyBpsDivisionSafety, execute_ensure_bind nonneg, execute_ensure_bind bps_le]
  simp only [compute, safely]
  rw [execute_fetch_bind product, execute_fetch_bind quotient, exact', execute_bind, verified]
  simp only
  rw [execute_get_bind, execute_fetch_bind loss, execute_modify_bind, execute_fetch_bind dust,
    execute_modify_bind, execute_fetch_bind count]
  exact ⟨_, rfl⟩

end BasisPoints

/-! ### Scales -/

theorem fixedPoint_returns {value scale : I128} (nonneg : 0 ≤ value) (value_le : value ≤ i128Max)
    (positive : 0 < scale) (room : self.HasRoom (value % scale)) :
    Returns (verifyFixedPointDivisionSafety value scale) self (value / scale) := by
  have quotient := divI128_of_nonneg nonneg value_le positive
  have remainder := remI128_of_nonneg nonneg value_le positive
  have result_nonneg := Int.ediv_nonneg nonneg positive.le
  have remainder_nonneg := Int.emod_nonneg value positive.ne'
  have divided : value / scale * scale + value % scale = value := by
    rw [mul_comm]
    exact Int.mul_ediv_add_emod value scale
  have product : mulI128 (value / scale) scale = some (value / scale * scale) :=
    withinI128_of_nonneg (mul_nonneg result_nonneg positive.le) (by linarith)
  have sum : addI128 (value / scale * scale) (value % scale) =
      some (value / scale * scale + value % scale) := by
    apply withinI128_of_nonneg <;> rw [divided] <;> assumption
  have verified : Commits (verifyFixedPointProperties value scale (value / scale) (value % scale))
      self () self := by
    unfold Commits
    rw [verifyFixedPointProperties, execute_ensure_bind result_nonneg,
      execute_ensure_bind (Int.emod_lt_of_pos value positive)]
    simp only [safely]
    rw [execute_fetch_bind product, execute_fetch_bind sum, ensure, if_pos divided]
    rfl
  obtain ⟨after, tracked⟩ := trackRemainder_commits remainder_nonneg room
  refine ⟨after, ?_⟩
  unfold Commits
  rw [verifyFixedPointDivisionSafety, execute_ensure_bind positive.ne',
    execute_ensure_bind ⟨nonneg, positive.le⟩]
  simp only [compute]
  rw [execute_fetch_bind quotient, execute_fetch_bind remainder, execute_bind, verified]
  simp only
  rw [execute_bind, tracked]
  rfl

/-! ### Quotients rounded up -/

section RoundedUp

variable {numerator denominator : I128}

theorem verifyCeilingDivisionSafety_fits {quotient : I128} (nonneg : 0 ≤ numerator)
    (numerator_le : numerator ≤ i128Max) (positive : 0 < denominator)
    (returns : Returns (verifyCeilingDivisionSafety numerator denominator) self quotient) :
    ¬ (numerator = i128Max ∧ denominator = 1) ∧ quotient * denominator ≤ i128Max := by
  obtain ⟨after, run⟩ := returns
  simp only [verifyCeilingDivisionSafety, verifyCeilingProperties, compute, safely, commits_bind,
    commits_ensure, commits_fetch, commits_pure,
    divI128_of_nonneg nonneg numerator_le positive,
    remI128_of_nonneg nonneg numerator_le positive] at run
  obtain ⟨_, _, ⟨_, rfl⟩, _, _, ⟨_, rfl⟩, floorResult, _, ⟨same, rfl⟩, rest, _, ⟨left, rfl⟩,
    ceiling, _, ⟨_, rfl⟩, _, _, checked, _, _, _, result, _⟩ := run
  cases same
  cases left
  obtain ⟨_, _, _, bound, _, ⟨bounded, rfl⟩, _, _, _, _, _, _, product, _, ⟨multiplied, rfl⟩,
    _⟩ := checked
  obtain ⟨bound_fits, _⟩ := Checked.within_eq_some.mp bounded
  obtain ⟨product_fits, _⟩ := Checked.within_eq_some.mp multiplied
  rw [result]
  refine ⟨?_, product_fits.2⟩
  intro most
  rw [most.1, most.2, Int.ediv_one] at bound_fits
  exact absurd bound_fits.2 (by decide)

theorem ceilingResult_eq (positive : 0 < denominator)
    (bound : addI128 (numerator / denominator) 1 = some (numerator / denominator + 1)) :
    ceilingResult (numerator / denominator) (numerator % denominator) =
      some (-(-numerator / denominator)) := by
  rw [ceilingResult, neg_neg_ediv positive]
  split
  · exact bound
  · rfl

theorem verifyCeilingProperties_commits (nonneg : 0 ≤ numerator) (positive : 0 < denominator)
    (bound : addI128 (numerator / denominator) 1 = some (numerator / denominator + 1))
    (product_le : -(-numerator / denominator) * denominator ≤ i128Max) :
    Commits (verifyCeilingProperties numerator denominator (numerator / denominator)
      (-(-numerator / denominator)) (numerator % denominator)) self () self := by
  have exact' : ¬ (numerator % denominator = 0 ∧
      -(-numerator / denominator) ≠ numerator / denominator) := by
    intro both
    rw [neg_neg_ediv positive, both.1] at both
    exact both.2 rfl
  have covers := @le_neg_neg_ediv_mul numerator denominator positive
  have product : mulI128 (-(-numerator / denominator)) denominator =
      some (-(-numerator / denominator) * denominator) :=
    withinI128_of_nonneg (nonneg.trans covers) product_le
  unfold Commits
  rw [verifyCeilingProperties, execute_ensure_bind (ediv_le_neg_neg_ediv positive)]
  simp only [safely]
  rw [execute_fetch_bind bound, execute_ensure_bind (neg_neg_ediv_le positive),
    execute_ensure_bind exact', execute_fetch_bind product, ensure, if_pos covers]
  rfl

/-- The bound that the quotient rounded up is compared with, and its product with the divisor,
have to fit as well. -/
theorem ceiling_returns_iff (nonneg : 0 ≤ numerator) (numerator_le : numerator ≤ i128Max)
    (positive : 0 < denominator) (room : self.HasRoom (numerator % denominator)) :
    Returns (verifyCeilingDivisionSafety numerator denominator) self
        (-(-numerator / denominator)) ↔
      ¬ (numerator = i128Max ∧ denominator = 1) ∧
        numerator ≤ i128Max / denominator * denominator := by
  rw [← next_multiple_le_iff positive numerator_le]
  apply Iff.intro (verifyCeilingDivisionSafety_fits nonneg numerator_le positive)
  intro fits
  obtain ⟨notMost, product_le⟩ := fits
  have quotient := divI128_of_nonneg nonneg numerator_le positive
  have remainder := remI128_of_nonneg nonneg numerator_le positive
  have floor_nonneg := Int.ediv_nonneg nonneg positive.le
  have remainder_nonneg := Int.emod_nonneg numerator positive.ne'
  have floor_le := ediv_add_one_le nonneg numerator_le (by decide) positive notMost
  have bound : addI128 (numerator / denominator) 1 = some (numerator / denominator + 1) :=
    withinI128_of_nonneg (by linarith) floor_le
  have ceiling := ceilingResult_eq positive bound
  have verified := @verifyCeilingProperties_commits self numerator denominator nonneg positive
    bound product_le
  obtain ⟨after, tracked⟩ := trackRemainder_commits remainder_nonneg room
  refine ⟨after, ?_⟩
  unfold Commits
  rw [verifyCeilingDivisionSafety, execute_ensure_bind positive.ne',
    execute_ensure_bind ⟨nonneg, positive.le⟩]
  simp only [compute, safely]
  rw [execute_fetch_bind quotient, execute_fetch_bind remainder, execute_fetch_bind ceiling,
    execute_bind, verified]
  simp only
  rw [execute_bind, tracked]
  rfl

end RoundedUp

/-! ### All three -/

/-- With room in the counters and no estimated loss, basis points are divided exactly where there
are any, a quotient is rounded up exactly where its checks fit, and one with a scale always. -/
theorem divisions_return_iff {estimate : LossEstimate}
    (exact' : ∀ amount bps, estimate amount bps = 0)
    {amount : I128} {bps : U32} (amount_nonneg : 0 ≤ amount) (fits : amount * 10000 ≤ i128Max)
    (bps_le : bps ≤ 10000) (bps_room : self.HasRoom 0)
    {numerator denominator : I128} (numerator_nonneg : 0 ≤ numerator)
    (numerator_le : numerator ≤ i128Max) (denominator_pos : 0 < denominator)
    (ceiling_room : self.HasRoom (numerator % denominator))
    {value scale : I128} (value_nonneg : 0 ≤ value) (value_le : value ≤ i128Max)
    (scale_pos : 0 < scale) (scale_room : self.HasRoom (value % scale)) :
    (Returns (verifyBpsDivisionSafety estimate amount bps) self (amount * bps / 10000) ↔
      0 < bps) ∧
    (Returns (verifyCeilingDivisionSafety numerator denominator) self
        (-(-numerator / denominator)) ↔
      ¬ (numerator = i128Max ∧ denominator = 1) ∧
        numerator ≤ i128Max / denominator * denominator) ∧
    Returns (verifyFixedPointDivisionSafety value scale) self (value / scale) :=
  ⟨bps_returns_iff amount_nonneg fits bps_le (exact' amount bps) bps_room,
    ceiling_returns_iff numerator_nonneg numerator_le denominator_pos ceiling_room,
    fixedPoint_returns value_nonneg value_le scale_pos scale_room⟩

end Divisions

/-- No loss is estimated. -/
def noLoss : LossEstimate :=
  fun _ _ => 0

theorem new_hasRoom {added : I128} (le : added ≤ i128Max) :
    DivisionSafety.new.HasRoom added where
  loss := ⟨by decide, by decide⟩
  dust := by
    constructor
    · decide
    · show 0 + added ≤ i128Max
      rw [zero_add]
      exact le
  count := by decide

theorem thousands_return_iff :
    (Returns (verifyBpsDivisionSafety noLoss 1000 3333) DivisionSafety.new (1000 * 3333 / 10000) ↔
      0 < 3333) ∧
    (Returns (verifyCeilingDivisionSafety 1000 7) DivisionSafety.new (-(-1000 / 7)) ↔
      ¬ ((1000 : I128) = i128Max ∧ (7 : I128) = 1) ∧ (1000 : I128) ≤ i128Max / 7 * 7) ∧
    Returns (verifyFixedPointDivisionSafety 1000 7) DivisionSafety.new (1000 / 7) :=
  divisions_return_iff (fun _ _ => rfl) (by decide) (by decide) (by decide)
    (new_hasRoom (by decide)) (by decide) (by decide) (by decide)
    (new_hasRoom (by decide)) (by decide) (by decide) (by decide)
    (new_hasRoom (by decide))

/-- Without basis points the division panics, and half of the greatest `i128` cannot be rounded
up. -/
theorem zero_bps_and_greatest_fail :
    (¬ ∀ (amount : I128) (bps : U32), 0 ≤ amount → amount * 10000 ≤ i128Max → bps ≤ 10000 →
      Returns (verifyBpsDivisionSafety noLoss amount bps) DivisionSafety.new
        (amount * bps / 10000)) ∧
    ¬ ∀ numerator denominator : I128, 0 ≤ numerator → numerator ≤ i128Max → 0 < denominator →
      denominator ≤ i128Max →
      Returns (verifyCeilingDivisionSafety numerator denominator) DivisionSafety.new
        (-(-numerator / denominator)) := by
  constructor
  · intro returns
    obtain ⟨after, run⟩ := returns 100 0 (by decide) (by decide) (by decide)
    have panics : (verifyBpsDivisionSafety noLoss 100 0).succeeds DivisionSafety.new = false := by
      decide
    have went := succeeds_iff.mpr ⟨_, after, run⟩
    rw [panics] at went
    cases went
  · intro returns
    obtain ⟨after, run⟩ := returns i128Max 2 (by decide) (by decide) (by decide) (by decide)
    have fails : (verifyCeilingDivisionSafety i128Max 2).succeeds DivisionSafety.new = false := by
      decide
    have went := succeeds_iff.mpr ⟨_, after, run⟩
    rw [fails] at went
    cases went

end LeaseFlow.Division
