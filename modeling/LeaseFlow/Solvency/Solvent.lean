import LeaseFlow.Solvency.Tracker
import Mathlib.Tactic.Linarith

/-!
# Solvent trackers

The closing check of every operation says that the tracker is solvent, so that an operation that
goes through leaves a solvent tracker whatever it was before.
-/

set_option autoImplicit false

namespace LeaseFlow.Solvency

open Transaction EscrowInvariant

/-! ## Solvency -/

/-- The components are not negative and sum up to the total, which is what the vault holds; a
lease is counted only where something is escrowed. -/
structure EscrowInvariant.Solvent (tracker : EscrowInvariant) : Prop where
  sum : tracker.activeDeposits + tracker.pendingYield + tracker.disputedFunds =
    tracker.totalEscrowed
  synchronized : tracker.vaultTotalLocked = tracker.totalEscrowed
  active_nonneg : 0 ≤ tracker.activeDeposits
  pending_nonneg : 0 ≤ tracker.pendingYield
  disputed_nonneg : 0 ≤ tracker.disputedFunds
  counted : tracker.totalEscrowed = 0 → tracker.leaseCount = 0
  bounded : tracker.totalEscrowed ≤ i128Max

theorem EscrowInvariant.Solvent.total_nonneg {self : EscrowInvariant} (solvent : self.Solvent) :
    0 ≤ self.totalEscrowed := by
  rw [← solvent.sum]
  exact add_nonneg (add_nonneg solvent.active_nonneg solvent.pending_nonneg)
    solvent.disputed_nonneg

theorem new_solvent : EscrowInvariant.new.Solvent where
  sum := rfl
  synchronized := rfl
  active_nonneg := le_rfl
  pending_nonneg := le_rfl
  disputed_nonneg := le_rfl
  counted _ := rfl
  bounded := by decide

theorem componentSum_eq_some {self : EscrowInvariant} {total : I128} :
    self.componentSum = some total ↔
      (i128Min ≤ self.activeDeposits + self.pendingYield ∧
        self.activeDeposits + self.pendingYield ≤ i128Max) ∧
      (i128Min ≤ self.activeDeposits + self.pendingYield + self.disputedFunds ∧
        self.activeDeposits + self.pendingYield + self.disputedFunds ≤ i128Max) ∧
      self.activeDeposits + self.pendingYield + self.disputedFunds = total := by
  unfold componentSum addI128
  simp only [Option.bind_eq_bind, Option.bind_eq_some_iff, Checked.within_eq_some]
  constructor
  · intro summed
    obtain ⟨_, ⟨first, rfl⟩, second⟩ := summed
    exact ⟨first, second⟩
  · intro summed
    exact ⟨_, ⟨summed.1, rfl⟩, summed.2⟩

/-- The closing check passes exactly on solvent trackers. -/
theorem verifyCoreInvariant_eq_ok {self : EscrowInvariant} :
    self.verifyCoreInvariant = .ok () ↔ self.Solvent := by
  unfold verifyCoreInvariant
  constructor
  · intro verified
    split at verified
    · cases verified
    · next total summed =>
        obtain ⟨_, ⟨_, bounded⟩, same⟩ := componentSum_eq_some.mp summed
        split at verified
        · cases verified
        · next sum =>
            split at verified
            · cases verified
            · next vault =>
                split at verified
                · cases verified
                · next nonneg =>
                    split at verified
                    · cases verified
                    · next counted =>
                        simp only [hasNegative, not_or, not_lt] at nonneg
                        obtain ⟨_, active, pending, disputed, _⟩ := nonneg
                        have totals := same.trans (not_not.mp sum)
                        constructor
                        · exact totals
                        · exact not_not.mp vault
                        · exact active
                        · exact pending
                        · exact disputed
                        · intro empty
                          by_contra some
                          exact counted ⟨Nat.pos_of_ne_zero some, empty⟩
                        · rw [← totals]
                          exact bounded
  · intro solvent
    have total := solvent.total_nonneg
    obtain ⟨sum, synchronized, active, pending, disputed, counted, bounded⟩ := solvent
    have minimum : i128Min ≤ 0 := by decide
    have summed : self.componentSum = some self.totalEscrowed := by
      apply componentSum_eq_some.mpr
      refine ⟨⟨?_, ?_⟩, ⟨?_, ?_⟩, sum⟩ <;> linarith
    rw [summed]
    simp only
    rw [if_neg (not_not.mpr rfl), if_neg (not_not.mpr synchronized), if_neg, if_neg]
    · intro mismatch
      exact Nat.pos_iff_ne_zero.mp mismatch.1 (counted mismatch.2)
    · simp only [hasNegative, not_or, not_lt]
      exact ⟨total, active, pending, disputed, by rwa [synchronized]⟩

theorem verify_of_solvent {self : EscrowInvariant} (solvent : self.Solvent) :
    verify.execute self = (.ok (), self) := by
  have verified := verifyCoreInvariant_eq_ok.mpr solvent
  rw [verify, execute_get_bind, verified]
  rfl

theorem verify_of_not_solvent {self : EscrowInvariant} (insolvent : ¬ self.Solvent) :
    ∃ violation, verify.execute self = (.error (.err violation), self) := by
  rw [verify, execute_get_bind]
  cases verified : self.verifyCoreInvariant with
  | ok => exact absurd (verifyCoreInvariant_eq_ok.mp verified) insolvent
  | error violation => exact ⟨violation, rfl⟩

/-- A solvent tracker whose two running counters are within their type and not below zero. -/
structure EscrowInvariant.Sound (tracker : EscrowInvariant) : Prop where
  solvent : tracker.Solvent
  precision_nonneg : 0 ≤ tracker.precisionLossCumulative
  precision_le : tracker.precisionLossCumulative ≤ i128Max
  dust_nonneg : 0 ≤ tracker.dustCumulative
  dust_le : tracker.dustCumulative ≤ i128Max

theorem new_sound : EscrowInvariant.new.Sound where
  solvent := new_solvent
  precision_nonneg := le_rfl
  precision_le := by decide
  dust_nonneg := le_rfl
  dust_le := by decide

/-! ## Checked sums -/

section Sums

variable {left right : I128}

theorem addI128_of_nonneg (left_nonneg : 0 ≤ left) (right_nonneg : 0 ≤ right)
    (fits : left + right ≤ i128Max) : addI128 left right = some (left + right) := by
  have minimum : i128Min ≤ 0 := by decide
  apply Checked.within_eq_some.mpr
  exact ⟨⟨minimum.trans (add_nonneg left_nonneg right_nonneg), fits⟩, rfl⟩

theorem addI128_eq_none (exceeds : i128Max < left + right) : addI128 left right = none := by
  apply if_neg
  intro fits
  exact absurd fits.2 (not_le.mpr exceeds)

theorem subI128_of_le (right_nonneg : 0 ≤ right) (le : right ≤ left) (fits : left ≤ i128Max) :
    subI128 left right = some (left - right) := by
  have minimum : i128Min ≤ 0 := by decide
  apply Checked.within_eq_some.mpr
  refine ⟨⟨?_, ?_⟩, rfl⟩ <;> linarith

end Sums

theorem simulateSorobanPrecisionLoss_nonneg (amount : I128) :
    0 ≤ simulateSorobanPrecisionLoss amount := by
  unfold simulateSorobanPrecisionLoss
  split
  · next positive => exact Int.ediv_nonneg positive.le (by decide)
  · exact le_rfl

theorem simulateSorobanPrecisionLoss_of_nonneg {amount : I128} (nonneg : 0 ≤ amount) :
    simulateSorobanPrecisionLoss amount = amount / 1000000 := by
  unfold simulateSorobanPrecisionLoss
  by_cases positive : amount > 0
  · exact if_pos positive
  · have zero : amount = 0 := le_antisymm (not_lt.mp positive) nonneg
    rw [if_neg positive, zero]
    rfl

end LeaseFlow.Solvency
