import LeaseFlow.Solvency.Outcome

/-!
# Which updates pass the closing check

The check reads neither of the two counters of losses.  What can fail is the lease count of a
tracker emptied to the last unit, and the components of a slash that is rounded.
-/

set_option autoImplicit false

namespace LeaseFlow.Solvency

open Transaction EscrowInvariant

section Passing

variable {self : EscrowInvariant}

theorem putPrecision_solvent (precision : I128) :
    (self.putPrecision precision).Solvent ↔ self.Solvent :=
  ⟨fun ⟨sum, vault, active, pending, disputed, counted, bounded⟩ =>
      ⟨sum, vault, active, pending, disputed, counted, bounded⟩,
    fun ⟨sum, vault, active, pending, disputed, counted, bounded⟩ =>
      ⟨sum, vault, active, pending, disputed, counted, bounded⟩⟩

theorem putDust_solvent (dust : I128) : (self.putDust dust).Solvent ↔ self.Solvent :=
  ⟨fun ⟨sum, vault, active, pending, disputed, counted, bounded⟩ =>
      ⟨sum, vault, active, pending, disputed, counted, bounded⟩,
    fun ⟨sum, vault, active, pending, disputed, counted, bounded⟩ =>
      ⟨sum, vault, active, pending, disputed, counted, bounded⟩⟩

/-- A creation counts a lease, so that it has to leave something escrowed. -/
theorem created_solvent (solvent : self.Solvent) {depositAmount : I128} (nonneg : 0 ≤ depositAmount)
    (within : self.totalEscrowed + depositAmount ≤ i128Max) :
    (self.created depositAmount).Solvent ↔ 0 < self.totalEscrowed ∨ 0 < depositAmount := by
  obtain ⟨precision, created⟩ := @created_putPrecision self depositAmount
  have total := solvent.total_nonneg
  obtain ⟨sum, vault, active, pending, disputed, counted, bounded⟩ := solvent
  rw [created, putPrecision_solvent]
  constructor
  · intro passes
    by_contra neither
    obtain ⟨empty, nothing⟩ := not_or.mp neither
    have zero : self.totalEscrowed + depositAmount = 0 := by linarith
    exact absurd (passes.counted zero) (Nat.succ_ne_zero _)
  · intro some
    constructor
    · simp only [deposited, putTotal, putActive, putVault, putCount]
      linarith
    · exact congrArg (· + depositAmount) vault
    · exact add_nonneg active nonneg
    · exact pending
    · exact disputed
    · intro zero
      have zero : self.totalEscrowed + depositAmount = 0 := zero
      rcases some with total_pos | deposit_pos <;> linarith
    · exact within

theorem yielded_solvent (solvent : self.Solvent) {yieldAmount : I128} (nonneg : 0 ≤ yieldAmount)
    (within : yieldAmount ≤ self.activeDeposits) : (self.yielded yieldAmount).Solvent := by
  obtain ⟨sum, vault, active, pending, disputed, counted, bounded⟩ := solvent
  apply (putPrecision_solvent _).mpr
  constructor
  · simp only [accrued, putActive, putPending]
    linarith
  · exact vault
  · exact sub_nonneg.mpr within
  · exact add_nonneg pending nonneg
  · exact disputed
  · exact counted
  · exact bounded

theorem contested_solvent (solvent : self.Solvent) {disputeAmount : I128}
    (nonneg : 0 ≤ disputeAmount)
    (within : disputeAmount ≤ self.activeDeposits + self.pendingYield) :
    (self.contested disputeAmount).Solvent := by
  obtain ⟨sum, vault, active, pending, disputed, counted, bounded⟩ := solvent
  have fromPending_le := min_le_right disputeAmount self.pendingYield
  have rest_le : disputeAmount - min disputeAmount self.pendingYield ≤ self.activeDeposits := by
    rcases min_choice disputeAmount self.pendingYield with least | least <;> rw [least] <;> linarith
  constructor
  · simp only [contested, putPending, putActive, putDisputed]
    linarith
  · exact vault
  · exact sub_nonneg.mpr rest_le
  · exact sub_nonneg.mpr fromPending_le
  · exact add_nonneg disputed nonneg
  · exact counted
  · exact bounded

/-- The components of a payment make up what it leaves of the total. -/
theorem paidFrom_solvent (solvent : self.Solvent) {totalSettlement : I128} {leaseCount : U64}
    (nonneg : 0 ≤ totalSettlement) (within : totalSettlement ≤ self.totalEscrowed) :
    ((self.paidFrom totalSettlement).putCount leaseCount).Solvent ↔
      (totalSettlement = self.totalEscrowed → leaseCount = 0) := by
  have covered := covers solvent nonneg within
  obtain ⟨sum, vault, active, pending, disputed, counted, bounded⟩ := solvent
  constructor
  · intro passes all
    apply passes.counted
    exact sub_eq_zero.mpr all.symm
  · intro counts
    have parts := covered.sum
    constructor
    · simp only [paidFrom, putDust, putDisputed, putPending, putActive, putTotal, putVault,
        putCount]
      linarith
    · exact congrArg (· - totalSettlement) vault
    · exact sub_nonneg.mpr covered.active_le
    · exact sub_nonneg.mpr covered.pending_le
    · exact sub_nonneg.mpr covered.disputed_le
    · intro zero
      exact counts (sub_eq_zero.mp zero).symm
    · have left : self.totalEscrowed - totalSettlement ≤ self.totalEscrowed :=
        sub_le_self _ nonneg
      exact left.trans bounded

/-- A settlement of everything counts one lease off, so that it must not leave another. -/
theorem settled_solvent (solvent : self.Solvent) {totalSettlement : I128}
    (nonneg : 0 ≤ totalSettlement) (within : totalSettlement ≤ self.totalEscrowed) :
    (self.settled totalSettlement).Solvent ↔
      totalSettlement ≠ self.totalEscrowed ∨ self.totalEscrowed = 0 ∨ self.leaseCount ≤ 1 := by
  have total := solvent.total_nonneg
  unfold settled
  by_cases positive : totalSettlement > 0
  · rw [if_pos positive, paidFrom_solvent solvent nonneg within, Nat.sub_eq_zero_iff_le]
    constructor
    · intro counts
      by_cases all : totalSettlement = self.totalEscrowed
      · exact .inr (.inr (counts all))
      · exact .inl all
    · intro cases' all
      rcases cases' with rest | empty | few
      · exact absurd all rest
      · exact absurd (all.trans empty) positive.ne'
      · exact few
  · have zero : totalSettlement = 0 := le_antisymm (not_lt.mp positive) nonneg
    have same : self.paidFrom totalSettlement =
        (self.paidFrom totalSettlement).putCount self.leaseCount := rfl
    rw [if_neg positive, same, paidFrom_solvent solvent nonneg within]
    apply iff_of_true
    · intro all
      exact solvent.counted (all.symm.trans zero)
    · by_cases all : totalSettlement = self.totalEscrowed
      · exact .inr (.inl (all.symm.trans zero))
      · exact .inl all

/-- A release leaves nothing, so that it must not leave another lease. -/
theorem clear_solvent : self.clear.Solvent ↔ self.leaseCount ≤ 1 := by
  constructor
  · intro passes
    have counts : self.leaseCount - 1 = 0 := passes.counted rfl
    exact Nat.sub_eq_zero_iff_le.mp counts
  · intro few
    constructor
    · rfl
    · rfl
    · exact le_rfl
    · exact le_rfl
    · exact le_rfl
    · intro _
      exact Nat.sub_eq_zero_of_le few
    · show (0 : Int) ≤ i128Max
      decide

/-! ### Slashes -/

/-- Some number of basis points of the total is the slashed part to the unit, and makes a whole
number of every component. -/
def EscrowInvariant.SplitsEvenly (slashPercentageBps : U32) (self : EscrowInvariant) : Prop :=
  ∃ ratio : Int,
    self.totalEscrowed * ratio = self.totalEscrowed * slashPercentageBps / 10000 * 10000 ∧
      ∀ component ∈ self.components, 10000 ∣ component * ratio

variable {slashPercentageBps : U32}

theorem splitsEvenly_of_empty (empty : self.totalEscrowed = 0) :
    self.SplitsEvenly slashPercentageBps := by
  refine ⟨0, ?_, fun component _ => ⟨0, mul_zero component⟩⟩
  rw [empty, zero_mul, zero_mul]
  rfl

/-- The components bear all of a slash exactly when nothing is rounded. -/
theorem borne_eq_iff (solvent : self.Solvent) (total_pos : 0 < self.totalEscrowed)
    (slashes : Slashable slashPercentageBps self) :
    self.borne slashPercentageBps = self.slashAmount slashPercentageBps ↔
      self.SplitsEvenly slashPercentageBps := by
  have sum := components_sum solvent
  have bears : self.components.sum * self.ratio slashPercentageBps ≤
      self.slashAmount slashPercentageBps * 10000 := by
    rw [sum]
    exact slashes.ratio_bears
  unfold borne
  rw [Proportion.sum_shares_eq_iff (by decide) bears, sum]
  constructor
  · intro even
    exact ⟨_, even⟩
  · intro even
    obtain ⟨ratio, all, each⟩ := even
    have same : self.ratio slashPercentageBps = ratio := by
      apply Int.ediv_eq_of_eq_mul_right total_pos.ne'
      exact all.symm
    rw [same]
    exact ⟨all, each⟩

/-- A slash that splits evenly leaves no dust. -/
theorem borne_not_lt (solvent : self.Solvent) (bps_le : slashPercentageBps ≤ 10000)
    (fits : self.totalEscrowed * slashPercentageBps ≤ i128Max)
    (even : self.SplitsEvenly slashPercentageBps) :
    ¬ self.borne slashPercentageBps < self.slashAmount slashPercentageBps := by
  by_cases empty : self.totalEscrowed = 0
  · rw [slashAmount_of_empty empty, borne_of_empty empty]
    exact lt_irrefl 0
  · have total_pos := lt_of_le_of_ne solvent.total_nonneg (Ne.symm empty)
    have all := (borne_eq_iff solvent total_pos (slashable total_pos bps_le fits)).mpr even
    exact all.not_lt

theorem slashAmount_eq_total_iff (total_pos : 0 < self.totalEscrowed)
    (bps_le : slashPercentageBps ≤ 10000) :
    self.slashAmount slashPercentageBps = self.totalEscrowed ↔ slashPercentageBps = 10000 := by
  constructor
  · intro all
    by_contra part
    have less : (slashPercentageBps : Int) < 10000 := by
      exact_mod_cast lt_of_le_of_ne bps_le part
    have below : self.slashAmount slashPercentageBps < self.totalEscrowed := by
      apply Int.ediv_lt_of_lt_mul (by decide)
      exact mul_lt_mul_of_pos_left less total_pos
    exact absurd all below.ne
  · intro all
    rw [slashAmount, all]
    exact Int.mul_ediv_cancel _ (by decide)

/-- What the roundings keep is missing from the total, and a slash of everything leaves the
leases counted. -/
theorem slashed_solvent (solvent : self.Solvent) (bps_le : slashPercentageBps ≤ 10000)
    (fits : self.totalEscrowed * slashPercentageBps ≤ i128Max) :
    (self.slashed slashPercentageBps).Solvent ↔
      self.SplitsEvenly slashPercentageBps ∧ (slashPercentageBps < 10000 ∨ self.leaseCount = 0) := by
  by_cases empty : self.totalEscrowed = 0
  · rw [slashed_of_empty empty]
    exact iff_of_true solvent ⟨splitsEvenly_of_empty empty, .inr (solvent.counted empty)⟩
  · have total_pos := lt_of_le_of_ne solvent.total_nonneg (Ne.symm empty)
    have slashes := slashable total_pos bps_le fits
    obtain ⟨actives, pendings, disputes⟩ := bearing solvent slashes
    have amount_le := slashes.amount_le
    have amount_nonneg := slashes.amount_nonneg
    have whole := slashAmount_eq_total_iff total_pos bps_le
    obtain ⟨dust, slashed⟩ := @slashed_putDust self slashPercentageBps
    rw [slashed, putDust_solvent, ← borne_eq_iff solvent total_pos slashes, borne_eq]
    obtain ⟨sum, vault, active, pending, disputed, counted, bounded⟩ := solvent
    constructor
    · intro passes
      have parts := passes.sum
      have counts := passes.counted
      simp only [reduced, putActive, putPending, putDisputed, putTotal, putVault] at parts counts
      constructor
      · linarith
      · by_cases all : slashPercentageBps = 10000
        · exact .inr (counts (sub_eq_zero.mpr (whole.mpr all).symm))
        · exact .inl (lt_of_le_of_ne bps_le all)
    · intro even
      constructor
      · simp only [reduced, putActive, putPending, putDisputed, putTotal, putVault]
        linarith [even.1]
      · exact congrArg (· - self.slashAmount slashPercentageBps) vault
      · exact sub_nonneg.mpr actives.le
      · exact sub_nonneg.mpr pendings.le
      · exact sub_nonneg.mpr disputes.le
      · intro zero
        have all := whole.mp (sub_eq_zero.mp zero).symm
        exact even.2.resolve_left (not_lt.mpr all.ge)
      · exact (sub_le_self _ amount_nonneg).trans bounded

/-! ### The law of a slash -/

/-- A slash takes the rounded part of the total and of the vault, and some of each component. -/
structure EscrowInvariant.SlashedBy (slashPercentageBps : U32) (before after : EscrowInvariant) :
    Prop where
  total : after.totalEscrowed =
    before.totalEscrowed - before.totalEscrowed * slashPercentageBps / 10000
  vault : after.vaultTotalLocked =
    before.vaultTotalLocked - before.totalEscrowed * slashPercentageBps / 10000
  active : 0 ≤ after.activeDeposits ∧ after.activeDeposits ≤ before.activeDeposits
  pending : 0 ≤ after.pendingYield ∧ after.pendingYield ≤ before.pendingYield
  disputed : 0 ≤ after.disputedFunds ∧ after.disputedFunds ≤ before.disputedFunds
  verified : after.verifyCoreInvariant = .ok ()

theorem reduced_slashedBy (solvent : self.Solvent)
    (slashes : Slashable slashPercentageBps self)
    (left : (self.reduced slashPercentageBps).Solvent) :
    SlashedBy slashPercentageBps self (self.reduced slashPercentageBps) := by
  obtain ⟨actives, pendings, disputes⟩ := bearing solvent slashes
  constructor
  · rfl
  · rfl
  · exact ⟨left.active_nonneg, sub_le_self _ actives.nonneg⟩
  · exact ⟨left.pending_nonneg, sub_le_self _ pendings.nonneg⟩
  · exact ⟨left.disputed_nonneg, sub_le_self _ disputes.nonneg⟩
  · exact verifyCoreInvariant_eq_ok.mpr left

/-- Counting the lost units does not make up for them: the check finds them missing from the
total. -/
theorem truncated_fails (insolvent : ¬ (self.reduced slashPercentageBps).Solvent)
    (lost : I128) (after : EscrowInvariant) :
    ¬ Commits (do
        let dustCumulative ← safeAdd self.dustCumulative lost
        modify (putDust dustCumulative)
        verify : Body Unit) (self.reduced slashPercentageBps) () after := by
  intro run
  unfold Commits at run
  cases counted : addI128 self.dustCumulative lost with
  | none =>
      rw [safeAdd, safely, execute_fetch_bind_of_none counted] at run
      cases run
  | some dustCumulative =>
      rw [safeAdd, safely, execute_fetch_bind counted, execute_modify_bind] at run
      have counted_insolvent := mt (putDust_solvent dustCumulative).mp insolvent
      obtain ⟨violation, failed⟩ := verify_of_not_solvent counted_insolvent
      rw [failed] at run
      cases run

/-- On a tracker that passes the check, a slash that leaves something works exactly when nothing
is rounded. -/
theorem slash_works_iff {self : EscrowInvariant} {slashPercentageBps : U32}
    (verified : self.verifyCoreInvariant = .ok ())
    (fits : self.totalEscrowed * 10000 ≤ i128Max) (bps_le : slashPercentageBps ≤ 10000)
    (remains : 0 < self.totalEscrowed - self.totalEscrowed * slashPercentageBps / 10000) :
    (∃ after, Commits (applyPartialSlashing slashPercentageBps) self () after ∧
      SlashedBy slashPercentageBps self after) ↔ self.SplitsEvenly slashPercentageBps := by
  have solvent := verifyCoreInvariant_eq_ok.mp verified
  have bps : (slashPercentageBps : Int) ≤ 10000 := by exact_mod_cast bps_le
  have narrow : self.totalEscrowed * slashPercentageBps ≤ i128Max :=
    (mul_le_mul_of_nonneg_left bps solvent.total_nonneg).trans fits
  have total_pos : 0 < self.totalEscrowed := by
    apply lt_of_le_of_ne solvent.total_nonneg
    intro empty
    have nothing := @slashAmount_of_empty self slashPercentageBps empty.symm
    rw [slashAmount] at nothing
    rw [nothing, ← empty] at remains
    exact absurd remains (lt_irrefl 0)
  have part : slashPercentageBps ≠ 10000 := by
    intro all
    have whole := (slashAmount_eq_total_iff total_pos bps_le).mpr all
    rw [slashAmount] at whole
    rw [whole, sub_self] at remains
    exact absurd remains (lt_irrefl 0)
  have below : slashPercentageBps < 10000 := lt_of_le_of_ne bps_le part
  have slashes := slashable total_pos bps_le narrow
  have ran := slash_execute_of_solvent solvent total_pos bps_le narrow
  have passes : (self.reduced slashPercentageBps).Solvent ↔
      self.SplitsEvenly slashPercentageBps := by
    obtain ⟨dust, slashed⟩ := @slashed_putDust self slashPercentageBps
    have checked := slashed_solvent solvent bps_le narrow
    rw [slashed, putDust_solvent] at checked
    rw [checked]
    exact and_iff_left (.inl below)
  constructor
  · intro works
    obtain ⟨after, run, _⟩ := works
    rw [Commits, ran] at run
    by_contra uneven
    have insolvent := mt passes.mp uneven
    split at run
    · exact truncated_fails insolvent _ _ run
    · obtain ⟨violation, failed⟩ := verify_of_not_solvent insolvent
      rw [failed] at run
      cases run
  · intro even
    have left := passes.mpr even
    refine ⟨self.reduced slashPercentageBps, ?_, reduced_slashedBy solvent slashes left⟩
    rw [Commits, ran, if_neg (borne_not_lt solvent bps_le narrow even)]
    exact verify_of_solvent left

/-- A total of two equal parts. -/
def evenTracker : EscrowInvariant :=
  { EscrowInvariant.new with
    totalEscrowed := 20000
    activeDeposits := 10000
    pendingYield := 10000
    vaultTotalLocked := 20000
    leaseCount := 2 }

theorem evenTracker_slashed :
    (evenTracker.verifyCoreInvariant = .ok () ∧ evenTracker.totalEscrowed * 10000 ≤ i128Max) ∧
    ∃ after, Commits (applyPartialSlashing 5000) evenTracker () after ∧
      SlashedBy 5000 evenTracker after := by
  have verified : evenTracker.verifyCoreInvariant = .ok () := by decide
  have fits : evenTracker.totalEscrowed * 10000 ≤ i128Max := by decide
  refine ⟨⟨verified, fits⟩, (slash_works_iff verified fits (by decide) (by decide)).mpr ?_⟩
  refine ⟨5000, by decide, ?_⟩
  decide

/-- Half of three units is one unit, 3333 basis points of the total, and nothing of the
deposits. -/
def threeUnits : EscrowInvariant :=
  { EscrowInvariant.new with
    totalEscrowed := 3
    activeDeposits := 3
    vaultTotalLocked := 3
    leaseCount := 1 }

theorem threeUnits_slash_fails :
    ¬ ∀ (self : EscrowInvariant) (slashPercentageBps : U32),
      self.verifyCoreInvariant = .ok () → self.totalEscrowed * 10000 ≤ i128Max →
      slashPercentageBps ≤ 10000 →
      0 < self.totalEscrowed - self.totalEscrowed * slashPercentageBps / 10000 →
      ∃ after, Commits (applyPartialSlashing slashPercentageBps) self () after ∧
        SlashedBy slashPercentageBps self after := by
  intro works
  obtain ⟨after, run, _⟩ :=
    works threeUnits 5000 (by decide) (by decide) (by decide) (by decide)
  have fails : (applyPartialSlashing 5000).succeeds threeUnits = false := by decide
  have went : (applyPartialSlashing 5000).succeeds threeUnits = true :=
    succeeds_iff.mpr ⟨(), after, run⟩
  rw [fails] at went
  cases went

end Passing

end LeaseFlow.Solvency
