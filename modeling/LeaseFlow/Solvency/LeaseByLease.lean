import LeaseFlow.Solvency.Conservation
import LeaseFlow.Solvency.Passing

/-!
# Leases settled one by one

The tracker keeps one total for all leases.  A settlement takes the amount of one lease off it; a
release has to give the whole total, and counts one lease off.
-/

set_option autoImplicit false

namespace LeaseFlow.Solvency

open Transaction EscrowInvariant

/-! ## Deposits of leases -/

/-- The deposits of the leases created, in order, and the tracker they leave after any yields and
disputes between them, refused ones included. -/
inductive Funded : List I128 → EscrowInvariant → Prop where
  | new : Funded [] EscrowInvariant.new
  | created {deposits : List I128} {tracker : EscrowInvariant} {depositAmount : I128}
      (funded : Funded deposits tracker) (positive : 0 < depositAmount)
      (succeeds : (applyLeaseCreation depositAmount).succeeds tracker = true) :
      Funded (deposits ++ [depositAmount]) (step (.leaseCreation depositAmount) tracker)
  | accumulated {deposits : List I128} {tracker : EscrowInvariant}
      (funded : Funded deposits tracker) (yieldAmount : I128) :
      Funded deposits (step (.yieldAccumulation yieldAmount) tracker)
  | disputed {deposits : List I128} {tracker : EscrowInvariant}
      (funded : Funded deposits tracker) (disputeAmount : I128) :
      Funded deposits (step (.disputeInitiation disputeAmount) tracker)

/-- The tracker holds the deposits together and counts them; nothing is lost as dust. -/
structure Pools (deposits : List I128) (tracker : EscrowInvariant) : Prop where
  sound : tracker.Sound
  total : tracker.totalEscrowed = deposits.sum
  counted : tracker.leaseCount = deposits.length
  positive : ∀ deposit ∈ deposits, 0 < deposit
  dustless : tracker.dustCumulative = 0

section Pools

variable {deposits : List I128} {self : EscrowInvariant}

theorem new_pools : Pools [] EscrowInvariant.new where
  sound := new_sound
  total := rfl
  counted := rfl
  positive := List.forall_mem_nil _
  dustless := rfl

theorem created_leaseCount {depositAmount : I128} :
    (self.created depositAmount).leaseCount = self.leaseCount + 1 := by
  obtain ⟨precision, created⟩ := @created_putPrecision self depositAmount
  rw [created]
  rfl

theorem Pools.created {depositAmount : I128} (pools : Pools deposits self)
    (positive : 0 < depositAmount)
    (succeeds : (applyLeaseCreation depositAmount).succeeds self = true) :
    Pools (deposits ++ [depositAmount]) (step (.leaseCreation depositAmount) self) := by
  have done : Completed (.leaseCreation depositAmount) self := completed pools.sound succeeds
  have left : step (.leaseCreation depositAmount) self = self.created depositAmount := done.left
  have sound := done.sound pools.sound
  rw [left] at sound ⊢
  constructor
  · exact sound
  · rw [created_totalEscrowed, pools.total, List.sum_append, List.sum_singleton]
  · rw [created_leaseCount, pools.counted, List.length_append, List.length_singleton]
  · intro deposit listed
    rcases List.mem_append.mp listed with earlier | last
    · exact pools.positive deposit earlier
    · rw [List.mem_singleton.mp last]
      exact positive
  · rw [created_dustCumulative]
    exact pools.dustless

/-- An accumulation that has no room in the precision counter fails after it has moved the
yield, which the components still make up the total with. -/
theorem Pools.accumulated (pools : Pools deposits self) (yieldAmount : I128) :
    Pools deposits (step (.yieldAccumulation yieldAmount) self) := by
  obtain ⟨sound, total, counted, positive, dustless⟩ := pools
  by_cases admitted : 0 ≤ yieldAmount ∧ yieldAmount ≤ self.activeDeposits
  · have ran := yield_execute sound admitted.1 admitted.2
    have solvent := yielded_solvent sound.solvent admitted.1 admitted.2
    by_cases spills : i128Max < self.precisionLossCumulative +
        simulateSorobanPrecisionLoss yieldAmount
    · rw [if_pos spills] at ran
      have left : step (.yieldAccumulation yieldAmount) self = self.accrued yieldAmount := by
        rw [step, leftBy, Operation.body, ran]
      rw [left]
      constructor
      · constructor
        · exact (putPrecision_solvent _).mp solvent
        · exact sound.precision_nonneg
        · exact sound.precision_le
        · exact sound.dust_nonneg
        · exact sound.dust_le
      · exact total
      · exact counted
      · exact positive
      · exact dustless
    · rw [if_neg spills, verify_of_solvent solvent] at ran
      have succeeds : (Operation.yieldAccumulation yieldAmount).body.succeeds self = true := by
        rw [Transaction.succeeds, Operation.body, ran]
      have done := completed sound succeeds
      have kept := done.sound sound
      have left : step (.yieldAccumulation yieldAmount) self = self.yielded yieldAmount :=
        done.left
      rw [left] at kept ⊢
      exact ⟨kept, total, counted, positive, dustless⟩
  · obtain ⟨violation, ran⟩ := yield_refused admitted
    have left : step (.yieldAccumulation yieldAmount) self = self := by
      rw [step, leftBy, Operation.body, ran]
    rw [left]
    exact ⟨sound, total, counted, positive, dustless⟩

theorem Pools.disputed (pools : Pools deposits self) (disputeAmount : I128) :
    Pools deposits (step (.disputeInitiation disputeAmount) self) := by
  obtain ⟨sound, total, counted, positive, dustless⟩ := pools
  by_cases admitted : 0 ≤ disputeAmount ∧
      disputeAmount ≤ self.activeDeposits + self.pendingYield
  · have ran := dispute_execute sound.solvent admitted.1 admitted.2
    have solvent := contested_solvent sound.solvent admitted.1 admitted.2
    rw [verify_of_solvent solvent] at ran
    have left : step (.disputeInitiation disputeAmount) self = self.contested disputeAmount := by
      rw [step, leftBy, Operation.body, ran]
    rw [left]
    constructor
    · constructor
      · exact solvent
      · exact sound.precision_nonneg
      · exact sound.precision_le
      · exact sound.dust_nonneg
      · exact sound.dust_le
    · exact total
    · exact counted
    · exact positive
    · exact dustless
  · obtain ⟨violation, ran⟩ := dispute_refused sound.solvent admitted
    have left : step (.disputeInitiation disputeAmount) self = self := by
      rw [step, leftBy, Operation.body, ran]
    rw [left]
    exact ⟨sound, total, counted, positive, dustless⟩

theorem Funded.pools (funded : Funded deposits self) : Pools deposits self := by
  induction funded with
  | new => exact new_pools
  | created _ positive succeeds ih => exact ih.created positive succeeds
  | accumulated _ yieldAmount ih => exact ih.accumulated yieldAmount
  | disputed _ disputeAmount ih => exact ih.disputed disputeAmount

end Pools

/-! ## One lease leaves -/

/-- One deposit is off the total and one lease off the count; the other deposits are left. -/
structure CountsOff (deposits : List I128) (index : Fin deposits.length)
    (before after : EscrowInvariant) : Prop where
  total : after.totalEscrowed = before.totalEscrowed - deposits.get index
  count : after.leaseCount + 1 = before.leaseCount
  others : after.totalEscrowed = (deposits.eraseIdx index).sum

/-- Every settlement of a lease for its deposit goes through and takes the lease off. -/
def SettlesAlone (deposits : List I128) (index : Fin deposits.length)
    (tracker : EscrowInvariant) : Prop :=
  ∀ tenantRefund landlordPayout protocolFee : I128,
    0 ≤ tenantRefund ∧ 0 ≤ landlordPayout ∧ 0 ≤ protocolFee →
    tenantRefund + landlordPayout + protocolFee = deposits.get index →
    ∃ after, Commits (applyLeaseSettlement tenantRefund landlordPayout protocolFee) tracker ()
      after ∧ CountsOff deposits index tracker after

/-- Every release of a lease for its deposit goes through and takes the lease off. -/
def ReleasesAlone (deposits : List I128) (index : Fin deposits.length)
    (tracker : EscrowInvariant) : Prop :=
  ∀ returnAmount slashAmount : I128, 0 ≤ returnAmount ∧ 0 ≤ slashAmount →
    returnAmount + slashAmount = deposits.get index →
    ∃ after, Commits (applyMutualRelease returnAmount slashAmount) tracker () after ∧
      CountsOff deposits index tracker after

section Leaves

variable {deposits : List I128} {index : Fin deposits.length} {self : EscrowInvariant}

theorem Pools.total_eq (pools : Pools deposits self) (index : Fin deposits.length) :
    self.totalEscrowed = deposits.get index + (deposits.eraseIdx index).sum := by
  rw [pools.total]
  exact (List.add_sum_eraseIdx index.isLt fun amount _ => AddCommute.all _ amount).symm

theorem Pools.others_nonneg (pools : Pools deposits self) (index : Fin deposits.length) :
    0 ≤ (deposits.eraseIdx index).sum := by
  apply List.sum_nonneg
  intro deposit listed
  exact (pools.positive deposit (List.mem_of_mem_eraseIdx listed)).le

/-- The other deposits are nothing only where there is no other lease. -/
theorem Pools.others_eq_zero (pools : Pools deposits self) (index : Fin deposits.length) :
    (deposits.eraseIdx index).sum = 0 ↔ deposits.length = 1 := by
  have length := List.length_eraseIdx_add_one index.isLt
  constructor
  · intro nothing
    cases others : deposits.eraseIdx index with
    | nil =>
        rw [others] at length
        exact length.symm
    | cons first rest =>
        have each : ∀ deposit ∈ deposits.eraseIdx index, 0 < deposit :=
          fun deposit listed => pools.positive deposit (List.mem_of_mem_eraseIdx listed)
        rw [others] at each nothing
        have some := List.sum_pos (first :: rest) each (List.cons_ne_nil _ _)
        exact absurd nothing some.ne'
  · intro single
    have none : (deposits.eraseIdx index).length = 0 := Nat.succ.inj (length.trans single)
    rw [List.eq_nil_of_length_eq_zero none]
    rfl

/-- A settlement is compared with the whole total, of which a lease is never more than a part,
and its count with the leases that are left. -/
theorem Pools.settlesAlone (pools : Pools deposits self) (index : Fin deposits.length) :
    SettlesAlone deposits index self := by
  intro tenantRefund landlordPayout protocolFee nonneg adds
  have positive := pools.positive _ (List.get_mem deposits index)
  have total := pools.total_eq index
  have others := pools.others_nonneg index
  have within : tenantRefund + landlordPayout + protocolFee ≤ self.totalEscrowed := by
    rw [adds, total]
    exact le_add_of_nonneg_right others
  have settlement_nonneg : 0 ≤ tenantRefund + landlordPayout + protocolFee := by
    rw [adds]
    exact positive.le
  have ran := settlement_execute pools.sound nonneg within
  have room : ¬ i128Max < self.dustCumulative +
      (self.totalEscrowed - (tenantRefund + landlordPayout + protocolFee)) := by
    rw [pools.dustless, zero_add, not_lt]
    exact (sub_le_self _ settlement_nonneg).trans pools.sound.solvent.bounded
  have passes : (self.settled (tenantRefund + landlordPayout + protocolFee)).Solvent := by
    apply (settled_solvent pools.sound.solvent settlement_nonneg within).mpr
    by_cases single : deposits.length = 1
    · right
      right
      rw [pools.counted, single]
    · left
      intro all
      apply single
      apply (pools.others_eq_zero index).mp
      rw [adds, total] at all
      exact left_eq_add.mp all
  rw [if_neg room, verify_of_solvent passes] at ran
  refine ⟨_, ran, ?_⟩
  have positive' : tenantRefund + landlordPayout + protocolFee > 0 := by
    rw [adds]
    exact positive
  have count : (self.settled (tenantRefund + landlordPayout + protocolFee)).leaseCount =
      self.leaseCount - 1 := by
    rw [settled, if_pos positive']
    rfl
  constructor
  · rw [settled_totalEscrowed, adds]
  · rw [count, pools.counted]
    exact Nat.sub_add_cancel (Nat.lt_of_le_of_lt (Nat.zero_le index) index.isLt)
  · rw [settled_totalEscrowed, adds, total]
    exact add_sub_cancel_left _ _

/-- A release has to name the total of all leases, so that it fits a single lease only. -/
theorem Pools.releasesAlone_iff (pools : Pools deposits self) (index : Fin deposits.length) :
    ReleasesAlone deposits index self ↔ deposits.length = 1 := by
  have positive := pools.positive _ (List.get_mem deposits index)
  have total := pools.total_eq index
  rw [← pools.others_eq_zero index]
  constructor
  · intro releases
    obtain ⟨after, run, _⟩ :=
      releases (deposits.get index) 0 ⟨positive.le, Int.le_refl 0⟩ (add_zero _)
    by_contra others
    have refused : ¬ ((0 ≤ deposits.get index ∧ (0 : I128) ≤ 0) ∧
        deposits.get index + 0 = self.totalEscrowed) := by
      intro both
      apply others
      have same := both.2
      rw [add_zero, total] at same
      exact left_eq_add.mp same
    obtain ⟨violation, ran⟩ := release_refused refused
    rw [Commits, ran] at run
    cases run
  · intro nothing returnAmount slashAmount nonneg adds
    have single := (pools.others_eq_zero index).mp nothing
    have all : returnAmount + slashAmount = self.totalEscrowed := by
      rw [adds, total, nothing, add_zero]
    have ran := release_execute pools.sound.solvent nonneg all
    have passes : self.clear.Solvent := by
      apply clear_solvent.mpr
      rw [pools.counted, single]
    rw [verify_of_solvent passes] at ran
    refine ⟨_, ran, ?_⟩
    constructor
    · show (0 : Int) = _
      rw [total, nothing, add_zero, sub_self]
    · show self.leaseCount - 1 + 1 = self.leaseCount
      rw [pools.counted, single]
    · exact nothing.symm

/-- A lease is always settled without touching the others, and released without touching them
exactly where there are no others. -/
theorem leaves_alone_iff (funded : Funded deposits self) (index : Fin deposits.length) :
    SettlesAlone deposits index self ∧
      (SettlesAlone deposits index self ∧ ReleasesAlone deposits index self ↔
        deposits.length = 1) := by
  have pools := funded.pools
  have settles := pools.settlesAlone index
  refine ⟨settles, ?_⟩
  rw [← pools.releasesAlone_iff index]
  exact and_iff_right settles

end Leaves

/-- Two leases of ten units. -/
theorem twoLeases_funded :
    Funded [10, 10] (step (.leaseCreation 10) (step (.leaseCreation 10) EscrowInvariant.new)) := by
  have first : Funded [10] (step (.leaseCreation 10) EscrowInvariant.new) :=
    .created .new (by decide) rfl
  exact .created first (by decide) rfl

theorem twoLeases_leave_alone_iff :
    SettlesAlone [10, 10] 0
        (step (.leaseCreation 10) (step (.leaseCreation 10) EscrowInvariant.new)) ∧
      (SettlesAlone [10, 10] 0
          (step (.leaseCreation 10) (step (.leaseCreation 10) EscrowInvariant.new)) ∧
        ReleasesAlone [10, 10] 0
          (step (.leaseCreation 10) (step (.leaseCreation 10) EscrowInvariant.new)) ↔
        ([10, 10] : List I128).length = 1) :=
  leaves_alone_iff twoLeases_funded 0

/-- Releasing the ten units of one of two leases is refused, as the total is twenty. -/
theorem twoLeases_release_refused :
    ¬ ∀ (deposits : List I128) (tracker : EscrowInvariant), Funded deposits tracker →
      ∀ index : Fin deposits.length,
        SettlesAlone deposits index tracker ∧ ReleasesAlone deposits index tracker := by
  intro leave
  obtain ⟨_, releases⟩ := leave _ _ twoLeases_funded 0
  obtain ⟨after, run, _⟩ := releases 10 0 (by decide) (by decide)
  have fails : (applyMutualRelease 10 0).succeeds
      (step (.leaseCreation 10) (step (.leaseCreation 10) EscrowInvariant.new)) = false := by
    decide
  have went := succeeds_iff.mpr ⟨(), after, run⟩
  rw [fails] at went
  cases went

end LeaseFlow.Solvency
