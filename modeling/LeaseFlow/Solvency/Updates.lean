import LeaseFlow.Solvency.Solvent

/-!
# What an update leaves of a solvent tracker

On a solvent tracker the sums an operation builds cannot overflow before its counters do, so that
what it does is read off its body: it is refused, or it hands a tracker to the closing check.
-/

set_option autoImplicit false

namespace LeaseFlow.Solvency

open Transaction EscrowInvariant

/-! ## Creation -/

namespace EscrowInvariant

def deposited (depositAmount : I128) (self : EscrowInvariant) : EscrowInvariant :=
  (((self.putTotal (self.totalEscrowed + depositAmount)).putActive
    (self.activeDeposits + depositAmount)).putVault
    (self.vaultTotalLocked + depositAmount)).putCount (self.leaseCount + 1)

/-- The tracker a creation hands to the closing check. -/
def created (depositAmount : I128) (self : EscrowInvariant) : EscrowInvariant :=
  if depositAmount > 1000000 then
    (self.deposited depositAmount).putPrecision
      (self.precisionLossCumulative + simulateSorobanPrecisionLoss depositAmount)
  else
    self.deposited depositAmount

end EscrowInvariant

section Creation

variable {self : EscrowInvariant} {depositAmount : I128}

/-- A creation differs from its deposit in the precision counter alone. -/
theorem created_putPrecision : ∃ precision,
    self.created depositAmount = (self.deposited depositAmount).putPrecision precision := by
  unfold created
  split
  · exact ⟨_, rfl⟩
  · exact ⟨self.precisionLossCumulative, rfl⟩

theorem created_totalEscrowed :
    (self.created depositAmount).totalEscrowed = self.totalEscrowed + depositAmount := by
  obtain ⟨precision, created⟩ := @created_putPrecision self depositAmount
  rw [created]
  rfl

theorem created_dustCumulative :
    (self.created depositAmount).dustCumulative = self.dustCumulative := by
  obtain ⟨precision, created⟩ := @created_putPrecision self depositAmount
  rw [created]
  rfl

theorem creation_of_negative (negative : depositAmount < 0) :
    (applyLeaseCreation depositAmount).execute self =
      (.error (.err (.negativeDepositAmount depositAmount)), self) :=
  execute_ensure_bind_of_not (not_le.mpr negative) _ _

theorem creation_of_overflow (nonneg : 0 ≤ depositAmount)
    (exceeds : i128Max < self.totalEscrowed + depositAmount) :
    (applyLeaseCreation depositAmount).execute self =
      (.error (.err .calculationOverflow), self) := by
  rw [applyLeaseCreation, execute_ensure_bind nonneg, execute_get_bind]
  exact execute_fetch_bind_of_none (addI128_eq_none exceeds) _ _

theorem creation_execute (sound : self.Sound) (nonneg : 0 ≤ depositAmount)
    (fits : self.totalEscrowed + depositAmount ≤ i128Max) :
    (applyLeaseCreation depositAmount).execute self =
      if u64Max < self.leaseCount + 1 then
        (.error .panic, ((self.putTotal (self.totalEscrowed + depositAmount)).putActive
          (self.activeDeposits + depositAmount)).putVault (self.vaultTotalLocked + depositAmount))
      else if 1000000 < depositAmount ∧ i128Max < self.precisionLossCumulative +
          simulateSorobanPrecisionLoss depositAmount then
        (.error (.err .calculationOverflow), self.deposited depositAmount)
      else
        verify.execute (self.created depositAmount) := by
  have solvent := sound.solvent
  have total := solvent.total_nonneg
  have active_le : self.activeDeposits ≤ self.totalEscrowed := by
    linarith [solvent.sum, solvent.pending_nonneg, solvent.disputed_nonneg]
  have vault := solvent.synchronized
  have totals := addI128_of_nonneg total nonneg fits
  have actives : addI128 self.activeDeposits depositAmount =
      some (self.activeDeposits + depositAmount) := by
    apply addI128_of_nonneg solvent.active_nonneg nonneg
    linarith
  have vaults : addI128 self.vaultTotalLocked depositAmount =
      some (self.vaultTotalLocked + depositAmount) := by
    rw [vault]
    exact totals
  rw [applyLeaseCreation, execute_ensure_bind nonneg, execute_get_bind]
  simp only [safeAdd, safely, compute]
  rw [execute_fetch_bind totals, execute_modify_bind, execute_fetch_bind actives,
    execute_modify_bind, execute_fetch_bind vaults, execute_modify_bind]
  by_cases full : u64Max < self.leaseCount + 1
  · rw [if_pos full]
    exact execute_fetch_bind_of_none (if_neg (not_le.mpr full)) _ _
  · have count : addU64 self.leaseCount 1 = some (self.leaseCount + 1) :=
      Checked.upTo_of_le (not_lt.mp full)
    rw [if_neg full, execute_fetch_bind count, execute_modify_bind, created]
    by_cases large : depositAmount > 1000000
    · rw [if_pos large, if_pos large]
      by_cases spills : i128Max < self.precisionLossCumulative +
          simulateSorobanPrecisionLoss depositAmount
      · rw [if_pos ⟨large, spills⟩]
        exact execute_fetch_bind_of_none (addI128_eq_none spills) _ _
      · have loss := simulateSorobanPrecisionLoss_nonneg depositAmount
        have precision := addI128_of_nonneg sound.precision_nonneg loss (not_lt.mp spills)
        rw [if_neg fun both => spills both.2]
        exact execute_fetch_bind precision _ _
    · rw [if_neg large, if_neg large, if_neg fun both => large both.1]
      rfl

end Creation

/-! ## Yield and disputes -/

namespace EscrowInvariant

def accrued (yieldAmount : I128) (self : EscrowInvariant) : EscrowInvariant :=
  (self.putActive (self.activeDeposits - yieldAmount)).putPending (self.pendingYield + yieldAmount)

/-- The tracker a yield accumulation hands to the closing check. -/
def yielded (yieldAmount : I128) (self : EscrowInvariant) : EscrowInvariant :=
  (self.accrued yieldAmount).putPrecision
    (self.precisionLossCumulative + simulateSorobanPrecisionLoss yieldAmount)

/-- The tracker a dispute hands to the closing check. -/
def contested (disputeAmount : I128) (self : EscrowInvariant) : EscrowInvariant :=
  ((self.putPending (self.pendingYield - min disputeAmount self.pendingYield)).putActive
    (self.activeDeposits - (disputeAmount - min disputeAmount self.pendingYield))).putDisputed
    (self.disputedFunds + disputeAmount)

end EscrowInvariant

section YieldAndDisputes

variable {self : EscrowInvariant} {yieldAmount disputeAmount : I128}

theorem yield_refused (refused : ¬ (0 ≤ yieldAmount ∧ yieldAmount ≤ self.activeDeposits)) :
    ∃ violation, (applyYieldAccumulation yieldAmount).execute self =
      (.error (.err violation), self) := by
  by_cases nonneg : 0 ≤ yieldAmount
  · have exceeds : ¬ yieldAmount ≤ self.activeDeposits := fun le => refused ⟨nonneg, le⟩
    rw [applyYieldAccumulation, execute_ensure_bind nonneg, execute_get_bind]
    exact ⟨_, execute_ensure_bind_of_not exceeds _ _⟩
  · exact ⟨_, execute_ensure_bind_of_not nonneg _ _⟩

theorem yield_execute (sound : self.Sound) (nonneg : 0 ≤ yieldAmount)
    (within : yieldAmount ≤ self.activeDeposits) :
    (applyYieldAccumulation yieldAmount).execute self =
      if i128Max < self.precisionLossCumulative + simulateSorobanPrecisionLoss yieldAmount then
        (.error (.err .calculationOverflow), self.accrued yieldAmount)
      else
        verify.execute (self.yielded yieldAmount) := by
  obtain ⟨sum, _, active, pending, disputed, _, bounded⟩ := sound.solvent
  have actives := subI128_of_le nonneg within (by linarith)
  have pendings := addI128_of_nonneg pending nonneg (by linarith)
  rw [applyYieldAccumulation, execute_ensure_bind nonneg, execute_get_bind,
    execute_ensure_bind within]
  simp only [safeAdd, safeSub, safely]
  rw [execute_fetch_bind actives, execute_modify_bind, execute_fetch_bind pendings,
    execute_modify_bind]
  by_cases spills : i128Max < self.precisionLossCumulative +
      simulateSorobanPrecisionLoss yieldAmount
  · rw [if_pos spills]
    exact execute_fetch_bind_of_none (addI128_eq_none spills) _ _
  · have loss := simulateSorobanPrecisionLoss_nonneg yieldAmount
    have precision := addI128_of_nonneg sound.precision_nonneg loss (not_lt.mp spills)
    rw [if_neg spills]
    exact execute_fetch_bind precision _ _

theorem dispute_refused (solvent : self.Solvent)
    (refused : ¬ (0 ≤ disputeAmount ∧ disputeAmount ≤ self.activeDeposits + self.pendingYield)) :
    ∃ violation, (applyDisputeInitiation disputeAmount).execute self =
      (.error (.err violation), self) := by
  obtain ⟨sum, _, active, pending, disputed, _, bounded⟩ := solvent
  by_cases nonneg : 0 ≤ disputeAmount
  · have exceeds : ¬ disputeAmount ≤ self.activeDeposits + self.pendingYield :=
      fun le => refused ⟨nonneg, le⟩
    have available := addI128_of_nonneg active pending (by linarith)
    rw [applyDisputeInitiation, execute_ensure_bind nonneg, execute_get_bind]
    simp only [safeAdd, safely]
    rw [execute_fetch_bind available]
    exact ⟨_, execute_ensure_bind_of_not exceeds _ _⟩
  · exact ⟨_, execute_ensure_bind_of_not nonneg _ _⟩

theorem dispute_execute (solvent : self.Solvent) (nonneg : 0 ≤ disputeAmount)
    (within : disputeAmount ≤ self.activeDeposits + self.pendingYield) :
    (applyDisputeInitiation disputeAmount).execute self =
      verify.execute (self.contested disputeAmount) := by
  obtain ⟨sum, _, active, pending, disputed, _, bounded⟩ := solvent
  have available := addI128_of_nonneg active pending (by linarith)
  have fromPending_le : min disputeAmount self.pendingYield ≤ disputeAmount := min_le_left _ _
  have fromPending_nonneg : 0 ≤ min disputeAmount self.pendingYield := le_min nonneg pending
  have fromActive_le : disputeAmount - min disputeAmount self.pendingYield ≤
      self.activeDeposits := by
    rcases min_choice disputeAmount self.pendingYield with least | least <;> rw [least] <;> linarith
  have fromActives := subI128_of_le fromPending_nonneg fromPending_le (by linarith)
  have pendings := subI128_of_le fromPending_nonneg
    (min_le_right disputeAmount self.pendingYield) (by linarith)
  have actives := subI128_of_le (sub_nonneg.mpr fromPending_le) fromActive_le (by linarith)
  have disputes := addI128_of_nonneg disputed nonneg (by linarith)
  rw [applyDisputeInitiation, execute_ensure_bind nonneg, execute_get_bind]
  simp only [safeAdd, safeSub, safely]
  rw [execute_fetch_bind available, execute_ensure_bind within, execute_fetch_bind fromActives,
    execute_fetch_bind pendings, execute_modify_bind, execute_fetch_bind actives,
    execute_modify_bind, execute_fetch_bind disputes, execute_modify_bind]
  rfl

end YieldAndDisputes

/-! ## Settlement and release -/

namespace EscrowInvariant

/-- What each component gives to a settlement. -/
def sources (totalSettlement : I128) (self : EscrowInvariant) : Sources where
  fromDisputed := min totalSettlement self.disputedFunds
  fromPending := min (totalSettlement - min totalSettlement self.disputedFunds) self.pendingYield
  fromActive := min (totalSettlement - min totalSettlement self.disputedFunds -
    min (totalSettlement - min totalSettlement self.disputedFunds) self.pendingYield)
    self.activeDeposits

def paidFrom (totalSettlement : I128) (self : EscrowInvariant) : EscrowInvariant :=
  (((((self.putDust (self.dustCumulative + (self.totalEscrowed - totalSettlement))).putDisputed
    (self.disputedFunds - (self.sources totalSettlement).fromDisputed)).putPending
    (self.pendingYield - (self.sources totalSettlement).fromPending)).putActive
    (self.activeDeposits - (self.sources totalSettlement).fromActive)).putTotal
    (self.totalEscrowed - totalSettlement)).putVault (self.vaultTotalLocked - totalSettlement)

/-- The tracker a settlement hands to the closing check. -/
def settled (totalSettlement : I128) (self : EscrowInvariant) : EscrowInvariant :=
  if totalSettlement > 0 then (self.paidFrom totalSettlement).putCount (self.leaseCount - 1)
  else self.paidFrom totalSettlement

end EscrowInvariant

/-- Each source gives some of its component. -/
structure Drawn (totalSettlement : I128) (tracker : EscrowInvariant) : Prop where
  disputed_nonneg : 0 ≤ (tracker.sources totalSettlement).fromDisputed
  disputed_le : (tracker.sources totalSettlement).fromDisputed ≤ tracker.disputedFunds
  pending_nonneg : 0 ≤ (tracker.sources totalSettlement).fromPending
  pending_le : (tracker.sources totalSettlement).fromPending ≤ tracker.pendingYield
  active_nonneg : 0 ≤ (tracker.sources totalSettlement).fromActive
  active_le : (tracker.sources totalSettlement).fromActive ≤ tracker.activeDeposits

/-- The sources of a settlement of at most the total give it in full. -/
structure Covers (totalSettlement : I128) (tracker : EscrowInvariant) : Prop
    extends Drawn totalSettlement tracker where
  sum : (tracker.sources totalSettlement).fromDisputed +
    (tracker.sources totalSettlement).fromPending +
    (tracker.sources totalSettlement).fromActive = totalSettlement

/-- What two sources leave of a need they share with a third is within the third. -/
theorem rest_le_last {need first second third : Int} (third_nonneg : 0 ≤ third)
    (second_nonneg : 0 ≤ second) (within : need ≤ first + second + third) :
    need - min need first - min (need - min need first) second ≤ third := by
  omega

section Settlement

variable {self : EscrowInvariant} {totalSettlement : I128}

/-- A settlement differs from its payment in the lease count alone. -/
theorem settled_putCount : ∃ leaseCount,
    self.settled totalSettlement = (self.paidFrom totalSettlement).putCount leaseCount := by
  unfold settled
  split
  · exact ⟨_, rfl⟩
  · exact ⟨self.leaseCount, rfl⟩

theorem settled_totalEscrowed :
    (self.settled totalSettlement).totalEscrowed = self.totalEscrowed - totalSettlement := by
  obtain ⟨leaseCount, settled⟩ := @settled_putCount self totalSettlement
  rw [settled]
  rfl

theorem settled_precisionLossCumulative :
    (self.settled totalSettlement).precisionLossCumulative = self.precisionLossCumulative := by
  obtain ⟨leaseCount, settled⟩ := @settled_putCount self totalSettlement
  rw [settled]
  rfl

theorem settled_dustCumulative :
    (self.settled totalSettlement).dustCumulative =
      self.dustCumulative + (self.totalEscrowed - totalSettlement) := by
  obtain ⟨leaseCount, settled⟩ := @settled_putCount self totalSettlement
  rw [settled]
  rfl

theorem drawn (solvent : self.Solvent) (nonneg : 0 ≤ totalSettlement) :
    Drawn totalSettlement self := by
  obtain ⟨sum, _, active, pending, disputed, _, _⟩ := solvent
  have fromDisputed_le := min_le_left totalSettlement self.disputedFunds
  have remaining_nonneg : 0 ≤ totalSettlement - min totalSettlement self.disputedFunds :=
    sub_nonneg.mpr fromDisputed_le
  have fromPending_le := min_le_left (totalSettlement - min totalSettlement self.disputedFunds)
    self.pendingYield
  constructor
  · exact le_min nonneg disputed
  · exact min_le_right _ _
  · exact le_min remaining_nonneg pending
  · exact min_le_right _ _
  · exact le_min (sub_nonneg.mpr fromPending_le) active
  · exact min_le_right _ _

theorem covers (solvent : self.Solvent) (nonneg : 0 ≤ totalSettlement)
    (within : totalSettlement ≤ self.totalEscrowed) : Covers totalSettlement self := by
  have sum := solvent.sum
  have rest_le := rest_le_last solvent.active_nonneg solvent.pending_nonneg
    (by linarith : totalSettlement ≤
      self.disputedFunds + self.pendingYield + self.activeDeposits)
  have draws := drawn solvent nonneg
  refine ⟨draws, ?_⟩
  simp only [sources]
  rw [min_eq_left rest_le]
  linarith

theorem calculateSettlementSources_eq (solvent : self.Solvent) (nonneg : 0 ≤ totalSettlement)
    (within : totalSettlement ≤ self.totalEscrowed) :
    calculateSettlementSources totalSettlement self.disputedFunds self.pendingYield
      self.activeDeposits = some (self.sources totalSettlement) := by
  have covered := covers solvent nonneg within
  have bounded := solvent.bounded
  have fromDisputed_le := min_le_left totalSettlement self.disputedFunds
  have remaining := subI128_of_le covered.disputed_nonneg fromDisputed_le (by linarith)
  have fromPending_le := min_le_left (totalSettlement - min totalSettlement self.disputedFunds)
    self.pendingYield
  have fromDisputed_nonneg : 0 ≤ min totalSettlement self.disputedFunds := covered.disputed_nonneg
  have rest := subI128_of_le covered.pending_nonneg fromPending_le (by linarith)
  simp only [sources] at remaining rest
  unfold calculateSettlementSources
  simp only [remaining, rest, Option.bind_eq_bind, Option.bind_some]
  rfl

variable {tenantRefund landlordPayout protocolFee returnAmount slashAmount : I128}

theorem settlement_refused
    (refused : ¬ ((0 ≤ tenantRefund ∧ 0 ≤ landlordPayout ∧ 0 ≤ protocolFee) ∧
      tenantRefund + landlordPayout + protocolFee ≤ self.totalEscrowed)) :
    ∃ violation, (applyLeaseSettlement tenantRefund landlordPayout protocolFee).execute self =
      (.error (.err violation), self) := by
  by_cases nonneg : 0 ≤ tenantRefund ∧ 0 ≤ landlordPayout ∧ 0 ≤ protocolFee
  · obtain ⟨tenant, landlord, protocol⟩ := id nonneg
    rw [applyLeaseSettlement, execute_ensure_bind nonneg]
    simp only [safeAdd, safely]
    by_cases first : i128Max < tenantRefund + landlordPayout
    · exact ⟨_, execute_fetch_bind_of_none (addI128_eq_none first) _ _⟩
    · have refunds := addI128_of_nonneg tenant landlord (not_lt.mp first)
      rw [execute_fetch_bind refunds]
      by_cases second : i128Max < tenantRefund + landlordPayout + protocolFee
      · exact ⟨_, execute_fetch_bind_of_none (addI128_eq_none second) _ _⟩
      · have total := addI128_of_nonneg (add_nonneg tenant landlord) protocol (not_lt.mp second)
        rw [execute_fetch_bind total, execute_get_bind]
        exact ⟨_, execute_ensure_bind_of_not (fun le => refused ⟨nonneg, le⟩) _ _⟩
  · exact ⟨_, execute_ensure_bind_of_not nonneg _ _⟩

theorem calculateSettlementDust_eq (solvent : self.Solvent) (nonneg : 0 ≤ totalSettlement)
    (within : totalSettlement ≤ self.totalEscrowed) :
    calculateSettlementDust totalSettlement self.totalEscrowed =
      some (self.totalEscrowed - totalSettlement) := by
  unfold calculateSettlementDust
  by_cases all : totalSettlement = self.totalEscrowed
  · rw [if_pos all, all, sub_self]
    rfl
  · rw [if_neg all]
    exact subI128_of_le nonneg within solvent.bounded

theorem settlement_execute (sound : self.Sound)
    (nonneg : 0 ≤ tenantRefund ∧ 0 ≤ landlordPayout ∧ 0 ≤ protocolFee)
    (within : tenantRefund + landlordPayout + protocolFee ≤ self.totalEscrowed) :
    (applyLeaseSettlement tenantRefund landlordPayout protocolFee).execute self =
      if i128Max < self.dustCumulative +
          (self.totalEscrowed - (tenantRefund + landlordPayout + protocolFee)) then
        (.error (.err .calculationOverflow), self)
      else
        verify.execute (self.settled (tenantRefund + landlordPayout + protocolFee)) := by
  have solvent := sound.solvent
  have bounded := solvent.bounded
  obtain ⟨tenant, landlord, protocol⟩ := id nonneg
  have refunds := addI128_of_nonneg tenant landlord (by linarith)
  have total := addI128_of_nonneg (add_nonneg tenant landlord) protocol (by linarith)
  have total_nonneg := add_nonneg (add_nonneg tenant landlord) protocol
  have dust := calculateSettlementDust_eq solvent total_nonneg within
  rw [applyLeaseSettlement, execute_ensure_bind nonneg]
  simp only [safeAdd, safeSub, safely, compute]
  rw [execute_fetch_bind refunds, execute_fetch_bind total, execute_get_bind,
    execute_ensure_bind within, execute_fetch_bind dust]
  generalize tenantRefund + landlordPayout + protocolFee = totalSettlement at *
  by_cases spills : i128Max < self.dustCumulative + (self.totalEscrowed - totalSettlement)
  · rw [if_pos spills]
    exact execute_fetch_bind_of_none (addI128_eq_none spills) _ _
  · have dusts := addI128_of_nonneg sound.dust_nonneg (sub_nonneg.mpr within) (not_lt.mp spills)
    have covered := covers solvent total_nonneg within
    have vault := solvent.synchronized
    have some_sources := calculateSettlementSources_eq solvent total_nonneg within
    have partials := addI128_of_nonneg covered.disputed_nonneg covered.pending_nonneg
      (by linarith [covered.sum, covered.active_nonneg])
    have summed := addI128_of_nonneg
      (add_nonneg covered.disputed_nonneg covered.pending_nonneg) covered.active_nonneg
      (by linarith [covered.sum])
    have totals := solvent.sum
    have active := solvent.active_nonneg
    have pending := solvent.pending_nonneg
    have disputed := solvent.disputed_nonneg
    have disputes := subI128_of_le covered.disputed_nonneg covered.disputed_le (by linarith)
    have pendings := subI128_of_le covered.pending_nonneg covered.pending_le (by linarith)
    have actives := subI128_of_le covered.active_nonneg covered.active_le (by linarith)
    have escrowed := subI128_of_le total_nonneg within bounded
    have vaults : subI128 self.vaultTotalLocked totalSettlement =
        some (self.vaultTotalLocked - totalSettlement) := by
      rw [vault]
      exact escrowed
    rw [if_neg spills, execute_fetch_bind dusts, execute_modify_bind,
      execute_fetch_bind some_sources, execute_fetch_bind partials, execute_fetch_bind summed,
      execute_ensure_bind covered.sum, execute_fetch_bind disputes, execute_modify_bind,
      execute_fetch_bind pendings, execute_modify_bind, execute_fetch_bind actives,
      execute_modify_bind, execute_fetch_bind escrowed, execute_modify_bind,
      execute_fetch_bind vaults, execute_modify_bind, settled]
    by_cases positive : totalSettlement > 0
    · rw [if_pos positive, if_pos positive]
      rfl
    · rw [if_neg positive, if_neg positive]
      rfl

theorem release_refused
    (refused : ¬ ((0 ≤ returnAmount ∧ 0 ≤ slashAmount) ∧
      returnAmount + slashAmount = self.totalEscrowed)) :
    ∃ violation, (applyMutualRelease returnAmount slashAmount).execute self =
      (.error (.err violation), self) := by
  by_cases nonneg : 0 ≤ returnAmount ∧ 0 ≤ slashAmount
  · rw [applyMutualRelease, execute_ensure_bind nonneg]
    simp only [safeAdd, safely]
    by_cases exceeds : i128Max < returnAmount + slashAmount
    · exact ⟨_, execute_fetch_bind_of_none (addI128_eq_none exceeds) _ _⟩
    · have total := addI128_of_nonneg nonneg.1 nonneg.2 (not_lt.mp exceeds)
      rw [execute_fetch_bind total, execute_get_bind]
      exact ⟨_, execute_ensure_bind_of_not (fun same => refused ⟨nonneg, same⟩) _ _⟩
  · exact ⟨_, execute_ensure_bind_of_not nonneg _ _⟩

theorem release_execute (solvent : self.Solvent) (nonneg : 0 ≤ returnAmount ∧ 0 ≤ slashAmount)
    (all : returnAmount + slashAmount = self.totalEscrowed) :
    (applyMutualRelease returnAmount slashAmount).execute self =
      verify.execute self.clear := by
  have bounded := solvent.bounded
  have minimum : i128Min ≤ 0 := by decide
  have total := addI128_of_nonneg nonneg.1 nonneg.2 (by linarith)
  have summed : self.componentSum = some (returnAmount + slashAmount) := by
    obtain ⟨sum, _, active, pending, disputed, _, _⟩ := solvent
    apply componentSum_eq_some.mpr
    refine ⟨⟨?_, ?_⟩, ⟨?_, ?_⟩, sum.trans all.symm⟩ <;> linarith
  rw [applyMutualRelease, execute_ensure_bind nonneg]
  simp only [safeAdd, safely]
  rw [execute_fetch_bind total, execute_get_bind, execute_ensure_bind all,
    execute_fetch_bind summed, execute_ensure_bind rfl, execute_modify_bind]

end Settlement

end LeaseFlow.Solvency
