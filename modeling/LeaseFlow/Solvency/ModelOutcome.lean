import LeaseFlow.Solvency.Model
import LeaseFlow.Solvency.Passing

/-!
# What a call leaves of the model

The model of a solvent tracker makes the same sums, and its closing check reads no lease count.
Where it is asked for more than the active deposits it takes them below zero before it fails.
-/

set_option autoImplicit false

namespace LeaseFlow.Solvency

open Transaction

/-- The fields of a tracker that the model has. -/
def EscrowInvariant.shadow (self : EscrowInvariant) : EscrowState where
  totalEscrowed := self.totalEscrowed
  activeDeposits := self.activeDeposits
  pendingYield := self.pendingYield
  disputedFunds := self.disputedFunds
  vaultTotalLocked := self.vaultTotalLocked
  leaseCount := self.leaseCount

section Shadow

variable (self : EscrowInvariant)

@[simp] theorem shadow_totalEscrowed : self.shadow.totalEscrowed = self.totalEscrowed := rfl
@[simp] theorem shadow_activeDeposits : self.shadow.activeDeposits = self.activeDeposits := rfl
@[simp] theorem shadow_pendingYield : self.shadow.pendingYield = self.pendingYield := rfl
@[simp] theorem shadow_disputedFunds : self.shadow.disputedFunds = self.disputedFunds := rfl
@[simp] theorem shadow_vaultTotalLocked :
    self.shadow.vaultTotalLocked = self.vaultTotalLocked := rfl
@[simp] theorem shadow_leaseCount : self.shadow.leaseCount = self.leaseCount := rfl

end Shadow

namespace EscrowState

/-! ## The closing check -/

/-- What the check of the model asks for, with a sum within the type. -/
structure Solvent (state : EscrowState) : Prop where
  sum : state.activeDeposits + state.pendingYield + state.disputedFunds = state.totalEscrowed
  synchronized : state.vaultTotalLocked = state.totalEscrowed
  active_nonneg : 0 ≤ state.activeDeposits
  pending_nonneg : 0 ≤ state.pendingYield
  disputed_nonneg : 0 ≤ state.disputedFunds
  bounded : state.totalEscrowed ≤ i128Max

theorem verify_of_solvent {self : EscrowState} (solvent : self.Solvent) :
    verifySolvencyInvariant.execute self = (.ok (), self) := by
  obtain ⟨sum, synchronized, active, pending, disputed, bounded⟩ := solvent
  have total : 0 ≤ self.totalEscrowed := by
    rw [← sum]
    exact add_nonneg (add_nonneg active pending) disputed
  have first := addI128_of_nonneg active pending (by linarith)
  have second := addI128_of_nonneg (add_nonneg active pending) disputed (by linarith)
  have nonneg : ¬ self.hasNegative := by
    simp only [hasNegative, not_or, not_lt]
    exact ⟨total, active, pending, disputed, by rwa [synchronized]⟩
  rw [verifySolvencyInvariant, execute_get_bind, compute, execute_fetch_bind first, compute,
    execute_fetch_bind second, execute_ensure_bind sum, execute_ensure_bind synchronized, ensure,
    if_pos nonneg]
  rfl

/-- Active deposits below zero fail the check. -/
theorem verify_of_negative {self : EscrowState} (negative : self.activeDeposits < 0)
    (first : i128Min ≤ self.activeDeposits + self.pendingYield ∧
      self.activeDeposits + self.pendingYield ≤ i128Max)
    (sum : self.activeDeposits + self.pendingYield + self.disputedFunds = self.totalEscrowed)
    (total : i128Min ≤ self.totalEscrowed ∧ self.totalEscrowed ≤ i128Max)
    (synchronized : self.vaultTotalLocked = self.totalEscrowed) :
    verifySolvencyInvariant.execute self = (.error (.err .negativeValues), self) := by
  have partials : addI128 self.activeDeposits self.pendingYield =
      some (self.activeDeposits + self.pendingYield) := Checked.within_eq_some.mpr ⟨first, rfl⟩
  have totals : addI128 (self.activeDeposits + self.pendingYield) self.disputedFunds =
      some (self.activeDeposits + self.pendingYield + self.disputedFunds) := by
    apply Checked.within_eq_some.mpr
    rw [sum]
    exact ⟨total, rfl⟩
  have some_negative : self.hasNegative := .inr (.inl negative)
  rw [verifySolvencyInvariant, execute_get_bind, compute, execute_fetch_bind partials, compute,
    execute_fetch_bind totals, execute_ensure_bind sum, execute_ensure_bind synchronized, ensure,
    if_neg (not_not.mpr some_negative)]
  rfl

end EscrowState

section ModelOutcome

variable {self : EscrowInvariant}

/-! ## Deposits -/

theorem model_deposit_refused {amount : I128}
    (refused : ¬ (0 ≤ amount ∧ self.totalEscrowed + amount ≤ i128Max)) :
    ∃ error, (EscrowState.applyDeposit amount).execute self.shadow =
      (.error (.err error), self.shadow) := by
  by_cases nonneg : 0 ≤ amount
  · have exceeds : i128Max < self.totalEscrowed + amount :=
      not_le.mp fun fits => refused ⟨nonneg, fits⟩
    rw [EscrowState.applyDeposit, execute_ensure_bind nonneg, execute_get_bind]
    exact ⟨_, execute_fetch_bind_of_none (addI128_eq_none exceeds) _ _⟩
  · exact ⟨_, execute_ensure_bind_of_not nonneg _ _⟩

theorem deposited_shadow_solvent (solvent : self.Solvent) {amount : I128} (nonneg : 0 ≤ amount)
    (within : self.totalEscrowed + amount ≤ i128Max) :
    (self.deposited amount).shadow.Solvent := by
  obtain ⟨sum, vault, active, pending, disputed, _, bounded⟩ := solvent
  constructor
  · show self.activeDeposits + amount + self.pendingYield + self.disputedFunds =
      self.totalEscrowed + amount
    linarith
  · exact congrArg (· + amount) vault
  · exact add_nonneg active nonneg
  · exact pending
  · exact disputed
  · exact within

theorem model_deposit_execute (solvent : self.Solvent) {amount : I128} (nonneg : 0 ≤ amount)
    (within : self.totalEscrowed + amount ≤ i128Max) :
    (EscrowState.applyDeposit amount).execute self.shadow =
      if u64Max < self.leaseCount + 1 then
        (.error .panic, ((self.shadow.putTotal (self.totalEscrowed + amount)).putActive
          (self.activeDeposits + amount)).putVault (self.vaultTotalLocked + amount))
      else
        (.ok (), (self.deposited amount).shadow) := by
  have total := solvent.total_nonneg
  have deposited := deposited_shadow_solvent solvent nonneg within
  obtain ⟨sum, vault, active, pending, disputed, _, bounded⟩ := solvent
  have totals := addI128_of_nonneg total nonneg within
  have actives := addI128_of_nonneg active nonneg (by linarith)
  have vaults : addI128 self.vaultTotalLocked amount = some (self.vaultTotalLocked + amount) := by
    rw [vault]
    exact totals
  rw [EscrowState.applyDeposit, execute_ensure_bind nonneg, execute_get_bind]
  simp only [EscrowState.checked, EscrowState.compute, shadow_totalEscrowed,
    shadow_activeDeposits, shadow_vaultTotalLocked, shadow_leaseCount]
  rw [execute_fetch_bind totals, execute_modify_bind, execute_fetch_bind actives,
    execute_modify_bind, execute_fetch_bind vaults, execute_modify_bind]
  by_cases full : u64Max < self.leaseCount + 1
  · rw [if_pos full]
    exact execute_fetch_bind_of_none (if_neg (not_le.mpr full)) _ _
  · have count : addU64 self.leaseCount 1 = some (self.leaseCount + 1) :=
      Checked.upTo_of_le (not_lt.mp full)
    rw [if_neg full, execute_fetch_bind count, execute_modify_bind]
    exact EscrowState.verify_of_solvent deposited

/-! ## Yield and disputes -/

theorem model_yield_refused {yieldAmount : I128} (negative : yieldAmount < 0) :
    (EscrowState.applyYieldAccumulation yieldAmount).execute self.shadow =
      (.error (.err .negativeYield), self.shadow) :=
  execute_ensure_bind_of_not (not_le.mpr negative) _ _

theorem model_yield_execute (solvent : self.Solvent) {yieldAmount : I128}
    (nonneg : 0 ≤ yieldAmount) (within : yieldAmount ≤ self.activeDeposits) :
    (EscrowState.applyYieldAccumulation yieldAmount).execute self.shadow =
      (.ok (), (self.accrued yieldAmount).shadow) := by
  obtain ⟨sum, vault, active, pending, disputed, _, bounded⟩ := solvent
  have actives := subI128_of_le nonneg within (by linarith)
  have pendings := addI128_of_nonneg pending nonneg (by linarith)
  rw [EscrowState.applyYieldAccumulation, execute_ensure_bind nonneg, execute_get_bind]
  simp only [EscrowState.checked, shadow_activeDeposits, shadow_pendingYield]
  rw [execute_fetch_bind actives, execute_modify_bind, execute_fetch_bind pendings,
    execute_modify_bind]
  apply EscrowState.verify_of_solvent
  constructor
  · show self.activeDeposits - yieldAmount + (self.pendingYield + yieldAmount) +
      self.disputedFunds = self.totalEscrowed
    linarith
  · exact vault
  · exact sub_nonneg.mpr within
  · exact add_nonneg pending nonneg
  · exact disputed
  · exact bounded

/-- Less is left of a component than of nothing, and still fits. -/
theorem subI128_of_typed {left right : I128} (nonneg : 0 ≤ left) (bounded : left ≤ i128Max)
    (right_nonneg : 0 ≤ right) (typed : right ≤ i128Max) :
    subI128 left right = some (left - right) := by
  have minimum : i128Min ≤ -i128Max := by decide
  apply Checked.within_eq_some.mpr
  refine ⟨⟨?_, ?_⟩, rfl⟩ <;> linarith

/-- What is above the active deposits is taken off them before the call fails. -/
theorem model_yield_overdrawn (solvent : self.Solvent) {yieldAmount : I128}
    (typed : yieldAmount ≤ i128Max) (exceeds : self.activeDeposits < yieldAmount) :
    ∃ error after, (EscrowState.applyYieldAccumulation yieldAmount).execute self.shadow =
      (.error (.err error), after) ∧ after.activeDeposits = self.activeDeposits - yieldAmount := by
  have total := solvent.total_nonneg
  obtain ⟨sum, vault, active, pending, disputed, _, bounded⟩ := solvent
  have nonneg : 0 ≤ yieldAmount := active.trans exceeds.le
  have minimum : i128Min ≤ 0 := by decide
  have actives := subI128_of_typed active (by linarith) nonneg typed
  rw [EscrowState.applyYieldAccumulation, execute_ensure_bind nonneg, execute_get_bind]
  simp only [EscrowState.checked, shadow_activeDeposits, shadow_pendingYield]
  rw [execute_fetch_bind actives, execute_modify_bind]
  by_cases spills : i128Max < self.pendingYield + yieldAmount
  · rw [execute_fetch_bind_of_none (addI128_eq_none spills)]
    exact ⟨_, _, rfl, rfl⟩
  · have pendings := addI128_of_nonneg pending nonneg (not_lt.mp spills)
    have regrouped : self.activeDeposits - yieldAmount + (self.pendingYield + yieldAmount) =
        self.activeDeposits + self.pendingYield := by linarith
    rw [execute_fetch_bind pendings, execute_modify_bind, EscrowState.verify_of_negative]
    · exact ⟨_, _, rfl, rfl⟩
    · exact sub_neg.mpr exceeds
    · show i128Min ≤ self.activeDeposits - yieldAmount + (self.pendingYield + yieldAmount) ∧
        self.activeDeposits - yieldAmount + (self.pendingYield + yieldAmount) ≤ i128Max
      rw [regrouped]
      constructor <;> linarith
    · show self.activeDeposits - yieldAmount + (self.pendingYield + yieldAmount) +
        self.disputedFunds = self.totalEscrowed
      rw [regrouped, sum]
    · exact ⟨minimum.trans total, bounded⟩
    · exact vault

theorem model_dispute_refused {disputeAmount : I128} (negative : disputeAmount < 0) :
    (EscrowState.applyDispute disputeAmount).execute self.shadow =
      (.error (.err .negativeDispute), self.shadow) :=
  execute_ensure_bind_of_not (not_le.mpr negative) _ _

theorem model_dispute_execute (solvent : self.Solvent) {disputeAmount : I128}
    (nonneg : 0 ≤ disputeAmount) (within : disputeAmount ≤ self.activeDeposits) :
    (EscrowState.applyDispute disputeAmount).execute self.shadow =
      (.ok (), (self.shadow.putActive (self.activeDeposits - disputeAmount)).putDisputed
        (self.disputedFunds + disputeAmount)) := by
  obtain ⟨sum, vault, active, pending, disputed, _, bounded⟩ := solvent
  have actives := subI128_of_le nonneg within (by linarith)
  have disputes := addI128_of_nonneg disputed nonneg (by linarith)
  rw [EscrowState.applyDispute, execute_ensure_bind nonneg, execute_get_bind]
  simp only [EscrowState.checked, shadow_activeDeposits, shadow_disputedFunds]
  rw [execute_fetch_bind actives, execute_modify_bind, execute_fetch_bind disputes,
    execute_modify_bind]
  apply EscrowState.verify_of_solvent
  constructor
  · show self.activeDeposits - disputeAmount + self.pendingYield +
      (self.disputedFunds + disputeAmount) = self.totalEscrowed
    linarith
  · exact vault
  · exact sub_nonneg.mpr within
  · exact pending
  · exact add_nonneg disputed nonneg
  · exact bounded

theorem model_dispute_overdrawn (solvent : self.Solvent) {disputeAmount : I128}
    (typed : disputeAmount ≤ i128Max) (exceeds : self.activeDeposits < disputeAmount) :
    ∃ error after, (EscrowState.applyDispute disputeAmount).execute self.shadow =
      (.error (.err error), after) ∧
        after.activeDeposits = self.activeDeposits - disputeAmount := by
  have total := solvent.total_nonneg
  obtain ⟨sum, vault, active, pending, disputed, _, bounded⟩ := solvent
  have nonneg : 0 ≤ disputeAmount := active.trans exceeds.le
  have below : i128Min ≤ 0 := by decide
  have minimum : i128Min ≤ -i128Max := by decide
  have actives := subI128_of_typed active (by linarith) nonneg typed
  rw [EscrowState.applyDispute, execute_ensure_bind nonneg, execute_get_bind]
  simp only [EscrowState.checked, shadow_activeDeposits, shadow_disputedFunds]
  rw [execute_fetch_bind actives, execute_modify_bind]
  by_cases spills : i128Max < self.disputedFunds + disputeAmount
  · rw [execute_fetch_bind_of_none (addI128_eq_none spills)]
    exact ⟨_, _, rfl, rfl⟩
  · have disputes := addI128_of_nonneg disputed nonneg (not_lt.mp spills)
    rw [execute_fetch_bind disputes, execute_modify_bind, EscrowState.verify_of_negative]
    · exact ⟨_, _, rfl, rfl⟩
    · exact sub_neg.mpr exceeds
    · show i128Min ≤ self.activeDeposits - disputeAmount + self.pendingYield ∧
        self.activeDeposits - disputeAmount + self.pendingYield ≤ i128Max
      constructor <;> linarith
    · show self.activeDeposits - disputeAmount + self.pendingYield +
        (self.disputedFunds + disputeAmount) = self.totalEscrowed
      linarith
    · exact ⟨below.trans total, bounded⟩
    · exact vault

/-! ## Settlements -/

/-- The choice by what is there makes no difference. -/
theorem settlementSources_eq (solvent : self.Solvent) {totalSettlement : I128}
    (nonneg : 0 ≤ totalSettlement) (typed : totalSettlement ≤ i128Max) :
    self.shadow.settlementSources totalSettlement = some (self.sources totalSettlement) := by
  obtain ⟨sum, vault, active, pending, disputed, _, bounded⟩ := solvent
  have fromDisputed_le := min_le_left totalSettlement self.disputedFunds
  have fromDisputed_nonneg := le_min nonneg disputed
  have remaining := subI128_of_le fromDisputed_nonneg fromDisputed_le typed
  have remaining_le : totalSettlement - min totalSettlement self.disputedFunds ≤ i128Max := by
    linarith
  have fromPending_nonneg := le_min (sub_nonneg.mpr fromDisputed_le) pending
  have rest := subI128_of_le fromPending_nonneg
    (min_le_left (totalSettlement - min totalSettlement self.disputedFunds) self.pendingYield)
    remaining_le
  unfold EscrowState.settlementSources
  simp only [shadow_disputedFunds, shadow_pendingYield, shadow_activeDeposits]
  by_cases some_disputed : self.disputedFunds > 0
  · simp only [if_pos some_disputed, remaining, rest, Option.bind_eq_bind, Option.bind_some]
    rfl
  · have none_disputed : self.disputedFunds = 0 := le_antisymm (not_lt.mp some_disputed) disputed
    have fromDisputed : min totalSettlement self.disputedFunds = 0 := by
      rw [none_disputed]
      exact min_eq_right nonneg
    simp only [if_neg some_disputed, EscrowInvariant.sources, fromDisputed, sub_zero] at rest ⊢
    by_cases some_pending : self.pendingYield > 0
    · simp only [if_pos some_pending, rest, Option.bind_eq_bind, Option.bind_some]
      rfl
    · have none_pending : self.pendingYield = 0 := le_antisymm (not_lt.mp some_pending) pending
      have fromPending : min totalSettlement self.pendingYield = 0 := by
        rw [none_pending]
        exact min_eq_right nonneg
      simp only [if_neg some_pending, fromPending, sub_zero]
      rfl

variable {tenantRefund landlordPayout protocolFee : I128}

theorem model_settlement_refused (solvent : self.Solvent)
    (refused : ¬ ((0 ≤ tenantRefund ∧ 0 ≤ landlordPayout ∧ 0 ≤ protocolFee) ∧
      tenantRefund + landlordPayout + protocolFee ≤ self.totalEscrowed)) :
    ∃ error, (EscrowState.applySettlement tenantRefund landlordPayout protocolFee).execute
      self.shadow = (.error (.err error), self.shadow) := by
  by_cases nonneg : 0 ≤ tenantRefund ∧ 0 ≤ landlordPayout ∧ 0 ≤ protocolFee
  · have exceeds : self.totalEscrowed < tenantRefund + landlordPayout + protocolFee :=
      not_le.mp fun within => refused ⟨nonneg, within⟩
    obtain ⟨tenant, landlord, protocol⟩ := id nonneg
    rw [EscrowState.applySettlement, execute_ensure_bind nonneg]
    simp only [EscrowState.checked, EscrowState.compute]
    by_cases first : i128Max < tenantRefund + landlordPayout
    · exact ⟨_, execute_fetch_bind_of_none (addI128_eq_none first) _ _⟩
    · have refunds := addI128_of_nonneg tenant landlord (not_lt.mp first)
      rw [execute_fetch_bind refunds]
      by_cases second : i128Max < tenantRefund + landlordPayout + protocolFee
      · exact ⟨_, execute_fetch_bind_of_none (addI128_eq_none second) _ _⟩
      · have typed := not_lt.mp second
        have total_nonneg := add_nonneg (add_nonneg tenant landlord) protocol
        have total := addI128_of_nonneg (add_nonneg tenant landlord) protocol typed
        have sources := settlementSources_eq solvent total_nonneg typed
        have draws := drawn solvent total_nonneg
        rw [execute_fetch_bind total, execute_get_bind, execute_fetch_bind sources]
        generalize tenantRefund + landlordPayout + protocolFee = totalSettlement at *
        have sum := solvent.sum
        have bounded := solvent.bounded
        have partials := addI128_of_nonneg draws.active_nonneg draws.pending_nonneg
          (by linarith [draws.active_le, draws.pending_le, solvent.disputed_nonneg])
        have summed := addI128_of_nonneg
          (add_nonneg draws.active_nonneg draws.pending_nonneg) draws.disputed_nonneg
          (by linarith [draws.active_le, draws.pending_le, draws.disputed_le])
        have short : (self.sources totalSettlement).fromActive +
            (self.sources totalSettlement).fromPending +
            (self.sources totalSettlement).fromDisputed ≠ totalSettlement := by
          apply ne_of_lt
          linarith [draws.active_le, draws.pending_le, draws.disputed_le]
        rw [execute_fetch_bind partials, execute_fetch_bind summed]
        exact ⟨_, execute_ensure_bind_of_not short _ _⟩
  · exact ⟨_, execute_ensure_bind_of_not nonneg _ _⟩

theorem settled_shadow_solvent (solvent : self.Solvent) {totalSettlement : I128}
    (nonneg : 0 ≤ totalSettlement) (within : totalSettlement ≤ self.totalEscrowed) :
    (self.settled totalSettlement).shadow.Solvent := by
  obtain ⟨leaseCount, settled⟩ := @settled_putCount self totalSettlement
  have emptied := (@paidFrom_solvent self solvent totalSettlement 0 nonneg within).mpr fun _ => rfl
  obtain ⟨sum, vault, active, pending, disputed, _, bounded⟩ := emptied
  rw [settled]
  exact ⟨sum, vault, active, pending, disputed, bounded⟩

theorem model_settlement_execute (solvent : self.Solvent)
    (nonneg : 0 ≤ tenantRefund ∧ 0 ≤ landlordPayout ∧ 0 ≤ protocolFee)
    (within : tenantRefund + landlordPayout + protocolFee ≤ self.totalEscrowed) :
    (EscrowState.applySettlement tenantRefund landlordPayout protocolFee).execute self.shadow =
      (.ok (), (self.settled (tenantRefund + landlordPayout + protocolFee)).shadow) := by
  have bounded := solvent.bounded
  obtain ⟨tenant, landlord, protocol⟩ := id nonneg
  have refunds := addI128_of_nonneg tenant landlord (by linarith)
  have total := addI128_of_nonneg (add_nonneg tenant landlord) protocol (by linarith)
  have total_nonneg := add_nonneg (add_nonneg tenant landlord) protocol
  have sources := settlementSources_eq solvent total_nonneg (within.trans bounded)
  have covered := covers solvent total_nonneg within
  have settled := settled_shadow_solvent solvent total_nonneg within
  rw [EscrowState.applySettlement, execute_ensure_bind nonneg]
  simp only [EscrowState.checked, EscrowState.compute]
  rw [execute_fetch_bind refunds, execute_fetch_bind total, execute_get_bind,
    execute_fetch_bind sources]
  generalize tenantRefund + landlordPayout + protocolFee = totalSettlement at *
  have sum := solvent.sum
  have parts := covered.sum
  have partials := addI128_of_nonneg covered.active_nonneg covered.pending_nonneg
    (by linarith [covered.disputed_nonneg])
  have summed := addI128_of_nonneg
    (add_nonneg covered.active_nonneg covered.pending_nonneg) covered.disputed_nonneg
    (by linarith)
  have all : (self.sources totalSettlement).fromActive +
      (self.sources totalSettlement).fromPending +
      (self.sources totalSettlement).fromDisputed = totalSettlement := by linarith
  have active := solvent.active_nonneg
  have pending := solvent.pending_nonneg
  have disputed := solvent.disputed_nonneg
  have actives := subI128_of_le covered.active_nonneg covered.active_le (by linarith)
  have pendings := subI128_of_le covered.pending_nonneg covered.pending_le (by linarith)
  have disputes := subI128_of_le covered.disputed_nonneg covered.disputed_le (by linarith)
  have escrowed := subI128_of_le total_nonneg within bounded
  have vaults : subI128 self.vaultTotalLocked totalSettlement =
      some (self.vaultTotalLocked - totalSettlement) := by
    rw [solvent.synchronized]
    exact escrowed
  simp only [shadow_activeDeposits, shadow_pendingYield, shadow_disputedFunds,
    shadow_totalEscrowed, shadow_vaultTotalLocked, shadow_leaseCount]
  rw [execute_fetch_bind partials, execute_fetch_bind summed, execute_ensure_bind all,
    execute_fetch_bind actives, execute_modify_bind, execute_fetch_bind pendings,
    execute_modify_bind, execute_fetch_bind disputes, execute_modify_bind,
    execute_fetch_bind escrowed, execute_modify_bind, execute_fetch_bind vaults,
    execute_modify_bind]
  rw [EscrowInvariant.settled] at settled ⊢
  by_cases positive : totalSettlement > 0
  · rw [if_pos positive] at settled ⊢
    rw [if_pos positive]
    exact EscrowState.verify_of_solvent settled
  · rw [if_neg positive] at settled ⊢
    rw [if_neg positive]
    exact EscrowState.verify_of_solvent settled

end ModelOutcome

end LeaseFlow.Solvency
