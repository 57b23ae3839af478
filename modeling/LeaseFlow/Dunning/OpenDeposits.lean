import LeaseFlow.Dunning.Reserves

/-!
# Deposits of open leases

The vault's locked total counts the deposit of every lease that was ever activated.  No
operation lowers it, so it is the total of the open leases exactly as long as none is closed.
-/

set_option autoImplicit false

namespace LeaseFlow.Dunning

open Transaction Run Table

/-! ## Open and closed leases -/

/-- The deposit of a lease that is active, in its grace period or pending eviction. -/
def Lease.openDeposit (lease : Lease) : Int :=
  if lease.state = .active ∨ lease.state = .gracePeriod ∨ lease.state = .evictionPending then
    lease.depositAmount
  else 0

/-- The deposit of a closed lease. -/
def Lease.closedDeposit (lease : Lease) : Int :=
  if lease.state = .closed then lease.depositAmount else 0

/-- What the vault locks is the deposits of the open leases. -/
def ContractData.LocksOpenDeposits (data : ContractData) : Prop :=
  data.escrowVault.totalLocked = data.leases.total Lease.openDeposit

theorem Lease.lockedDeposit_eq (lease : Lease) :
    lease.lockedDeposit = lease.openDeposit + lease.closedDeposit := by
  unfold lockedDeposit openDeposit closedDeposit
  cases lease.state <;> simp

theorem Lease.closedDeposit_nonneg {lease : Lease} (deposit_pos : 0 < lease.depositAmount) :
    0 ≤ lease.closedDeposit := by
  unfold closedDeposit
  split
  · exact deposit_pos.le
  · exact le_rfl

/-- The locked total exceeds the open deposits by the deposits of the closed leases. -/
theorem ContractData.Reserved.locksOpenDeposits_iff {data : ContractData}
    (reserved : data.Reserved) :
    data.LocksOpenDeposits ↔
      ∀ leaseId lease, data.leases.lookup leaseId = some lease → lease.state ≠ .closed := by
  have nonneg (leaseId : U64) (lease : Lease) (found : data.leases.lookup leaseId = some lease) :
      0 ≤ lease.closedDeposit :=
    Lease.closedDeposit_nonneg (reserved.deposits leaseId lease found)
  have split : data.escrowVault.totalLocked =
      data.leases.total Lease.openDeposit + data.leases.total Lease.closedDeposit := by
    rw [reserved.locked, ← total_add]
    exact congrArg data.leases.total (funext Lease.lockedDeposit_eq)
  unfold LocksOpenDeposits
  constructor
  · intro locks leaseId lease found closed
    have share : lease.closedDeposit ≤ data.leases.total Lease.closedDeposit :=
      le_total nonneg found
    have deposit : lease.closedDeposit = lease.depositAmount := if_pos closed
    have deposit_pos := reserved.deposits leaseId lease found
    linarith
  · intro none_closed
    have nothing : data.leases.total Lease.closedDeposit ≤ 0 := by
      apply total_nonpos
      intro leaseId lease found
      exact (if_neg (none_closed leaseId lease found)).le
    have total_nonneg := total_nonneg nonneg
    linarith

/-! ## Terminations -/

/-- The call is a termination that goes through. -/
def Call.Terminates (call : Call) (store : Store) : Prop :=
  (∃ leaseId caller, call.operation = .terminateLease leaseId caller) ∧
    call.body.succeeds store = true

/-- No stored lease is closed. -/
def NoneClosed (data : Option ContractData) : Prop :=
  ∀ leaseId lease, leaseAt leaseId data = some lease → lease.state ≠ .closed

theorem LeaseStep.of_closed {env : Env} {operation : Operation} {leaseId : U64}
    {prior lease : Lease} (change : LeaseStep env operation leaseId prior lease)
    (closed : lease.state = .closed) (before : prior.state ≠ .closed) :
    ∃ caller, operation = .terminateLease leaseId caller := by
  cases change with
  | activated pending => cases closed
  | paid active enough => exact absurd closed before
  | recovered late => cases closed
  | enteredGracePeriod active lateFee => cases closed
  | evicted asked late dunning expired => cases closed
  | deducted evicted => exact absurd closed before
  | billed active => exact absurd closed before
  | closed active => exact ⟨_, rfl⟩

theorem Effect.closes {env : Env} {leaseId : U64} {caller : Address}
    {before after : Option ContractData}
    (effect : Effect env (.terminateLease leaseId caller) before after) : ¬ NoneClosed after := by
  intro none_closed
  cases effect with
  | closed found active party refunded =>
      exact none_closed leaseId _ (lookup_set_self _ _ _) rfl
  | evicted asked => cases asked
  | idle asked => cases asked

/-- Where no lease is closed, a call closes one exactly when it is a committed termination. -/
theorem noneClosed_step_iff {call : Call} {store : Store}
    (issued : Holds ContractData.Issued store.data) (none_closed : NoneClosed store.data) :
    NoneClosed (step call store).data ↔ ¬ call.Terminates store := by
  constructor
  · rintro still ⟨⟨leaseId, caller, terminates⟩, accepted⟩
    have effect := call_effect (commits_attempt accepted)
    rw [terminates] at effect
    exact effect.closes still
  · intro keeps leaseId lease stored closed
    by_cases accepted : call.body.succeeds store = true
    · cases step_traced issued stored with
      | new absent new => cases new.state.symm.trans closed
      | same found => exact none_closed leaseId lease found closed
      | changed found change =>
          obtain ⟨caller, terminates⟩ := change.of_closed closed (none_closed leaseId _ found)
          exact keeps ⟨⟨leaseId, caller, terminates⟩, accepted⟩
    · rw [step, attempt_of_not_succeeds (Bool.eq_false_iff.mpr accepted)] at stored
      exact none_closed leaseId lease stored closed

/-! ## The locked total along a run -/

theorem reached_locks_iff {store : Store} (reached : Reaches step newContract store) :
    Holds ContractData.LocksOpenDeposits store.data ↔ NoneClosed store.data := by
  obtain ⟨calls, rfl⟩ := reached
  constructor
  · intro locks leaseId lease stored
    cases present : (run step calls newContract).data with
    | none => simp [present, leaseAt] at stored
    | some data =>
        have open_only := (run_reserved calls data present).locksOpenDeposits_iff.mp
          (locks data present)
        rw [present] at stored
        exact open_only leaseId lease stored
  · intro none_closed data present
    apply (run_reserved calls data present).locksOpenDeposits_iff.mpr
    intro leaseId lease found
    exact none_closed leaseId lease (by rw [present]; exact found)

/-- The vault locks the deposits of the open leases in every state of a run exactly when no
lease is terminated in it. -/
theorem locksOpenDeposits_along_iff (calls : List Call) :
    MeetsAlong step
        (fun call store => Holds ContractData.LocksOpenDeposits (step call store).data) calls
        newContract ↔
      MeetsAlong step (fun call store => ¬ call.Terminates store) calls newContract := by
  refine @invariant_along_iff _ _ step (Reaches step newContract)
    (fun store => Holds ContractData.LocksOpenDeposits store.data) _
    (fun call store reached => reached.next call) ?_ calls newContract (reaches_refl newContract)
    nofun
  intro call store reached locks
  have none_closed := (reached_locks_iff reached).mp locks
  rw [reached_locks_iff (reached.next call)]
  obtain ⟨earlier, rfl⟩ := reached
  exact noneClosed_step_iff (run_issued earlier) none_closed

/-- The deposit of a lease terminated by its lessee stays locked. -/
theorem terminated_deposit_stays_locked :
    let call := fun operation => (⟨⟨6, fun _ _ _ => .panicked⟩, operation⟩ : Call)
    let calls := [call (.initializeContract ⟨9⟩),
      call (.createLease ⟨1⟩ ⟨2⟩ 1000 300 5 100 10 500 [] none), call (.activateLease 1 ⟨2⟩),
      call (.terminateLease 1 ⟨2⟩)]
    ¬ Holds ContractData.LocksOpenDeposits (run step calls newContract).data := by
  intro call calls locks
  have unbalanced : (run step calls newContract).data.map
      (fun data => (data.escrowVault.totalLocked, data.leases.total Lease.openDeposit)) =
      some (300, 0) := by decide +kernel
  obtain ⟨data, stored, totals⟩ := Option.map_eq_some_iff.mp unbalanced
  have balanced : data.escrowVault.totalLocked = data.leases.total Lease.openDeposit :=
    locks data stored
  obtain ⟨locked, opened⟩ := Prod.mk.inj totals
  rw [locked, opened] at balanced
  cases balanced

end LeaseFlow.Dunning
