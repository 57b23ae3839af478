import LeaseFlow.Escrow.History

/-!
# Backing of the escrow

What the contract received on account of deposits, against what it paid out and
what its unsettled records still promise.  No operation pulls a deposit, so the
books balance only while no record promises anything.
-/

set_option autoImplicit false

namespace LeaseFlow

open Transaction

/-- What the unsettled records promise in a token. -/
def Escrow.owed (token : Address) (escrow : Escrow) : Int :=
  escrow.leases.total fun lease =>
    if lease.paymentToken = token ∧ lease.depositStatus ≠ .settled then lease.totalDeposit else 0

def Escrow.Backed (escrow : Escrow) : Prop :=
  ∀ token, paidOut (forToken token) escrow.deposits + escrow.owed token ≤
    received token escrow.deposits

/-- The call records no deposit, and sweeps none out. -/
def Invocation.PromisesNothing (invocation : Invocation) (world : World) : Prop :=
  match invocation.call with
  | .createLeaseInstance _ _ params =>
      lockedDeposit invocation.env params + params.depositAmount ≤ 0
  | .createLeaseWithContinuousBilling params => params.depositAmount ≤ 0
  | .sweepExpiredProposals _ leaseId =>
      ∀ lease, world.leases.lookup leaseId = some lease → lease.securityDeposit ≤ 0
  | _ => True

/-- No record promises anything and nothing was ever paid. -/
structure Escrow.Unpromised (escrow : Escrow) : Prop where
  records : ∀ leaseId lease, escrow.leases.lookup leaseId = some lease →
    lease.Feeless ∧ lease.totalDeposit ≤ 0
  history : ∀ entry ∈ escrow.deposits, ∃ leaseId, entry = .opened leaseId

/-! ## An escrow without promises is backed -/

theorem paidOut_of_opened {counts : Selection} {history : List DepositEntry}
    (opened : ∀ entry ∈ history, ∃ leaseId, entry = .opened leaseId) :
    paidOut counts history = 0 := by
  refine List.sum_eq_zero fun amount listed => ?_
  obtain ⟨entry, member, rfl⟩ := List.mem_map.mp listed
  obtain ⟨leaseId, rfl⟩ := opened entry member
  rfl

theorem received_of_opened {token : Address} {history : List DepositEntry}
    (opened : ∀ entry ∈ history, ∃ leaseId, entry = .opened leaseId) :
    received token history = 0 := by
  refine List.sum_eq_zero fun amount listed => ?_
  obtain ⟨entry, member, rfl⟩ := List.mem_map.mp listed
  obtain ⟨leaseId, rfl⟩ := opened entry member
  rfl

theorem Escrow.Unpromised.backed {escrow : Escrow} (unpromised : escrow.Unpromised) :
    escrow.Backed := by
  intro token
  have owed : escrow.owed token ≤ 0 := by
    refine Table.total_nonpos fun leaseId lease found => ?_
    split
    · exact (unpromised.records leaseId lease found).2
    · exact le_rfl
  rw [paidOut_of_opened unpromised.history, received_of_opened unpromised.history]
  omega

/-! ## Preservation -/

section Preservation

variable {env : Env} {call : Call} {world : World} {after : Escrow} {leaseId : LeaseId}
  {lease : LeaseInstance}

theorem Opening.unpromised (opening : Opening env world call leaseId lease)
    (condition : Invocation.PromisesNothing ⟨env, call⟩ world) : lease.totalDeposit ≤ 0 := by
  cases opening with
  | proposed => exact condition
  | billed =>
      have none_held : (_ : Int) ≤ 0 := condition
      exact add_nonpos none_held none_held

theorem LeaseChange.unpaid {record : Option LeaseInstance} {entries : List DepositEntry}
    (change : LeaseChange env world leaseId lease call record entries)
    (found : world.leases.lookup leaseId = some lease)
    (condition : Invocation.PromisesNothing ⟨env, call⟩ world)
    (feeless : lease.Feeless) (empty : lease.totalDeposit ≤ 0) : entries = [] := by
  cases change with
  | released _ split returned slashed => exact shareEntries_nil (by linarith) (by linarith)
  | endedEarly =>
      rw [feeless.finalPenalty, min_eq_right empty]
      exact shareEntries_nil (by linarith) empty
  | swept =>
      rw [depositPayout, if_neg (not_lt.mpr (condition lease found))]
  | slashed =>
      exact shareEntries_nil (slashRefund_nonpos _ empty) (slashPenalty_nonpos _ empty)
  | _ => rfl

theorem Movement.unpromised (movement : Movement env call world after)
    (idle : call.movesYield = false)
    (condition : Invocation.PromisesNothing ⟨env, call⟩ world)
    (before : world.toEscrow.Unpromised) : after.Unpromised := by
  cases movement with
  | still _ leases deposits =>
      exact ⟨by rw [leases]; exact before.records, by rw [deposits]; exact before.history⟩
  | opened opening moved =>
      constructor
      · rw [moved.leases]
        refine Table.forall_set before.records fun stored written => ?_
        cases written
        exact ⟨opening.feeless, opening.unpromised condition⟩
      · intro entry listed
        rw [moved.deposits] at listed
        rcases List.mem_append.mp listed with now | earlier
        · exact ⟨_, List.mem_singleton.mp now⟩
        · exact before.history entry earlier
  | changed found change moved =>
      obtain ⟨feeless, empty⟩ := before.records _ _ found
      constructor
      · rw [moved.leases]
        refine Table.forall_set before.records fun stored written => ?_
        obtain ⟨security, deposit⟩ := change.sameAmounts written idle
        refine ⟨(change.sameParties written).feeless feeless, ?_⟩
        rw [LeaseInstance.totalDeposit, security, deposit]
        exact empty
      · rw [moved.deposits, change.unpaid found condition feeless empty]
        exact before.history

end Preservation

/-! ## Runs -/

/-- Along every run of the deposit operations in which no committed call records a
deposit, the escrow stays backed. -/
theorem deposits_backed {config : ConfigStore} {billing : BillingStore}
    {securityCouncil : Option SecurityCouncil} {calls : List Invocation}
    (meets : Run.MeetsAlong step (fun invocation world => invocation.Committed world →
        invocation.call.movesYield = false ∧ invocation.PromisesNothing world)
      calls (World.genesis config billing securityCouncil)) :
    (Run.run step calls (World.genesis config billing securityCouncil)).toEscrow.Backed := by
  have initially : (World.genesis config billing securityCouncil).toEscrow.Unpromised :=
    ⟨fun _ _ found => (by cases found), fun _ listed => (by cases listed)⟩
  have kept : ∀ (invocation : Invocation) (before after : World),
      Commits invocation.body before () after →
      invocation.call.movesYield = false ∧ invocation.PromisesNothing before →
      before.toEscrow.Unpromised → after.toEscrow.Unpromised :=
    fun _ _ _ run condition holds =>
      (dispatch_effect run).movement.unpromised condition.1 condition.2 holds
  exact (run_invariant kept meets initially).backed

theorem deposits_backed_of_empty_proposal :
    (Run.run step [propose 0 7 100 (-100), callAt 5 (.reclaim 7 ⟨1⟩)]
      freshWorld).toEscrow.Backed :=
  deposits_backed ⟨fun _ => ⟨rfl, show (100 : Int) + -100 ≤ 0 by decide⟩,
    fun _ => ⟨rfl, trivial⟩, trivial⟩

/-- A proposal with a deposit is stored without a transfer into the contract. -/
theorem proposal_not_backed :
    ¬ (Run.run step [propose 0 7 200 0] freshWorld).toEscrow.Backed := by
  intro backed
  have unbalanced := backed ⟨3⟩
  revert unbalanced
  decide

end LeaseFlow
