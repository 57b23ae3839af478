import LeaseFlow.Contract.Dispatch

/-!
# What a call does to the escrow

The abstract machine of the escrow.  A committed call leaves the records alone,
opens one record, or changes one, and puts its payouts on top of the history.
`LeaseChange` lists every way a call can change a record, with the guards the
code checks on that record.
-/

set_option autoImplicit false

namespace LeaseFlow

/-! ## Calls and the records they write -/

/-- Calls that amend a record without touching what decides about its deposit. -/
def Call.amended : Call → Option LeaseId
  | .setLeaseInstanceBuyoutPrice leaseId _ _ => some leaseId
  | .payLeaseInstanceRent leaseId _ _ => some leaseId
  | .setWithdrawalAddress leaseId _ => some leaseId
  | .withdrawRent leaseId => some leaseId
  | .setInspector leaseId _ _ => some leaseId
  | .reportMaintenanceIssue leaseId _ => some leaseId
  | .submitRepairProof leaseId _ _ => some leaseId
  | .verifyRepair leaseId _ => some leaseId
  | .checkTenantDefault leaseId => some leaseId
  | .setLessorReferenceId leaseId _ _ => some leaseId
  | _ => none

/-- The lease whose record a call may write. -/
def Call.subject (env : Env) : Call → Option LeaseId
  | .createLeaseInstance leaseId _ _ => some leaseId
  | .createLeaseWithContinuousBilling _ => some (billingLeaseId env)
  | .settleDeposit leaseId _ => some leaseId
  | .concludeLease leaseId _ _ => some leaseId
  | .resolveDispute leaseId _ _ => some leaseId
  | .disputeDeposit leaseId _ => some leaseId
  | .mutualDepositRelease leaseId _ _ _ _ => some leaseId
  | .initMutualReleaseFb leaseId _ _ _ => some leaseId
  | .reclaim leaseId _ => some leaseId
  | .terminateLease leaseId _ => some leaseId
  | .executeEarlyTermination leaseId _ => some leaseId
  | .sweepExpiredProposals _ leaseId => some leaseId
  | .executeDepositSlash payload => some payload.leaseId
  | .deployEscrowToYield leaseId _ _ _ => some leaseId
  | .withdrawFromYield leaseId _ => some leaseId
  | call => call.amended

/-- The lease whose record a call opens. -/
def Call.creates (env : Env) : Call → Option LeaseId
  | .createLeaseInstance leaseId _ _ => some leaseId
  | .createLeaseWithContinuousBilling _ => some (billingLeaseId env)
  | _ => none

/-! ## Movements -/

/-- One record was written or removed, and the entries went on top of the history. -/
structure Escrow.Moved (leaseId : LeaseId) (record : Option LeaseInstance)
    (entries : List DepositEntry) (before after : Escrow) : Prop where
  leases : after.leases = before.leases.set leaseId record
  deposits : after.deposits = entries ++ before.deposits

/-- The record a creation writes, and under which id. -/
inductive Opening (env : Env) (world : World) : Call → LeaseId → LeaseInstance → Prop where
  | proposed {leaseId : LeaseId} {landlord : Address} {params : CreateLeaseParams}
      (fresh : world.leases.lookup leaseId = none) :
      Opening env world (.createLeaseInstance leaseId landlord params) leaseId
        (proposedLease landlord params (lockedDeposit env params))
  | billed {params : BillingLeaseParams} :
      Opening env world (.createLeaseWithContinuousBilling params) (billingLeaseId env)
        (billedLease env params (params.rentAmount * 12))

/-- The record a call leaves of a stored lease, or none, and what it pays out. -/
inductive LeaseChange (env : Env) (world : World) (leaseId : LeaseId) (lease : LeaseInstance) :
    Call → Option LeaseInstance → List DepositEntry → Prop where
  | amended {call : Call} {amended : LeaseInstance} (amends : call.amended = some leaseId)
      (terms : lease.SameTerms amended) :
      LeaseChange env world leaseId lease call (some amended) []
  | boughtOut {payer : Address} {paymentAmount price : I128}
      (priced : lease.buyoutPrice = some price)
      (reached : price ≤ lease.cumulativePayments + paymentAmount) :
      LeaseChange env world leaseId lease (.payLeaseInstanceRent leaseId payer paymentAmount)
        none []
  | settled {caller : Address} :
      LeaseChange env world leaseId lease (.settleDeposit leaseId caller)
        (some { lease with depositStatus := .settled }) []
  | concluded {landlord : Address} {damageDeduction : I128} :
      LeaseChange env world leaseId lease (.concludeLease leaseId landlord damageDeduction)
        (some { lease with status := .terminated, depositStatus := .settled }) []
  | resolved {arbitrator : Address} {damageDeduction : I128} :
      LeaseChange env world leaseId lease (.resolveDispute leaseId arbitrator damageDeduction)
        (some { lease with status := .terminated, depositStatus := .settled }) []
  | disputed {caller : Address} :
      LeaseChange env world leaseId lease (.disputeDeposit leaseId caller)
        (some { lease with depositStatus := .disputed, status := .disputed }) []
  | fallbackDisputed {initiatorPubkey : Address} {returnAmount slashAmount : I128}
      (running : lease.status = .active ∨ lease.status = .expired) :
      LeaseChange env world leaseId lease
        (.initMutualReleaseFb leaseId initiatorPubkey returnAmount slashAmount)
        (some { lease with depositStatus := .disputed, status := .disputed }) []
  | released {lesseePubkey lessorPubkey : Address} {returnAmount slashAmount : I128}
      (running : lease.status = .active ∨ lease.status = .expired)
      (split : returnAmount + slashAmount = lease.totalDeposit)
      (returned : 0 ≤ returnAmount) (slashed : 0 ≤ slashAmount) :
      LeaseChange env world leaseId lease
        (.mutualDepositRelease leaseId lesseePubkey lessorPubkey returnAmount slashAmount)
        (some lease.settledOut) (shareEntries env leaseId lease returnAmount slashAmount)
  | reclaimed {caller : Address} (empty : lease.depositAmount ≤ 0) :
      LeaseChange env world leaseId lease (.reclaim leaseId caller)
        (some { lease with status := .terminated, flags := lease.flags.clear .active }) []
  | terminated {caller : Address} (closed : lease.depositStatus = .settled) :
      LeaseChange env world leaseId lease (.terminateLease leaseId caller) none []
  | endedEarly {caller : Address} (running : lease.status ≠ .terminated)
      (timely : lease.EndsEarly env.timestamp) :
      LeaseChange env world leaseId lease (.executeEarlyTermination leaseId caller) none
        (shareEntries env leaseId lease (lease.totalDeposit - lease.finalPenalty env.timestamp)
          (lease.finalPenalty env.timestamp))
  | swept {relayer : Address} (pending : lease.status = .pending) :
      LeaseChange env world leaseId lease (.sweepExpiredProposals relayer leaseId) none
        (depositPayout env leaseId .tenantRefund lease.paymentToken lease.tenant
          lease.securityDeposit)
  | slashed {payload : OraclePayload} (names : payload.leaseId = leaseId)
      (ended : lease.status = .terminated ∨ lease.status = .expired)
      (unsettled : lease.depositStatus ≠ .settled) (range : lease.totalDeposit ≤ i128Max) :
      LeaseChange env world leaseId lease (.executeDepositSlash payload) (some lease.slashed)
        (shareEntries env leaseId lease (slashRefund lease.totalDeposit payload.damageSeverity)
          (slashPenalty lease.totalDeposit payload.damageSeverity))
  | deployed {yieldProtocol : Address} {deployAmount : I128} {maxSlippageBps : U32} :
      LeaseChange env world leaseId lease
        (.deployEscrowToYield leaseId yieldProtocol deployAmount maxSlippageBps)
        (some { lease with securityDeposit := lease.securityDeposit + -deployAmount }) []
  | withdrawn {maxSlippageBps : U32} :
      LeaseChange env world leaseId lease (.withdrawFromYield leaseId maxSlippageBps)
        (some { lease with
          securityDeposit := lease.securityDeposit + world.yieldReturn env leaseId }) []

/-- What a committed call did to the records and to the history of deposits. -/
inductive Movement (env : Env) (call : Call) (world : World) (after : Escrow) : Prop where
  | still (silent : call.subject env = none) (leases : after.leases = world.leases)
      (deposits : after.deposits = world.deposits)
  | opened {leaseId : LeaseId} {lease : LeaseInstance} (opening : Opening env world call leaseId lease)
      (moved : world.toEscrow.Moved leaseId (some lease) [.opened leaseId] after)
  | changed {leaseId : LeaseId} {lease : LeaseInstance} {record : Option LeaseInstance}
      {entries : List DepositEntry} (found : world.leases.lookup leaseId = some lease)
      (change : LeaseChange env world leaseId lease call record entries)
      (moved : world.toEscrow.Moved leaseId record entries after)

/-! ## The subject of a movement -/

section Movement

variable {env : Env} {world : World} {call : Call} {after : Escrow} {leaseId : LeaseId}

theorem Call.subject_of_amended (amends : call.amended = some leaseId) :
    call.subject env = some leaseId := by
  cases call <;> first | exact amends | cases amends

theorem Opening.creates {lease : LeaseInstance}
    (opening : Opening env world call leaseId lease) : call.creates env = some leaseId := by
  cases opening <;> rfl

theorem Call.subject_of_creates (creates : call.creates env = some leaseId) :
    call.subject env = some leaseId := by
  cases call <;> first | exact creates | cases creates

theorem Opening.subject {lease : LeaseInstance} (opening : Opening env world call leaseId lease) :
    call.subject env = some leaseId :=
  Call.subject_of_creates opening.creates

/-- A change of a stored record opens none. -/
theorem LeaseChange.creates {lease : LeaseInstance} {record : Option LeaseInstance}
    {entries : List DepositEntry}
    (change : LeaseChange env world leaseId lease call record entries) :
    call.creates env = none := by
  cases change with
  | amended amends _ => cases call <;> first | rfl | cases amends
  | _ => rfl

theorem LeaseChange.subject {lease : LeaseInstance} {record : Option LeaseInstance}
    {entries : List DepositEntry}
    (change : LeaseChange env world leaseId lease call record entries) :
    call.subject env = some leaseId := by
  cases change with
  | amended amends _ => exact Call.subject_of_amended amends
  | slashed names => exact congrArg some names
  | _ => rfl

theorem Escrow.Moved.lookup_self {record : Option LeaseInstance} {entries : List DepositEntry}
    {before : Escrow} (moved : before.Moved leaseId record entries after) :
    after.leases.lookup leaseId = record := by
  rw [moved.leases, Table.lookup_set_self]

theorem Escrow.Moved.lookup_other {record : Option LeaseInstance} {entries : List DepositEntry}
    {before : Escrow} {other : LeaseId} (moved : before.Moved leaseId record entries after)
    (differs : other ≠ leaseId) : after.leases.lookup other = before.leases.lookup other := by
  rw [moved.leases, Table.lookup_set_ne _ _ differs]

/-- The parties, the token and the penalties of a lease. -/
structure LeaseInstance.SameParties (before after : LeaseInstance) : Prop where
  landlord : after.landlord = before.landlord
  tenant : after.tenant = before.tenant
  paymentToken : after.paymentToken = before.paymentToken
  earlyTerminationFeeBps : after.earlyTerminationFeeBps = before.earlyTerminationFeeBps
  fixedPenalty : after.fixedPenalty = before.fixedPenalty

/-- No operation rewrites the parties of a stored lease. -/
theorem LeaseChange.sameParties {lease left : LeaseInstance} {record : Option LeaseInstance}
    {entries : List DepositEntry}
    (change : LeaseChange env world leaseId lease call record entries)
    (kept : record = some left) : lease.SameParties left := by
  cases change with
  | amended _ terms =>
      cases kept
      exact ⟨terms.landlord, terms.tenant, terms.paymentToken, terms.earlyTerminationFeeBps,
        terms.fixedPenalty⟩
  | boughtOut => cases kept
  | terminated => cases kept
  | endedEarly => cases kept
  | swept => cases kept
  | _ =>
      cases kept
      exact ⟨rfl, rfl, rfl, rfl, rfl⟩

/-- Calls that lend out the deposit or take it back. -/
def Call.movesYield : Call → Bool
  | .deployEscrowToYield .. => true
  | .withdrawFromYield .. => true
  | _ => false

/-- Only a movement of yield rewrites the recorded amounts. -/
theorem LeaseChange.sameAmounts {lease left : LeaseInstance} {record : Option LeaseInstance}
    {entries : List DepositEntry}
    (change : LeaseChange env world leaseId lease call record entries)
    (kept : record = some left) (idle : call.movesYield = false) :
    left.securityDeposit = lease.securityDeposit ∧ left.depositAmount = lease.depositAmount := by
  cases change with
  | amended _ terms =>
      cases kept
      exact ⟨terms.securityDeposit, terms.depositAmount⟩
  | boughtOut => cases kept
  | terminated => cases kept
  | endedEarly => cases kept
  | swept => cases kept
  | deployed => cases idle
  | withdrawn => cases idle
  | _ =>
      cases kept
      exact ⟨rfl, rfl⟩

/-- No penalty is configured for ending the lease early. -/
structure LeaseInstance.Feeless (lease : LeaseInstance) : Prop where
  earlyTerminationFeeBps : lease.earlyTerminationFeeBps = none
  fixedPenalty : lease.fixedPenalty = none

theorem LeaseInstance.Feeless.finalPenalty {lease : LeaseInstance} (feeless : lease.Feeless)
    (now : U64) : lease.finalPenalty now = min 0 lease.totalDeposit := by
  rw [LeaseInstance.finalPenalty, LeaseInstance.configuredPenalty]
  simp only [feeless.earlyTerminationFeeBps, feeless.fixedPenalty]

theorem LeaseInstance.SameParties.feeless {before after : LeaseInstance}
    (same : before.SameParties after) (feeless : before.Feeless) : after.Feeless :=
  ⟨same.earlyTerminationFeeBps.trans feeless.earlyTerminationFeeBps,
    same.fixedPenalty.trans feeless.fixedPenalty⟩

theorem Opening.feeless {lease : LeaseInstance} (opening : Opening env world call leaseId lease) :
    lease.Feeless := by
  cases opening <;> exact ⟨rfl, rfl⟩

/-- A committed creation opened the record it names. -/
theorem Movement.opening (movement : Movement env call world after)
    (creates : call.creates env = some leaseId) :
    ∃ lease, Opening env world call leaseId lease ∧
      world.toEscrow.Moved leaseId (some lease) [.opened leaseId] after := by
  cases movement with
  | still silent => cases silent.symm.trans (Call.subject_of_creates creates)
  | opened opening moved =>
      obtain rfl : _ = leaseId := Option.some.inj (opening.creates.symm.trans creates)
      exact ⟨_, opening, moved⟩
  | changed _ change => cases change.creates.symm.trans creates

/-- A call writes the record of its subject only. -/
theorem Movement.frame {other : LeaseId} (movement : Movement env call world after)
    (aside : call.subject env ≠ some other) :
    after.leases.lookup other = world.leases.lookup other := by
  cases movement with
  | still _ leases _ => rw [leases]
  | opened opening moved =>
      exact moved.lookup_other fun same => aside (same ▸ opening.subject)
  | changed _ change moved =>
      exact moved.lookup_other fun same => aside (same ▸ change.subject)

end Movement

end LeaseFlow
