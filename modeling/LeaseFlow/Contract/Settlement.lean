import LeaseFlow.Contract.Administration

/-!
# Settling a deposit

Disputes and the operations that settle a deposit while the record stays in live
storage.  Only the mutual release pays anything out; `settle_deposit`,
`conclude_lease` and `resolve_dispute` rewrite the status and return.
-/

set_option autoImplicit false

namespace LeaseFlow

open Transaction

/-- The record of a lease that ended with its deposit paid out. -/
def LeaseInstance.settledOut (lease : LeaseInstance) : LeaseInstance :=
  { lease with
    status := .terminated
    depositStatus := .settled
    flags := lease.flags.clear .active }

/-- The two transfers that end a deposit. -/
def payShares (env : Env) (leaseId : LeaseId) (lease : LeaseInstance)
    (tenantRefund landlordPayout : I128) : Contract Unit := do
  payDeposit env leaseId .tenantRefund lease.paymentToken lease.tenant tenantRefund
  payDeposit env leaseId .landlordPayout lease.paymentToken lease.landlord landlordPayout

/-- Their entries in the history, newest first. -/
def shareEntries (env : Env) (leaseId : LeaseId) (lease : LeaseInstance)
    (tenantRefund landlordPayout : I128) : List DepositEntry :=
  depositPayout env leaseId .landlordPayout lease.paymentToken lease.landlord landlordPayout ++
    depositPayout env leaseId .tenantRefund lease.paymentToken lease.tenant tenantRefund

/-- The token contract accepts both transfers. -/
structure Env.AcceptsShares (env : Env) (lease : LeaseInstance)
    (tenantRefund landlordPayout : I128) : Prop where
  refund : 0 < tenantRefund → env.contracts.acceptsTransfer
    ⟨lease.paymentToken, env.currentContractAddress, lease.tenant, tenantRefund⟩ = true
  payout : 0 < landlordPayout → env.contracts.acceptsTransfer
    ⟨lease.paymentToken, env.currentContractAddress, lease.landlord, landlordPayout⟩ = true

/-! ## Settling without paying -/

def settleDeposit (env : Env) (leaseId : LeaseId) (caller : Address) : Contract Unit := do
  let lease ← loadLeaseInstanceById leaseId
  let admin ← isAdmin caller
  require (caller = lease.landlord ∨ caller = lease.tenant ∨ admin = true) .unauthorised
  requireAuth env caller
  saveLeaseInstance leaseId { lease with depositStatus := .settled }

def concludeLease (env : Env) (leaseId : LeaseId) (landlord : Address)
    (damageDeduction : I128) : Contract I128 := do
  let lease ← loadLeaseInstanceById leaseId
  require (landlord = lease.landlord) .unauthorised
  requireAuth env landlord
  require (0 ≤ damageDeduction ∧ damageDeduction ≤ lease.depositAmount) .invalidDeduction
  saveLeaseInstance leaseId { lease with status := .terminated, depositStatus := .settled }
  pure (lease.depositAmount - damageDeduction)

def resolveDispute (env : Env) (leaseId : LeaseId) (arbitrator : Address)
    (damageDeduction : I128) : Contract I128 := do
  let lease ← loadLeaseInstanceById leaseId
  require (arbitrator ∈ lease.arbitrators) .notAnArbitrator
  requireAuth env arbitrator
  require (0 ≤ damageDeduction ∧ damageDeduction ≤ lease.securityDeposit) .invalidDeduction
  saveLeaseInstance leaseId { lease with status := .terminated, depositStatus := .settled }
  pure (lease.securityDeposit - damageDeduction)

/-! ## Disputes -/

/-- Looks at neither the status nor the deposit status of the record. -/
def disputeDeposit (env : Env) (leaseId : LeaseId) (caller : Address) : Contract Unit := do
  let lease ← loadLeaseInstanceById leaseId
  require (caller = lease.landlord ∨ caller = lease.tenant) .unauthorised
  requireAuth env caller
  saveLeaseInstance leaseId { lease with depositStatus := .disputed, status := .disputed }
  publish (.depositDisputed leaseId caller)

/-- The two amounts of a release are nonnegative and split the escrowed total. -/
def requireReleaseMath (lease : LeaseInstance) (returnAmount slashAmount : I128) :
    Contract Unit := do
  let totalEscrowed ← checkedI128 lease.totalDeposit
  let released ← checkedI128 (returnAmount + slashAmount)
  require (released = totalEscrowed) .invalidReleaseMath
  require (0 ≤ returnAmount ∧ 0 ≤ slashAmount) .invalidReleaseMath

def mutualDepositRelease (env : Env) (leaseId : LeaseId)
    (lesseePubkey lessorPubkey : Address) (returnAmount slashAmount : I128) :
    Contract Unit := do
  let lease ← loadLeaseInstanceById leaseId
  require (lesseePubkey = lease.tenant ∧ lessorPubkey = lease.landlord) .unauthorised
  requireAuth env lesseePubkey
  requireAuth env lessorPubkey
  require (lease.status = .active ∨ lease.status = .expired) .leaseNotFound
  requireReleaseMath lease returnAmount slashAmount
  payShares env leaseId lease returnAmount slashAmount
  returnLeaseNft env lease.nftContract lease.tokenId lease.landlord
  saveLeaseInstance leaseId lease.settledOut
  publish (.mutualLeaseFinalized leaseId returnAmount slashAmount returnAmount slashAmount)

def initMutualReleaseFb (env : Env) (leaseId : LeaseId) (initiatorPubkey : Address)
    (proposedReturnAmount proposedSlashAmount : I128) : Contract Unit := do
  let lease ← loadLeaseInstanceById leaseId
  require (initiatorPubkey = lease.tenant ∨ initiatorPubkey = lease.landlord) .unauthorised
  requireAuth env initiatorPubkey
  require (lease.status = .active ∨ lease.status = .expired) .leaseNotFound
  requireReleaseMath lease proposedReturnAmount proposedSlashAmount
  saveLeaseInstance leaseId { lease with depositStatus := .disputed, status := .disputed }
  publish (.depositDisputed leaseId initiatorPubkey)

/-! ## Reclaiming the asset -/

def reclaim (env : Env) (leaseId : LeaseId) (caller : Address) : Contract Unit := do
  let lease ← loadLeaseInstanceById leaseId
  let admin ← isAdmin caller
  require (caller = lease.landlord ∨ admin = true) .unauthorised
  requireAuth env caller
  require (lease.depositAmount ≤ 0) .depositNotSettled
  returnLeaseNft env lease.nftContract lease.tokenId lease.landlord
  saveLeaseInstance leaseId { lease with
    status := .terminated
    flags := lease.flags.clear .active }
  publish (.assetReclaimed leaseId "Payment stream ran dry")

/-! ## Footprints -/

section Footprints

variable {parts : List Part} {env : Env} {leaseId : LeaseId}

@[simp] theorem writes_payShares (may : .deposits ∈ parts) (lease : LeaseInstance)
    (tenantRefund landlordPayout : I128) :
    Writes parts (payShares env leaseId lease tenantRefund landlordPayout) :=
  writes_bind (by simp [may]) fun _ => by simp [may]

@[simp] theorem writes_settleDeposit (may : .leases ∈ parts) (caller : Address) :
    Writes parts (settleDeposit env leaseId caller) := by
  unfold settleDeposit
  repeat refine writes_bind (by simp) fun _ => ?_
  simp [may]

@[simp] theorem writes_concludeLease (may : .leases ∈ parts) (landlord : Address)
    (damageDeduction : I128) :
    Writes parts (concludeLease env leaseId landlord damageDeduction) := by
  unfold concludeLease
  repeat refine writes_bind (by simp [may]) fun _ => ?_
  simp

@[simp] theorem writes_resolveDispute (may : .leases ∈ parts) (arbitrator : Address)
    (damageDeduction : I128) :
    Writes parts (resolveDispute env leaseId arbitrator damageDeduction) := by
  unfold resolveDispute
  repeat refine writes_bind (by simp [may]) fun _ => ?_
  simp

@[simp] theorem writes_disputeDeposit (may : [.leases, .events] ⊆ parts) (caller : Address) :
    Writes parts (disputeDeposit env leaseId caller) := by
  refine Writes.mono ?_ may
  unfold disputeDeposit
  repeat refine writes_bind (by simp) fun _ => ?_
  simp

@[simp] theorem writes_requireReleaseMath (lease : LeaseInstance)
    (returnAmount slashAmount : I128) :
    Writes parts (requireReleaseMath lease returnAmount slashAmount) := by
  unfold requireReleaseMath
  repeat refine writes_bind (by simp) fun _ => ?_
  simp

@[simp] theorem writes_mutualDepositRelease
    (may : [.leases, .deposits, .usageRights, .nftTransfers, .events] ⊆ parts)
    (lesseePubkey lessorPubkey : Address) (returnAmount slashAmount : I128) :
    Writes parts (mutualDepositRelease env leaseId lesseePubkey lessorPubkey returnAmount
      slashAmount) := by
  refine Writes.mono ?_ may
  unfold mutualDepositRelease
  repeat refine writes_bind (by simp) fun _ => ?_
  simp

@[simp] theorem writes_initMutualReleaseFb (may : [.leases, .events] ⊆ parts)
    (initiatorPubkey : Address) (proposedReturnAmount proposedSlashAmount : I128) :
    Writes parts (initMutualReleaseFb env leaseId initiatorPubkey proposedReturnAmount
      proposedSlashAmount) := by
  refine Writes.mono ?_ may
  unfold initMutualReleaseFb
  repeat refine writes_bind (by simp) fun _ => ?_
  simp

@[simp] theorem writes_reclaim (may : [.leases, .usageRights, .nftTransfers, .events] ⊆ parts)
    (caller : Address) : Writes parts (reclaim env leaseId caller) := by
  refine Writes.mono ?_ may
  unfold reclaim
  repeat refine writes_bind (by simp) fun _ => ?_
  simp

end Footprints

/-! ## Effect on the escrow -/

/-- One record was replaced, and the entries went on top of the history. -/
def Escrow.Replaced (leaseId : LeaseId) (record : Option LeaseInstance)
    (entries : List DepositEntry) (before after : Escrow) : Prop :=
  after = (before.enter entries).store leaseId record

section Settlement

variable {world after : World} {env : Env} {leaseId : LeaseId}

theorem commits_payShares {lease : LeaseInstance} {tenantRefund landlordPayout : I128}
    (result : Unit) :
    Commits (payShares env leaseId lease tenantRefund landlordPayout) world result after ↔
      env.AcceptsShares lease tenantRefund landlordPayout ∧
        after = { world with
          deposits := shareEntries env leaseId lease tenantRefund landlordPayout ++
            world.deposits } := by
  simp only [payShares, commits_bind, commits_payDeposit, shareEntries, List.append_assoc]
  constructor
  · rintro ⟨_, _, ⟨refund, rfl⟩, payout, rfl⟩
    exact ⟨⟨refund, payout⟩, rfl⟩
  · rintro ⟨⟨refund, payout⟩, rfl⟩
    exact ⟨(), _, ⟨refund, rfl⟩, payout, rfl⟩

theorem payShares_escrow {lease : LeaseInstance} {tenantRefund landlordPayout : I128}
    {result : Unit}
    (run : Commits (payShares env leaseId lease tenantRefund landlordPayout) world result after) :
    after.toEscrow =
      world.toEscrow.enter (shareEntries env leaseId lease tenantRefund landlordPayout) := by
  obtain ⟨_, rfl⟩ := (commits_payShares result).mp run
  rfl

theorem settleDeposit_commits {caller : Address} {result : Unit}
    (run : Commits (settleDeposit env leaseId caller) world result after) :
    ∃ lease, world.leases.lookup leaseId = some lease ∧
      world.toEscrow.Replaced leaseId (some { lease with depositStatus := .settled }) []
        after.toEscrow := by
  simp only [settleDeposit, commits_bind, commits_loadLeaseInstanceById, commits_isAdmin,
    commits_require, commits_requireAuth, commits_saveLeaseInstance] at run
  obtain ⟨lease, _, ⟨found, rfl⟩, _, _, ⟨_, rfl⟩, _, _, ⟨_, rfl⟩, _, _, ⟨_, rfl⟩, rfl⟩ := run
  exact ⟨lease, found, rfl⟩

theorem concludeLease_commits {landlord : Address} {damageDeduction result : I128}
    (run : Commits (concludeLease env leaseId landlord damageDeduction) world result after) :
    ∃ lease, world.leases.lookup leaseId = some lease ∧
      world.toEscrow.Replaced leaseId
        (some { lease with status := .terminated, depositStatus := .settled }) []
        after.toEscrow := by
  simp only [concludeLease, commits_bind, commits_loadLeaseInstanceById, commits_require,
    commits_requireAuth, commits_saveLeaseInstance, commits_pure] at run
  obtain ⟨lease, _, ⟨found, rfl⟩, _, _, ⟨_, rfl⟩, _, _, ⟨_, rfl⟩, _, _, ⟨_, rfl⟩, _, _, rfl, _,
    rfl⟩ := run
  exact ⟨lease, found, rfl⟩

theorem resolveDispute_commits {arbitrator : Address} {damageDeduction result : I128}
    (run : Commits (resolveDispute env leaseId arbitrator damageDeduction) world result after) :
    ∃ lease, world.leases.lookup leaseId = some lease ∧
      world.toEscrow.Replaced leaseId
        (some { lease with status := .terminated, depositStatus := .settled }) []
        after.toEscrow := by
  simp only [resolveDispute, commits_bind, commits_loadLeaseInstanceById, commits_require,
    commits_requireAuth, commits_saveLeaseInstance, commits_pure] at run
  obtain ⟨lease, _, ⟨found, rfl⟩, _, _, ⟨_, rfl⟩, _, _, ⟨_, rfl⟩, _, _, ⟨_, rfl⟩, _, _, rfl, _,
    rfl⟩ := run
  exact ⟨lease, found, rfl⟩

theorem disputeDeposit_commits {caller : Address} {result : Unit}
    (run : Commits (disputeDeposit env leaseId caller) world result after) :
    ∃ lease, world.leases.lookup leaseId = some lease ∧
      world.toEscrow.Replaced leaseId
        (some { lease with depositStatus := .disputed, status := .disputed }) []
        after.toEscrow := by
  simp only [disputeDeposit, commits_bind, commits_loadLeaseInstanceById, commits_require,
    commits_requireAuth, commits_saveLeaseInstance] at run
  obtain ⟨lease, _, ⟨found, rfl⟩, _, _, ⟨_, rfl⟩, _, _, ⟨_, rfl⟩, _, _, rfl, published⟩ := run
  exact ⟨lease, found, escrow_kept published (by simp)⟩

@[simp] theorem commits_requireReleaseMath (lease : LeaseInstance)
    (returnAmount slashAmount : I128) (result : Unit) :
    Commits (requireReleaseMath lease returnAmount slashAmount) world result after ↔
      (i128Min ≤ lease.totalDeposit ∧ lease.totalDeposit ≤ i128Max) ∧
      returnAmount + slashAmount = lease.totalDeposit ∧
      0 ≤ returnAmount ∧ 0 ≤ slashAmount ∧ after = world := by
  simp only [requireReleaseMath, commits_bind, commits_checkedI128, commits_require]
  constructor
  · rintro ⟨_, _, ⟨range, rfl, rfl⟩, _, _, ⟨_, rfl, rfl⟩, _, _, ⟨split, rfl⟩, positive, rfl⟩
    exact ⟨range, split, positive.1, positive.2, rfl⟩
  · rintro ⟨range, split, returned, slashed, rfl⟩
    exact ⟨_, after, ⟨range, rfl, rfl⟩, _, after, ⟨by rwa [split], rfl, rfl⟩, (), after,
      ⟨split, rfl⟩, ⟨returned, slashed⟩, rfl⟩

/-- A mutual release needs a running lease, but does not look at its deposit status. -/
theorem mutualDepositRelease_commits {lesseePubkey lessorPubkey : Address}
    {returnAmount slashAmount : I128} {result : Unit}
    (run : Commits (mutualDepositRelease env leaseId lesseePubkey lessorPubkey returnAmount
      slashAmount) world result after) :
    ∃ lease, world.leases.lookup leaseId = some lease ∧
      (lease.status = .active ∨ lease.status = .expired) ∧
      returnAmount + slashAmount = lease.totalDeposit ∧ 0 ≤ returnAmount ∧ 0 ≤ slashAmount ∧
      world.toEscrow.Replaced leaseId (some lease.settledOut)
        (shareEntries env leaseId lease returnAmount slashAmount) after.toEscrow := by
  simp only [mutualDepositRelease, commits_bind, commits_loadLeaseInstanceById, commits_require,
    commits_requireAuth, commits_requireReleaseMath] at run
  obtain ⟨lease, _, ⟨found, rfl⟩, _, _, ⟨_, rfl⟩, _, _, ⟨_, rfl⟩, _, _, ⟨_, rfl⟩, _, _,
    ⟨running, rfl⟩, _, _, ⟨_, split, returned, slashed, rfl⟩, _, w1, paid, _, w2, sent, _,
    w3, saved, published⟩ := run
  refine ⟨lease, found, running, split, returned, slashed, ?_⟩
  rw [Escrow.Replaced, escrow_kept published (by simp), saveLeaseInstance_escrow saved,
    escrow_kept sent (by simp), payShares_escrow paid]

theorem initMutualReleaseFb_commits {initiatorPubkey : Address}
    {proposedReturnAmount proposedSlashAmount : I128} {result : Unit}
    (run : Commits (initMutualReleaseFb env leaseId initiatorPubkey proposedReturnAmount
      proposedSlashAmount) world result after) :
    ∃ lease, world.leases.lookup leaseId = some lease ∧
      (lease.status = .active ∨ lease.status = .expired) ∧
      world.toEscrow.Replaced leaseId
        (some { lease with depositStatus := .disputed, status := .disputed }) []
        after.toEscrow := by
  simp only [initMutualReleaseFb, commits_bind, commits_loadLeaseInstanceById, commits_require,
    commits_requireAuth, commits_requireReleaseMath, commits_saveLeaseInstance] at run
  obtain ⟨lease, _, ⟨found, rfl⟩, _, _, ⟨_, rfl⟩, _, _, ⟨_, rfl⟩, _, _, ⟨running, rfl⟩, _, _,
    ⟨_, _, _, _, rfl⟩, _, _, rfl, published⟩ := run
  exact ⟨lease, found, running, escrow_kept published (by simp)⟩

/-- A reclaim terminates the lease and leaves the deposit status as it is. -/
theorem reclaim_commits {caller : Address} {result : Unit}
    (run : Commits (reclaim env leaseId caller) world result after) :
    ∃ lease, world.leases.lookup leaseId = some lease ∧ lease.depositAmount ≤ 0 ∧
      world.toEscrow.Replaced leaseId
        (some { lease with status := .terminated, flags := lease.flags.clear .active }) []
        after.toEscrow := by
  simp only [reclaim, commits_bind, commits_loadLeaseInstanceById, commits_isAdmin,
    commits_require, commits_requireAuth] at run
  obtain ⟨lease, _, ⟨found, rfl⟩, _, _, ⟨_, rfl⟩, _, _, ⟨_, rfl⟩, _, _, ⟨_, rfl⟩, _, _,
    ⟨empty, rfl⟩, _, w1, sent, _, w2, saved, published⟩ := run
  refine ⟨lease, found, empty, ?_⟩
  rw [Escrow.Replaced, escrow_kept published (by simp), saveLeaseInstance_escrow saved,
    escrow_kept sent (by simp)]
  rfl

end Settlement

end LeaseFlow
