import LeaseFlow.KeySpace.LessorRights
import LeaseFlow.Contract.Settlement

/-!
# The payment router

The five operations of the router.  Its accumulations, its configurations and its payment counts
all lie at the key of the lease they belong to: wherever the lease itself lies there, the reads
of these trap.
-/

set_option autoImplicit false

namespace LeaseFlow.KeySpace

open Transaction Failure

/-- The key that the router reuses for what it keeps of a lease. -/
def routingKey (leaseId : LeaseId) : StorageKey :=
  (NftDataKey.leaseInstance (.u64 leaseId)).key

def getCurrentNftHolder (leaseId : LeaseId) : Module Address :=
  orFail (.routing .nftNotFound) (getCurrentHolder leaseId)

/-! ## Payments -/

def YieldAccumulation.fresh (env : Env) (leaseId : LeaseId) (holder : Address) :
    YieldAccumulation where
  leaseId := leaseId
  holder := holder
  accumulatedYield := 0
  accumulationStart := env.timestamp
  lastPaymentTimestamp := env.timestamp
  paymentCount := 0

def updateYieldAccumulation (env : Env) (leaseId : LeaseId) (holder : Address) (amount : I128) :
    Module Unit := do
  let found ← persistently (TypedStore.get Held.yieldAccumulation (routingKey leaseId))
  let accumulation := found.getD (.fresh env leaseId holder)
  let accumulatedYield ← checkedI128 (accumulation.accumulatedYield + amount)
  let paymentCount ← checkedUpTo Access.u32Max (accumulation.paymentCount + 1)
  persistently (TypedStore.set Held.yieldAccumulation (routingKey leaseId)
    { accumulation with
      accumulatedYield := accumulatedYield
      lastPaymentTimestamp := env.timestamp
      paymentCount := paymentCount })
  let period ← checkedSub env.timestamp accumulation.accumulationStart
  announce (.yieldAccumulated leaseId holder amount period)

def routePaymentToNftHolder (gaps : Gaps) (env : Env) (leaseId : LeaseId) (holder : Address)
    (amount : I128) : Module Unit := do
  updateYieldAccumulation env leaseId holder amount
  announce (.paymentRouted leaseId gaps.generatedAddress holder amount env.timestamp)

def StoredLease.touched (now : U64) (lease : StoredLease) : StoredLease :=
  { lease with lastTenantInteraction := now }

def updateTenantHeartbeat (env : Env) (leaseId : LeaseId) (tenant : Address) : Module Unit := do
  let lease ← loadLease leaseId (.lease .leaseNotFound)
  check (lease.tenant = tenant) (.lease .unauthorised)
  saveLease leaseId (lease.touched env.timestamp)

/-- The count of the payments of a lease, at the same key as everything else. -/
def updatePaymentTracking (leaseId : LeaseId) : Module Unit := do
  let found ← persistently (TypedStore.get Held.u32 (routingKey leaseId))
  let paymentCount ← checkedUpTo Access.u32Max (found.getD 0 + 1)
  persistently (TypedStore.set Held.u32 (routingKey leaseId) paymentCount)

def payLeaseRentWithNftRouting (gaps : Gaps) (env : Env) (leaseId : LeaseId) (payer : Address)
    (paymentAmount : I128) : Module Unit := do
  requireAuth env payer
  let lease ← loadLease leaseId (.lease .leaseNotFound)
  orTrap (lease.flags.has .active = true) "Lease is not active"
  let authorised ← persistently
    (TypedStore.get Held.bool (DataKey.authorizedPayer leaseId payer).key)
  check (payer = lease.tenant ∨ authorised.getD false = true) (.lease .unauthorised)
  let currentHolder ← orFail (.lease .invalidState) (getCurrentNftHolder leaseId)
  routePaymentToNftHolder gaps env leaseId currentHolder paymentAmount
  if payer = lease.tenant then
    updateTenantHeartbeat env leaseId payer
  updatePaymentTracking leaseId

/-! ## Deposits -/

def verifyOwnershipForDepositRefund (env : Env) (leaseId : LeaseId) (claimedHolder : Address) :
    Module Unit := do
  let response ← orFail (.routing .ownershipVerificationFailed)
    (verifyTokenOwnership env ⟨leaseId, env.currentContractAddress, .depositRefund⟩)
  check (response.isValid = true ∧ response.currentHolder = claimedHolder)
    (.routing .ownershipVerificationFailed)

def refundDepositToNftHolder (env : Env) (leaseId : LeaseId) (refundAmount : I128) :
    Module Unit := do
  let lease ← loadLease leaseId (.lease .leaseNotFound)
  check (lease.status = .terminated ∨ lease.status = .expired) (.lease .invalidState)
  let currentHolder ← orFail (.lease .invalidState) (getCurrentNftHolder leaseId)
  verifyOwnershipForDepositRefund env leaseId currentHolder
  announce (.paymentRouted leaseId env.currentContractAddress currentHolder refundAmount
    env.timestamp)

def StoredLease.released (lease : StoredLease) : StoredLease :=
  { lease with toLeaseInstance := lease.toLeaseInstance.settledOut }

/-- `if amount > 0` -/
def routePayout (env : Env) (leaseId : LeaseId) (recipient : Address) (amount : I128) :
    Module Unit :=
  if 0 < amount then
    announce (.paymentRouted leaseId env.currentContractAddress recipient amount env.timestamp)
  else
    pure ()

/-- The checks of a mutual release, which return the lease. -/
def admitMutualRelease (env : Env) (leaseId : LeaseId) (lesseePubkey lessorPubkey : Address)
    (returnAmount slashAmount : I128) : Module StoredLease := do
  let lease ← loadLease leaseId (.lease .leaseNotFound)
  check (lesseePubkey = lease.tenant) (.lease .unauthorised)
  let currentHolder ← orFail (.lease .invalidState) (getCurrentNftHolder leaseId)
  check (lessorPubkey = currentHolder) (.lease .unauthorised)
  requireAuth env lesseePubkey
  requireAuth env lessorPubkey
  check (lease.status = .active ∨ lease.status = .expired) (.lease .leaseNotFound)
  let totalEscrowed ← checkedI128 lease.totalDeposit
  let released ← checkedI128 (returnAmount + slashAmount)
  check (released = totalEscrowed) (.lease .invalidReleaseMath)
  check (0 ≤ returnAmount ∧ 0 ≤ slashAmount) (.lease .invalidReleaseMath)
  pure lease

/-- The lessor is the current holder of the rights. -/
def mutualReleaseWithNftVerification (env : Env) (leaseId : LeaseId)
    (lesseePubkey lessorPubkey : Address) (returnAmount slashAmount : I128) : Module Unit := do
  let lease ← admitMutualRelease env leaseId lesseePubkey lessorPubkey returnAmount slashAmount
  routePayout env leaseId lesseePubkey returnAmount
  routePayout env leaseId lessorPubkey slashAmount
  releaseNftLock leaseId
  saveLease leaseId lease.released
  announce (.mutualLeaseFinalized leaseId returnAmount slashAmount returnAmount slashAmount)

/-! ## Routing after a transfer -/

/-- The part of a billing cycle that has elapsed, in basis points. -/
def prorationRatio (elapsedTime : U64) : U64 :=
  if elapsedTime < billingCycleDuration then elapsedTime * 10000 / billingCycleDuration else 10000

/-- What the previous holder is due of the yield accumulated so far. -/
def calculateYieldProrationOnTransfer (env : Env) (leaseId : LeaseId) : Module I128 := do
  let accumulation ← getOr Held.yieldAccumulation (routingKey leaseId)
    (.routing .insufficientYield)
  let ratio := prorationRatio (env.timestamp - accumulation.accumulationStart)
  let share ← checkedI128 (accumulation.accumulatedYield * ratio)
  pure (share.tdiv 10000)

def executeYieldRedistribution (env : Env) (leaseId : LeaseId)
    (previousHolder newHolder : Address) (prorationAmount : I128) : Module Unit := do
  routePayout env leaseId previousHolder prorationAmount
  persistently (TypedStore.set Held.yieldAccumulation (routingKey leaseId)
    (.fresh env leaseId newHolder))

def PaymentRoutingConfig.fresh (env : Env) (leaseId : LeaseId) (holder : Address) :
    PaymentRoutingConfig where
  leaseId := leaseId
  currentHolder := holder
  routingEnabled := true
  lastRoutingUpdate := env.timestamp
  yieldAccumulationStart := env.timestamp

def updateRoutingConfiguration (env : Env) (leaseId : LeaseId) (newHolder : Address) :
    Module Unit :=
  persistently (TypedStore.set Held.paymentRoutingConfig (routingKey leaseId)
    (.fresh env leaseId newHolder))

def updatePaymentRoutingOnNftTransfer (env : Env) (leaseId : LeaseId)
    (previousHolder newHolder : Address) : Module Unit := do
  let _lease ← loadLease leaseId (.lease .leaseNotFound)
  let prorationAmount ← calculateYieldProrationOnTransfer env leaseId
  executeYieldRedistribution env leaseId previousHolder newHolder prorationAmount
  updateRoutingConfiguration env leaseId newHolder
  announce (.routingUpdated leaseId previousHolder newHolder env.timestamp)

def getPaymentRoutingConfig (env : Env) (leaseId : LeaseId) : Module PaymentRoutingConfig := do
  let found ← persistently (TypedStore.get Held.paymentRoutingConfig (routingKey leaseId))
  match found with
  | some config => pure config
  | none => do
      let currentHolder ← orFail (.lease .invalidState) (getCurrentNftHolder leaseId)
      pure (.fresh env leaseId currentHolder)

/-! ## What the operations do -/

section Specifications

variable {gaps : Gaps} {env : Env} {before after : Storage} {leaseId : LeaseId} {result : Unit}

theorem leaves_getCurrentNftHolder (leaseId : LeaseId) :
    LeavesEntries (getCurrentNftHolder leaseId) :=
  steady_raising _ (leaves_getCurrentHolder leaseId)

theorem leaves_routePayout (env : Env) (leaseId : LeaseId) (recipient : Address)
    (amount : I128) : LeavesEntries (routePayout env leaseId recipient amount) :=
  steady_ite _ (leaves_announce _) (steady_pure ())

theorem foreign_yieldAccumulation : Held.leaseInstance.Foreign Held.yieldAccumulation :=
  fun _ _ same => by cases same

/-- A payment first loads the lease and then reads an accumulation at the same key. -/
theorem not_commits_payLeaseRentWithNftRouting {payer : Address} {paymentAmount : I128} :
    ¬ Commits (payLeaseRentWithNftRouting gaps env leaseId payer paymentAmount) before result
      after := by
  intro run
  simp only [payLeaseRentWithNftRouting, commits_bind, commits_requireAuth, commits_loadLease,
    commits_orTrap, commits_check, commits_orFail, routePaymentToNftHolder] at run
  obtain ⟨_, _, ⟨_, rfl⟩, lease, _, ⟨lies, rfl⟩, _, _, ⟨_, rfl⟩, _, looked, authorised, _, _,
    ⟨_, rfl⟩, _, held, holder, _, _, ⟨_, _, accumulated, _⟩, _⟩ := run
  have same := ((leaves_getCurrentNftHolder leaseId).keeps holder).trans
    ((leaves_get _ _).keeps authorised)
  exact not_commits_read foreign_yieldAccumulation (same ▸ lies) _ _ accumulated

/-- A transfer first loads the lease and then reads an accumulation at the same key. -/
theorem not_commits_updatePaymentRoutingOnNftTransfer {previousHolder newHolder : Address} :
    ¬ Commits (updatePaymentRoutingOnNftTransfer env leaseId previousHolder newHolder) before
      result after := by
  intro run
  simp only [updatePaymentRoutingOnNftTransfer, calculateYieldProrationOnTransfer, commits_bind,
    commits_loadLease, commits_getOr] at run
  obtain ⟨lease, _, ⟨lies, rfl⟩, _, _, ⟨accumulation, _, ⟨accumulated, rfl⟩, _⟩, _⟩ := run
  exact foreign_yieldAccumulation lease accumulation (Option.some.inj (lies.symm.trans accumulated))

theorem leaves_refundDepositToNftHolder (env : Env) (leaseId : LeaseId) (refundAmount : I128) :
    LeavesEntries (refundDepositToNftHolder env leaseId refundAmount) := by
  refine steady_bind (leaves_getOr _ _ _) fun lease => ?_
  refine steady_bind (steady_check _ _) fun _ => ?_
  refine steady_bind (steady_raising _ (leaves_getCurrentNftHolder leaseId)) fun holder => ?_
  refine steady_bind (steady_bind (steady_raising _ ?_) fun _ => steady_check _ _) fun _ =>
    leaves_announce _
  exact leaves_verifyTokenOwnership env _

theorem leaves_getPaymentRoutingConfig (env : Env) (leaseId : LeaseId) :
    LeavesEntries (getPaymentRoutingConfig env leaseId) := by
  refine steady_bind (leaves_get _ _) fun found => ?_
  cases found with
  | some config => exact steady_pure config
  | none =>
      exact steady_bind (steady_raising _ (leaves_getCurrentNftHolder leaseId)) fun holder =>
        steady_pure _

theorem admitMutualRelease_commits {lesseePubkey lessorPubkey : Address}
    {returnAmount slashAmount : I128} {lease : StoredLease}
    (run : Commits (admitMutualRelease env leaseId lesseePubkey lessorPubkey returnAmount
      slashAmount) before lease after) :
    before.persistent (leaseKey leaseId) = some (Held.leaseInstance.store lease) ∧
      lesseePubkey = lease.tenant ∧ (lease.status = .active ∨ lease.status = .expired) ∧
      returnAmount + slashAmount = lease.totalDeposit ∧ (0 ≤ returnAmount ∧ 0 ≤ slashAmount) ∧
      after.persistent = before.persistent := by
  simp only [admitMutualRelease, commits_bind, commits_requireAuth, commits_loadLease,
    commits_check, commits_orFail, commits_checkedI128, commits_pure] at run
  obtain ⟨found, _, ⟨lies, rfl⟩, _, _, ⟨tenant, rfl⟩, holder, middle, held, rest⟩ := run
  have same := (leaves_getCurrentNftHolder leaseId).keeps held
  obtain ⟨_, _, ⟨_, rfl⟩, _, _, ⟨_, rfl⟩, _, _, ⟨_, rfl⟩, _, _, ⟨running, rfl⟩, _, _, ⟨_, rfl, rfl⟩,
    _, _, ⟨_, rfl, rfl⟩, _, _, ⟨split, rfl⟩, _, _, ⟨nonneg, rfl⟩, rfl, rfl⟩ := rest
  exact ⟨lies, tenant, running, split, nonneg, same⟩

/-- A release settles the lease it names, and writes no entry besides but the lock. -/
theorem mutualReleaseWithNftVerification_commits {lesseePubkey lessorPubkey : Address}
    {returnAmount slashAmount : I128}
    (run : Commits (mutualReleaseWithNftVerification env leaseId lesseePubkey lessorPubkey
      returnAmount slashAmount) before result after) :
    ∃ lease, before.persistent (leaseKey leaseId) = some (Held.leaseInstance.store lease) ∧
      lesseePubkey = lease.tenant ∧ (lease.status = .active ∨ lease.status = .expired) ∧
      returnAmount + slashAmount = lease.totalDeposit ∧
      after.persistent = Function.update
        (Function.update before.persistent (NftDataKey.nftIndestructibilityLock leaseId).key none)
        (leaseKey leaseId) (some (Held.leaseInstance.store lease.released)) := by
  simp only [mutualReleaseWithNftVerification, commits_bind, commits_saveLease,
    commits_announce] at run
  obtain ⟨lease, _, admitted, _, _, returned, _, _, slashed, _, _, unlocked, _, _, rfl, rfl⟩ := run
  obtain ⟨lies, tenant, running, split, _, same⟩ := admitMutualRelease_commits admitted
  refine ⟨lease, lies, tenant, running, split, ?_⟩
  have unwritten := ((leaves_routePayout env leaseId _ _).keeps slashed).trans
    (((leaves_routePayout env leaseId _ _).keeps returned).trans same)
  rw [releaseNftLock_commits unlocked, ← unwritten]

end Specifications

end LeaseFlow.KeySpace
