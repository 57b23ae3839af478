import LeaseFlow.Contract.AssetRegistry
import LeaseFlow.Contract.VelocityGuard

/-!
# Creating lease instances

The two operations that write a new `LeaseInstance`: the proposal of
`create_lease_instance`, and the immediately active lease of
`create_lease_with_continuous_billing`.
-/

set_option autoImplicit false

namespace LeaseFlow

open Transaction

/-! ## Reentrancy lock -/

def setReentrancyLock (locked : Bool) : Contract Unit :=
  modify fun world => { world with nonReentrant := locked }

def acquireReentrancyLock (env : Env) : Contract Unit := do
  let locked ← inspect fun world => world.nonReentrant
  if locked = true then do
    publish (.reentryDetected env.timestamp)
    throw (.trap "ReentrancyAttemptDetected")
  else
    setReentrancyLock true

def releaseReentrancyLock : Contract Unit :=
  setReentrancyLock false

/-! ## Active leases index -/

def updateArchive (change : ArchiveStore → ArchiveStore) : Contract Unit :=
  modify fun world => { world with archive := change world.archive }

def addToActiveLeasesIndex (env : Env) (leaseId : LeaseId) : Contract Unit := do
  let index ← inspect fun world => world.archive.activeLeasesIndex
  let extended ← question (env.contracts.addToActiveLeasesIndex index leaseId)
  updateArchive fun archive => { archive with activeLeasesIndex := extended }

def removeFromActiveLeasesIndex (env : Env) (leaseId : LeaseId) : Contract Unit := do
  let index ← inspect fun world => world.archive.activeLeasesIndex
  let reduced ← question (env.contracts.removeFromActiveLeasesIndex index leaseId)
  updateArchive fun archive => { archive with activeLeasesIndex := reduced }

/-! ## The deposit a proposal records -/

/-- Without a DEX contract the swap is simulated at a fixed loss of one per cent. -/
def simulatedSwap (originalAmount : I128) : I128 :=
  (saturatingI128 (originalAmount * 9900)).tdiv 10000

def minimumSwapOutput (originalAmount : I128) (maxSlippageBps : U32) : I128 :=
  (saturatingI128 (originalAmount * (10000 - maxSlippageBps))).tdiv 10000

/-- The swap's output.  A DEX is asked for a path payment from the tenant to the
collateral asset; nothing is credited to the contract. -/
def swapOutput (env : Env) (tenant collateralAsset : Address) (originalAmount : I128)
    (maxSlippageBps : U32) (swapPath : List Address) (dexContract : Option Address) :
    Contract I128 :=
  match dexContract with
  | some dex =>
      expect (env.contracts.pathPayment dex tenant collateralAsset originalAmount maxSlippageBps
        swapPath) "DEX call failed"
  | none => do
      require (minimumSwapOutput originalAmount maxSlippageBps ≤ simulatedSwap originalAmount)
        .slippageExceeded
      pure (simulatedSwap originalAmount)

def executeDepositSwap (env : Env) (leaseId : LeaseId)
    (tenant originalAsset collateralAsset : Address) (originalAmount : I128)
    (maxSlippageBps : U32) (swapPath : List Address) (dexContract : Option Address) :
    Contract I128 :=
  if originalAsset = collateralAsset then
    pure originalAmount
  else do
    require (swapPath ≠ []) .pathPaymentFailed
    let finalLockedAmount ← swapOutput env tenant collateralAsset originalAmount maxSlippageBps
      swapPath dexContract
    publish (.crossAssetDepositLocked leaseId originalAsset collateralAsset swapPath
      originalAmount finalLockedAmount)
    pure finalLockedAmount

/-- A failed swap releases the lock before its `Err` is returned. -/
def unlockOnError (outcome : Except LeaseError I128) : Contract I128 :=
  match outcome with
  | .ok amount => pure amount
  | .error error => do
      releaseReentrancyLock
      throw (.err error)

def lockDeposit (env : Env) (leaseId : LeaseId) (params : CreateLeaseParams) : Contract I128 :=
  match params.depositAsset with
  | some depositAsset => do
      let result ← resultOf (executeDepositSwap env leaseId params.tenant depositAsset
        params.paymentToken params.securityDeposit params.maxSlippageBps params.swapPath
        params.dexContract)
      unlockOnError result
  | none => pure params.securityDeposit

/-! ## `create_lease_instance` -/

def initialFlags (params : CreateLeaseParams) : LeaseFlags :=
  let flags := LeaseFlags.active
  let flags := if params.yieldDelegationEnabled then flags.raise .yieldDelegationEnabled else flags
  if params.hasPet then flags.raise .hasPet else flags

/-- The record of a new proposal.  The fee fields and the asset fields stay empty. -/
def proposedLease (landlord : Address) (params : CreateLeaseParams) (lockedAmount : I128) :
    LeaseInstance where
  landlord := landlord
  tenant := params.tenant
  rentAmount := params.rentAmount
  depositAmount := params.depositAmount
  securityDeposit := lockedAmount
  startDate := params.startDate
  endDate := params.endDate
  depositStatus := .held
  status := .pending
  propertyUri := params.propertyUri
  nftContract := none
  tokenId := none
  debt := 0
  rentPaid := 0
  buyoutPrice := none
  cumulativePayments := 0
  rentPerSec := params.rentPerSec
  gracePeriodEnd := params.gracePeriodEnd
  lateFeeFlat := params.lateFeeFlat
  lateFeePerSec := params.lateFeePerSec
  secondsLateCharged := 0
  withdrawalAddress := none
  rentWithdrawn := 0
  arbitrators := params.arbitrators
  maintenanceStatus := .none
  withheldRent := 0
  repairProofHash := none
  inspector := none
  rentPullAuthorizedAmount := none
  equityPercentageBps := params.equityPercentageBps
  paymentToken := params.paymentToken
  flags := initialFlags params
  earlyTerminationFeeBps := none
  fixedPenalty := none
  lessorReferenceId := params.lessorReferenceId
  assetRegistryAddress := none
  assetId := none

def verifyLeaseAsset (env : Env) (leaseId : LeaseId) (landlord : Address)
    (params : CreateLeaseParams) : Contract (Option (BytesN 32)) :=
  match params.assetRegistryAddress, params.assetId with
  | some registryAddress, some assetId => do
      let proof ← verifyAssetOwnership env leaseId landlord registryAddress assetId
      pure (some proof)
  | _, _ => pure none

/-- Store the record of a creation; the history of deposits notes that a new record
begins here. -/
def openLeaseInstance (leaseId : LeaseId) (lease : LeaseInstance) : Contract Unit := do
  saveLeaseInstance leaseId lease
  modify fun world => { world with deposits := .opened leaseId :: world.deposits }

def createLeaseInstance (env : Env) (leaseId : LeaseId) (landlord : Address)
    (params : CreateLeaseParams) : Contract Unit := do
  acquireReentrancyLock env
  let existing ← inspect fun world => world.leases.lookup leaseId
  if existing ≠ none then do
    releaseReentrancyLock
    throw (.err .leaseAlreadyExists)
  else do
    requireAuth env landlord
    requireAuth env params.tenant
    let _freezeProof ← verifyLeaseAsset env leaseId landlord params
    let lockedAmount ← lockDeposit env leaseId params
    openLeaseInstance leaseId (proposedLease landlord params lockedAmount)
    let indexResult ← resultOf (addToActiveLeasesIndex env leaseId)
    let velocityInit ← resultOf (VelocityGuard.initializeLessor landlord)
    let velocityPortfolio ← resultOf (VelocityGuard.updatePortfolioSize landlord 1)
    releaseReentrancyLock
    question indexResult
    question velocityInit
    question velocityPortfolio
    publish (.leaseSigned leaseId params.propertyUri)

/-! ## `create_lease_with_continuous_billing` -/

/-- Reads what the billing module keeps under a symbol.  A symbol-keyed lease that lies there
is not of the type read. -/
def billingEntry {α : Type} (symbol : Symbol) (entry : BillingStore → α) : Contract α := do
  let lease ← inspect fun world => world.symbols.lease symbol
  demand (lease = none) "ConversionError"
  inspect fun world => entry world.billing

/-- `register_lease_billing`; the caller turns each of its errors into `Unauthorised`. -/
def registerLeaseBilling (env : Env) (leaseId : LeaseId) (params : BillingLeaseParams)
    (assetAddress : Address) (endTime : U64) : Contract Unit := do
  let stored ← billingEntry "BILL_STATE" BillingStore.billingState
  let billingState := stored.getD ⟨false, false⟩
  require (billingState.globalBillingEnabled = true ∧ billingState.emergencyPause = false)
    .unauthorised
  let treasury ← billingEntry "RENT_TREAS" BillingStore.rentTreasury
  let treasuryAddress ← okOr treasury .unauthorised
  let active : ActiveLease := ⟨leaseId, params.landlord, params.tenant, assetAddress,
    params.rentAmount, params.rentPerSecond, params.paymentToken, env.timestamp, endTime,
    params.billingFrequency, treasuryAddress⟩
  let activeLeases ← billingEntry "ACTIVE_LEASES" BillingStore.activeLeases
  updateBilling fun billing => { billing with
    activeLeases := Function.update activeLeases leaseId (some active) }
  publish (.leaseBillingStarted leaseId params.landlord params.tenant params.rentAmount
    params.rentPerSecond params.billingFrequency env.timestamp)

def billingEndTime (env : Env) (params : BillingLeaseParams) : U64 :=
  saturatingAddU64 env.timestamp params.duration

/-- The ledger sequence is the id. -/
def billingLeaseId (env : Env) : LeaseId :=
  env.sequence.toUInt64

/-- The record of a lease with continuous billing.  Its `deposit_amount` argument is
recorded both as the deposit and as the security deposit. -/
def billedLease (env : Env) (params : BillingLeaseParams) (rentPullAuthorizedAmount : I128) :
    LeaseInstance where
  landlord := params.landlord
  tenant := params.tenant
  rentAmount := params.rentAmount
  depositAmount := params.depositAmount
  securityDeposit := params.depositAmount
  startDate := env.timestamp
  endDate := billingEndTime env params
  depositStatus := .held
  status := .active
  propertyUri := params.propertyUri
  nftContract := none
  tokenId := none
  debt := 0
  rentPaid := 0
  buyoutPrice := none
  cumulativePayments := 0
  rentPerSec := params.rentPerSecond
  gracePeriodEnd := billingEndTime env params
  lateFeeFlat := 0
  lateFeePerSec := 0
  secondsLateCharged := 0
  withdrawalAddress := none
  rentWithdrawn := 0
  arbitrators := []
  maintenanceStatus := .none
  withheldRent := 0
  repairProofHash := none
  inspector := none
  rentPullAuthorizedAmount := some rentPullAuthorizedAmount
  equityPercentageBps := 0
  paymentToken := params.paymentToken
  flags := .active
  earlyTerminationFeeBps := none
  fixedPenalty := none
  lessorReferenceId := none
  assetRegistryAddress := none
  assetId := none

def createLeaseWithContinuousBilling (env : Env) (params : BillingLeaseParams) :
    Contract LeaseId := do
  requireAuth env params.landlord
  requireKyc env params.landlord params.tenant
  requireStablecoin params.paymentToken
  let rentPullAuthorizedAmount ← checkedI128 (params.rentAmount * 12)
  openLeaseInstance (billingLeaseId env) (billedLease env params rentPullAuthorizedAmount)
  -- the text is no strkey, so on a real ledger every call stops here
  let assetAddress ← expect (env.addressFromString "property_asset") "invalid address"
  registerLeaseBilling env (billingLeaseId env) params assetAddress (billingEndTime env params)
  publish (.leaseStarted (billingLeaseId env).toNat params.tenant params.rentPerSecond)
  pure (billingLeaseId env)

/-! ## Footprints -/

section Footprints

variable {parts : List Part} {env : Env}

@[simp] theorem writes_setReentrancyLock (may : .reentrancyLock ∈ parts) (locked : Bool) :
    Writes parts (setReentrancyLock locked) := by
  refine writes_modify fun state part aside => ?_
  cases part <;> first | rfl | exact absurd may aside

@[simp] theorem writes_acquireReentrancyLock (may : [.reentrancyLock, .events] ⊆ parts) :
    Writes parts (acquireReentrancyLock env) := by
  refine Writes.mono (writes_bind (by simp) fun _ => writes_ite _ ?_ (by simp)) may
  exact writes_bind (by simp) fun _ => writes_throw _

@[simp] theorem writes_releaseReentrancyLock (may : .reentrancyLock ∈ parts) :
    Writes parts releaseReentrancyLock :=
  writes_setReentrancyLock may false

@[simp] theorem writes_addToActiveLeasesIndex (may : .activeLeasesIndex ∈ parts)
    (leaseId : LeaseId) : Writes parts (addToActiveLeasesIndex env leaseId) := by
  unfold addToActiveLeasesIndex
  repeat refine writes_bind (by simp) fun _ => ?_
  refine writes_modify fun state part aside => ?_
  cases part <;> first | rfl | exact absurd may aside

@[simp] theorem writes_removeFromActiveLeasesIndex (may : .activeLeasesIndex ∈ parts)
    (leaseId : LeaseId) : Writes parts (removeFromActiveLeasesIndex env leaseId) := by
  unfold removeFromActiveLeasesIndex
  repeat refine writes_bind (by simp) fun _ => ?_
  refine writes_modify fun state part aside => ?_
  cases part <;> first | rfl | exact absurd may aside

@[simp] theorem writes_swapOutput (tenant collateralAsset : Address) (originalAmount : I128)
    (maxSlippageBps : U32) (swapPath : List Address) (dexContract : Option Address) :
    Writes parts (swapOutput env tenant collateralAsset originalAmount maxSlippageBps swapPath
      dexContract) := by
  unfold swapOutput
  split <;> simp

@[simp] theorem writes_executeDepositSwap (may : .events ∈ parts) (leaseId : LeaseId)
    (tenant originalAsset collateralAsset : Address) (originalAmount : I128)
    (maxSlippageBps : U32) (swapPath : List Address) (dexContract : Option Address) :
    Writes parts (executeDepositSwap env leaseId tenant originalAsset collateralAsset
      originalAmount maxSlippageBps swapPath dexContract) := by
  refine writes_ite _ (writes_pure _) (writes_bind (by simp) fun _ => ?_)
  refine writes_bind (by simp) fun _ => ?_
  exact writes_bind (writes_publish may _) fun _ => writes_pure _

@[simp] theorem writes_lockDeposit (may : [.reentrancyLock, .events] ⊆ parts) (leaseId : LeaseId)
    (params : CreateLeaseParams) : Writes parts (lockDeposit env leaseId params) := by
  have unlocked (outcome : Except LeaseError I128) :
      Writes [.reentrancyLock, .events] (unlockOnError outcome) := by
    cases outcome with
    | ok amount => exact writes_pure amount
    | error error => exact writes_bind (by simp) fun _ => writes_throw _
  refine Writes.mono ?_ may
  unfold lockDeposit
  split
  · exact writes_bind (by simp) fun outcome => unlocked outcome
  · exact writes_pure _

@[simp] theorem writes_verifyLeaseAsset (may : [.frozenAssets, .events] ⊆ parts)
    (leaseId : LeaseId) (landlord : Address) (params : CreateLeaseParams) :
    Writes parts (verifyLeaseAsset env leaseId landlord params) := by
  refine Writes.mono ?_ may
  unfold verifyLeaseAsset
  split
  · exact writes_bind (by simp) fun _ => writes_pure _
  · exact writes_pure _

@[simp] theorem writes_openLeaseInstance (may : [.leases, .deposits] ⊆ parts) (leaseId : LeaseId)
    (lease : LeaseInstance) : Writes parts (openLeaseInstance leaseId lease) := by
  refine Writes.mono (writes_bind (by simp) fun _ => writes_modify fun state part aside => ?_) may
  cases part <;> first | rfl | exact absurd (by simp) aside

@[simp] theorem writes_createLeaseInstance
    (may : [.leases, .deposits, .velocity, .activeLeasesIndex, .frozenAssets, .reentrancyLock,
      .events] ⊆ parts) (leaseId : LeaseId) (landlord : Address) (params : CreateLeaseParams) :
    Writes parts (createLeaseInstance env leaseId landlord params) := by
  refine Writes.mono ?_ may
  unfold createLeaseInstance
  iterate 2 refine writes_bind (by simp) fun _ => ?_
  refine writes_ite _ (writes_bind (by simp) fun _ => writes_throw _) ?_
  repeat refine writes_bind (by simp) fun _ => ?_
  simp

@[simp] theorem writes_billingEntry {α : Type} (symbol : Symbol) (entry : BillingStore → α) :
    Writes parts (billingEntry symbol entry) :=
  writes_bind (writes_inspect _) fun _ => writes_bind (writes_demand _ _) fun _ => writes_inspect _

@[simp] theorem writes_registerLeaseBilling (may : [.billing, .events] ⊆ parts)
    (leaseId : LeaseId) (params : BillingLeaseParams) (assetAddress : Address) (endTime : U64) :
    Writes parts (registerLeaseBilling env leaseId params assetAddress endTime) := by
  refine Writes.mono ?_ may
  unfold registerLeaseBilling
  repeat refine writes_bind (by simp) fun _ => ?_
  simp

@[simp] theorem writes_createLeaseWithContinuousBilling
    (may : [.leases, .deposits, .billing, .events] ⊆ parts) (params : BillingLeaseParams) :
    Writes parts (createLeaseWithContinuousBilling env params) := by
  refine Writes.mono ?_ may
  unfold createLeaseWithContinuousBilling
  repeat refine writes_bind (by simp) fun _ => ?_
  simp

end Footprints

/-! ## Effect on the escrow -/

section Creation

variable {world after : World} {env : Env}

/-- The amount a proposal records as its security deposit. -/
def lockedDeposit (env : Env) (params : CreateLeaseParams) : I128 :=
  match params.depositAsset, params.dexContract with
  | none, _ => params.securityDeposit
  | some depositAsset, some dex =>
      if depositAsset = params.paymentToken then params.securityDeposit
      else (env.contracts.pathPayment dex params.tenant params.paymentToken
        params.securityDeposit params.maxSlippageBps params.swapPath).getD 0
  | some depositAsset, none =>
      if depositAsset = params.paymentToken then params.securityDeposit
      else simulatedSwap params.securityDeposit

theorem executeDepositSwap_amount {leaseId : LeaseId} {params : CreateLeaseParams}
    {depositAsset : Address} {amount : I128} (swapped : params.depositAsset = some depositAsset)
    (run : Commits (executeDepositSwap env leaseId params.tenant depositAsset
      params.paymentToken params.securityDeposit params.maxSlippageBps params.swapPath
      params.dexContract) world amount after) :
    amount = lockedDeposit env params := by
  unfold executeDepositSwap at run
  split at run
  · next same =>
      simp only [commits_pure] at run
      cases dex : params.dexContract <;> simp [lockedDeposit, swapped, dex, same, run.1]
  · next differs =>
      simp only [swapOutput, commits_bind, commits_pure] at run
      obtain ⟨_, _, _, _, _, output, _, _, _, rfl, _⟩ := run
      split at output
      · next dex found =>
          rw [commits_expect] at output
          simp [lockedDeposit, swapped, found, differs, output.1]
      · next found =>
          simp only [commits_bind, commits_require, commits_pure] at output
          obtain ⟨_, _, _, amount, _⟩ := output
          simp [lockedDeposit, swapped, found, differs, amount]

theorem lockDeposit_commits {leaseId : LeaseId} {params : CreateLeaseParams} {amount : I128}
    (run : Commits (lockDeposit env leaseId params) world amount after) :
    amount = lockedDeposit env params ∧ after.toEscrow = world.toEscrow := by
  unfold lockDeposit at run
  split at run
  · next depositAsset swapped =>
      simp only [commits_bind] at run
      obtain ⟨outcome, _, swap, unlocked⟩ := run
      cases outcome with
      | error error => simp [unlockOnError] at unlocked
      | ok output =>
          simp only [unlockOnError, commits_pure] at unlocked
          rw [commits_resultOf_ok] at swap
          obtain ⟨rfl, rfl⟩ := unlocked
          exact ⟨executeDepositSwap_amount swapped swap,
            escrow_kept swap (by simp)⟩
  · next unswapped =>
      simp only [commits_pure] at run
      obtain ⟨rfl, rfl⟩ := run
      simp [lockedDeposit, unswapped]

theorem openLeaseInstance_escrow {leaseId : LeaseId} {lease : LeaseInstance} {result : Unit}
    (run : Commits (openLeaseInstance leaseId lease) world result after) :
    after.toEscrow = (world.toEscrow.enter [.opened leaseId]).store leaseId (some lease) := by
  simp only [openLeaseInstance, commits_bind, commits_saveLeaseInstance, commits_modify] at run
  obtain ⟨_, _, rfl, rfl⟩ := run
  rfl

/-- What a proposal that goes through does after its checks. -/
theorem createLeaseInstance_steps {leaseId : LeaseId} {landlord : Address}
    {params : CreateLeaseParams} {result : Unit}
    (run : Commits (createLeaseInstance env leaseId landlord params) world result after) :
    ∃ proof locked w1 w2 w3 w4 w5 w6 w7 w8, Commits (acquireReentrancyLock env) world () w1 ∧
      w1.leases.lookup leaseId = none ∧
      Commits (verifyLeaseAsset env leaseId landlord params) w1 proof w2 ∧
      Commits (lockDeposit env leaseId params) w2 locked w3 ∧
      Commits (openLeaseInstance leaseId (proposedLease landlord params locked)) w3 () w4 ∧
      Commits (addToActiveLeasesIndex env leaseId) w4 () w5 ∧
      Commits (VelocityGuard.initializeLessor landlord) w5 () w6 ∧
      Commits (VelocityGuard.updatePortfolioSize landlord 1) w6 () w7 ∧
      Commits releaseReentrancyLock w7 () w8 ∧
      Commits (publish (.leaseSigned leaseId params.propertyUri)) w8 result after := by
  simp only [createLeaseInstance, commits_bind, commits_inspect, commits_ite, commits_throw,
    commits_requireAuth, commits_question, and_false, exists_false] at run
  obtain ⟨_, _, acquired, existing, _, ⟨rfl, rfl⟩, run⟩ := run
  split at run
  · exact run.elim
  · next absent =>
      obtain ⟨_, _, ⟨_, rfl⟩, _, _, ⟨_, rfl⟩, proof, w2, verified, locked, w3, swapped, _, w4,
        opened, _, w5, indexed, _, w6, initialised, _, w7, sized, _, _, released, _, _,
        ⟨rfl, rfl⟩, _, _, ⟨rfl, rfl⟩, _, _, ⟨rfl, rfl⟩, published⟩ := run
      rw [commits_resultOf_ok] at indexed initialised sized
      exact ⟨proof, locked, _, w2, w3, w4, w5, w6, w7, _, acquired, by simpa using absent,
        verified, swapped, opened, indexed, initialised, sized, released, published⟩

/-- A committed proposal stores one new record under a fresh id. -/
theorem createLeaseInstance_commits {leaseId : LeaseId} {landlord : Address}
    {params : CreateLeaseParams} {result : Unit}
    (run : Commits (createLeaseInstance env leaseId landlord params) world result after) :
    world.leases.lookup leaseId = none ∧
      ((world.toEscrow.enter [.opened leaseId]).store leaseId
        (some (proposedLease landlord params (lockedDeposit env params)))).Retracked
        after.toEscrow := by
  obtain ⟨_, locked, w1, w2, w3, w4, w5, w6, w7, w8, acquired, absent, verified, swapped, opened,
    indexed, initialised, sized, released, published⟩ := createLeaseInstance_steps run
  obtain ⟨amount, keptSwap⟩ := lockDeposit_commits swapped
  have start : w3.toEscrow = world.toEscrow :=
    keptSwap.trans ((escrow_kept verified (by simp)).trans (escrow_kept acquired (by simp)))
  have stored : w5.toEscrow = (world.toEscrow.enter [.opened leaseId]).store leaseId
      (some (proposedLease landlord params (lockedDeposit env params))) := by
    rw [escrow_kept indexed (by simp), openLeaseInstance_escrow opened, ← amount, start]
  have finish : after.toEscrow = w7.toEscrow :=
    (escrow_kept published (by simp)).trans (escrow_kept released (by simp))
  have found : w1.leases = world.leases :=
    congrArg Escrow.leases (escrow_kept acquired (by simp))
  refine ⟨found ▸ absent, ?_⟩
  rw [← stored, finish]
  exact (VelocityGuard.initializeLessor_retracks initialised).trans
    (VelocityGuard.updatePortfolioSize_retracks sized)

/-- A committed lease with continuous billing is stored under the ledger sequence,
whether or not that id is taken. -/
theorem createLeaseWithContinuousBilling_commits {params : BillingLeaseParams}
    {result : LeaseId}
    (run : Commits (createLeaseWithContinuousBilling env params) world result after) :
    after.toEscrow = (world.toEscrow.enter [.opened (billingLeaseId env)]).store
      (billingLeaseId env) (some (billedLease env params (params.rentAmount * 12))) := by
  simp only [createLeaseWithContinuousBilling, commits_bind, commits_requireAuth,
    commits_checkedI128, commits_expect, commits_pure] at run
  obtain ⟨_, _, ⟨_, rfl⟩, _, w1, verified, _, w2, allowed, _, _, ⟨_, rfl, rfl⟩, _, w3, opened,
    _, _, ⟨_, rfl⟩, _, w4, registered, _, w5, published, _, rfl⟩ := run
  rw [escrow_kept published (by simp), escrow_kept registered (by simp),
    openLeaseInstance_escrow opened, escrow_kept allowed (by simp),
    escrow_kept verified (by simp)]

end Creation

end LeaseFlow
