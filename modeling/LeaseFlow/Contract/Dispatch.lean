import LeaseFlow.Foundations.Machine
import LeaseFlow.Contract.DepositSlash
import LeaseFlow.Contract.SymbolLease
import LeaseFlow.Contract.Yield

/-!
# The contract as a state machine

One constructor for each entry point that writes the store, its dispatch, and the
step of a top-level call, which rolls back the writes of a call that fails.
-/

set_option autoImplicit false

namespace LeaseFlow

open Transaction

inductive Call where
  | initializeContract (admin : Address)
  | setAdmin (admin : Address)
  | addAllowedAsset (admin asset : Address)
  | setKycProvider (admin provider : Address)
  | setPlatformFee (admin : Address) (feeAmount : I128) (feeToken feeRecipient : Address)
  | setTermsHash (admin : Address) (hash : BytesN 32)
  | upgrade (admin : Address) (expectedTermsHash : BytesN 32)
  | addWhitelistedRegistry (admin registryAddress : Address)
  | removeWhitelistedRegistry (admin registryAddress : Address)
  | setLiquidityBufferAmount (admin : Address) (bufferAmount : I128)
  | initializeLease (leaseId : Symbol) (landlord tenant : Address) (depositAmount : I128)
      (duration : U64) (propertyUri : String) (paymentToken : Address)
  | createLease (landlord tenant paymentToken : Address)
  | activateLease (leaseId : Symbol) (tenant : Address)
  | payRent (leaseId : Symbol) (paymentAmount : I128)
  | payRentReceipt (leaseId : Symbol) (month : U32) (amount : I128)
  | setBuyoutPrice (leaseId : Symbol) (landlord : Address) (buyoutPrice : I128)
  | endLease (leaseId : Symbol) (caller : Address)
  | createLeaseInstance (leaseId : LeaseId) (landlord : Address) (params : CreateLeaseParams)
  | createLeaseWithContinuousBilling (params : BillingLeaseParams)
  | setLeaseInstanceBuyoutPrice (leaseId : LeaseId) (landlord : Address) (buyoutPrice : I128)
  | payLeaseInstanceRent (leaseId : LeaseId) (payer : Address) (paymentAmount : I128)
  | setWithdrawalAddress (leaseId : LeaseId) (withdrawalAddress : Address)
  | withdrawRent (leaseId : LeaseId)
  | addAuthorizedPayer (leaseId : LeaseId) (landlord roommate : Address)
  | setInspector (leaseId : LeaseId) (landlord inspector : Address)
  | reportMaintenanceIssue (leaseId : LeaseId) (tenant : Address)
  | submitRepairProof (leaseId : LeaseId) (landlord : Address) (proofHash : BytesN 32)
  | verifyRepair (leaseId : LeaseId) (inspector : Address)
  | checkTenantDefault (leaseId : LeaseId)
  | setLessorReferenceId (leaseId : LeaseId) (landlord : Address) (referenceId : String)
  | reclaimAsset (leaseId : LeaseId) (caller : Address) (reason : String)
  | settleDeposit (leaseId : LeaseId) (caller : Address)
  | concludeLease (leaseId : LeaseId) (landlord : Address) (damageDeduction : I128)
  | resolveDispute (leaseId : LeaseId) (arbitrator : Address) (damageDeduction : I128)
  | disputeDeposit (leaseId : LeaseId) (caller : Address)
  | mutualDepositRelease (leaseId : LeaseId) (lesseePubkey lessorPubkey : Address)
      (returnAmount slashAmount : I128)
  | initMutualReleaseFb (leaseId : LeaseId) (initiatorPubkey : Address)
      (proposedReturnAmount proposedSlashAmount : I128)
  | reclaim (leaseId : LeaseId) (caller : Address)
  | terminateLease (leaseId : LeaseId) (caller : Address)
  | executeEarlyTermination (leaseId : LeaseId) (caller : Address)
  | sweepExpiredProposals (relayer : Address) (leaseId : LeaseId)
  | whitelistOracle (admin : Address) (oraclePubkey : BytesN 32)
  | removeOracle (admin : Address) (oraclePubkey : BytesN 32)
  | setFallbackHierarchy (admin : Address) (primaryOracle backupOracle : BytesN 32)
      (daoArbitrationEnabled : Bool)
  | resetOracleStatus (admin : Address) (oraclePubkey : BytesN 32)
  | executeDepositSlash (payload : OraclePayload)
  | updateAssetConditionMetadata (payload : AssetConditionMetadataPayload)
      (assetRegistryAddress : Address)
  | daoApproveResume (daoMember lessor : Address) (requestId : U64)
  | deployEscrowToYield (leaseId : LeaseId) (yieldProtocol : Address) (deployAmount : I128)
      (maxSlippageBps : U32)
  | harvestYield (leaseId : LeaseId)
  | withdrawFromYield (leaseId : LeaseId) (maxSlippageBps : U32)

/-- The value an entry point returns is not part of the store. -/
def dropResult {α : Type} (body : Contract α) : Contract Unit := do
  let _ ← body
  pure ()

def dispatch (env : Env) : Call → Contract Unit
  | .initializeContract admin => initializeContract admin
  | .setAdmin admin => setAdmin admin
  | .addAllowedAsset admin asset => addAllowedAsset env admin asset
  | .setKycProvider admin provider => setKycProvider env admin provider
  | .setPlatformFee admin feeAmount feeToken feeRecipient =>
      setPlatformFee env admin feeAmount feeToken feeRecipient
  | .setTermsHash admin hash => setTermsHash env admin hash
  | .upgrade admin expectedTermsHash => upgrade env admin expectedTermsHash
  | .addWhitelistedRegistry admin registryAddress =>
      addWhitelistedRegistry env admin registryAddress
  | .removeWhitelistedRegistry admin registryAddress =>
      removeWhitelistedRegistry env admin registryAddress
  | .setLiquidityBufferAmount admin bufferAmount =>
      setLiquidityBufferAmount env admin bufferAmount
  | .initializeLease leaseId landlord tenant depositAmount duration propertyUri paymentToken =>
      dropResult (initializeLease env leaseId landlord tenant depositAmount duration propertyUri
        paymentToken)
  | .createLease landlord tenant paymentToken =>
      dropResult (createLease env landlord tenant paymentToken)
  | .activateLease leaseId tenant => dropResult (activateLease env leaseId tenant)
  | .payRent leaseId paymentAmount => dropResult (payRent env leaseId paymentAmount)
  | .payRentReceipt leaseId month amount => dropResult (payRentReceipt env leaseId month amount)
  | .setBuyoutPrice leaseId landlord buyoutPrice =>
      dropResult (setBuyoutPrice leaseId landlord buyoutPrice)
  | .endLease leaseId caller => dropResult (endLease env leaseId caller)
  | .createLeaseInstance leaseId landlord params => createLeaseInstance env leaseId landlord params
  | .createLeaseWithContinuousBilling params =>
      dropResult (createLeaseWithContinuousBilling env params)
  | .setLeaseInstanceBuyoutPrice leaseId landlord buyoutPrice =>
      setLeaseInstanceBuyoutPrice env leaseId landlord buyoutPrice
  | .payLeaseInstanceRent leaseId payer paymentAmount =>
      payLeaseInstanceRent env leaseId payer paymentAmount
  | .setWithdrawalAddress leaseId withdrawalAddress =>
      setWithdrawalAddress env leaseId withdrawalAddress
  | .withdrawRent leaseId => withdrawRent env leaseId
  | .addAuthorizedPayer leaseId landlord roommate =>
      addAuthorizedPayer env leaseId landlord roommate
  | .setInspector leaseId landlord inspector => setInspector env leaseId landlord inspector
  | .reportMaintenanceIssue leaseId tenant => reportMaintenanceIssue env leaseId tenant
  | .submitRepairProof leaseId landlord proofHash =>
      submitRepairProof env leaseId landlord proofHash
  | .verifyRepair leaseId inspector => verifyRepair env leaseId inspector
  | .checkTenantDefault leaseId => dropResult (checkTenantDefault env leaseId)
  | .setLessorReferenceId leaseId landlord referenceId =>
      setLessorReferenceId env leaseId landlord referenceId
  | .reclaimAsset leaseId caller reason => reclaimAsset env leaseId caller reason
  | .settleDeposit leaseId caller => settleDeposit env leaseId caller
  | .concludeLease leaseId landlord damageDeduction =>
      dropResult (concludeLease env leaseId landlord damageDeduction)
  | .resolveDispute leaseId arbitrator damageDeduction =>
      dropResult (resolveDispute env leaseId arbitrator damageDeduction)
  | .disputeDeposit leaseId caller => disputeDeposit env leaseId caller
  | .mutualDepositRelease leaseId lesseePubkey lessorPubkey returnAmount slashAmount =>
      mutualDepositRelease env leaseId lesseePubkey lessorPubkey returnAmount slashAmount
  | .initMutualReleaseFb leaseId initiatorPubkey proposedReturnAmount proposedSlashAmount =>
      initMutualReleaseFb env leaseId initiatorPubkey proposedReturnAmount proposedSlashAmount
  | .reclaim leaseId caller => reclaim env leaseId caller
  | .terminateLease leaseId caller => terminateLease env leaseId caller
  | .executeEarlyTermination leaseId caller => executeEarlyTermination env leaseId caller
  | .sweepExpiredProposals relayer leaseId => sweepExpiredProposals env relayer leaseId
  | .whitelistOracle admin oraclePubkey => whitelistOracle env admin oraclePubkey
  | .removeOracle admin oraclePubkey => removeOracle env admin oraclePubkey
  | .setFallbackHierarchy admin primaryOracle backupOracle daoArbitrationEnabled =>
      setFallbackHierarchy env admin primaryOracle backupOracle daoArbitrationEnabled
  | .resetOracleStatus admin oraclePubkey => resetOracleStatus env admin oraclePubkey
  | .executeDepositSlash payload => executeDepositSlash env payload
  | .updateAssetConditionMetadata payload assetRegistryAddress =>
      updateAssetConditionMetadata env payload assetRegistryAddress
  | .daoApproveResume daoMember lessor requestId =>
      daoApproveResume env daoMember lessor requestId
  | .deployEscrowToYield leaseId yieldProtocol deployAmount maxSlippageBps =>
      deployEscrowToYield env leaseId yieldProtocol deployAmount maxSlippageBps
  | .harvestYield leaseId => harvestYield env leaseId
  | .withdrawFromYield leaseId maxSlippageBps => withdrawFromYield env leaseId maxSlippageBps

/-! ## Footprints -/

/-- The parts of the store a call may write. -/
@[simp] def Call.footprint : Call → List Part
  | .initializeContract .. => [.admin]
  | .setAdmin .. => [.admin]
  | .addAllowedAsset .. => [.settings]
  | .setKycProvider .. => [.settings]
  | .setPlatformFee .. => [.settings]
  | .setTermsHash .. => [.settings, .events]
  | .upgrade .. => []
  | .addWhitelistedRegistry .. => [.settings]
  | .removeWhitelistedRegistry .. => [.settings]
  | .setLiquidityBufferAmount .. => [.settings]
  | .initializeLease .. => [.symbolLeases, .billing]
  | .createLease .. => [.symbolLeases]
  | .activateLease .. => [.symbolLeases, .events]
  | .payRent .. => [.symbolLeases, .nftTransfers]
  | .payRentReceipt .. => [.receipts]
  | .setBuyoutPrice .. => [.symbolLeases]
  | .endLease .. => [.symbolLeases, .usageRights, .nftTransfers, .events]
  | .createLeaseInstance .. => [.leases, .deposits, .velocity, .activeLeasesIndex, .frozenAssets,
      .reentrancyLock, .events]
  | .createLeaseWithContinuousBilling .. => [.leases, .deposits, .billing, .events]
  | .setLeaseInstanceBuyoutPrice .. => [.leases]
  | .payLeaseInstanceRent .. => [.leases, .history, .roommateBalances, .payments, .nftTransfers,
      .events]
  | .setWithdrawalAddress .. => [.leases]
  | .withdrawRent .. => [.leases]
  | .addAuthorizedPayer .. => [.authorizedPayers, .events]
  | .setInspector .. => [.leases]
  | .reportMaintenanceIssue .. => [.leases, .events]
  | .submitRepairProof .. => [.leases, .events]
  | .verifyRepair .. => [.leases, .events]
  | .checkTenantDefault .. => [.leases, .events]
  | .setLessorReferenceId .. => [.leases]
  | .reclaimAsset .. => [.events]
  | .settleDeposit .. => [.leases]
  | .concludeLease .. => [.leases]
  | .resolveDispute .. => [.leases]
  | .disputeDeposit .. => [.leases, .events]
  | .mutualDepositRelease .. => [.leases, .deposits, .usageRights, .nftTransfers, .events]
  | .initMutualReleaseFb .. => [.leases, .events]
  | .reclaim .. => [.leases, .usageRights, .nftTransfers, .events]
  | .terminateLease .. => [.leases, .history, .frozenAssets, .payments, .burnedAccessTokens,
      .events]
  | .executeEarlyTermination .. => [.leases, .deposits, .velocity, .history, .frozenAssets,
      .nftTransfers, .events]
  | .sweepExpiredProposals .. => [.leases, .deposits, .activeLeasesIndex, .payments, .events]
  | .whitelistOracle .. => [.oracle]
  | .removeOracle .. => [.oracle]
  | .setFallbackHierarchy .. => [.oracle]
  | .resetOracleStatus .. => [.oracle]
  | .executeDepositSlash .. => [.leases, .deposits, .oracle, .velocity, .pendingSlash,
      .tenantFlags, .usageRights, .reentrancyLock, .nftTransfers, .events]
  | .updateAssetConditionMetadata .. => [.leases, .deposits, .oracle, .velocity, .pendingSlash,
      .usageRights, .history, .tenantFlags, .assetConditions, .reentrancyLock, .nftTransfers,
      .events]
  | .daoApproveResume .. => [.velocity]
  | .deployEscrowToYield .. => [.leases, .settings, .yield]
  | .harvestYield .. => [.yield, .payments, .events]
  | .withdrawFromYield .. => [.leases, .settings, .yield]

@[simp] theorem writes_dropResult {α : Type} {parts : List Part} {body : Contract α}
    (writes : Writes parts body) : Writes parts (dropResult body) :=
  writes_bind writes fun _ => writes_pure ()

theorem dispatch_writes (env : Env) (call : Call) : Writes call.footprint (dispatch env call) := by
  cases call <;> simp [dispatch]

/-! ## Runs -/

/-- A call together with the ledger it is made on. -/
structure Invocation where
  env : Env
  call : Call

def Invocation.body (invocation : Invocation) : Contract Unit :=
  dispatch invocation.env invocation.call

/-- A top-level call. -/
def step (invocation : Invocation) (world : World) : World :=
  invocation.body.attempt world

/-- The store of a new deployment.  The settings are arbitrary, and so are the security
council and the billing state, which no entry point writes. -/
def World.genesis (config : ConfigStore) (billing : BillingStore)
    (securityCouncil : Option SecurityCouncil) : World where
  leases := ∅
  deposits := []
  oracle := ⟨fun _ => false, fun _ => none, none, fun _ => none⟩
  velocity := ⟨fun _ => none, fun _ => false, fun _ => none⟩
  pendingSlash := fun _ => none
  securityCouncil := securityCouncil
  config := config
  symbols := ⟨fun _ => none, fun _ => none, fun _ => none⟩
  rent := ⟨fun _ => false, fun _ => none⟩
  archive := ⟨fun _ => none, [], []⟩
  assets := ⟨fun _ => false, fun _ => none, fun _ => false, fun _ => none, fun _ => false⟩
  yield := ⟨fun _ => none, fun _ => none⟩
  billing := billing
  nonReentrant := false
  outbox := ⟨[], [], [], []⟩

def Reachable (world : World) : Prop :=
  ∃ config billing securityCouncil,
    Run.Reaches step (World.genesis config billing securityCouncil) world

/-! ## A ledger for concrete runs -/

/-- Callees that agree to everything. -/
def agreeableContracts : ExternalContracts where
  acceptsTransfer _ := true
  acceptsNftTransfer _ := true
  isVerified _ _ := true
  pathPayment _ _ _ originalAmount _ _ := some originalAmount
  registryIsWhitelisted _ := some true
  verifyOwnership _ _ _ := true
  freezeAsset _ _ := some (.repeated 32 0)
  thawAsset _ _ _ := true
  updateAssetMetadata _ _ _ := true
  yieldDeposit _ amount := some amount
  yieldWithdraw _ lpTokens := some lpTokens
  claimRewards _ := some 0
  addToActiveLeasesIndex index leaseId := .ok (index ++ [leaseId])
  removeFromActiveLeasesIndex index leaseId := .ok (index.filter (· ≠ leaseId))

/-- A ledger on which everyone has signed.  The host parses addresses from their strkeys
only, and the one text the contract passes to it, `property_asset`, is no strkey. -/
def openLedger (timestamp : U64) (sequence : UInt32) : Env where
  timestamp := timestamp
  sequence := sequence
  currentContractAddress := ⟨0⟩
  authorised _ := true
  ed25519Verify _ _ _ := true
  addressFromString _ := none
  contracts := agreeableContracts

/-- A ledger on which no one has signed. -/
def unsignedLedger (timestamp : U64) : Env :=
  { openLedger timestamp 0 with authorised := fun _ => false }

def openSettings : ConfigStore where
  admin := none
  allowedAsset _ := true
  kycProvider := none
  platformFeeAmount := none
  platformFeeToken := none
  platformFeeRecipient := none
  termsHash := none
  whitelistedRegistry _ := false
  whitelistedYieldProtocol _ := false
  liquidityBuffer := none

def openBilling : BillingStore where
  billingState := some ⟨true, false⟩
  rentTreasury := some ⟨5⟩
  activeLeases _ := none

/-- A store no call has touched yet. -/
def freshWorld : World :=
  World.genesis openSettings openBilling none

/-- A proposal of landlord 1 to tenant 2 in token 3, with arbitrator 4. -/
def sampleProposal (securityDeposit depositAmount : I128) : CreateLeaseParams where
  tenant := ⟨2⟩
  rentAmount := 10
  depositAmount := depositAmount
  securityDeposit := securityDeposit
  startDate := 0
  endDate := 1000000
  propertyUri := ""
  paymentToken := ⟨3⟩
  arbitrators := [⟨4⟩]
  rentPerSec := 1
  gracePeriodEnd := 1000000
  lateFeeFlat := 0
  lateFeePerSec := 0
  equityPercentageBps := 0
  hasPet := false
  yieldDelegationEnabled := false
  depositAsset := none
  dexContract := none
  maxSlippageBps := 0
  swapPath := []
  assetRegistryAddress := none
  assetId := none
  lessorReferenceId := none

def propose (timestamp : U64) (leaseId : LeaseId) (securityDeposit depositAmount : I128) :
    Invocation :=
  ⟨openLedger timestamp 0,
    .createLeaseInstance leaseId ⟨1⟩ (sampleProposal securityDeposit depositAmount)⟩

/-- The record of a proposal of the same parties once the lease has begun.  No entry point
stores an active record, so the samples write it into the store, as the tests do. -/
def startedLease (endDate : U64) (securityDeposit depositAmount : I128) : LeaseInstance :=
  { proposedLease ⟨1⟩ (sampleProposal securityDeposit depositAmount) securityDeposit with
    endDate := endDate, status := .active }

def World.holding (world : World) (leaseId : LeaseId) (lease : LeaseInstance) : World :=
  { world with leases := world.leases.set leaseId (some lease) }

def callAt (timestamp : U64) (call : Call) : Invocation :=
  ⟨openLedger timestamp 0, call⟩

section Runs

variable {world after : World} {env : Env} {α : Type}

@[simp] theorem commits_dropResult (body : Contract α) (result : Unit) :
    Commits (dropResult body) world result after ↔ ∃ value, Commits body world value after := by
  simp [dropResult]

theorem step_of_commits {invocation : Invocation}
    (run : Commits invocation.body world () after) : step invocation world = after :=
  attempt_of_commits run

/-- The call goes through on this store. -/
def Invocation.Committed (invocation : Invocation) (world : World) : Prop :=
  invocation.body.succeeds world = true

theorem Invocation.Committed.of_commits {invocation : Invocation}
    (run : Commits invocation.body world () after) : invocation.Committed world :=
  succeeds_iff.mpr ⟨(), after, run⟩

theorem Invocation.Committed.commits {invocation : Invocation}
    (committed : invocation.Committed world) :
    Commits invocation.body world () (step invocation world) :=
  commits_attempt committed

theorem step_of_not_committed {invocation : Invocation}
    (refused : ¬ invocation.Committed world) : step invocation world = world :=
  Machine.step_of_not_goes refused

/-- A step keeps what holds exactly if its call does where it commits. -/
theorem step_keeps_iff {invocation : Invocation} {inv : World → Prop} {condition : Prop}
    (holds : inv world)
    (decided : ∀ next, Commits invocation.body world () next → (inv next ↔ condition)) :
    inv (step invocation world) ↔ (invocation.Committed world → condition) :=
  Machine.step_keeps_iff holds decided

/-- A step either commits its call or changes nothing. -/
theorem step_cases (invocation : Invocation) (world : World) :
    Commits invocation.body world () (step invocation world) ∨ step invocation world = world := by
  rcases attempt_cases invocation.body world with ⟨_, run⟩ | same
  · exact .inl run
  · exact .inr same

/-- What a call may not write it leaves as it was. -/
theorem dispatch_kept {call : Call} {part : Part}
    (run : Commits (dispatch env call) world () after) (aside : part ∉ call.footprint) :
    part.read after = part.read world :=
  (dispatch_writes env call).kept run aside

theorem Reachable.genesis (config : ConfigStore) (billing : BillingStore)
    (securityCouncil : Option SecurityCouncil) :
    Reachable (World.genesis config billing securityCouncil) :=
  ⟨config, billing, securityCouncil, Run.reaches_refl _⟩

theorem Reachable.next {world : World} (reached : Reachable world) (invocation : Invocation) :
    Reachable (step invocation world) := by
  obtain ⟨config, billing, securityCouncil, run⟩ := reached
  exact ⟨config, billing, securityCouncil, run.next invocation⟩

theorem Reachable.run (reached : Reachable world) (calls : List Invocation) :
    Reachable (Run.run step calls world) :=
  @Run.invariant _ _ step Reachable (fun call _ holds => holds.next call) calls _ reached

/-- An invariant of the committed calls that meet a condition holds along every run whose
committed calls all meet it. -/
theorem run_invariant {inv : World → Prop} {condition : Invocation → World → Prop}
    (kept : ∀ invocation before after, Commits (Invocation.body invocation) before () after →
      condition invocation before → inv before → inv after)
    {calls : List Invocation}
    (meets : Run.MeetsAlong step (fun invocation state =>
      invocation.Committed state → condition invocation state) calls world)
    (holds : inv world) : inv (Run.run step calls world) :=
  Machine.invariant_along kept meets holds

/-- An invariant of the committed calls holds in every reachable store. -/
theorem Reachable.invariant {inv : World → Prop} {world : World} (reached : Reachable world)
    (initially : ∀ config billing securityCouncil,
      inv (World.genesis config billing securityCouncil))
    (kept : ∀ invocation before after, Commits (Invocation.body invocation) before () after →
      inv before → inv after) : inv world := by
  obtain ⟨config, billing, securityCouncil, run⟩ := reached
  exact Machine.invariant_of_reaches kept run (initially config billing securityCouncil)

end Runs

end LeaseFlow
