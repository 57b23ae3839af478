import LeaseFlow.Foundations.Reentrancy
import LeaseFlow.Contract.Dispatch

/-!
# The reentrancy lock

`create_lease_instance` and `execute_deposit_slash` hold a lock around their bodies.  Both are
given here with their calls to other contracts marked, as is the condition report that can end
in a slash; every other entry point is any script that leaves the lock alone.  A token, a DEX,
an NFT contract, a registry or an account contract may call back into all of them.
-/

set_option autoImplicit false

namespace LeaseFlow

open Transaction

/-- The operations that hold the lock. -/
inductive GuardedOperation where
  | createLeaseInstance
  | executeDepositSlash
  deriving DecidableEq

/-- A body of the contract with its calls to other contracts marked. -/
abbrev Interaction (α : Type) := Script World Fault GuardedOperation α

namespace Interaction

/-- `let result = f(..)` around calls to other contracts. -/
def resultOf {α : Type} (body : Interaction α) : Interaction (Except LeaseError α) :=
  .capture (fun | .err error => some error | .trap _ => none) body

/-! ## `create_lease_instance` -/

def verifyAssetOwnership (env : Env) (leaseId : LeaseId) (landlord registryAddress : Address)
    (assetId : U128) : Interaction (BytesN 32) := do
  let known ← .own (inspect fun world => world.config.whitelistedRegistry registryAddress)
  Script.own (require (known = true) .assetRegistryInvalid)
  let isWhitelisted ← .external (okOr (env.contracts.registryIsWhitelisted registryAddress)
    .assetRegistryInvalid)
  Script.own (require (isWhitelisted = true) .assetRegistryInvalid)
  Script.external
    (require (env.contracts.verifyOwnership registryAddress assetId landlord = true) .assetNotOwned)
  let freezeProof ← .external (okOr (env.contracts.freezeAsset registryAddress assetId)
    .assetFreezeFailed)
  Script.own (updateAssets fun assets => { assets with
    assetFreezeProof :=
      Function.update assets.assetFreezeProof (leaseId, registryAddress, assetId) (some freezeProof)
    frozenAsset := Function.update assets.frozenAsset (leaseId, registryAddress, assetId) true })
  Script.own (publish (.assetOwnershipVerified leaseId registryAddress assetId landlord freezeProof
    env.timestamp))
  pure freezeProof

def verifyLeaseAsset (env : Env) (leaseId : LeaseId) (landlord : Address)
    (params : CreateLeaseParams) : Interaction (Option (BytesN 32)) :=
  match params.assetRegistryAddress, params.assetId with
  | some registryAddress, some assetId => do
      let proof ← verifyAssetOwnership env leaseId landlord registryAddress assetId
      pure (some proof)
  | _, _ => pure none

def executeDepositSwap (env : Env) (leaseId : LeaseId)
    (tenant originalAsset collateralAsset : Address) (originalAmount : I128)
    (maxSlippageBps : U32) (swapPath : List Address) (dexContract : Option Address) :
    Interaction I128 :=
  if originalAsset = collateralAsset then
    pure originalAmount
  else do
    Script.own (require (swapPath ≠ []) .pathPaymentFailed)
    let finalLockedAmount ← .external (swapOutput env tenant collateralAsset originalAmount
      maxSlippageBps swapPath dexContract)
    Script.own (publish (.crossAssetDepositLocked leaseId originalAsset collateralAsset swapPath
      originalAmount finalLockedAmount))
    pure finalLockedAmount

def lockDeposit (env : Env) (leaseId : LeaseId) (params : CreateLeaseParams) : Interaction I128 :=
  match params.depositAsset with
  | some depositAsset => do
      let result ← resultOf (executeDepositSwap env leaseId params.tenant depositAsset
        params.paymentToken params.securityDeposit params.maxSlippageBps params.swapPath
        params.dexContract)
      .own (unlockOnError result)
  | none => pure params.securityDeposit

def createLeaseInstance (env : Env) (leaseId : LeaseId) (landlord : Address)
    (params : CreateLeaseParams) : Interaction Unit :=
  .named .createLeaseInstance do
    Script.own (acquireReentrancyLock env)
    let existing ← .own (inspect fun world => world.leases.lookup leaseId)
    if existing ≠ none then do
      Script.own releaseReentrancyLock
      .own (throw (.err .leaseAlreadyExists))
    else do
      Script.external (requireAuth env landlord)
      Script.external (requireAuth env params.tenant)
      let _freezeProof ← verifyLeaseAsset env leaseId landlord params
      let lockedAmount ← lockDeposit env leaseId params
      Script.own (openLeaseInstance leaseId (proposedLease landlord params lockedAmount))
      let indexResult ← .own (LeaseFlow.resultOf (addToActiveLeasesIndex env leaseId))
      let velocityInit ← .own (LeaseFlow.resultOf (VelocityGuard.initializeLessor landlord))
      let velocityPortfolio ← .own
        (LeaseFlow.resultOf (VelocityGuard.updatePortfolioSize landlord 1))
      Script.own releaseReentrancyLock
      Script.own (question indexResult)
      Script.own (question velocityInit)
      Script.own (question velocityPortfolio)
      .own (publish (.leaseSigned leaseId params.propertyUri))

/-! ## `execute_deposit_slash` -/

def payShares (env : Env) (leaseId : LeaseId) (lease : LeaseInstance)
    (tenantRefund landlordPayout : I128) : Interaction Unit := do
  Script.external
    (payDeposit env leaseId .tenantRefund lease.paymentToken lease.tenant tenantRefund)
  .external (payDeposit env leaseId .landlordPayout lease.paymentToken lease.landlord landlordPayout)

def returnLeaseNft (env : Env) (nftContract : Option Address) (tokenId : Option U128)
    (recipient : Address) : Interaction Unit :=
  match nftContract, tokenId with
  | some nft, some token => do
      Script.own (deleteUsageRights nft token)
      .external (transferNft env ⟨nft, recipient, token⟩)
  | _, _ => pure ()

def settleSlash (env : Env) (payload : OraclePayload) (lease : LeaseInstance)
    (totalDeposit penaltyAmount tenantRefund : I128) : Interaction Unit := do
  Script.own (flagSevereDamage payload lease totalDeposit penaltyAmount)
  payShares env payload.leaseId lease tenantRefund penaltyAmount
  Script.own (saveLeaseInstance payload.leaseId lease.slashed)
  Script.own (VelocityGuard.recordTermination env lease.landlord)
  Script.own (VelocityGuard.updatePortfolioSize lease.landlord (-1))
  returnLeaseNft env lease.nftContract lease.tokenId lease.landlord
  let _stats ← .own (VelocityGuard.getVelocityStats lease.landlord)
  .own (publish (.depositSlashed payload.leaseId payload.oraclePubkey payload.damageSeverity.code
    penaltyAmount tenantRefund penaltyAmount lease.lessorReferenceId))

def executeDepositSlashInner (env : Env) (payload : OraclePayload) : Interaction Unit := do
  let lease ← .own (admitSlash env payload)
  let totalDeposit ← .own (checkedI128 lease.totalDeposit)
  let penaltyAmount := slashPenalty totalDeposit payload.damageSeverity
  let tenantRefund := slashRefund totalDeposit payload.damageSeverity
  let council ← .own (inspect fun world => world.securityCouncil.isSome)
  if massiveSlashThreshold ≤ penaltyAmount ∧ council = true then
    .own (queueSlash env payload penaltyAmount tenantRefund)
  else
    settleSlash env payload lease totalDeposit penaltyAmount tenantRefund

def executeDepositSlash (env : Env) (payload : OraclePayload) : Interaction Unit :=
  .named .executeDepositSlash do
    Script.own (acquireReentrancyLock env)
    let result ← resultOf (executeDepositSlashInner env payload)
    Script.own releaseReentrancyLock
    .own (question result)

/-! ## `update_asset_condition_metadata` -/

def slashDestroyedAsset (env : Env) (payload : AssetConditionMetadataPayload) :
    Interaction Unit := do
  let lease ← .own (loadLeaseInstanceById payload.leaseId)
  if lease.status = .active then do
    Script.own (terminateDestroyedLease env payload.leaseId lease.tenant)
    let nonce ← .own (checkedU64 (payload.nonce + 1))
    executeDepositSlash env (destructionPayload env payload nonce)
  else
    pure ()

def updateAssetConditionMetadata (env : Env) (payload : AssetConditionMetadataPayload)
    (assetRegistryAddress : Address) : Interaction Unit := do
  Script.own (verifyConditionReport env payload)
  let stored ← .own (inspect fun world => world.assets.assetCondition payload.leaseId)
  Script.own (storeAssetCondition env payload)
  Script.own (setOracleNonce payload.oraclePubkey payload.nonce)
  Script.external (demand (env.contracts.updateAssetMetadata assetRegistryAddress payload.leaseId
    payload.assetCondition.name = true) "registry call failed")
  Script.own (publish (.assetMetadataUpdated payload.leaseId payload.assetCondition
    payload.oraclePubkey env.timestamp (stored.getD .mint)))
  if payload.assetCondition = .destroyed then slashDestroyedAsset env payload
  else pure ()

end Interaction

/-- What can be called back: the operations above, and any other operation, whose pieces all
leave the lock alone. -/
inductive EntryPoint : Interaction Unit → Prop where
  | createLeaseInstance (env : Env) (leaseId : LeaseId) (landlord : Address)
      (params : CreateLeaseParams) :
      EntryPoint (Interaction.createLeaseInstance env leaseId landlord params)
  | executeDepositSlash (env : Env) (payload : OraclePayload) :
      EntryPoint (Interaction.executeDepositSlash env payload)
  | updateAssetConditionMetadata (env : Env) (payload : AssetConditionMetadataPayload)
      (assetRegistryAddress : Address) :
      EntryPoint (Interaction.updateAssetConditionMetadata env payload assetRegistryAddress)
  | unguarded {script : Interaction Unit} (leaves : script.Leaves World.nonReentrant) :
      EntryPoint script

/-! ## Agreement with the operations -/

namespace Interaction

variable {env : Env}

theorem erase_verifyLeaseAsset (leaseId : LeaseId) (landlord : Address)
    (params : CreateLeaseParams) :
    (verifyLeaseAsset env leaseId landlord params).erase =
      LeaseFlow.verifyLeaseAsset env leaseId landlord params := by
  unfold verifyLeaseAsset LeaseFlow.verifyLeaseAsset
  cases params.assetRegistryAddress with
  | none => rfl
  | some registryAddress => cases params.assetId <;> rfl

theorem erase_lockDeposit (leaseId : LeaseId) (params : CreateLeaseParams) :
    (lockDeposit env leaseId params).erase = LeaseFlow.lockDeposit env leaseId params := by
  unfold lockDeposit LeaseFlow.lockDeposit
  cases params.depositAsset with
  | none => rfl
  | some depositAsset =>
      apply Script.erase_bind
      · exact congrArg (capture _) (Script.erase_ite _ rfl rfl)
      · intro result
        rfl

theorem erase_createLeaseInstance (leaseId : LeaseId) (landlord : Address)
    (params : CreateLeaseParams) :
    (createLeaseInstance env leaseId landlord params).erase =
      LeaseFlow.createLeaseInstance env leaseId landlord params := by
  have verified := @erase_verifyLeaseAsset env leaseId landlord params
  have locked := @erase_lockDeposit env leaseId params
  apply Script.erase_bind rfl
  intro _
  apply Script.erase_bind rfl
  intro existing
  apply Script.erase_ite _ rfl
  apply Script.erase_bind rfl
  intro _
  apply Script.erase_bind rfl
  intro _
  apply Script.erase_bind verified
  intro _
  apply Script.erase_bind locked
  intro lockedAmount
  rfl

theorem erase_returnLeaseNft (nftContract : Option Address) (tokenId : Option U128)
    (recipient : Address) :
    (returnLeaseNft env nftContract tokenId recipient).erase =
      LeaseFlow.returnLeaseNft env nftContract tokenId recipient := by
  unfold returnLeaseNft LeaseFlow.returnLeaseNft
  cases nftContract with
  | none => rfl
  | some nft => cases tokenId <;> rfl

theorem erase_settleSlash (payload : OraclePayload) (lease : LeaseInstance)
    (totalDeposit penaltyAmount tenantRefund : I128) :
    (settleSlash env payload lease totalDeposit penaltyAmount tenantRefund).erase =
      LeaseFlow.settleSlash env payload lease totalDeposit penaltyAmount tenantRefund := by
  iterate 5
    apply Script.erase_bind rfl
    intro _
  apply Script.erase_bind (erase_returnLeaseNft _ _ _)
  intro _
  rfl

theorem erase_executeDepositSlash (payload : OraclePayload) :
    (executeDepositSlash env payload).erase = LeaseFlow.executeDepositSlash env payload := by
  have inner : (executeDepositSlashInner env payload).erase =
      LeaseFlow.executeDepositSlashInner env payload := by
    iterate 3
      apply Script.erase_bind rfl
      intro _
    exact Script.erase_ite _ rfl (erase_settleSlash _ _ _ _ _)
  apply Script.erase_bind rfl
  intro _
  apply Script.erase_bind
  · exact congrArg (capture _) inner
  · intro result
    rfl

theorem erase_slashDestroyedAsset (payload : AssetConditionMetadataPayload) :
    (slashDestroyedAsset env payload).erase = LeaseFlow.slashDestroyedAsset env payload := by
  apply Script.erase_bind rfl
  intro lease
  refine Script.erase_ite _ ?_ rfl
  iterate 2
    apply Script.erase_bind rfl
    intro _
  exact erase_executeDepositSlash _

theorem erase_updateAssetConditionMetadata (payload : AssetConditionMetadataPayload)
    (assetRegistryAddress : Address) :
    (updateAssetConditionMetadata env payload assetRegistryAddress).erase =
      LeaseFlow.updateAssetConditionMetadata env payload assetRegistryAddress := by
  iterate 6
    apply Script.erase_bind rfl
    intro _
  exact Script.erase_ite _ (erase_slashDestroyedAsset payload) rfl

/-! ## Pieces that leave the lock alone -/

theorem steady_lock {α : Type} {body : Contract α}
    (writes : Writes (besides .reentrancyLock) body) : Steady World.nonReentrant body :=
  writes .reentrancyLock (by simp)

theorem leaves_verifyLeaseAsset (leaseId : LeaseId) (landlord : Address)
    (params : CreateLeaseParams) :
    (verifyLeaseAsset env leaseId landlord params).Leaves World.nonReentrant := by
  have recorded (change : AssetStore → AssetStore) : Steady World.nonReentrant
      (updateAssets change) := steady_modify fun _ => rfl
  unfold verifyLeaseAsset
  split
  · refine Script.leaves_bind ?_ fun _ => steady_pure _
    iterate 6 refine Script.leaves_bind (steady_lock (by simp)) fun _ => ?_
    refine Script.leaves_bind (recorded _) fun _ => ?_
    exact Script.leaves_bind (steady_lock (by simp)) fun _ => steady_pure _
  · exact steady_pure _

theorem leaves_executeDepositSwap (leaseId : LeaseId)
    (tenant originalAsset collateralAsset : Address) (originalAmount : I128)
    (maxSlippageBps : U32) (swapPath : List Address) (dexContract : Option Address) :
    (executeDepositSwap env leaseId tenant originalAsset collateralAsset originalAmount
      maxSlippageBps swapPath dexContract).Leaves World.nonReentrant := by
  refine Script.leaves_ite _ (steady_pure _) ?_
  iterate 3 refine Script.leaves_bind (steady_lock (by simp)) fun _ => ?_
  exact steady_pure _

theorem calm_lockDeposit (leaseId : LeaseId) (params : CreateLeaseParams) :
    (lockDeposit env leaseId params).Calm World.nonReentrant := by
  unfold lockDeposit
  split
  · refine Script.Calm.bind (Script.Leaves.calm (leaves_executeDepositSwap ..)) fun result => ?_
    -- The lock is released on the branch that fails.
    refine Script.calm_own fun before amount after run => ?_
    cases result with
    | ok value =>
        obtain ⟨_, rfl⟩ := (commits_pure _ _).mp run
        rfl
    | error error => simp [unlockOnError] at run
  · exact Script.calm_own (steady_pure _).keeps

theorem leaves_executeDepositSlashInner (payload : OraclePayload) :
    (executeDepositSlashInner env payload).Leaves World.nonReentrant := by
  have nft (lease : LeaseInstance) :
      (returnLeaseNft env lease.nftContract lease.tokenId lease.landlord).Leaves
        World.nonReentrant := by
    unfold returnLeaseNft
    split
    · exact Script.leaves_bind (steady_lock (by simp)) fun _ => steady_lock (by simp)
    · exact steady_pure _
  iterate 3 refine Script.leaves_bind (steady_lock (by simp)) fun _ => ?_
  refine Script.leaves_ite _ (steady_lock (by simp)) ?_
  refine Script.leaves_bind (steady_lock (by simp)) fun _ => ?_
  refine Script.leaves_bind ?_ fun _ => ?_
  · exact Script.leaves_bind (steady_lock (by simp)) fun _ => steady_lock (by simp)
  iterate 3 refine Script.leaves_bind (steady_lock (by simp)) fun _ => ?_
  refine Script.leaves_bind (nft _) fun _ => ?_
  exact Script.leaves_bind (steady_lock (by simp)) fun _ => steady_lock (by simp)

/-! ## The guarded operations -/

theorem acquires {before after : World} {result : Unit}
    (run : Commits (acquireReentrancyLock env) before result after) :
    before.nonReentrant = false ∧ after.nonReentrant = true := by
  obtain ⟨free, rfl⟩ := (commits_acquireReentrancyLock result).mp run
  exact ⟨free, rfl⟩

theorem frees {before after : World} {result : Unit}
    (run : Commits releaseReentrancyLock before result after) : after.nonReentrant = false := by
  rw [(commits_modify _ _).mp run]

theorem calm_own_writes {α : Type} {body : Contract α}
    (writes : Writes (besides .reentrancyLock) body) :
    (Script.own body : Interaction α).Calm World.nonReentrant :=
  Script.calm_own (steady_lock writes).keeps

theorem disciplined_createLeaseInstance (leaseId : LeaseId) (landlord : Address)
    (params : CreateLeaseParams) :
    (createLeaseInstance env leaseId landlord params).Disciplined World.nonReentrant := by
  refine Script.disciplined_named acquires fun _ => ?_
  refine Script.Releases.bind (calm_own_writes (by simp)) fun existing => ?_
  split
  · exact Script.releases_own frees (fun _ => calm_own_writes (by simp))
      fun _ => Script.silent_own _
  · have external {α : Type} {body : Contract α} (writes : Writes (besides .reentrancyLock) body) :
        (Script.external body : Interaction α).Calm World.nonReentrant :=
      Script.calm_external (steady_lock writes).keeps
    refine Script.Releases.bind (external (by simp)) fun _ => ?_
    refine Script.Releases.bind (external (by simp)) fun _ => ?_
    refine Script.Releases.bind (leaves_verifyLeaseAsset leaseId landlord params).calm fun _ => ?_
    refine Script.Releases.bind (calm_lockDeposit leaseId params) fun _ => ?_
    iterate 4 refine Script.Releases.bind (calm_own_writes (by simp)) fun _ => ?_
    refine Script.releases_own frees (fun _ => ?_) fun _ => ?_
    · iterate 3 refine Script.Calm.bind (calm_own_writes (by simp)) fun _ => ?_
      exact calm_own_writes (by simp)
    · iterate 3 refine Script.Silent.bind (Script.silent_own _) fun _ => ?_
      exact Script.silent_own _

theorem disciplined_executeDepositSlash (payload : OraclePayload) :
    (executeDepositSlash env payload).Disciplined World.nonReentrant := by
  refine Script.disciplined_named acquires fun _ => ?_
  refine Script.Releases.bind (Script.Leaves.calm (leaves_executeDepositSlashInner payload))
    fun _ => ?_
  exact Script.releases_own frees (fun _ => calm_own_writes (by simp)) fun _ => Script.silent_own _

theorem disciplined_updateAssetConditionMetadata (payload : AssetConditionMetadataPayload)
    (assetRegistryAddress : Address) :
    (updateAssetConditionMetadata env payload assetRegistryAddress).Disciplined
      World.nonReentrant := by
  have own {α : Type} {body : Contract α} (writes : Writes (besides .reentrancyLock) body) :
      (Script.own body : Interaction α).Disciplined World.nonReentrant :=
    (calm_own_writes writes).disciplined
  iterate 4 refine Script.Disciplined.bind (own (by simp)) fun _ => ?_
  refine Script.Disciplined.bind
    (Script.calm_external (steady_lock (by simp)).keeps).disciplined fun _ => ?_
  refine Script.Disciplined.bind (own (by simp)) fun _ => ?_
  split
  · refine Script.Disciplined.bind (own (by simp)) fun lease => ?_
    split
    · refine Script.Disciplined.bind (own (by simp)) fun _ => ?_
      refine Script.Disciplined.bind (own (by simp)) fun _ => ?_
      exact disciplined_executeDepositSlash _
    · exact own (by simp)
  · exact own (by simp)

end Interaction

theorem EntryPoint.disciplined {script : Interaction Unit} (entry : EntryPoint script) :
    script.Disciplined World.nonReentrant := by
  cases entry with
  | createLeaseInstance => exact Interaction.disciplined_createLeaseInstance ..
  | executeDepositSlash => exact Interaction.disciplined_executeDepositSlash _
  | updateAssetConditionMetadata => exact Interaction.disciplined_updateAssetConditionMetadata ..
  | unguarded leaves => exact leaves.calm.disciplined

theorem exists_entryPoint (env : Env) (call : Call) :
    ∃ script, EntryPoint script ∧ script.erase = dispatch env call := by
  by_cases locks : .reentrancyLock ∈ call.footprint
  · cases call with
    | createLeaseInstance leaseId landlord params =>
        exact ⟨_, .createLeaseInstance env leaseId landlord params,
          Interaction.erase_createLeaseInstance leaseId landlord params⟩
    | executeDepositSlash payload =>
        exact ⟨_, .executeDepositSlash env payload, Interaction.erase_executeDepositSlash payload⟩
    | updateAssetConditionMetadata payload assetRegistryAddress =>
        exact ⟨_, .updateAssetConditionMetadata env payload assetRegistryAddress,
          Interaction.erase_updateAssetConditionMetadata payload assetRegistryAddress⟩
    | _ => simp at locks
  · exact ⟨.own (dispatch env call), .unguarded (dispatch_writes env call _ locks), rfl⟩

/-- The runs of the contract are among the sequences of top-level calls. -/
theorem between_of_reaches {start world : World} (reached : Run.Reaches step start world) :
    Script.Between EntryPoint start world := by
  refine reached.invariant (fun invocation state between => ?_) .refl
  rcases attempt_cases invocation.body state with ⟨_, run⟩ | same
  · obtain ⟨script, entry, agrees⟩ := exists_entryPoint invocation.env invocation.call
    have executes : script.Executes Eq state (.ok ()) (step invocation state) := by
      rw [Script.executes_eq_iff, agrees]
      exact run
    exact .tail between ⟨0, script, entry, executes⟩
  · rw [step, same]
    exact between

/-! ## The discipline -/

/-- However the other parties call back, the call ends in an error. -/
def Interaction.Fails (call : Interaction Unit) (world : World) : Prop :=
  ∀ depth outcome after, call.Executes (Script.CallsBack EntryPoint depth) world outcome after →
    ∃ fault, outcome = .error fault

theorem Interaction.fails_of_held {world : World} (held : world.nonReentrant = true) :
    (∀ env leaseId landlord params,
      (Interaction.createLeaseInstance env leaseId landlord params).Fails world) ∧
    ∀ env payload, (Interaction.executeDepositSlash env payload).Fails world := by
  constructor
  · intro env leaseId landlord params depth outcome after run
    exact Script.refuses_named Interaction.acquires held run
  · intro env payload depth outcome after run
    exact Script.refuses_named Interaction.acquires held run

/-- Between top-level calls the lock is free and can be acquired.  Wherever one of the two
operations is invoked the lock is free unless one of them is in progress, and while one is in
progress both fail. -/
theorem reentrancy_lock_discipline (config : ConfigStore) (billing : BillingStore)
    (securityCouncil : Option SecurityCouncil) :
    (∀ world, Script.Between EntryPoint (World.genesis config billing securityCouncil) world →
      world.nonReentrant = false ∧
        ∀ env, Commits (acquireReentrancyLock env) world () { world with nonReentrant := true }) ∧
    (∀ (inProgress nested : List GuardedOperation) (world invoked : World)
      (script : Interaction Unit) (depth : Nat) (operation : GuardedOperation),
      Script.InProgress EntryPoint (World.genesis config billing securityCouncil) inProgress
        world → EntryPoint script →
      script.Invokes (Script.CallsBack EntryPoint depth) world nested operation invoked →
      (inProgress ++ nested = [] → invoked.nonReentrant = false) ∧
      (inProgress ++ nested ≠ [] →
        (∀ env leaseId landlord params,
          (Interaction.createLeaseInstance env leaseId landlord params).Fails invoked) ∧
        ∀ env payload, (Interaction.executeDepositSlash env payload).Fails invoked)) := by
  have disciplined (script : Interaction Unit) (entry : EntryPoint script) :=
    entry.disciplined
  constructor
  · intro world between
    have free : world.nonReentrant = false := between.lock disciplined
    exact ⟨free, fun env => (commits_acquireReentrancyLock ()).mpr ⟨free, rfl⟩⟩
  · intro inProgress nested world invoked script depth operation progress entry invokes
    obtain ⟨free, held⟩ := progress.invokes disciplined entry invokes
    exact ⟨free, fun inside => Interaction.fails_of_held (held inside)⟩

/-- While a proposal waits for its landlord to authorise it, no deposit can be slashed. -/
theorem proposal_refuses_slashes :
    freshWorld.nonReentrant = false ∧
      ∀ env payload, (Interaction.executeDepositSlash env payload).Fails
        { freshWorld with nonReentrant := true } := by
  let proposal := Interaction.createLeaseInstance (openLedger 50 0) 7 ⟨1⟩ (sampleProposal 200 50)
  have entry : EntryPoint proposal := .createLeaseInstance _ _ _ _
  have waits : proposal.Pauses (Script.CallsBack EntryPoint 0) freshWorld [.createLeaseInstance]
      { freshWorld with nonReentrant := true } :=
    ⟨[], rfl, .inr ⟨(), _, rfl, .inr ⟨none, _, rfl, .inl ⟨rfl, rfl⟩⟩⟩⟩
  obtain ⟨between, within⟩ := reentrancy_lock_discipline openSettings openBilling none
  have inside := within [.createLeaseInstance] [] _ _ proposal 0 .createLeaseInstance
    (.inside (.idle .refl) entry waits) entry (.inl ⟨rfl, rfl, rfl⟩)
  exact ⟨(between freshWorld .refl).1, (inside.2 (by simp)).2⟩

end LeaseFlow
