import LeaseFlow.Contract.OracleRegistry
import LeaseFlow.Contract.Termination

/-!
# Oracle-triggered slashes

`execute_deposit_slash` and the condition report that can trigger it.  A slash
settles the deposit of a terminated lease; a slash at or above the threshold is
queued when a security council is configured, on a branch that ends in an `Err`.
-/

set_option autoImplicit false

namespace LeaseFlow

open Transaction

def massiveSlashThreshold : I128 := 100000000000
def vetoTimelockPeriod : U64 := 24 * 60 * 60

/-! ## The amounts of a slash -/

def calculatePenaltyPercentage : DamageSeverity → U32
  | .normalWearAndTear => 0
  | .minor => 10
  | .moderate => 25
  | .major => 50
  | .severe => 75
  | .catastrophic => 100

/-- The landlord's payout of a slash. -/
def slashPenalty (totalDeposit : I128) (severity : DamageSeverity) : I128 :=
  if calculatePenaltyPercentage severity = 0 then 0
  else (saturatingI128 (totalDeposit * calculatePenaltyPercentage severity)).tdiv 100

/-- The tenant's refund of a slash. -/
def slashRefund (totalDeposit : I128) (severity : DamageSeverity) : I128 :=
  saturatingI128 (totalDeposit - slashPenalty totalDeposit severity)

section Shares

variable {totalDeposit : I128} (severity : DamageSeverity)

theorem calculatePenaltyPercentage_le : (calculatePenaltyPercentage severity : Int) ≤ 100 := by
  cases severity <;> decide

theorem slashPenalty_nonpos (empty : totalDeposit ≤ 0) : slashPenalty totalDeposit severity ≤ 0 := by
  unfold slashPenalty
  split
  · exact le_rfl
  · exact BoundedArithmetic.share_nonpos empty (by omega) (by norm_num) (by decide)

theorem le_slashPenalty (empty : totalDeposit ≤ 0) :
    totalDeposit ≤ slashPenalty totalDeposit severity := by
  unfold slashPenalty
  split
  · exact empty
  · exact BoundedArithmetic.le_share empty (by omega) (calculatePenaltyPercentage_le severity)
      (by norm_num) (by decide) (by decide)

theorem slashRefund_nonpos (empty : totalDeposit ≤ 0) : slashRefund totalDeposit severity ≤ 0 :=
  BoundedArithmetic.saturate_nonpos (sub_nonpos.mpr (le_slashPenalty severity empty)) (by decide)

theorem slashPenalty_nonneg (held : 0 ≤ totalDeposit) : 0 ≤ slashPenalty totalDeposit severity := by
  unfold slashPenalty
  split
  · exact le_rfl
  · exact BoundedArithmetic.share_nonneg held (by omega) (by norm_num) (by decide)

theorem slashPenalty_le (held : 0 ≤ totalDeposit) :
    slashPenalty totalDeposit severity ≤ totalDeposit := by
  unfold slashPenalty
  split
  · exact held
  · exact BoundedArithmetic.share_le held (by omega) (calculatePenaltyPercentage_le severity)
      (by norm_num) (by decide) (by decide)

/-- The refund of a deposit in range is what the penalty leaves. -/
theorem slashRefund_eq (held : 0 ≤ totalDeposit) (range : totalDeposit ≤ i128Max) :
    slashRefund totalDeposit severity = totalDeposit - slashPenalty totalDeposit severity := by
  have nonneg := slashPenalty_nonneg severity held
  have within := sub_nonneg.mpr (slashPenalty_le severity held)
  have low : i128Min ≤ 0 := by decide
  exact BoundedArithmetic.saturate_of_range (low.trans within) (by linarith)

end Shares

/-! ## `execute_deposit_slash` -/

/-- Everything before the amounts are computed.  The report counts as accepted once
its nonce is stored. -/
def admitSlash (env : Env) (payload : OraclePayload) : Contract LeaseInstance := do
  verifySlashReport env payload
  recordOracleSuccess env payload.oraclePubkey
  setOracleNonce payload.oraclePubkey payload.nonce
  let lease ← loadLeaseInstanceById payload.leaseId
  require (lease.status ≠ .daoArbitration) .daoArbitrationNotEnabled
  require (lease.status = .terminated ∨ lease.status = .expired) .leaseNotTerminated
  require (lease.depositStatus ≠ .settled) .depositAlreadySettled
  VelocityGuard.initializeLessor lease.landlord
  VelocityGuard.checkVelocityLimits env lease.landlord
  pure lease

/-- Queue a massive slash for the veto period, and end the call with an `Err`. -/
def queueSlash (env : Env) (payload : OraclePayload) (penaltyAmount tenantRefund : I128) :
    Contract Unit := do
  let timelockEnd ← checkedU64 (env.timestamp + vetoTimelockPeriod)
  modify fun world => { world with
    pendingSlash := Function.update world.pendingSlash payload.leaseId
      (some ⟨payload.leaseId, penaltyAmount, tenantRefund, penaltyAmount, payload,
        env.timestamp, timelockEnd, 0, 0, false, false⟩) }
  throw (.err .pendingVeto)

def flagTenant (leaseId : LeaseId) (tenant : Address) (reason : String) : Contract Unit := do
  updateAssets fun assets => { assets with
    tenantFlag := Function.update assets.tenantFlag leaseId true }
  publish (.tenantFlagged leaseId tenant reason)

def flagSevereDamage (payload : OraclePayload) (lease : LeaseInstance)
    (totalDeposit penaltyAmount : I128) : Contract Unit :=
  if DamageSeverity.severe.code ≤ payload.damageSeverity.code ∧ totalDeposit ≤ penaltyAmount then
    flagTenant payload.leaseId lease.tenant "Severe damage exceeding deposit value"
  else
    pure ()

/-- The record of a lease whose deposit was slashed: settled, with its status kept. -/
def LeaseInstance.slashed (lease : LeaseInstance) : LeaseInstance :=
  { lease with depositStatus := .settled, flags := lease.flags.clear .active }

def settleSlash (env : Env) (payload : OraclePayload) (lease : LeaseInstance)
    (totalDeposit penaltyAmount tenantRefund : I128) : Contract Unit := do
  flagSevereDamage payload lease totalDeposit penaltyAmount
  payShares env payload.leaseId lease tenantRefund penaltyAmount
  saveLeaseInstance payload.leaseId lease.slashed
  VelocityGuard.recordTermination env lease.landlord
  VelocityGuard.updatePortfolioSize lease.landlord (-1)
  returnLeaseNft env lease.nftContract lease.tokenId lease.landlord
  let _stats ← VelocityGuard.getVelocityStats lease.landlord
  publish (.depositSlashed payload.leaseId payload.oraclePubkey payload.damageSeverity.code
    penaltyAmount tenantRefund penaltyAmount lease.lessorReferenceId)

def executeDepositSlashInner (env : Env) (payload : OraclePayload) : Contract Unit := do
  let lease ← admitSlash env payload
  let totalDeposit ← checkedI128 lease.totalDeposit
  let penaltyAmount := slashPenalty totalDeposit payload.damageSeverity
  let tenantRefund := slashRefund totalDeposit payload.damageSeverity
  let council ← inspect fun world => world.securityCouncil.isSome
  if massiveSlashThreshold ≤ penaltyAmount ∧ council = true then
    queueSlash env payload penaltyAmount tenantRefund
  else
    settleSlash env payload lease totalDeposit penaltyAmount tenantRefund

def executeDepositSlash (env : Env) (payload : OraclePayload) : Contract Unit := do
  acquireReentrancyLock env
  let result ← resultOf (executeDepositSlashInner env payload)
  releaseReentrancyLock
  question result

/-! ## Condition reports -/

/-- The second, private `execute_early_termination` of the source, for a lease whose
asset was destroyed. -/
def terminateDestroyedLease (env : Env) (leaseId : LeaseId) (caller : Address) :
    Contract Unit := do
  let lease ← loadLeaseInstanceById leaseId
  require (lease.status = .active) .leaseNotTerminated
  let closed := { lease with status := .terminated, flags := lease.flags.clear .active }
  saveLeaseInstance leaseId closed
  archiveLease env leaseId closed caller
  publish (.leaseTerminated leaseId)

def AssetCondition.name : AssetCondition → String
  | .mint => "Mint"
  | .worn => "Worn"
  | .damaged => "Damaged"
  | .destroyed => "Destroyed"

def storeAssetCondition (env : Env) (payload : AssetConditionMetadataPayload) : Contract Unit :=
  updateAssets fun assets => { assets with
    assetCondition :=
      Function.update assets.assetCondition payload.leaseId (some payload.assetCondition)
    oracleRateLimit := Function.update assets.oracleRateLimit
      (payload.oraclePubkey, env.timestamp / 3600) true }

/-- The report a destroyed asset submits against its own lease. -/
def destructionPayload (env : Env) (payload : AssetConditionMetadataPayload) (nonce : U64) :
    OraclePayload where
  leaseId := payload.leaseId
  oraclePubkey := payload.oraclePubkey
  damageSeverity := .catastrophic
  nonce := nonce
  timestamp := env.timestamp
  signature := payload.signature

/-- A destroyed asset terminates its lease, if that is active, and slashes the deposit. -/
def slashDestroyedAsset (env : Env) (payload : AssetConditionMetadataPayload) :
    Contract Unit := do
  let lease ← loadLeaseInstanceById payload.leaseId
  if lease.status = .active then do
    terminateDestroyedLease env payload.leaseId lease.tenant
    let nonce ← checkedU64 (payload.nonce + 1)
    executeDepositSlash env (destructionPayload env payload nonce)
  else
    pure ()

def updateAssetConditionMetadata (env : Env) (payload : AssetConditionMetadataPayload)
    (assetRegistryAddress : Address) : Contract Unit := do
  verifyConditionReport env payload
  let stored ← inspect fun world => world.assets.assetCondition payload.leaseId
  storeAssetCondition env payload
  setOracleNonce payload.oraclePubkey payload.nonce
  demand (env.contracts.updateAssetMetadata assetRegistryAddress payload.leaseId
    payload.assetCondition.name = true) "registry call failed"
  publish (.assetMetadataUpdated payload.leaseId payload.assetCondition payload.oraclePubkey
    env.timestamp (stored.getD .mint))
  if payload.assetCondition = .destroyed then slashDestroyedAsset env payload
  else pure ()

/-! ## Footprints -/

section Footprints

variable {parts : List Part} {env : Env}

@[simp] theorem writes_admitSlash (may : [.leases, .oracle, .velocity, .events] ⊆ parts)
    (payload : OraclePayload) : Writes parts (admitSlash env payload) := by
  refine Writes.mono ?_ may
  unfold admitSlash
  repeat refine writes_bind (by simp) fun _ => ?_
  simp

@[simp] theorem writes_queueSlash (may : .pendingSlash ∈ parts) (payload : OraclePayload)
    (penaltyAmount tenantRefund : I128) :
    Writes parts (queueSlash env payload penaltyAmount tenantRefund) := by
  refine writes_bind (by simp) fun timelockEnd =>
    writes_bind (writes_modify fun state part aside => ?_) fun _ => writes_throw _
  cases part <;> first | rfl | exact absurd may aside

@[simp] theorem writes_flagSevereDamage (may : [.tenantFlags, .events] ⊆ parts)
    (payload : OraclePayload) (lease : LeaseInstance) (totalDeposit penaltyAmount : I128) :
    Writes parts (flagSevereDamage payload lease totalDeposit penaltyAmount) := by
  have flagged : Writes [.tenantFlags, .events]
      (flagTenant payload.leaseId lease.tenant "Severe damage exceeding deposit value") := by
    refine writes_bind (writes_modify fun state part aside => ?_) fun _ => by simp
    cases part <;> first | rfl | exact absurd (by simp) aside
  exact Writes.mono (writes_ite _ flagged (writes_pure ())) may

@[simp] theorem writes_settleSlash
    (may : [.leases, .deposits, .velocity, .tenantFlags, .usageRights, .nftTransfers,
      .events] ⊆ parts) (payload : OraclePayload) (lease : LeaseInstance)
    (totalDeposit penaltyAmount tenantRefund : I128) :
    Writes parts (settleSlash env payload lease totalDeposit penaltyAmount tenantRefund) := by
  refine Writes.mono ?_ may
  unfold settleSlash
  repeat refine writes_bind (by simp) fun _ => ?_
  simp

@[simp] theorem writes_executeDepositSlash
    (may : [.leases, .deposits, .oracle, .velocity, .pendingSlash, .tenantFlags, .usageRights,
      .reentrancyLock, .nftTransfers, .events] ⊆ parts) (payload : OraclePayload) :
    Writes parts (executeDepositSlash env payload) := by
  have inner : Writes [.leases, .deposits, .oracle, .velocity, .pendingSlash, .tenantFlags,
      .usageRights, .reentrancyLock, .nftTransfers, .events]
      (executeDepositSlashInner env payload) := by
    unfold executeDepositSlashInner
    repeat refine writes_bind (by simp) fun _ => ?_
    exact writes_ite _ (by simp) (by simp)
  refine Writes.mono ?_ may
  unfold executeDepositSlash
  refine writes_bind (by simp) fun _ => writes_bind (writes_resultOf inner) fun _ => ?_
  exact writes_bind (by simp) fun _ => by simp

@[simp] theorem writes_terminateDestroyedLease (may : [.leases, .history, .events] ⊆ parts)
    (leaseId : LeaseId) (caller : Address) :
    Writes parts (terminateDestroyedLease env leaseId caller) := by
  refine Writes.mono ?_ may
  unfold terminateDestroyedLease
  repeat refine writes_bind (by simp) fun _ => ?_
  simp

@[simp] theorem writes_storeAssetCondition (may : .assetConditions ∈ parts)
    (payload : AssetConditionMetadataPayload) :
    Writes parts (storeAssetCondition env payload) := by
  refine writes_modify fun state part aside => ?_
  cases part <;> first | rfl | exact absurd may aside

@[simp] theorem writes_updateAssetConditionMetadata
    (may : [.leases, .deposits, .oracle, .velocity, .pendingSlash, .usageRights, .history,
      .tenantFlags, .assetConditions, .reentrancyLock, .nftTransfers, .events] ⊆ parts)
    (payload : AssetConditionMetadataPayload) (assetRegistryAddress : Address) :
    Writes parts (updateAssetConditionMetadata env payload assetRegistryAddress) := by
  have destroyed : Writes [.leases, .deposits, .oracle, .velocity, .pendingSlash, .usageRights,
      .history, .tenantFlags, .assetConditions, .reentrancyLock, .nftTransfers, .events]
      (slashDestroyedAsset env payload) := by
    refine writes_bind (by simp) fun lease => writes_ite _ ?_ (writes_pure ())
    exact writes_bind (by simp) fun _ => writes_bind (by simp) fun _ => by simp
  refine Writes.mono ?_ may
  unfold updateAssetConditionMetadata
  repeat refine writes_bind (by simp) fun _ => ?_
  exact writes_ite _ destroyed (writes_pure ())

end Footprints

/-! ## Effect on the escrow -/

/-- Accepting a report raises its oracle's nonce above the stored one and leaves the
other nonces alone. -/
structure OracleStore.Accepted (oraclePubkey : BytesN 32) (nonce : U64)
    (before after : OracleStore) : Prop where
  fresh : before.nonceOf oraclePubkey < nonce
  nonces : after.oracleNonce = Function.update before.oracleNonce oraclePubkey (some nonce)
  calm : before.Calm → after.Calm

section DepositSlash

variable {world after : World} {env : Env}

/-- What a report has to find before it can slash a deposit. -/
structure Escrow.AdmitsSlash (env : Env) (payload : OraclePayload) (lease : LeaseInstance)
    (escrow : Escrow) : Prop where
  admitted : escrow.oracle.Admits env.timestamp payload
  fresh : escrow.oracle.nonceOf payload.oraclePubkey < payload.nonce
  recent : env.timestamp - payload.timestamp ≤ 86400
  signed : env.ed25519Verify payload.oraclePubkey payload.leaseId.toBeBytes payload.signature = true
  found : escrow.leases.lookup payload.leaseId = some lease
  ended : lease.status = .terminated ∨ lease.status = .expired
  unsettled : lease.depositStatus ≠ .settled
  unpaused : escrow.velocity.pausedLessor lease.landlord = false
  allowed : (escrow.velocity.trackerOf lease.landlord).Allows env.timestamp

theorem Escrow.AdmitsSlash.untripped {payload : OraclePayload} {lease : LeaseInstance}
    {escrow : Escrow} (admits : escrow.AdmitsSlash env payload lease) {tracker : VelocityTracker}
    (known : escrow.velocity.velocityTracker lease.landlord = some tracker) :
    ¬ tracker.Exceeded env.timestamp :=
  VelocityGuard.not_exceeded_of_allows admits.allowed known

/-- The escrow with the tracker of a lessor in place, fresh if there was none. -/
def Escrow.tracking (lessor : Address) (escrow : Escrow) : Escrow :=
  escrow.withVelocity (escrow.velocity.track lessor (escrow.velocity.trackerOf lessor))

theorem Escrow.tracking_retracks (lessor : Address) (escrow : Escrow) :
    escrow.Retracked (escrow.tracking lessor) :=
  ⟨_, rfl⟩

theorem admitSlash_commits {payload : OraclePayload} {lease : LeaseInstance}
    (run : Commits (admitSlash env payload) world lease after) :
    world.toEscrow.AdmitsSlash env payload lease ∧
      ∃ oracle, world.oracle.Accepted payload.oraclePubkey payload.nonce oracle ∧
        after.toEscrow = (world.toEscrow.withOracle oracle).tracking lease.landlord := by
  simp only [admitSlash, commits_bind, commits_verifySlashReport,
    commits_loadLeaseInstanceById, commits_require, commits_pure] at run
  obtain ⟨_, start, ⟨⟨admits, fresh, recent, signed⟩, rfl⟩, _, w1, recorded, _, w2, counted, _, _,
    ⟨found, rfl⟩, _, _, ⟨_, rfl⟩, _, _, ⟨ended, rfl⟩, _, w3, ⟨unsettled, rfl⟩, _, _, initialised,
    _, _, checked, rfl, rfl⟩ := run
  obtain ⟨oracle, succeeded, administered⟩ := recordOracleSuccess_commits recorded
  obtain ⟨unpaused, allowed, rfl⟩ := VelocityGuard.commits_admitLessor initialised checked
  have accepted := setOracleNonce_escrow counted
  rw [succeeded] at accepted
  have leases : w3.leases = start.leases := (congrArg Escrow.leases accepted :)
  have velocity : w3.velocity = start.velocity := (congrArg Escrow.velocity accepted :)
  refine ⟨⟨admits, fresh, recent, signed, leases ▸ found, ended, unsettled, velocity ▸ unpaused,
    velocity ▸ allowed⟩, { oracle with
      oracleNonce := Function.update oracle.oracleNonce payload.oraclePubkey (some payload.nonce) },
    ⟨fresh, ?_, ?_⟩, ?_⟩
  · show Function.update oracle.oracleNonce _ _ = _
    rw [administered.nonces]
  · intro calm
    exact ⟨(administered.calm calm).active, (administered.calm calm).resting⟩
  · exact congrArg (Escrow.tracking lease.landlord) accepted

theorem not_commits_queueSlash (payload : OraclePayload) (penaltyAmount tenantRefund : I128)
    (result : Unit) :
    ¬ Commits (queueSlash env payload penaltyAmount tenantRefund) world result after := by
  simp [queueSlash]

/-- What a settlement of the two shares needs of the callees and of the lessor's tracker. -/
structure Env.AcceptsSlash (env : Env) (lease : LeaseInstance) (tracker : VelocityTracker)
    (tenantRefund penaltyAmount : I128) : Prop where
  shares : env.AcceptsShares lease tenantRefund penaltyAmount
  counted : tracker.CountsNext
  returned : env.AcceptsNft lease.nftContract lease.tokenId lease.landlord

theorem settleSlash_commits {payload : OraclePayload} {lease : LeaseInstance}
    {totalDeposit penaltyAmount tenantRefund : I128} {tracker : VelocityTracker} {result : Unit}
    (tracked : world.velocity.velocityTracker lease.landlord = some tracker)
    (run : Commits (settleSlash env payload lease totalDeposit penaltyAmount tenantRefund)
      world result after) :
    env.AcceptsSlash lease tracker tenantRefund penaltyAmount ∧
      ((world.toEscrow.enter (shareEntries env payload.leaseId lease tenantRefund
        penaltyAmount)).store payload.leaseId (some lease.slashed)).Retracked after.toEscrow := by
  simp only [settleSlash, commits_bind] at run
  obtain ⟨_, w1, flagged, _, w2, paid, _, w3, saved, _, w4, recorded, _, w5, resized, _, w6,
    sent, stats, w7, read, published⟩ := run
  have accepted := ((commits_payShares _).mp paid).1
  have settled := saveLeaseInstance_escrow saved
  rw [payShares_escrow paid, escrow_kept flagged (by simp)] at settled
  have known : w3.velocity.velocityTracker lease.landlord = some tracker :=
    (congrArg (Escrow.velocity · |>.velocityTracker lease.landlord) settled).trans tracked
  obtain ⟨counted, rfl⟩ :=
    (VelocityGuard.commits_countTermination known).mp ⟨_, _, _, recorded, resized⟩
  obtain ⟨stored, found, scaled, _, rfl⟩ := (VelocityGuard.commits_getVelocityStats stats).mp read
  have kept := escrow_kept sent (by simp)
  have shown : w7.velocity.velocityTracker lease.landlord =
      some (tracker.terminated env.timestamp) := by
    rw [show w7.velocity = _ from congrArg Escrow.velocity kept]
    exact VelocityStore.velocityTracker_track ..
  obtain rfl := Option.some.inj (found.symm.trans shown)
  refine ⟨⟨accepted, ⟨counted, scaled⟩, exists_commits_returnLeaseNft.mp ⟨_, sent⟩⟩, ?_⟩
  rw [escrow_kept published (by simp), kept, ← settled]
  exact ⟨_, rfl⟩

theorem exists_commits_flagSevereDamage {payload : OraclePayload} {lease : LeaseInstance}
    {totalDeposit penaltyAmount : I128} :
    ∃ after, Commits (flagSevereDamage payload lease totalDeposit penaltyAmount) world () after := by
  unfold flagSevereDamage
  split <;> simp [flagTenant, updateAssets, publish]

theorem exists_commits_settleSlash {payload : OraclePayload} {lease : LeaseInstance}
    {totalDeposit penaltyAmount tenantRefund : I128} {tracker : VelocityTracker}
    (tracked : world.velocity.velocityTracker lease.landlord = some tracker)
    (accepts : env.AcceptsSlash lease tracker tenantRefund penaltyAmount) :
    ∃ after, Commits (settleSlash env payload lease totalDeposit penaltyAmount tenantRefund)
      world () after := by
  obtain ⟨w1, flagged⟩ : ∃ w1, Commits (flagSevereDamage payload lease totalDeposit penaltyAmount)
      world () w1 := exists_commits_flagSevereDamage
  obtain ⟨w2, paid⟩ : ∃ w2, Commits (payShares env payload.leaseId lease tenantRefund
      penaltyAmount) w1 () w2 := ⟨_, (commits_payShares ()).mpr ⟨accepts.shares, rfl⟩⟩
  obtain ⟨w3, saved⟩ : ∃ w3, Commits (saveLeaseInstance payload.leaseId lease.slashed) w2 () w3 :=
    ⟨_, (commits_saveLeaseInstance ..).mpr rfl⟩
  have settled := saveLeaseInstance_escrow saved
  rw [payShares_escrow paid, escrow_kept flagged (by simp)] at settled
  have known : w3.velocity.velocityTracker lease.landlord = some tracker :=
    (congrArg (Escrow.velocity · |>.velocityTracker lease.landlord) settled).trans tracked
  obtain ⟨w5, counted⟩ : ∃ w5, w5 = { w3 with
      velocity := w3.velocity.track lease.landlord (tracker.terminated env.timestamp) } := ⟨_, rfl⟩
  obtain ⟨_, _, w4, recorded, resized⟩ :=
    (VelocityGuard.commits_countTermination known).mpr ⟨accepts.counted.counted, counted⟩
  obtain ⟨w6, sent⟩ : ∃ w6, Commits (returnLeaseNft env lease.nftContract lease.tokenId
      lease.landlord) w5 () w6 := exists_commits_returnLeaseNft.mpr accepts.returned
  have shown : w6.velocity.velocityTracker lease.landlord =
      some (tracker.terminated env.timestamp) := by
    rw [show w6.velocity = _ from congrArg Escrow.velocity (escrow_kept sent (by simp)),
      counted]
    exact VelocityStore.velocityTracker_track ..
  have read := (VelocityGuard.commits_getVelocityStats _).mpr
    ⟨_, shown, accepts.counted.scaled, rfl, rfl⟩
  simp only [settleSlash, commits_bind]
  exact ⟨_, _, w1, flagged, _, w2, paid, _, w3, saved, _, w4, recorded, _, _, resized, _, w6, sent,
    _, w6, read, (commits_modify _ _).mpr rfl⟩

/-- Everything a slash needs, apart from the veto, to go through. -/
structure Escrow.ReadyToSlash (env : Env) (payload : OraclePayload) (lease : LeaseInstance)
    (escrow : Escrow) : Prop extends escrow.AdmitsSlash env payload lease where
  range : i128Min ≤ lease.totalDeposit ∧ lease.totalDeposit ≤ i128Max
  accepted : env.AcceptsSlash lease (escrow.velocity.trackerOf lease.landlord)
    (slashRefund lease.totalDeposit payload.damageSeverity)
    (slashPenalty lease.totalDeposit payload.damageSeverity)

/-- What a committed slash did: it accepted the report, paid the two shares of an ended,
unsettled lease, and settled it.  With a council configured it stayed below the
threshold. -/
structure Escrow.Slashed (env : Env) (payload : OraclePayload) (lease : LeaseInstance)
    (before after : Escrow) : Prop extends before.ReadyToSlash env payload lease where
  unvetoed : before.securityCouncil ≠ none →
    slashPenalty lease.totalDeposit payload.damageSeverity < massiveSlashThreshold
  effect : ∃ oracle, before.oracle.Accepted payload.oraclePubkey payload.nonce oracle ∧
    (((before.withOracle oracle).enter (shareEntries env payload.leaseId lease
      (slashRefund lease.totalDeposit payload.damageSeverity)
      (slashPenalty lease.totalDeposit payload.damageSeverity))).store payload.leaseId
        (some lease.slashed)).Retracked after

theorem executeDepositSlashInner_commits {payload : OraclePayload} {result : Unit}
    (run : Commits (executeDepositSlashInner env payload) world result after) :
    ∃ lease, world.toEscrow.Slashed env payload lease after.toEscrow := by
  simp only [executeDepositSlashInner, commits_bind, commits_checkedI128, commits_inspect,
    commits_ite] at run
  obtain ⟨lease, _, admitted, _, _, ⟨range, rfl, rfl⟩, _, w1, ⟨rfl, rfl⟩, run⟩ := run
  obtain ⟨admits, oracle, heard, reached⟩ := admitSlash_commits admitted
  have council : w1.securityCouncil = world.securityCouncil :=
    (congrArg Escrow.securityCouncil reached :)
  have tracked : w1.velocity.velocityTracker lease.landlord =
      some (world.velocity.trackerOf lease.landlord) := by
    rw [show w1.velocity = _ from congrArg Escrow.velocity reached]
    exact VelocityStore.velocityTracker_track ..
  split at run
  · exact absurd run (not_commits_queueSlash _ _ _ _)
  · next small =>
      obtain ⟨accepted, settled⟩ := settleSlash_commits tracked run
      refine ⟨lease, ⟨admits, range, accepted⟩, fun configured => ?_, oracle, heard, ?_⟩
      · rw [← council] at configured
        by_contra massive
        exact small ⟨not_lt.mp massive, Option.isSome_iff_ne_none.mpr configured⟩
      · rw [reached] at settled
        exact (((Escrow.tracking_retracks _ _).enter _).store _ _).trans settled

theorem executeDepositSlash_commits {payload : OraclePayload} {result : Unit}
    (run : Commits (executeDepositSlash env payload) world result after) :
    ∃ lease, world.toEscrow.Slashed env payload lease after.toEscrow := by
  simp only [executeDepositSlash, commits_bind, commits_question] at run
  obtain ⟨_, w1, acquired, _, w2, slashed, _, w3, released, rfl, rfl⟩ := run
  rw [commits_resultOf_ok] at slashed
  obtain ⟨lease, effect⟩ := executeDepositSlashInner_commits slashed
  rw [← escrow_kept acquired (by simp), escrow_kept released (by simp)]
  exact ⟨lease, effect⟩

theorem commits_acquireReentrancyLock (result : Unit) :
    Commits (acquireReentrancyLock env) world result after ↔
      world.nonReentrant = false ∧ after = { world with nonReentrant := true } := by
  cases locked : world.nonReentrant <;> simp [acquireReentrancyLock, setReentrancyLock, locked]

theorem unlocked_of_executeDepositSlash {payload : OraclePayload} {result : Unit}
    (run : Commits (executeDepositSlash env payload) world result after) :
    world.nonReentrant = false := by
  simp only [executeDepositSlash, commits_bind] at run
  obtain ⟨_, _, acquired, _⟩ := run
  exact ((commits_acquireReentrancyLock _).mp acquired).1

/-! ### When a slash goes through -/

theorem exists_commits_admitSlash {payload : OraclePayload} {lease : LeaseInstance}
    (admits : world.toEscrow.AdmitsSlash env payload lease) :
    ∃ after, Commits (admitSlash env payload) world lease after := by
  have verified := (commits_verifySlashReport payload ()).mpr
    ⟨⟨admits.admitted, admits.fresh, admits.recent, admits.signed⟩, rfl⟩
  obtain ⟨w1, recorded⟩ : ∃ w1, Commits (recordOracleSuccess env payload.oraclePubkey) world () w1 :=
    exists_commits_recordOracleSuccess
  obtain ⟨w2, counted⟩ : ∃ w2, Commits (setOracleNonce payload.oraclePubkey payload.nonce) w1 () w2 :=
    ⟨_, (commits_updateOracle _ ()).mpr rfl⟩
  obtain ⟨oracle, succeeded, _⟩ := recordOracleSuccess_commits recorded
  have accepted := setOracleNonce_escrow counted
  rw [succeeded] at accepted
  have leases : w2.leases = world.leases := (congrArg Escrow.leases accepted :)
  have velocity : w2.velocity = world.velocity := (congrArg Escrow.velocity accepted :)
  have loaded := (commits_loadLeaseInstanceById payload.leaseId lease).mpr
    ⟨leases ▸ admits.found, rfl⟩
  have unarbitrated : lease.status ≠ .daoArbitration := by
    rcases admits.ended with ended | ended <;> rw [ended] <;> nofun
  obtain ⟨w3, initialised⟩ : ∃ w3, Commits (VelocityGuard.initializeLessor lease.landlord) w2 () w3 :=
    ⟨_, (VelocityGuard.commits_initializeLessor ()).mpr rfl⟩
  have checked : Commits (VelocityGuard.checkVelocityLimits env lease.landlord) w3 () w3 := by
    rw [(VelocityGuard.commits_initializeLessor ()).mp initialised]
    exact (VelocityGuard.commits_checkVelocityLimits ()).mpr ⟨⟨velocity ▸ admits.unpaused, _,
      VelocityStore.velocityTracker_track .., velocity ▸ admits.allowed⟩, rfl⟩
  simp only [admitSlash, commits_bind, commits_require, commits_pure]
  exact ⟨w3, (), world, verified, (), w1, recorded, (), w2, counted, lease, w2, loaded, (), w2,
    ⟨unarbitrated, rfl⟩, (), w2, ⟨admits.ended, rfl⟩, (), w2, ⟨admits.unsettled, rfl⟩, (), w3,
    initialised, (), w3, checked, rfl, rfl⟩

theorem exists_commits_executeDepositSlash {payload : OraclePayload} {lease : LeaseInstance}
    (unlocked : world.nonReentrant = false) (ready : world.toEscrow.ReadyToSlash env payload lease)
    (unvetoed : world.securityCouncil ≠ none →
      slashPenalty lease.totalDeposit payload.damageSeverity < massiveSlashThreshold) :
    ∃ after, Commits (executeDepositSlash env payload) world () after := by
  obtain ⟨w1, acquired⟩ : ∃ w1, Commits (acquireReentrancyLock env) world () w1 :=
    ⟨_, (commits_acquireReentrancyLock ()).mpr ⟨unlocked, rfl⟩⟩
  rw [← escrow_kept acquired (by simp)] at ready unvetoed
  obtain ⟨w2, admitted⟩ := exists_commits_admitSlash ready.toAdmitsSlash
  obtain ⟨_, oracle, _, reached⟩ := admitSlash_commits admitted
  have council : w2.securityCouncil = w1.securityCouncil :=
    (congrArg Escrow.securityCouncil reached :)
  have tracked : w2.velocity.velocityTracker lease.landlord =
      some (w1.velocity.trackerOf lease.landlord) := by
    rw [show w2.velocity = _ from congrArg Escrow.velocity reached]
    exact VelocityStore.velocityTracker_track ..
  obtain ⟨w3, settled⟩ := exists_commits_settleSlash tracked ready.accepted
  have small : ¬ (massiveSlashThreshold ≤ slashPenalty lease.totalDeposit payload.damageSeverity ∧
      w2.securityCouncil.isSome = true) := by
    rintro ⟨massive, configured⟩
    rw [council] at configured
    exact absurd (unvetoed (Option.isSome_iff_ne_none.mp configured)) (not_lt.mpr massive)
  have slashed : Commits (executeDepositSlashInner env payload) w1 () w3 := by
    simp only [executeDepositSlashInner, commits_bind, commits_checkedI128, commits_inspect,
      commits_ite]
    refine ⟨lease, w2, admitted, _, w2, ⟨ready.range, rfl, rfl⟩, _, w2, ⟨rfl, rfl⟩, ?_⟩
    rw [if_neg small]
    exact settled
  simp only [executeDepositSlash, commits_bind, commits_question]
  exact ⟨_, (), w1, acquired, .ok (), w3, (commits_resultOf_ok _ _).mpr slashed, (), _,
    (commits_modify _ _).mpr rfl, rfl, rfl⟩

/-! ### Condition reports -/

theorem terminateDestroyedLease_escrow {leaseId : LeaseId} {caller : Address} {result : Unit}
    (run : Commits (terminateDestroyedLease env leaseId caller) world result after) :
    after.leases.lookup leaseId = none := by
  simp only [terminateDestroyedLease, commits_bind, commits_loadLeaseInstanceById,
    commits_require] at run
  obtain ⟨_, _, _, _, _, _, _, w1, saved, _, w2, archived, published⟩ := run
  have emptied := (escrow_kept published (by simp)).trans (archiveLease_escrow archived)
  show after.toEscrow.leases.lookup leaseId = none
  rw [emptied]
  exact Table.lookup_set_self _ _ _

/-- The slash of a destroyed asset looks for the record that its own termination has
just archived, so no report of a destroyed asset on an active lease commits. -/
theorem slashDestroyedAsset_commits {payload : AssetConditionMetadataPayload} {result : Unit}
    (run : Commits (slashDestroyedAsset env payload) world result after) :
    (∃ lease, world.leases.lookup payload.leaseId = some lease ∧ lease.status ≠ .active) ∧
      after = world := by
  simp only [slashDestroyedAsset, commits_bind, commits_loadLeaseInstanceById, commits_ite,
    commits_checkedU64, commits_pure] at run
  obtain ⟨lease, _, ⟨found, rfl⟩, run⟩ := run
  split at run
  · obtain ⟨_, w1, terminated, _, _, ⟨_, rfl, rfl⟩, slashed⟩ := run
    obtain ⟨lease, effect⟩ := executeDepositSlash_commits slashed
    have gone := terminateDestroyedLease_escrow terminated
    have there := effect.found
    rw [destructionPayload] at there
    rw [gone] at there
    cases there
  · next idle => exact ⟨⟨lease, found, idle⟩, run.2⟩

/-- A committed condition report ends before it touches the lease. -/
theorem updateAssetConditionMetadata_kept {payload : AssetConditionMetadataPayload}
    {assetRegistryAddress : Address} {result : Unit} {part : Part}
    (run : Commits (updateAssetConditionMetadata env payload assetRegistryAddress) world result
      after) (aside : part ∉ [.oracle, .assetConditions, .events]) :
    part.read after = part.read world := by
  have quiet {body : Contract Unit} {before left : World} (step : Commits body before () left)
      (writes : Writes [.oracle, .assetConditions, .events] body) :
      part.read left = part.read before := writes.kept step aside
  simp only [updateAssetConditionMetadata, commits_bind, commits_verifyConditionReport,
    commits_inspect, commits_demand, commits_ite, commits_pure] at run
  obtain ⟨_, _, ⟨_, rfl⟩, _, start, ⟨_, rfl⟩, _, w1, stored, _, w2, counted, _, w3, ⟨_, rfl⟩, _,
    w4, published, closing⟩ := run
  have finish : after = w4 := by
    split at closing
    · exact (slashDestroyedAsset_commits closing).2
    · exact closing.2
  rw [finish, quiet published (by simp), quiet counted (by simp), quiet stored (by simp)]

/-- A committed condition report is accepted and does nothing else to the escrow.  A
destroyed asset is reported only of a lease that is not active, so no slash follows. -/
theorem updateAssetConditionMetadata_commits {payload : AssetConditionMetadataPayload}
    {assetRegistryAddress : Address} {result : Unit}
    (run : Commits (updateAssetConditionMetadata env payload assetRegistryAddress) world result
      after) :
    (∃ oracle, world.oracle.Accepted payload.oraclePubkey payload.nonce oracle ∧
      after.toEscrow = world.toEscrow.withOracle oracle) ∧
    (payload.assetCondition = .destroyed →
      ∃ lease, world.leases.lookup payload.leaseId = some lease ∧ lease.status ≠ .active) := by
  simp only [updateAssetConditionMetadata, commits_bind, commits_verifyConditionReport,
    commits_inspect, commits_demand, commits_ite, commits_pure] at run
  obtain ⟨_, _, ⟨⟨_, _, _, _, _, fresh, _⟩, rfl⟩, _, start, ⟨_, rfl⟩, _, w1, stored, _, w2,
    counted, _, w3, ⟨_, rfl⟩, _, w4, published, closing⟩ := run
  have conditioned : w1.toEscrow = start.toEscrow := by
    rw [(commits_modify _ _).mp stored]
  have accepted : w4.toEscrow = _ :=
    (escrow_kept published (by simp)).trans (setOracleNonce_escrow counted)
  rw [conditioned] at accepted
  constructor
  · have finish : after = w4 := by
      split at closing
      · exact (slashDestroyedAsset_commits closing).2
      · exact closing.2
    rw [finish]
    refine ⟨_, ?_, accepted⟩
    exact ⟨fresh, rfl, fun calm => ⟨calm.active, calm.resting⟩⟩
  · intro destroyed
    rw [if_pos destroyed] at closing
    obtain ⟨lease, found, idle⟩ := (slashDestroyedAsset_commits closing).1
    have leases : w4.leases = start.leases := (congrArg Escrow.leases accepted :)
    exact ⟨lease, leases ▸ found, idle⟩

end DepositSlash

end LeaseFlow
