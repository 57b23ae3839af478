import LeaseFlow.Contract.Administration
import LeaseFlow.Contract.VelocityGuard

/-!
# Oracle registry

Whitelisting, the fallback hierarchy, demotion, the report nonces, and the two
gates a signed report passes before it takes effect.
-/

set_option autoImplicit false

namespace LeaseFlow

open Transaction

def stalenessThreshold : U64 := 48 * 60 * 60
def backupFailureThreshold : U64 := 7 * 24 * 60 * 60
def maxOracleFailures : U32 := 3

/-- `u64::to_be_bytes`. -/
def LeaseId.toBeBytes (leaseId : LeaseId) : List UInt8 :=
  [7, 6, 5, 4, 3, 2, 1, 0].map fun place => UInt8.ofNat (leaseId.toNat / 256 ^ place)

def updateOracle (change : OracleStore → OracleStore) : Contract Unit :=
  modify fun world => { world with oracle := change world.oracle }

def isOracleWhitelisted (oraclePubkey : BytesN 32) : Contract Bool :=
  inspect fun world => world.oracle.whitelistedOracle oraclePubkey

def getOracleConfig (oraclePubkey : BytesN 32) : Contract (Option OracleConfig) :=
  inspect fun world => world.oracle.oracleConfig oraclePubkey

def setOracleConfig (oraclePubkey : BytesN 32) (config : OracleConfig) : Contract Unit :=
  updateOracle fun oracle => { oracle with
    oracleConfig := Function.update oracle.oracleConfig oraclePubkey (some config) }

def getFallbackHierarchy : Contract (Option FallbackHierarchy) :=
  inspect fun world => world.oracle.fallbackHierarchy

def saveFallbackHierarchy (hierarchy : FallbackHierarchy) : Contract Unit :=
  updateOracle fun oracle => { oracle with fallbackHierarchy := some hierarchy }

def OracleStore.nonceOf (oracle : OracleStore) (oraclePubkey : BytesN 32) : U64 :=
  (oracle.oracleNonce oraclePubkey).getD 0

def getOracleNonce (oraclePubkey : BytesN 32) : Contract U64 :=
  inspect fun world => world.oracle.nonceOf oraclePubkey

def setOracleNonce (oraclePubkey : BytesN 32) (nonce : U64) : Contract Unit :=
  updateOracle fun oracle => { oracle with
    oracleNonce := Function.update oracle.oracleNonce oraclePubkey (some nonce) }

/-! ## Administration of oracles -/

def whitelistOracle (env : Env) (admin : Address) (oraclePubkey : BytesN 32) :
    Contract Unit := do
  requireStoredAdmin env admin
  updateOracle fun oracle => { oracle with
    whitelistedOracle := Function.update oracle.whitelistedOracle oraclePubkey true }

def removeOracle (env : Env) (admin : Address) (oraclePubkey : BytesN 32) : Contract Unit := do
  requireStoredAdmin env admin
  updateOracle fun oracle => { oracle with
    whitelistedOracle := Function.update oracle.whitelistedOracle oraclePubkey false }

/-- The configuration a newly installed hierarchy gives each of its oracles. -/
def installedConfig (env : Env) (oraclePubkey : BytesN 32) (tier : OracleTier) : OracleConfig :=
  ⟨oraclePubkey, tier, .active, env.timestamp, none, 0⟩

def setFallbackHierarchy (env : Env) (admin : Address) (primaryOracle backupOracle : BytesN 32)
    (daoArbitrationEnabled : Bool) : Contract Unit := do
  requireStoredAdmin env admin
  let primaryKnown ← isOracleWhitelisted primaryOracle
  require (primaryKnown = true) .oracleNotWhitelisted
  let backupKnown ← isOracleWhitelisted backupOracle
  require (backupKnown = true) .oracleNotWhitelisted
  require (primaryOracle ≠ backupOracle) .invalidReleaseMath
  setOracleConfig primaryOracle (installedConfig env primaryOracle .primary)
  setOracleConfig backupOracle (installedConfig env backupOracle .backup)
  saveFallbackHierarchy ⟨primaryOracle, backupOracle, daoArbitrationEnabled, false, none⟩

def resetOracleStatus (env : Env) (admin : Address) (oraclePubkey : BytesN 32) :
    Contract Unit := do
  requireStoredAdmin env admin
  let found ← getOracleConfig oraclePubkey
  let config ← okOr found .oracleNotWhitelisted
  setOracleConfig oraclePubkey { config with
    status := .active
    failureCount := 0
    demotionTimestamp := none
    lastSuccessfulTimestamp := env.timestamp }

/-! ## Demotion and fallback -/

def stalenessCheck (env : Env) (payloadTimestamp : U64) : Contract Unit := do
  require (payloadTimestamp ≤ env.timestamp) .oracleStale
  require (env.timestamp - payloadTimestamp ≤ stalenessThreshold) .oracleStale

def demoteOracle (env : Env) (oraclePubkey : BytesN 32) (reason : String) : Contract Unit := do
  let found ← getOracleConfig oraclePubkey
  let config ← okOr found .oracleNotWhitelisted
  if config.status = .demoted then
    pure ()
  else do
    let failureCount ← checkedU32 (config.failureCount + 1)
    setOracleConfig oraclePubkey { config with
      status := .demoted
      demotionTimestamp := some env.timestamp
      failureCount := failureCount }
    publish (.oracleDemoted oraclePubkey reason env.timestamp failureCount)

def activateFallbackHierarchy (env : Env) (reason : String) : Contract Unit := do
  let found ← getFallbackHierarchy
  let hierarchy ← okOr found .fallbackHierarchyNotConfigured
  if hierarchy.hierarchyActive = true then
    pure ()
  else do
    saveFallbackHierarchy { hierarchy with
      hierarchyActive := true
      lastDemotionTime := some env.timestamp }
    publish (.fallbackHierarchyActivated hierarchy.primaryOracle hierarchy.backupOracle
      env.timestamp reason)

def triggerDaoArbitration (env : Env) (leaseId : LeaseId) (reason : String) : Contract Unit := do
  let lease ← loadLeaseInstanceById leaseId
  saveLeaseInstance leaseId { lease with status := .daoArbitration }
  publish (.daoArbitrationTriggered leaseId env.timestamp reason)

/-- A demoted oracle may retry a day after its demotion, while its failures are few. -/
def OracleConfig.isAvailable (config : OracleConfig) (now : U64) : Bool :=
  match config.status with
  | .active => true
  | .demoted =>
      match config.demotionTimestamp with
      | some demotionTime =>
          decide (24 * 60 * 60 < now - demotionTime ∧ config.failureCount < maxOracleFailures)
      | none => false
  | .failed => false

def checkOracleAvailability (env : Env) (oraclePubkey : BytesN 32) : Contract Bool := do
  let found ← getOracleConfig oraclePubkey
  let config ← okOr found .oracleNotWhitelisted
  pure (config.isAvailable env.timestamp)

def oracleAvailable (env : Env) (oraclePubkey : BytesN 32) : Contract Bool := do
  let whitelisted ← isOracleWhitelisted oraclePubkey
  if whitelisted = true then checkOracleAvailability env oraclePubkey else pure false

/-- The backup has been failing for longer than the threshold. -/
def FallbackHierarchy.backupFailed (hierarchy : FallbackHierarchy) (now : U64) : Prop :=
  ∃ lastDemotion, hierarchy.lastDemotionTime = some lastDemotion ∧
    backupFailureThreshold < now - lastDemotion

instance (hierarchy : FallbackHierarchy) (now : U64) : Decidable (hierarchy.backupFailed now) :=
  match lastDemotion : hierarchy.lastDemotionTime with
  | none => isFalse (by simp [FallbackHierarchy.backupFailed, lastDemotion])
  | some time => decidable_of_iff (backupFailureThreshold < now - time)
      (by simp [FallbackHierarchy.backupFailed, lastDemotion])

/-- What a report of an unavailable oracle triggers.  Every branch ends in an `Err`. -/
def refuseUnavailableOracle (env : Env) (payload : OraclePayload)
    (hierarchy : Option FallbackHierarchy) : Contract Unit :=
  match hierarchy with
  | none => throw (.err .oracleNotWhitelisted)
  | some config =>
      if payload.oraclePubkey = config.primaryOracle then do
        demoteOracle env payload.oraclePubkey "Primary oracle stale or unavailable"
        activateFallbackHierarchy env "Primary oracle demoted due to staleness"
        throw (.err .oracleStale)
      else if payload.oraclePubkey = config.backupOracle then
        if config.backupFailed env.timestamp then do
          triggerDaoArbitration env payload.leaseId "Backup oracle failed for 7+ days"
          throw (.err .oracleUnavailable)
        else do
          demoteOracle env payload.oraclePubkey "Backup oracle failed"
          throw (.err .oracleUnavailable)
      else
        throw (.err .oracleNotWhitelisted)

/-- While the hierarchy is active only the backup may report. -/
def refuseBypass (payload : OraclePayload) (hierarchy : Option FallbackHierarchy) :
    Contract Unit :=
  require (∀ config ∈ hierarchy, config.hierarchyActive = true →
    payload.oraclePubkey = config.backupOracle) .oracleBypassAttempt

def admitOracle (env : Env) (payload : OraclePayload) : Contract Unit := do
  stalenessCheck env payload.timestamp
  let hierarchy ← getFallbackHierarchy
  let available ← oracleAvailable env payload.oraclePubkey
  if available = true then refuseBypass payload hierarchy
  else refuseUnavailableOracle env payload hierarchy

def requireFreshNonce (oraclePubkey : BytesN 32) (nonce : U64) : Contract Unit := do
  let storedNonce ← getOracleNonce oraclePubkey
  require (storedNonce < nonce) .invalidNonce

/-- The signed message is the lease id alone, for both kinds of report. -/
def verifyEd25519Signature (env : Env) (oraclePubkey : BytesN 32) (leaseId : LeaseId)
    (signature : BytesN 64) : Contract Unit :=
  demand (env.ed25519Verify oraclePubkey leaseId.toBeBytes signature = true)
    "HostError: Error(Crypto, InvalidInput)"

/-- `execute_deposit_slash_inner` up to and including its signature check. -/
def verifySlashReport (env : Env) (payload : OraclePayload) : Contract Unit := do
  admitOracle env payload
  requireFreshNonce payload.oraclePubkey payload.nonce
  require (payload.timestamp ≤ env.timestamp ∧ env.timestamp - payload.timestamp ≤ 86400)
    .invalidSignature
  verifyEd25519Signature env payload.oraclePubkey payload.leaseId payload.signature

/-- `update_asset_condition_metadata` up to and including its signature check.  The
availability it computes is not looked at. -/
def verifyConditionReport (env : Env) (payload : AssetConditionMetadataPayload) :
    Contract Unit := do
  let limited ← inspect fun world =>
    world.assets.oracleRateLimit (payload.oraclePubkey, env.timestamp / 3600)
  require (limited = false) .oracleStale
  stalenessCheck env payload.timestamp
  let whitelisted ← isOracleWhitelisted payload.oraclePubkey
  require (whitelisted = true) .oracleNotWhitelisted
  let _available ← checkOracleAvailability env payload.oraclePubkey
  requireFreshNonce payload.oraclePubkey payload.nonce
  verifyEd25519Signature env payload.oraclePubkey payload.leaseId payload.signature

/-- An accepted slash report counts as a success of its oracle and reinstates it. -/
def recordOracleSuccess (env : Env) (oraclePubkey : BytesN 32) : Contract Unit := do
  let found ← getOracleConfig oraclePubkey
  match found with
  | none => pure ()
  | some config =>
      if config.status = .demoted ∧ config.failureCount < maxOracleFailures then
        setOracleConfig oraclePubkey { config with
          lastSuccessfulTimestamp := env.timestamp
          status := .active
          failureCount := 0
          demotionTimestamp := none }
      else
        setOracleConfig oraclePubkey { config with lastSuccessfulTimestamp := env.timestamp }

/-! ## The signed message -/

theorem LeaseId.toBeBytes_injective : Function.Injective LeaseId.toBeBytes := by
  intro left right same
  have bytes := List.map_inj_left.mp same
  refine UInt64.toNat_inj.mp (BoundedArithmetic.eq_of_digits (show left.toNat < 256 ^ 8 from left.toNat_lt)
    (show right.toNat < 256 ^ 8 from right.toNat_lt) fun place within => ?_)
  have byte := congrArg UInt8.toNat (bytes place (by simp; omega))
  simpa using byte

/-! ## Footprints -/

section Footprints

variable {parts : List Part} {env : Env}

@[simp] theorem writes_updateOracle (may : .oracle ∈ parts) (change : OracleStore → OracleStore) :
    Writes parts (updateOracle change) := by
  refine writes_modify fun state part aside => ?_
  cases part <;> first | rfl | exact absurd may aside

@[simp] theorem writes_setOracleConfig (may : .oracle ∈ parts) (oraclePubkey : BytesN 32)
    (config : OracleConfig) : Writes parts (setOracleConfig oraclePubkey config) :=
  writes_updateOracle may _

@[simp] theorem writes_saveFallbackHierarchy (may : .oracle ∈ parts)
    (hierarchy : FallbackHierarchy) : Writes parts (saveFallbackHierarchy hierarchy) :=
  writes_updateOracle may _

@[simp] theorem writes_setOracleNonce (may : .oracle ∈ parts) (oraclePubkey : BytesN 32)
    (nonce : U64) : Writes parts (setOracleNonce oraclePubkey nonce) :=
  writes_updateOracle may _

@[simp] theorem writes_isOracleWhitelisted (oraclePubkey : BytesN 32) :
    Writes parts (isOracleWhitelisted oraclePubkey) :=
  writes_inspect _

@[simp] theorem writes_getOracleConfig (oraclePubkey : BytesN 32) :
    Writes parts (getOracleConfig oraclePubkey) :=
  writes_inspect _

@[simp] theorem writes_getFallbackHierarchy : Writes parts getFallbackHierarchy :=
  writes_inspect _

@[simp] theorem writes_whitelistOracle (may : .oracle ∈ parts) (admin : Address)
    (oraclePubkey : BytesN 32) : Writes parts (whitelistOracle env admin oraclePubkey) := by
  simp [whitelistOracle, may]

@[simp] theorem writes_removeOracle (may : .oracle ∈ parts) (admin : Address)
    (oraclePubkey : BytesN 32) : Writes parts (removeOracle env admin oraclePubkey) := by
  simp [removeOracle, may]

@[simp] theorem writes_setFallbackHierarchy (may : .oracle ∈ parts) (admin : Address)
    (primaryOracle backupOracle : BytesN 32) (daoArbitrationEnabled : Bool) :
    Writes parts (setFallbackHierarchy env admin primaryOracle backupOracle
      daoArbitrationEnabled) := by
  unfold setFallbackHierarchy
  repeat refine writes_bind (by simp [may]) fun _ => ?_
  simp [may]

@[simp] theorem writes_resetOracleStatus (may : .oracle ∈ parts) (admin : Address)
    (oraclePubkey : BytesN 32) : Writes parts (resetOracleStatus env admin oraclePubkey) := by
  unfold resetOracleStatus
  repeat refine writes_bind (by simp) fun _ => ?_
  simp [may]

@[simp] theorem writes_stalenessCheck (payloadTimestamp : U64) :
    Writes parts (stalenessCheck env payloadTimestamp) := by
  simp [stalenessCheck]

@[simp] theorem writes_demoteOracle (may : [.oracle, .events] ⊆ parts) (oraclePubkey : BytesN 32)
    (reason : String) : Writes parts (demoteOracle env oraclePubkey reason) := by
  refine Writes.mono ?_ may
  unfold demoteOracle
  iterate 2 refine writes_bind (by simp) fun _ => ?_
  refine writes_ite _ (writes_pure ()) ?_
  repeat refine writes_bind (by simp) fun _ => ?_
  simp

@[simp] theorem writes_activateFallbackHierarchy (may : [.oracle, .events] ⊆ parts)
    (reason : String) : Writes parts (activateFallbackHierarchy env reason) := by
  refine Writes.mono ?_ may
  unfold activateFallbackHierarchy
  iterate 2 refine writes_bind (by simp) fun _ => ?_
  refine writes_ite _ (writes_pure ()) ?_
  exact writes_bind (by simp) fun _ => by simp

@[simp] theorem writes_triggerDaoArbitration (may : [.leases, .events] ⊆ parts)
    (leaseId : LeaseId) (reason : String) :
    Writes parts (triggerDaoArbitration env leaseId reason) := by
  refine Writes.mono ?_ may
  unfold triggerDaoArbitration
  repeat refine writes_bind (by simp) fun _ => ?_
  simp

@[simp] theorem writes_checkOracleAvailability (oraclePubkey : BytesN 32) :
    Writes parts (checkOracleAvailability env oraclePubkey) := by
  unfold checkOracleAvailability
  repeat refine writes_bind (by simp) fun _ => ?_
  simp

@[simp] theorem writes_oracleAvailable (oraclePubkey : BytesN 32) :
    Writes parts (oracleAvailable env oraclePubkey) :=
  writes_bind (by simp) fun _ => writes_ite _ (by simp) (by simp)

@[simp] theorem writes_refuseUnavailableOracle (may : [.oracle, .leases, .events] ⊆ parts)
    (payload : OraclePayload) (hierarchy : Option FallbackHierarchy) :
    Writes parts (refuseUnavailableOracle env payload hierarchy) := by
  refine Writes.mono ?_ may
  cases hierarchy with
  | none => exact writes_throw _
  | some config =>
      refine writes_ite _ ?_ (writes_ite _ (writes_ite _ ?_ ?_) (writes_throw _))
      · exact writes_bind (by simp) fun _ => writes_bind (by simp) fun _ => writes_throw _
      · exact writes_bind (by simp) fun _ => writes_throw _
      · exact writes_bind (by simp) fun _ => writes_throw _

@[simp] theorem writes_requireFreshNonce (oraclePubkey : BytesN 32) (nonce : U64) :
    Writes parts (requireFreshNonce oraclePubkey nonce) :=
  writes_bind (writes_inspect _) fun _ => writes_require _ _

@[simp] theorem writes_verifyEd25519Signature (oraclePubkey : BytesN 32) (leaseId : LeaseId)
    (signature : BytesN 64) :
    Writes parts (verifyEd25519Signature env oraclePubkey leaseId signature) :=
  writes_demand _ _

@[simp] theorem writes_verifySlashReport (may : [.oracle, .leases, .events] ⊆ parts)
    (payload : OraclePayload) : Writes parts (verifySlashReport env payload) := by
  have admitted : Writes parts (admitOracle env payload) := by
    unfold admitOracle refuseBypass
    iterate 3 refine writes_bind (by simp) fun _ => ?_
    exact writes_ite _ (by simp) (writes_refuseUnavailableOracle may _ _)
  refine writes_bind admitted fun _ => ?_
  repeat refine writes_bind (by simp) fun _ => ?_
  simp

@[simp] theorem writes_verifyConditionReport (payload : AssetConditionMetadataPayload) :
    Writes parts (verifyConditionReport env payload) := by
  unfold verifyConditionReport
  repeat refine writes_bind (by simp) fun _ => ?_
  simp

@[simp] theorem writes_recordOracleSuccess (may : .oracle ∈ parts) (oraclePubkey : BytesN 32) :
    Writes parts (recordOracleSuccess env oraclePubkey) := by
  refine writes_bind (by simp) fun found => ?_
  cases found with
  | none => exact writes_pure ()
  | some config => exact writes_ite _ (by simp [may]) (by simp [may])

end Footprints

/-! ## Commits of the registry operations -/

section Registry

variable {world after : World} {env : Env}

@[simp] theorem commits_updateOracle (change : OracleStore → OracleStore) (result : Unit) :
    Commits (updateOracle change) world result after ↔
      after = { world with oracle := change world.oracle } :=
  commits_modify _ result

@[simp] theorem commits_stalenessCheck (payloadTimestamp : U64) (result : Unit) :
    Commits (stalenessCheck env payloadTimestamp) world result after ↔
      (payloadTimestamp ≤ env.timestamp ∧
        env.timestamp - payloadTimestamp ≤ stalenessThreshold) ∧ after = world := by
  simp [stalenessCheck, and_assoc]

@[simp] theorem commits_requireFreshNonce (oraclePubkey : BytesN 32) (nonce : U64)
    (result : Unit) :
    Commits (requireFreshNonce oraclePubkey nonce) world result after ↔
      world.oracle.nonceOf oraclePubkey < nonce ∧ after = world := by
  simp [requireFreshNonce, getOracleNonce, and_comm]

@[simp] theorem commits_verifyEd25519Signature (oraclePubkey : BytesN 32) (leaseId : LeaseId)
    (signature : BytesN 64) (result : Unit) :
    Commits (verifyEd25519Signature env oraclePubkey leaseId signature) world result after ↔
      env.ed25519Verify oraclePubkey leaseId.toBeBytes signature = true ∧ after = world :=
  commits_demand _ _ result

@[simp] theorem commits_checkOracleAvailability (oraclePubkey : BytesN 32) (result : Bool) :
    Commits (checkOracleAvailability env oraclePubkey) world result after ↔
      (∃ config, world.oracle.oracleConfig oraclePubkey = some config ∧
        result = config.isAvailable env.timestamp) ∧ after = world := by
  simp [checkOracleAvailability, getOracleConfig, eq_comm, and_comm, and_assoc]

theorem not_commits_refuseUnavailableOracle (payload : OraclePayload)
    (hierarchy : Option FallbackHierarchy) (result : Unit) :
    ¬ Commits (refuseUnavailableOracle env payload hierarchy) world result after := by
  unfold refuseUnavailableOracle
  cases hierarchy with
  | none => simp
  | some config => simp

/-- An oracle is admitted when its report is fresh, it is whitelisted and available,
and it is not bypassing an active hierarchy. -/
structure OracleStore.Admits (oracle : OracleStore) (now : U64) (payload : OraclePayload) :
    Prop where
  past : payload.timestamp ≤ now
  fresh : now - payload.timestamp ≤ stalenessThreshold
  whitelisted : oracle.whitelistedOracle payload.oraclePubkey = true
  available : ∃ config, oracle.oracleConfig payload.oraclePubkey = some config ∧
    config.isAvailable now = true
  entitled : ∀ hierarchy ∈ oracle.fallbackHierarchy, hierarchy.hierarchyActive = true →
    payload.oraclePubkey = hierarchy.backupOracle

theorem commits_admitOracle (payload : OraclePayload) (result : Unit) :
    Commits (admitOracle env payload) world result after ↔
      world.oracle.Admits env.timestamp payload ∧ after = world := by
  have refused (hierarchy : Option FallbackHierarchy) :
      ¬ Commits (refuseUnavailableOracle env payload hierarchy) world result after :=
    not_commits_refuseUnavailableOracle payload hierarchy result
  constructor
  · intro run
    simp only [admitOracle, getFallbackHierarchy, oracleAvailable, isOracleWhitelisted,
      refuseBypass, commits_bind, commits_stalenessCheck, commits_inspect, commits_ite,
      commits_checkOracleAvailability, commits_pure, commits_require] at run
    obtain ⟨_, _, ⟨⟨past, fresh⟩, rfl⟩, _, _, ⟨rfl, rfl⟩, available, _,
      ⟨_, _, ⟨rfl, rfl⟩, availability⟩, decided⟩ := run
    split at availability
    · next whitelisted =>
        obtain ⟨⟨config, found, rfl⟩, rfl⟩ := availability
        split at decided
        · next up => exact ⟨⟨past, fresh, whitelisted, ⟨config, found, up⟩, decided.1⟩, decided.2⟩
        · exact absurd decided (refused _)
    · obtain ⟨rfl, rfl⟩ := availability
      exact absurd (by simpa using decided) (refused _)
  · rintro ⟨⟨past, fresh, whitelisted, ⟨config, found, up⟩, entitled⟩, rfl⟩
    simp only [admitOracle, getFallbackHierarchy, oracleAvailable, isOracleWhitelisted,
      refuseBypass, commits_bind, commits_stalenessCheck, commits_inspect, commits_ite,
      commits_checkOracleAvailability, commits_pure, commits_require]
    refine ⟨(), after, ⟨⟨past, fresh⟩, rfl⟩, _, after, ⟨rfl, rfl⟩, true, after,
      ⟨_, after, ⟨rfl, rfl⟩, ?_⟩, ?_⟩
    · rw [if_pos whitelisted]
      exact ⟨⟨config, found, up.symm⟩, rfl⟩
    · rw [if_pos rfl]
      exact ⟨entitled, rfl⟩

/-- The slash gate only reads. -/
theorem commits_verifySlashReport (payload : OraclePayload) (result : Unit) :
    Commits (verifySlashReport env payload) world result after ↔
      (world.oracle.Admits env.timestamp payload ∧
        world.oracle.nonceOf payload.oraclePubkey < payload.nonce ∧
        env.timestamp - payload.timestamp ≤ 86400 ∧
        env.ed25519Verify payload.oraclePubkey payload.leaseId.toBeBytes payload.signature
          = true) ∧ after = world := by
  simp only [verifySlashReport, commits_bind, commits_admitOracle, commits_requireFreshNonce,
    commits_require, commits_verifyEd25519Signature]
  constructor
  · rintro ⟨_, _, ⟨admits, rfl⟩, _, _, ⟨fresh, rfl⟩, _, _, ⟨recent, rfl⟩, signed, same⟩
    exact ⟨⟨admits, fresh, recent.2, signed⟩, same⟩
  · rintro ⟨⟨admits, fresh, recent, signed⟩, rfl⟩
    exact ⟨(), after, ⟨admits, rfl⟩, (), after, ⟨fresh, rfl⟩, (), after,
      ⟨⟨admits.past, recent⟩, rfl⟩, signed, rfl⟩

theorem commits_verifyConditionReport (payload : AssetConditionMetadataPayload)
    (result : Unit) :
    Commits (verifyConditionReport env payload) world result after ↔
      (world.assets.oracleRateLimit (payload.oraclePubkey, env.timestamp / 3600) = false ∧
        payload.timestamp ≤ env.timestamp ∧
        env.timestamp - payload.timestamp ≤ stalenessThreshold ∧
        world.oracle.whitelistedOracle payload.oraclePubkey = true ∧
        (∃ config, world.oracle.oracleConfig payload.oraclePubkey = some config) ∧
        world.oracle.nonceOf payload.oraclePubkey < payload.nonce ∧
        env.ed25519Verify payload.oraclePubkey payload.leaseId.toBeBytes payload.signature
          = true) ∧ after = world := by
  simp only [verifyConditionReport, isOracleWhitelisted, commits_bind, commits_inspect,
    commits_require, commits_stalenessCheck, commits_checkOracleAvailability,
    commits_requireFreshNonce, commits_verifyEd25519Signature]
  constructor
  · rintro ⟨_, _, ⟨rfl, rfl⟩, _, _, ⟨unlimited, rfl⟩, _, _, ⟨⟨past, fresh⟩, rfl⟩, _, _,
      ⟨rfl, rfl⟩, _, _, ⟨whitelisted, rfl⟩, _, _, ⟨⟨config, found, _⟩, rfl⟩, _, _,
      ⟨newer, rfl⟩, signed, same⟩
    exact ⟨⟨unlimited, past, fresh, whitelisted, ⟨config, found⟩, newer, signed⟩, same⟩
  · rintro ⟨⟨unlimited, past, fresh, whitelisted, ⟨config, found⟩, newer, signed⟩, rfl⟩
    exact ⟨_, after, ⟨rfl, rfl⟩, (), after, ⟨unlimited, rfl⟩, (), after,
      ⟨⟨past, fresh⟩, rfl⟩, _, after, ⟨rfl, rfl⟩, (), after, ⟨whitelisted, rfl⟩, _, after,
      ⟨⟨config, found, rfl⟩, rfl⟩, (), after, ⟨newer, rfl⟩, signed, rfl⟩

/-! ## Effect on the escrow -/

/-- No oracle is demoted or failed, and the fallback hierarchy is at rest. -/
structure OracleStore.Calm (oracle : OracleStore) : Prop where
  active : ∀ oraclePubkey config, oracle.oracleConfig oraclePubkey = some config →
    config.status = .active
  resting : ∀ hierarchy, oracle.fallbackHierarchy = some hierarchy →
    hierarchy.hierarchyActive = false

/-- A registry write that accepts no report and disturbs no calm registry. -/
structure OracleStore.Administered (before after : OracleStore) : Prop where
  nonces : after.oracleNonce = before.oracleNonce
  calm : before.Calm → after.Calm

def Escrow.withOracle (oracle : OracleStore) (escrow : Escrow) : Escrow :=
  { escrow with oracle := oracle }

theorem OracleStore.Calm.configure {oracle : OracleStore} {oraclePubkey : BytesN 32}
    {config : OracleConfig} (calm : oracle.Calm) (up : config.status = .active) :
    OracleStore.Calm { oracle with
      oracleConfig := Function.update oracle.oracleConfig oraclePubkey (some config) } where
  active := by
    intro other stored found
    dsimp only at found
    rcases eq_or_ne other oraclePubkey with rfl | differs
    · rw [Function.update_self, Option.some.injEq] at found
      exact found ▸ up
    · rw [Function.update_of_ne differs] at found
      exact calm.active other stored found
  resting := calm.resting

theorem whitelistOracle_commits {admin : Address} {oraclePubkey : BytesN 32} {result : Unit}
    (run : Commits (whitelistOracle env admin oraclePubkey) world result after) :
    ∃ oracle, after.toEscrow = world.toEscrow.withOracle oracle ∧
      world.oracle.Administered oracle := by
  simp only [whitelistOracle, commits_bind, commits_requireStoredAdmin,
    commits_updateOracle] at run
  obtain ⟨_, _, ⟨_, _, rfl⟩, rfl⟩ := run
  exact ⟨_, rfl, rfl, fun calm => ⟨calm.active, calm.resting⟩⟩

theorem removeOracle_commits {admin : Address} {oraclePubkey : BytesN 32} {result : Unit}
    (run : Commits (removeOracle env admin oraclePubkey) world result after) :
    ∃ oracle, after.toEscrow = world.toEscrow.withOracle oracle ∧
      world.oracle.Administered oracle := by
  simp only [removeOracle, commits_bind, commits_requireStoredAdmin,
    commits_updateOracle] at run
  obtain ⟨_, _, ⟨_, _, rfl⟩, rfl⟩ := run
  exact ⟨_, rfl, rfl, fun calm => ⟨calm.active, calm.resting⟩⟩

theorem setFallbackHierarchy_commits {admin : Address} {primaryOracle backupOracle : BytesN 32}
    {daoArbitrationEnabled : Bool} {result : Unit}
    (run : Commits (setFallbackHierarchy env admin primaryOracle backupOracle
      daoArbitrationEnabled) world result after) :
    ∃ oracle, after.toEscrow = world.toEscrow.withOracle oracle ∧
      world.oracle.Administered oracle := by
  simp only [setFallbackHierarchy, isOracleWhitelisted, setOracleConfig, saveFallbackHierarchy,
    commits_bind, commits_requireStoredAdmin, commits_inspect, commits_require,
    commits_updateOracle] at run
  obtain ⟨_, _, ⟨_, _, rfl⟩, _, _, ⟨rfl, rfl⟩, _, _, ⟨_, rfl⟩, _, _, ⟨rfl, rfl⟩, _, _, ⟨_, rfl⟩,
    _, _, ⟨_, rfl⟩, _, _, rfl, _, _, rfl, rfl⟩ := run
  refine ⟨_, rfl, rfl, fun calm => ⟨?_, ?_⟩⟩
  · have primaryUp : (installedConfig env primaryOracle .primary).status = .active := rfl
    have backupUp : (installedConfig env backupOracle .backup).status = .active := rfl
    exact ((calm.configure primaryUp).configure backupUp).active
  · rintro hierarchy installed
    cases installed
    rfl

theorem resetOracleStatus_commits {admin : Address} {oraclePubkey : BytesN 32} {result : Unit}
    (run : Commits (resetOracleStatus env admin oraclePubkey) world result after) :
    ∃ oracle, after.toEscrow = world.toEscrow.withOracle oracle ∧
      world.oracle.Administered oracle := by
  simp only [resetOracleStatus, getOracleConfig, setOracleConfig, commits_bind,
    commits_requireStoredAdmin, commits_inspect, commits_okOr, commits_updateOracle] at run
  obtain ⟨_, _, ⟨_, _, rfl⟩, _, _, ⟨rfl, rfl⟩, _, _, ⟨_, rfl⟩, rfl⟩ := run
  exact ⟨_, rfl, rfl, fun calm => calm.configure rfl⟩

theorem recordOracleSuccess_commits {oraclePubkey : BytesN 32} {result : Unit}
    (run : Commits (recordOracleSuccess env oraclePubkey) world result after) :
    ∃ oracle, after.toEscrow = world.toEscrow.withOracle oracle ∧
      world.oracle.Administered oracle := by
  simp only [recordOracleSuccess, getOracleConfig, setOracleConfig, commits_bind,
    commits_inspect] at run
  obtain ⟨found, start, ⟨rfl, rfl⟩, run⟩ := run
  split at run
  · simp only [commits_pure] at run
    exact ⟨start.oracle, by rw [run.2]; rfl, rfl, id⟩
  · next config stored =>
      simp only [commits_ite, commits_updateOracle] at run
      split at run
      · subst run
        exact ⟨_, rfl, rfl, fun calm => calm.configure rfl⟩
      · subst run
        exact ⟨_, rfl, rfl, fun calm => calm.configure (calm.active _ config stored)⟩

theorem exists_commits_recordOracleSuccess {oraclePubkey : BytesN 32} :
    ∃ after, Commits (recordOracleSuccess env oraclePubkey) world () after := by
  cases stored : world.oracle.oracleConfig oraclePubkey with
  | none => simp [recordOracleSuccess, getOracleConfig, stored]
  | some config =>
      by_cases reinstated : config.status = .demoted ∧ config.failureCount < maxOracleFailures
      · simp [recordOracleSuccess, getOracleConfig, setOracleConfig, stored, reinstated]
      · simp [recordOracleSuccess, getOracleConfig, setOracleConfig, stored, reinstated]

theorem setOracleNonce_escrow {oraclePubkey : BytesN 32} {nonce : U64} {result : Unit}
    (run : Commits (setOracleNonce oraclePubkey nonce) world result after) :
    after.toEscrow = world.toEscrow.withOracle { world.oracle with
      oracleNonce := Function.update world.oracle.oracleNonce oraclePubkey (some nonce) } := by
  rw [(commits_updateOracle _ result).mp run]
  rfl

end Registry

end LeaseFlow
