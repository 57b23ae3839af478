import LeaseFlow.Escrow.Effect

/-!
# What an oracle's signature covers

Both report gates verify the signature against the lease id alone.  Two reports of
one lease with one signature are therefore accepted by the same store, whatever else
they say.
-/

set_option autoImplicit false

namespace LeaseFlow

open Transaction

abbrev SignatureScheme := BytesN 32 → List UInt8 → BytesN 64 → Bool

/-- Unforgeability as the gates rely on it: under a key, a signature verifies only for
the one message its holder signed with it. -/
def SignatureScheme.Unforgeable (scheme : SignatureScheme) : Prop :=
  ∀ oraclePubkey signature left right, scheme oraclePubkey left signature = true →
    scheme oraclePubkey right signature = true → left = right

/-- The fields of a slash report that decide what it does. -/
structure OraclePayload.SameReport (left right : OraclePayload) : Prop where
  leaseId : left.leaseId = right.leaseId
  damageSeverity : left.damageSeverity = right.damageSeverity
  nonce : left.nonce = right.nonce
  timestamp : left.timestamp = right.timestamp

structure AssetConditionMetadataPayload.SameReport
    (left right : AssetConditionMetadataPayload) : Prop where
  leaseId : left.leaseId = right.leaseId
  assetCondition : left.assetCondition = right.assetCondition
  nonce : left.nonce = right.nonce
  timestamp : left.timestamp = right.timestamp

/-! ## A store that listens to an oracle -/

/-- A reachable store that has accepted no report of a registered oracle yet. -/
structure World.Listens (world : World) (oraclePubkey : BytesN 32) : Prop where
  reachable : Reachable world
  whitelisted : world.oracle.whitelistedOracle oraclePubkey = true
  configured : ∃ config, world.oracle.oracleConfig oraclePubkey = some config ∧
    config.status = .active
  unheard : world.oracle.nonceOf oraclePubkey = 0
  unlimited : ∀ slot, world.assets.oracleRateLimit slot = false

/-- The calls with which admin 1 installs a primary and a backup oracle. -/
def installation (primaryOracle backupOracle : BytesN 32) : List Invocation :=
  [callAt 0 (.whitelistOracle ⟨1⟩ primaryOracle), callAt 0 (.whitelistOracle ⟨1⟩ backupOracle),
    callAt 0 (.setFallbackHierarchy ⟨1⟩ primaryOracle backupOracle true)]

def administeredWorld (securityCouncil : Option SecurityCouncil) : World :=
  World.genesis { openSettings with admin := some ⟨1⟩ } openBilling securityCouncil

section Installation

variable {world : World} {oraclePubkey backupOracle : BytesN 32}

theorem step_whitelistOracle (administered : world.config.admin = some ⟨1⟩) :
    step (callAt 0 (.whitelistOracle ⟨1⟩ oraclePubkey)) world = { world with
      oracle := { world.oracle with
        whitelistedOracle := Function.update world.oracle.whitelistedOracle oraclePubkey true } } :=
  step_of_commits <| by
    simp [Invocation.body, dispatch, callAt, whitelistOracle, administered, openLedger]

theorem step_setFallbackHierarchy (administered : world.config.admin = some ⟨1⟩)
    (primaryKnown : world.oracle.whitelistedOracle oraclePubkey = true)
    (backupKnown : world.oracle.whitelistedOracle backupOracle = true)
    (differs : oraclePubkey ≠ backupOracle) :
    step (callAt 0 (.setFallbackHierarchy ⟨1⟩ oraclePubkey backupOracle true)) world = { world with
      oracle := { world.oracle with
        oracleConfig := Function.update (Function.update world.oracle.oracleConfig oraclePubkey
            (some (installedConfig (openLedger 0 0) oraclePubkey .primary))) backupOracle
          (some (installedConfig (openLedger 0 0) backupOracle .backup))
        fallbackHierarchy := some ⟨oraclePubkey, backupOracle, true, false, none⟩ } } :=
  step_of_commits <| by
    simp [Invocation.body, dispatch, callAt, setFallbackHierarchy, isOracleWhitelisted,
      setOracleConfig, saveFallbackHierarchy, administered, primaryKnown, backupKnown, differs,
      openLedger]

theorem installation_listens (securityCouncil : Option SecurityCouncil)
    (differs : oraclePubkey ≠ backupOracle) :
    (Run.run step (installation oraclePubkey backupOracle)
      (administeredWorld securityCouncil)).Listens oraclePubkey := by
  refine ⟨⟨_, _, _, _, rfl⟩, ?_, ?_, ?_, ?_⟩ <;>
    simp [installation, Run.run, step_whitelistOracle, step_setFallbackHierarchy,
      administeredWorld, World.genesis, differs, OracleStore.nonceOf, installedConfig]

theorem exists_listens (oraclePubkey : BytesN 32) : ∃ world : World, world.Listens oraclePubkey := by
  by_cases zero : oraclePubkey = .repeated 32 0
  · have differs : oraclePubkey ≠ .repeated 32 1 := zero ▸ by decide
    exact ⟨_, installation_listens none differs⟩
  · exact ⟨_, installation_listens none zero⟩

end Installation

/-- A ledger at a report's own time, with the given signature scheme. -/
def signedLedger (scheme : SignatureScheme) (timestamp : U64) : Env :=
  { openLedger timestamp 0 with ed25519Verify := scheme }

/-! ## The two gates -/

/-- A gate that signed reports pass: it takes a report only with a fresh nonce and a
signature of the lease id, and a store that listens to the oracle takes every such report. -/
structure ReportGate (Report : Type) where
  oraclePubkey : Report → BytesN 32
  leaseId : Report → LeaseId
  nonce : Report → U64
  signature : Report → BytesN 64
  Same : Report → Report → Prop
  verify : Env → Report → Contract Unit
  sound : ∀ {world env report}, Commits (verify env report) world () world →
    world.oracle.nonceOf (oraclePubkey report) < nonce report ∧
      env.ed25519Verify (oraclePubkey report) (leaseId report).toBeBytes (signature report) = true
  complete : ∀ {world scheme report}, world.Listens (oraclePubkey report) → nonce report ≠ 0 →
    scheme (oraclePubkey report) (leaseId report).toBeBytes (signature report) = true →
    ∃ env, env.ed25519Verify = scheme ∧ Commits (verify env report) world () world

section Gates

variable {scheme : SignatureScheme} {world : World}

theorem World.Listens.accepts_slash {payload : OraclePayload}
    (listens : world.Listens payload.oraclePubkey) (fresh : payload.nonce ≠ 0)
    (signed : scheme payload.oraclePubkey payload.leaseId.toBeBytes payload.signature = true) :
    Commits (verifySlashReport (signedLedger scheme payload.timestamp) payload) world () world := by
  obtain ⟨config, configured, up⟩ := listens.configured
  refine (commits_verifySlashReport payload ()).mpr ⟨⟨⟨le_rfl, by simp [signedLedger, openLedger],
    listens.whitelisted, ⟨config, configured, by simp [OracleConfig.isAvailable, up]⟩, ?_⟩, ?_,
    by simp [signedLedger, openLedger], signed⟩, rfl⟩
  · intro hierarchy installed active
    have resting := listens.reachable.safeguards.calm.resting hierarchy installed
    rw [active] at resting
    cases resting
  · rw [listens.unheard]
    exact Nat.pos_of_ne_zero fresh

theorem World.Listens.accepts_condition {payload : AssetConditionMetadataPayload}
    (listens : world.Listens payload.oraclePubkey) (fresh : payload.nonce ≠ 0)
    (signed : scheme payload.oraclePubkey payload.leaseId.toBeBytes payload.signature = true) :
    Commits (verifyConditionReport (signedLedger scheme payload.timestamp) payload) world ()
      world := by
  obtain ⟨config, configured, _⟩ := listens.configured
  refine (commits_verifyConditionReport payload ()).mpr ⟨⟨listens.unlimited _, le_rfl,
    by simp [signedLedger, openLedger], listens.whitelisted, ⟨config, configured⟩, ?_, signed⟩,
    rfl⟩
  rw [listens.unheard]
  exact Nat.pos_of_ne_zero fresh

end Gates

/-- The gate of `execute_deposit_slash`. -/
def slashGate : ReportGate OraclePayload where
  oraclePubkey := OraclePayload.oraclePubkey
  leaseId := OraclePayload.leaseId
  nonce := OraclePayload.nonce
  signature := OraclePayload.signature
  Same := OraclePayload.SameReport
  verify := verifySlashReport
  sound {_ _ payload} run := by
    obtain ⟨⟨_, fresh, _, signed⟩, _⟩ := (commits_verifySlashReport payload ()).mp run
    exact ⟨fresh, signed⟩
  complete listens fresh signed := ⟨_, rfl, listens.accepts_slash fresh signed⟩

/-- The gate of `update_asset_condition_metadata`. -/
def conditionGate : ReportGate AssetConditionMetadataPayload where
  oraclePubkey := AssetConditionMetadataPayload.oraclePubkey
  leaseId := AssetConditionMetadataPayload.leaseId
  nonce := AssetConditionMetadataPayload.nonce
  signature := AssetConditionMetadataPayload.signature
  Same := AssetConditionMetadataPayload.SameReport
  verify := verifyConditionReport
  sound {_ _ payload} run := by
    obtain ⟨⟨_, _, _, _, _, fresh, signed⟩, _⟩ := (commits_verifyConditionReport payload ()).mp run
    exact ⟨fresh, signed⟩
  complete listens fresh signed := ⟨_, rfl, listens.accepts_condition fresh signed⟩

/-! ## When a signature authenticates a report -/

namespace ReportGate

variable {Report : Type} {scheme : SignatureScheme}

/-- A reachable store that accepts both reports, each at some time, accepts one report. -/
def Authenticates (gate : ReportGate Report) (scheme : SignatureScheme) (left right : Report) :
    Prop :=
  ∀ world env later, Reachable world → env.ed25519Verify = scheme →
    later.ed25519Verify = scheme → Commits (gate.verify env left) world () world →
    Commits (gate.verify later right) world () world → gate.Same left right

/-- What keeps a store from accepting both reports under one signature. -/
inductive Irreconcilable (gate : ReportGate Report) (scheme : SignatureScheme)
    (left right : Report) : Prop where
  | otherLease (differs : gate.leaseId left ≠ gate.leaseId right)
  | unsigned (rejected : scheme (gate.oraclePubkey left) (gate.leaseId left).toBeBytes
      (gate.signature left) = false)
  | leftStale (zero : gate.nonce left = 0)
  | rightStale (zero : gate.nonce right = 0)

variable {gate : ReportGate Report} {left right : Report}

theorem Irreconcilable.not_both_accepted {stored : U64}
    (irreconcilable : gate.Irreconcilable scheme left right) (unforgeable : scheme.Unforgeable)
    (leftFresh : stored < gate.nonce left) (rightFresh : stored < gate.nonce right)
    (leftSigned : scheme (gate.oraclePubkey left) (gate.leaseId left).toBeBytes
      (gate.signature left) = true)
    (rightSigned : scheme (gate.oraclePubkey left) (gate.leaseId right).toBeBytes
      (gate.signature left) = true) : False := by
  cases irreconcilable with
  | otherLease differs =>
      exact differs (LeaseId.toBeBytes_injective
        (unforgeable _ _ _ _ leftSigned rightSigned))
  | unsigned rejected => cases leftSigned.symm.trans rejected
  | leftStale zero => exact Nat.not_lt_zero stored (zero ▸ leftFresh)
  | rightStale zero => exact Nat.not_lt_zero stored (zero ▸ rightFresh)

theorem reconcilable_of_not (reconcilable : ¬ gate.Irreconcilable scheme left right) :
    gate.leaseId left = gate.leaseId right ∧
      scheme (gate.oraclePubkey left) (gate.leaseId left).toBeBytes (gate.signature left) = true ∧
      gate.nonce left ≠ 0 ∧ gate.nonce right ≠ 0 := by
  refine ⟨?_, ?_, fun zero => ?_, fun zero => ?_⟩
  · by_contra differs
    exact reconcilable (.otherLease differs)
  · by_contra rejected
    exact reconcilable (.unsigned (Bool.not_eq_true _ ▸ rejected))
  · exact reconcilable (.leftStale zero)
  · exact reconcilable (.rightStale zero)

/-- A gate tells two reports under one signature apart only when they are the same report,
or when one of them cannot be accepted at all. -/
theorem authenticates_iff (unforgeable : scheme.Unforgeable)
    (reporter : gate.oraclePubkey left = gate.oraclePubkey right)
    (signature : gate.signature left = gate.signature right) :
    gate.Authenticates scheme left right ↔
      gate.Same left right ∨ gate.Irreconcilable scheme left right := by
  constructor
  · intro authenticates
    by_contra apart
    obtain ⟨differs, reconcilable⟩ := not_or.mp apart
    obtain ⟨sameLease, signed, leftFresh, rightFresh⟩ := reconcilable_of_not reconcilable
    obtain ⟨world, listens⟩ := exists_listens (gate.oraclePubkey left)
    obtain ⟨env, leftScheme, leftRun⟩ := gate.complete listens leftFresh signed
    rw [reporter] at listens
    rw [sameLease, reporter, signature] at signed
    obtain ⟨later, rightScheme, rightRun⟩ := gate.complete listens rightFresh signed
    exact differs (authenticates world env later listens.reachable leftScheme rightScheme leftRun
      rightRun)
  · rintro (same | irreconcilable) world env later _ leftScheme rightScheme leftRun rightRun
    · exact same
    · obtain ⟨leftFresh, leftSigned⟩ := gate.sound leftRun
      obtain ⟨rightFresh, rightSigned⟩ := gate.sound rightRun
      rw [leftScheme] at leftSigned
      rw [rightScheme, ← reporter, ← signature] at rightSigned
      rw [← reporter] at rightFresh
      exact (irreconcilable.not_both_accepted unforgeable leftFresh rightFresh leftSigned
        rightSigned).elim

end ReportGate

/-- At both gates a signature authenticates the lease id of a report and nothing else. -/
theorem reports_authenticated_iff {scheme : SignatureScheme} (unforgeable : scheme.Unforgeable) :
    (∀ left right : OraclePayload, left.oraclePubkey = right.oraclePubkey →
      left.signature = right.signature →
      (slashGate.Authenticates scheme left right ↔
        left.SameReport right ∨ slashGate.Irreconcilable scheme left right)) ∧
    (∀ left right : AssetConditionMetadataPayload, left.oraclePubkey = right.oraclePubkey →
      left.signature = right.signature →
      (conditionGate.Authenticates scheme left right ↔
        left.SameReport right ∨ conditionGate.Irreconcilable scheme left right)) :=
  ⟨fun _ _ reporter signature => ReportGate.authenticates_iff unforgeable reporter signature,
    fun _ _ reporter signature => ReportGate.authenticates_iff unforgeable reporter signature⟩

/-- A signature scheme in which a signature begins with the message it signs. -/
def prefixScheme : SignatureScheme :=
  fun _ message signature => decide (signature.bytes.take 8 = message)

theorem prefixScheme_unforgeable : prefixScheme.Unforgeable := by
  intro _ signature left right leftSigned rightSigned
  exact (of_decide_eq_true leftSigned).symm.trans (of_decide_eq_true rightSigned)

/-- A report about lease 0, with a signature that begins with its id. -/
def sampleReport (damageSeverity : DamageSeverity) (nonce : U64) : OraclePayload where
  leaseId := 0
  oraclePubkey := .repeated 32 1
  damageSeverity := damageSeverity
  nonce := nonce
  timestamp := 100000
  signature := .repeated 64 0

theorem reports_of_two_leases_authenticated :
    slashGate.Authenticates prefixScheme (sampleReport .minor 1)
      { sampleReport .minor 1 with leaseId := 7 } :=
  ((reports_authenticated_iff prefixScheme_unforgeable).1 (sampleReport .minor 1)
    { sampleReport .minor 1 with leaseId := 7 } rfl rfl).mpr
    (.inr (.otherLease (show (0 : LeaseId) ≠ 7 by decide)))

/-- One signature carries a report of minor damage and a catastrophic one. -/
theorem signature_reused_for_another_severity :
    ¬ slashGate.Authenticates prefixScheme (sampleReport .minor 1)
      (sampleReport .catastrophic 2) := by
  intro authenticated
  obtain ⟨world, listens⟩ := exists_listens (.repeated 32 1)
  have minor : Commits (verifySlashReport (signedLedger prefixScheme 100000)
      (sampleReport .minor 1)) world () world := listens.accepts_slash (by decide) (by decide)
  have catastrophic : Commits (verifySlashReport (signedLedger prefixScheme 100000)
      (sampleReport .catastrophic 2)) world () world :=
    listens.accepts_slash (by decide) (by decide)
  have same := authenticated _ _ _ listens.reachable rfl rfl minor catastrophic
  cases same.damageSeverity

end LeaseFlow
