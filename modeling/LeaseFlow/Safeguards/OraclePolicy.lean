import LeaseFlow.Safeguards.Demotion

/-!
# One admission policy for both oracle entry points

`execute_deposit_slash` admits an oracle that is whitelisted, available and not bypassing an
active hierarchy.  `update_asset_condition_metadata` asks for its availability, drops the
answer, and never looks at the hierarchy.
-/

set_option autoImplicit false

namespace LeaseFlow

open Transaction

/-- The policy of `execute_deposit_slash` turns the oracle away, whatever it submits. -/
inductive OracleStore.Excludes (oracle : OracleStore) (now : U64) (oraclePubkey : BytesN 32) :
    Prop where
  | unlisted (unlisted : oracle.whitelistedOracle oraclePubkey = false)
  | unavailable (down : ∀ config, oracle.oracleConfig oraclePubkey = some config →
      config.isAvailable now = false)
  | bypassing {hierarchy : FallbackHierarchy}
      (installed : oracle.fallbackHierarchy = some hierarchy)
      (active : hierarchy.hierarchyActive = true) (other : oraclePubkey ≠ hierarchy.backupOracle)

/-- An oracle that the slash path turns away is turned away by the report path as well, for
every report it could submit at that time. -/
def World.SharesPolicy (now : U64) (oraclePubkey : BytesN 32) (world : World) : Prop :=
  world.oracle.Excludes now oraclePubkey →
    ∀ (env : Env) (payload : AssetConditionMetadataPayload) (assetRegistryAddress : Address),
      env.timestamp = now → payload.oraclePubkey = oraclePubkey → payload.nonce ≤ u64Max →
      ¬ (⟨env, .updateAssetConditionMetadata payload assetRegistryAddress⟩ :
        Invocation).Committed world

/-- The oracle is turned away by the slash path for a reason the report path does not look
at, and nothing else keeps it from reporting. -/
structure World.Overlooks (now : U64) (oraclePubkey : BytesN 32) (world : World) : Prop where
  excluded : world.oracle.Excludes now oraclePubkey
  whitelisted : world.oracle.whitelistedOracle oraclePubkey = true
  configured : world.oracle.oracleConfig oraclePubkey ≠ none
  unlimited : world.assets.oracleRateLimit (oraclePubkey, now / 3600) = false
  room : world.oracle.nonceOf oraclePubkey < u64Max

section Policy

variable {env : Env} {world : World} {oraclePubkey : BytesN 32}

theorem OracleStore.Excludes.not_admits {oracle : OracleStore} {payload : OraclePayload}
    {now : U64} (excluded : oracle.Excludes now payload.oraclePubkey) :
    ¬ oracle.Admits now payload := by
  intro admits
  cases excluded with
  | unlisted unlisted => cases unlisted.symm.trans admits.whitelisted
  | unavailable down =>
      obtain ⟨config, configured, up⟩ := admits.available
      cases (down config configured).symm.trans up
  | bypassing installed active other => exact other (admits.entitled _ installed active)

theorem slash_refused {payload : OraclePayload}
    (excluded : world.oracle.Excludes env.timestamp payload.oraclePubkey) :
    ¬ (⟨env, .executeDepositSlash payload⟩ : Invocation).Committed world := by
  intro committed
  obtain ⟨lease, slashed⟩ := executeDepositSlash_commits committed.commits
  exact excluded.not_admits slashed.admitted

theorem report_committed {payload : AssetConditionMetadataPayload} {assetRegistryAddress : Address}
    (verified : Commits (verifyConditionReport env payload) world () world)
    (accepted : env.contracts.updateAssetMetadata assetRegistryAddress payload.leaseId
      payload.assetCondition.name = true)
    (standing : payload.assetCondition ≠ .destroyed) :
    (⟨env, .updateAssetConditionMetadata payload assetRegistryAddress⟩ : Invocation).Committed
      world := by
  have admitted : ∃ after, Commits (updateAssetConditionMetadata env payload assetRegistryAddress)
      world () after := by
    simp only [updateAssetConditionMetadata, commits_bind, commits_inspect, commits_demand,
      commits_pure, storeAssetCondition, updateAssets, setOracleNonce,
      commits_modify, commits_updateOracle, publish, if_neg standing]
    exact ⟨_, (), world, verified, _, _, ⟨rfl, rfl⟩, (), _, rfl, (), _, rfl, (), _,
      ⟨accepted, rfl⟩, (), _, rfl, trivial, rfl⟩
  obtain ⟨after, run⟩ := admitted
  exact .of_commits run

/-- The report an overlooked oracle gets through. -/
def mintReport (now : U64) (oraclePubkey : BytesN 32) : AssetConditionMetadataPayload where
  leaseId := 0
  oraclePubkey := oraclePubkey
  assetCondition := .mint
  nonce := u64Max
  timestamp := now
  signature := .repeated 64 0

theorem World.Overlooks.reports {now : U64} (overlooks : world.Overlooks now oraclePubkey) :
    (⟨openLedger now 0, .updateAssetConditionMetadata (mintReport now oraclePubkey) ⟨6⟩⟩ :
      Invocation).Committed world := by
  obtain ⟨config, configured⟩ := Option.ne_none_iff_exists'.mp overlooks.configured
  have verified : Commits (verifyConditionReport (openLedger now 0) (mintReport now oraclePubkey))
      world () world :=
    (commits_verifyConditionReport _ _).mpr ⟨⟨overlooks.unlimited, le_rfl,
      by simp [mintReport, openLedger], overlooks.whitelisted, ⟨config, configured⟩,
      overlooks.room, rfl⟩, rfl⟩
  exact report_committed verified rfl (show AssetCondition.mint ≠ .destroyed by decide)

theorem World.Overlooks.of_committed {payload : AssetConditionMetadataPayload}
    {assetRegistryAddress : Address}
    (excluded : world.oracle.Excludes env.timestamp payload.oraclePubkey)
    (bounded : payload.nonce ≤ u64Max)
    (committed : (⟨env, .updateAssetConditionMetadata payload assetRegistryAddress⟩ :
      Invocation).Committed world) : world.Overlooks env.timestamp payload.oraclePubkey := by
  have run : Commits (updateAssetConditionMetadata env payload assetRegistryAddress) world () _ :=
    committed.commits
  simp only [updateAssetConditionMetadata, commits_bind, commits_verifyConditionReport] at run
  obtain ⟨_, _, ⟨⟨unlimited, _, _, whitelisted, ⟨config, configured⟩, fresh, _⟩, rfl⟩, _⟩ := run
  exact ⟨excluded, whitelisted, by simp [configured], unlimited, fresh.trans_le bounded⟩

theorem World.sharesPolicy_iff (world : World) (now : U64) (oraclePubkey : BytesN 32) :
    world.SharesPolicy now oraclePubkey ↔ ¬ world.Overlooks now oraclePubkey := by
  constructor
  · intro shares overlooks
    exact shares overlooks.excluded (openLedger now 0) (mintReport now oraclePubkey) ⟨6⟩ rfl rfl
      le_rfl overlooks.reports
  · rintro attentive excluded env payload assetRegistryAddress rfl rfl bounded committed
    exact attentive (.of_committed excluded bounded committed)

/-- No reachable store overlooks an oracle: none ever records a demotion. -/
theorem Reachable.not_overlooks (reached : Reachable world) (now : U64) :
    ¬ world.Overlooks now oraclePubkey := by
  intro overlooks
  obtain ⟨calm, _, _⟩ := reached.safeguards
  obtain ⟨config, configured⟩ := Option.ne_none_iff_exists'.mp overlooks.configured
  cases overlooks.excluded with
  | unlisted unlisted => cases unlisted.symm.trans overlooks.whitelisted
  | unavailable down =>
      have up := calm.active _ config configured
      simpa [OracleConfig.isAvailable, up] using down config configured
  | bypassing installed active _ => cases (calm.resting _ installed).symm.trans active

end Policy

/-- The slash path refuses an oracle its policy excludes, and the report path does so too
exactly when it overlooks nothing. -/
theorem oracle_policy_shared_iff (world : World) (now : U64) (oraclePubkey : BytesN 32) :
    (∀ (env : Env) (payload : OraclePayload), env.timestamp = now →
      payload.oraclePubkey = oraclePubkey → world.oracle.Excludes now oraclePubkey →
      ¬ (⟨env, .executeDepositSlash payload⟩ : Invocation).Committed world) ∧
    (world.SharesPolicy now oraclePubkey ↔ ¬ world.Overlooks now oraclePubkey) := by
  constructor
  · rintro env payload rfl rfl excluded
    exact slash_refused excluded
  · exact world.sharesPolicy_iff now oraclePubkey

/-- A store whose only oracle was demoted an hour ago. -/
def demotedWorld : World :=
  { freshWorld with oracle :=
    ⟨fun _ => true, fun oraclePubkey => some ⟨oraclePubkey, .primary, .demoted, 0, some 100000, 1⟩,
      none, fun _ => none⟩ }

theorem demotedWorld_excludes :
    demotedWorld.oracle.Excludes 103600 (.repeated 32 1) :=
  .unavailable fun config configured => by
    cases configured
    rfl

/-- The demoted oracle reports all the same. -/
theorem demoted_oracle_reports :
    let oraclePubkey : BytesN 32 := .repeated 32 1
    demotedWorld.oracle.Excludes 103600 oraclePubkey ∧
      (callAt 103600 (.updateAssetConditionMetadata (mintReport 103600 oraclePubkey)
        ⟨6⟩)).Committed demotedWorld ∧
      ¬ demotedWorld.SharesPolicy 103600 oraclePubkey := by
  have overlooks : demotedWorld.Overlooks 103600 (.repeated 32 1) :=
    ⟨demotedWorld_excludes, rfl, nofun, rfl, by decide⟩
  exact ⟨demotedWorld_excludes, overlooks.reports,
    fun shares => shares demotedWorld_excludes (openLedger 103600 0)
      (mintReport 103600 (.repeated 32 1)) ⟨6⟩ rfl rfl le_rfl overlooks.reports⟩

/-- It submits no slash. -/
theorem demoted_oracle_slashes_nothing :
    ¬ (callAt 103600 (.executeDepositSlash (sampleReport .minor 1))).Committed demotedWorld :=
  (oracle_policy_shared_iff demotedWorld 103600 (.repeated 32 1)).1 (openLedger 103600 0) _ rfl
    rfl demotedWorld_excludes

end LeaseFlow
