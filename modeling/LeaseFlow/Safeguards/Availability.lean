import LeaseFlow.Safeguards.Demotion

/-!
# Availability of an oracle

The availability check reads the whitelist entry and the configuration of an oracle.  Only a
hierarchy installs a configuration, so whitelisting alone does not pass the check, and the count of
an oracle's failures is rolled back with every report that fails, so it never grows.
-/

set_option autoImplicit false

namespace LeaseFlow

open Transaction

/-- The oracle passes the availability check of the slash entry point. -/
def OracleStore.passesCheck (oracle : OracleStore) (now : U64) (oraclePubkey : BytesN 32) : Bool :=
  oracle.whitelistedOracle oraclePubkey &&
    (oracle.oracleConfig oraclePubkey).any (OracleConfig.isAvailable · now)

/-- The availability check finds the oracle unavailable.  It does not get that far for a
whitelisted oracle without a configuration. -/
def OracleStore.findsDown (oracle : OracleStore) (now : U64) (oraclePubkey : BytesN 32) : Bool :=
  !oracle.whitelistedOracle oraclePubkey ||
    (oracle.oracleConfig oraclePubkey).any (! OracleConfig.isAvailable · now)

/-- The slash report gets as far as the availability check, and its oracle is found unavailable
there. -/
def World.findsDown (world : World) (env : Env) (payload : OraclePayload) : Bool :=
  !world.nonReentrant && decide (payload.timestamp ≤ env.timestamp) &&
    decide (env.timestamp - payload.timestamp ≤ stalenessThreshold) &&
    world.oracle.findsDown env.timestamp payload.oraclePubkey

/-! ## The history of an oracle -/

/-- For each oracle, how often it was found unavailable since its last accepted report or reset,
and whether it was ever recorded as demoted. -/
structure OracleHistory where
  findings : BytesN 32 → Nat
  demoted : BytesN 32 → Bool

def OracleHistory.fresh : OracleHistory :=
  ⟨fun _ => 0, fun _ => false⟩

def OracleHistory.setFindings (history : OracleHistory) (oraclePubkey : BytesN 32) (count : Nat) :
    OracleHistory :=
  { history with findings := Function.update history.findings oraclePubkey count }

/-- Add the oracles that a store records as demoted. -/
def OracleHistory.noteDemotions (history : OracleHistory) (oracle : OracleStore) :
    OracleHistory :=
  { history with demoted := fun oraclePubkey => history.demoted oraclePubkey ||
      (oracle.oracleConfig oraclePubkey).any fun config => decide (config.status = .demoted) }

/-- What a call adds to the findings. -/
def Invocation.countFinding (invocation : Invocation) (world : World) (history : OracleHistory) :
    OracleHistory :=
  match invocation.call with
  | .executeDepositSlash payload =>
      if invocation.body.succeeds world = true then history.setFindings payload.oraclePubkey 0
      else if world.findsDown invocation.env payload = true then
        history.setFindings payload.oraclePubkey (history.findings payload.oraclePubkey + 1)
      else history
  | .resetOracleStatus _ oraclePubkey =>
      if invocation.body.succeeds world = true then history.setFindings oraclePubkey 0 else history
  | _ => history

def Invocation.recordFindings (invocation : Invocation) (world : World)
    (history : OracleHistory) : OracleHistory :=
  (invocation.countFinding world history).noteDemotions (step invocation world).oracle

/-- A top-level call, with the history of the oracles beside the store. -/
def oracleStep : Invocation → World × OracleHistory → World × OracleHistory :=
  Run.annotate step Invocation.recordFindings

/-- A whitelisted oracle that was never demoted passes the check, and one that was found
unavailable too often does not, at any time. -/
structure OracleHistory.Lawful (history : OracleHistory) (oracle : OracleStore) : Prop where
  admitted : ∀ oraclePubkey, oracle.whitelistedOracle oraclePubkey = true →
    history.demoted oraclePubkey = false →
    ∀ now, oracle.passesCheck now oraclePubkey = true
  refused : ∀ oraclePubkey, maxOracleFailures ≤ history.findings oraclePubkey →
    ∀ now, oracle.passesCheck now oraclePubkey = false

/-- Every whitelisted oracle is configured, and none of them was found unavailable too often. -/
structure OracleHistory.Settled (history : OracleHistory) (oracle : OracleStore) : Prop where
  configured : ∀ oraclePubkey, oracle.whitelistedOracle oraclePubkey = true →
    (oracle.oracleConfig oraclePubkey).isSome = true
  trusted : ∀ oraclePubkey, oracle.whitelistedOracle oraclePubkey = true →
    history.findings oraclePubkey < maxOracleFailures

/-- An oracle that the admin whitelists is configured already and was not found unavailable too
often. -/
def Invocation.ListsSettled (invocation : Invocation) (state : World × OracleHistory) : Prop :=
  ∀ admin oraclePubkey, invocation.call = .whitelistOracle admin oraclePubkey →
    state.1.config.admin = some admin → invocation.env.authorised admin = true →
    (state.1.oracle.oracleConfig oraclePubkey).isSome = true ∧
      state.2.findings oraclePubkey < maxOracleFailures

/-! ## The check -/

section Check

variable {env : Env} {world after : World} {oracle : OracleStore} {oraclePubkey : BytesN 32}

theorem commits_oracleAvailable {result : Bool} :
    Commits (oracleAvailable env oraclePubkey) world result after ↔
      Commits (if world.oracle.whitelistedOracle oraclePubkey = true then
        checkOracleAvailability env oraclePubkey else pure false) world result after := by
  rw [oracleAvailable, commits_bind]
  constructor
  · rintro ⟨_, _, looked, decided⟩
    obtain ⟨rfl, rfl⟩ := (commits_inspect _ _).mp looked
    exact decided
  · exact fun decided => ⟨_, world, (commits_inspect _ _).mpr ⟨rfl, rfl⟩, decided⟩

theorem oracleAvailable_answers :
    (Commits (oracleAvailable env oraclePubkey) world true world ↔
      world.oracle.passesCheck env.timestamp oraclePubkey = true) ∧
    (Commits (oracleAvailable env oraclePubkey) world false world ↔
      world.oracle.findsDown env.timestamp oraclePubkey = true) := by
  unfold OracleStore.passesCheck OracleStore.findsDown
  rw [commits_oracleAvailable, commits_oracleAvailable]
  cases world.oracle.whitelistedOracle oraclePubkey with
  | false => simp
  | true =>
      cases stored : world.oracle.oracleConfig oraclePubkey with
      | none => simp [stored]
      | some config => simp [stored]

/-- No slash report of an oracle goes through that does not pass the check. -/
theorem passesCheck_of_committed {payload : OraclePayload}
    (committed : (⟨env, .executeDepositSlash payload⟩ : Invocation).Committed world) :
    world.oracle.passesCheck env.timestamp payload.oraclePubkey = true := by
  obtain ⟨lease, slashed⟩ := executeDepositSlash_commits committed.commits
  obtain ⟨config, stored, up⟩ := slashed.admitted.available
  have listed : world.oracle.whitelistedOracle payload.oraclePubkey = true :=
    slashed.admitted.whitelisted
  rw [OracleStore.passesCheck, listed, stored]
  exact up

theorem OracleStore.Calm.passesCheck_eq (calm : oracle.Calm) (now : U64) :
    oracle.passesCheck now oraclePubkey =
      (oracle.whitelistedOracle oraclePubkey && (oracle.oracleConfig oraclePubkey).isSome) := by
  unfold OracleStore.passesCheck
  cases stored : oracle.oracleConfig oraclePubkey with
  | none => rfl
  | some config =>
      have up := calm.active oraclePubkey config stored
      simp [OracleConfig.isAvailable, up]

theorem OracleStore.Calm.findsDown_eq (calm : oracle.Calm) (now : U64) :
    oracle.findsDown now oraclePubkey = !oracle.whitelistedOracle oraclePubkey := by
  unfold OracleStore.findsDown
  cases stored : oracle.oracleConfig oraclePubkey with
  | none => simp
  | some config =>
      have up := calm.active oraclePubkey config stored
      simp [OracleConfig.isAvailable, up]

/-- In a calm store the law is about the entries of the whitelisted oracles. -/
theorem OracleHistory.lawful_iff_settled {history : OracleHistory} (calm : oracle.Calm)
    (undemoted : ∀ oraclePubkey, history.demoted oraclePubkey = false) :
    history.Lawful oracle ↔ history.Settled oracle := by
  constructor
  · intro lawful
    have configured (oraclePubkey : BytesN 32)
        (listed : oracle.whitelistedOracle oraclePubkey = true) :
        (oracle.oracleConfig oraclePubkey).isSome = true := by
      have passes := lawful.admitted oraclePubkey listed (undemoted oraclePubkey) 0
      rwa [calm.passesCheck_eq, listed, Bool.true_and] at passes
    refine ⟨configured, fun oraclePubkey listed => ?_⟩
    by_contra often
    have refused := lawful.refused oraclePubkey (not_lt.mp often) 0
    rw [calm.passesCheck_eq, listed, configured oraclePubkey listed] at refused
    cases refused
  · intro settled
    refine ⟨fun oraclePubkey listed _ now => ?_, fun oraclePubkey often now => ?_⟩
    · rw [calm.passesCheck_eq, listed, settled.configured oraclePubkey listed]
      rfl
    · rw [calm.passesCheck_eq]
      cases listed : oracle.whitelistedOracle oraclePubkey with
      | false => rfl
      | true => exact absurd (settled.trusted oraclePubkey listed) (not_lt.mpr often)

end Check

/-! ## What a call does to the entries -/

/-- No oracle is whitelisted that was not, and none loses its configuration. -/
structure OracleStore.Keeps (before after : OracleStore) : Prop where
  listed : ∀ oraclePubkey, after.whitelistedOracle oraclePubkey = true →
    before.whitelistedOracle oraclePubkey = true
  configured : ∀ oraclePubkey, (before.oracleConfig oraclePubkey).isSome = true →
    (after.oracleConfig oraclePubkey).isSome = true

theorem OracleStore.Keeps.of_same {before after : OracleStore}
    (listed : after.whitelistedOracle = before.whitelistedOracle)
    (configured : after.oracleConfig = before.oracleConfig) : before.Keeps after :=
  ⟨fun oraclePubkey => by rw [listed]; exact id, fun oraclePubkey => by rw [configured]; exact id⟩

theorem OracleStore.Keeps.trans {first second third : OracleStore} (keeps : first.Keeps second)
    (later : second.Keeps third) : first.Keeps third :=
  ⟨fun oraclePubkey listed => keeps.listed oraclePubkey (later.listed oraclePubkey listed),
    fun oraclePubkey stored => later.configured oraclePubkey (keeps.configured oraclePubkey stored)⟩

theorem OracleStore.keeps_configure (oracle : OracleStore) (oraclePubkey : BytesN 32)
    (config : OracleConfig) :
    oracle.Keeps { oracle with
      oracleConfig := Function.update oracle.oracleConfig oraclePubkey (some config) } := by
  refine ⟨fun _ => id, fun other stored => ?_⟩
  rcases eq_or_ne other oraclePubkey with rfl | differs
  · simp
  · simpa [Function.update_of_ne differs] using stored

section Entries

variable {env : Env} {world after : World}

theorem recordOracleSuccess_keeps {oraclePubkey : BytesN 32} {result : Unit}
    (run : Commits (recordOracleSuccess env oraclePubkey) world result after) :
    world.oracle.Keeps after.oracle := by
  simp only [recordOracleSuccess, getOracleConfig, setOracleConfig, commits_bind,
    commits_inspect] at run
  obtain ⟨found, start, ⟨rfl, rfl⟩, run⟩ := run
  split at run
  · rw [((commits_pure _ _).mp run).2]
    exact .of_same rfl rfl
  · simp only [commits_ite, commits_updateOracle] at run
    split at run <;> rw [run] <;> exact OracleStore.keeps_configure _ _ _

theorem admitSlash_keeps {payload : OraclePayload} {lease : LeaseInstance}
    (run : Commits (admitSlash env payload) world lease after) :
    world.oracle.Keeps after.oracle := by
  rw [admitSlash, commits_bind] at run
  obtain ⟨_, w1, verified, run⟩ := run
  obtain rfl := ((commits_verifySlashReport payload _).mp verified).2
  simp only [commits_bind] at run
  obtain ⟨_, w2, recorded, _, w3, counted, _, w4, loaded, _, w5, standing, _, w6, ended, _, w7,
    unsettled, _, w8, initialised, _, w9, checked, finished⟩ := run
  have kept : after.oracle = w3.oracle :=
    (part_kept .oracle finished (by simp)).trans ((part_kept .oracle checked (by simp)).trans
      ((part_kept .oracle initialised (by simp)).trans ((part_kept .oracle unsettled (by simp)).trans
        ((part_kept .oracle ended (by simp)).trans ((part_kept .oracle standing (by simp)).trans
          (part_kept .oracle loaded (by simp)))))))
  have nonces : w2.oracle.Keeps w3.oracle := by
    rw [(commits_updateOracle _ _).mp counted]
    exact .of_same rfl rfl
  rw [kept]
  exact (recordOracleSuccess_keeps recorded).trans nonces

theorem executeDepositSlash_keeps {payload : OraclePayload} {result : Unit}
    (run : Commits (executeDepositSlash env payload) world result after) :
    world.oracle.Keeps after.oracle := by
  rw [executeDepositSlash, commits_bind] at run
  obtain ⟨_, w1, acquired, run⟩ := run
  simp only [commits_bind] at run
  obtain ⟨outcome, w2, slashed, _, w3, released, answered⟩ := run
  obtain ⟨rfl, rfl⟩ := (commits_question outcome result).mp answered
  rw [commits_resultOf_ok, executeDepositSlashInner, commits_bind] at slashed
  obtain ⟨lease, w4, admitted, settled⟩ := slashed
  have start : w1.oracle = world.oracle := part_kept .oracle acquired (by simp)
  have settling : w2.oracle = w4.oracle := by
    refine part_kept .oracle settled ?_
    repeat refine writes_bind (by simp) fun _ => ?_
    exact writes_ite _ (by simp) (by simp)
  have finish : after.oracle = w2.oracle := part_kept .oracle released (by simp)
  rw [finish, settling, ← start]
  exact admitSlash_keeps admitted

theorem updateAssetConditionMetadata_keeps {payload : AssetConditionMetadataPayload}
    {assetRegistryAddress : Address} {result : Unit}
    (run : Commits (updateAssetConditionMetadata env payload assetRegistryAddress) world result
      after) : world.oracle.Keeps after.oracle := by
  rw [updateAssetConditionMetadata, commits_bind] at run
  obtain ⟨_, w1, verified, run⟩ := run
  simp only [commits_bind] at run
  obtain ⟨_, w2, read, _, w3, stored, _, w4, counted, _, w5, accepted, _, w6, published,
    closing⟩ := run
  have start : w3.oracle = world.oracle :=
    (part_kept .oracle stored (by simp)).trans ((part_kept .oracle read (by simp)).trans
      (part_kept .oracle verified (by simp)))
  have finish : after.oracle = w4.oracle := by
    have closed : after = w6 := by
      rw [commits_ite] at closing
      split at closing
      · exact (slashDestroyedAsset_commits closing).2
      · exact ((commits_pure _ _).mp closing).2
    rw [closed]
    exact (part_kept .oracle published (by simp)).trans (part_kept .oracle accepted (by simp))
  rw [finish, ← start, (commits_updateOracle _ _).mp counted]
  exact .of_same rfl rfl

/-- Only the whitelisting of an oracle enters one, and none loses its configuration. -/
theorem dispatch_keeps {call : Call} (run : Commits (dispatch env call) world () after)
    (unlisting : ∀ admin oraclePubkey, call ≠ .whitelistOracle admin oraclePubkey) :
    world.oracle.Keeps after.oracle := by
  cases call with
  | whitelistOracle admin oraclePubkey => exact absurd rfl (unlisting admin oraclePubkey)
  | removeOracle admin oraclePubkey =>
      simp only [dispatch, removeOracle, commits_bind, commits_requireStoredAdmin,
        commits_updateOracle] at run
      obtain ⟨_, _, ⟨_, _, rfl⟩, rfl⟩ := run
      refine ⟨fun other listed => ?_, fun _ => id⟩
      rcases eq_or_ne other oraclePubkey with rfl | differs
      · simp at listed
      · simpa [Function.update_of_ne differs] using listed
  | setFallbackHierarchy admin primaryOracle backupOracle daoArbitrationEnabled =>
      simp only [dispatch, setFallbackHierarchy, isOracleWhitelisted, setOracleConfig,
        saveFallbackHierarchy, commits_bind, commits_requireStoredAdmin, commits_inspect,
        commits_require, commits_updateOracle] at run
      obtain ⟨_, _, ⟨_, _, rfl⟩, _, _, ⟨rfl, rfl⟩, _, _, ⟨_, rfl⟩, _, _, ⟨rfl, rfl⟩, _, _,
        ⟨_, rfl⟩, _, _, ⟨_, rfl⟩, _, _, rfl, _, _, rfl, rfl⟩ := run
      refine ((OracleStore.keeps_configure _ primaryOracle _).trans
        (OracleStore.keeps_configure _ backupOracle _)).trans (.of_same rfl rfl)
  | resetOracleStatus admin oraclePubkey =>
      simp only [dispatch, resetOracleStatus, getOracleConfig, setOracleConfig, commits_bind,
        commits_requireStoredAdmin, commits_inspect, commits_okOr, commits_updateOracle] at run
      obtain ⟨_, _, ⟨_, _, rfl⟩, _, _, ⟨rfl, rfl⟩, _, _, ⟨_, rfl⟩, rfl⟩ := run
      exact OracleStore.keeps_configure _ _ _
  | executeDepositSlash payload => exact executeDepositSlash_keeps run
  | updateAssetConditionMetadata payload assetRegistryAddress =>
      exact updateAssetConditionMetadata_keeps run
  | _ =>
      have kept : after.oracle = world.oracle := @dispatch_kept _ _ _ _ .oracle run (by simp)
      rw [kept]
      exact .of_same rfl rfl

end Entries

/-! ## Runs -/

section Runs

variable {invocation : Invocation} {world : World} {history : OracleHistory}

@[simp] theorem OracleHistory.findings_noteDemotions (oracle : OracleStore) :
    (history.noteDemotions oracle).findings = history.findings :=
  rfl

theorem OracleHistory.demoted_noteDemotions {oracle : OracleStore} (calm : oracle.Calm)
    (undemoted : ∀ oraclePubkey, history.demoted oraclePubkey = false)
    (oraclePubkey : BytesN 32) : (history.noteDemotions oracle).demoted oraclePubkey = false := by
  refine (Bool.or_eq_false_iff).mpr ⟨undemoted oraclePubkey, ?_⟩
  cases stored : oracle.oracleConfig oraclePubkey with
  | none => rfl
  | some config =>
      have up := calm.active oraclePubkey config stored
      simp [up]

theorem Invocation.demoted_countFinding (oraclePubkey : BytesN 32) :
    (invocation.countFinding world history).demoted oraclePubkey =
      history.demoted oraclePubkey := by
  unfold countFinding
  split
  · split
    · rfl
    · split <;> rfl
  · split <;> rfl
  · rfl

theorem OracleHistory.findings_setFindings_le {oraclePubkey other : BytesN 32} {count : Nat}
    (less : count ≤ history.findings oraclePubkey) :
    (history.setFindings oraclePubkey count).findings other ≤ history.findings other := by
  rcases eq_or_ne other oraclePubkey with rfl | differs
  · simpa [setFindings] using less
  · simp [setFindings, Function.update_of_ne differs]

theorem Invocation.findings_countFinding_le (calm : world.oracle.Calm) {oraclePubkey : BytesN 32}
    (listed : world.oracle.whitelistedOracle oraclePubkey = true) :
    (invocation.countFinding world history).findings oraclePubkey ≤
      history.findings oraclePubkey := by
  unfold countFinding
  split
  · next payload submits =>
      split
      · exact OracleHistory.findings_setFindings_le (Nat.zero_le _)
      · split
        · next found =>
            have down : world.oracle.findsDown invocation.env.timestamp payload.oraclePubkey =
                true := (Bool.and_eq_true_iff.mp found).2
            rw [calm.findsDown_eq] at down
            have differs : oraclePubkey ≠ payload.oraclePubkey := by
              rintro rfl
              rw [listed] at down
              cases down
            simp [OracleHistory.setFindings, Function.update_of_ne differs]
        · exact le_rfl
  · split
    · exact OracleHistory.findings_setFindings_le (Nat.zero_le _)
    · exact le_rfl
  · exact le_rfl

/-- The entries of a store after an oracle was whitelisted in it. -/
def OracleStore.list (oraclePubkey : BytesN 32) (oracle : OracleStore) : OracleStore :=
  { oracle with
    whitelistedOracle := Function.update oracle.whitelistedOracle oraclePubkey true }

theorem commits_whitelistOracle {env : Env} {admin : Address} {oraclePubkey : BytesN 32}
    {after : World} (result : Unit) :
    Commits (whitelistOracle env admin oraclePubkey) world result after ↔
      (world.config.admin = some admin ∧ env.authorised admin = true) ∧
        after = { world with oracle := world.oracle.list oraclePubkey } := by
  simp only [whitelistOracle, commits_bind, commits_requireStoredAdmin, commits_updateOracle]
  constructor
  · rintro ⟨_, _, ⟨stored, signed, rfl⟩, rfl⟩
    exact ⟨⟨stored, signed⟩, rfl⟩
  · rintro ⟨⟨stored, signed⟩, rfl⟩
    exact ⟨(), world, ⟨stored, signed, rfl⟩, rfl⟩

theorem OracleHistory.Settled.list_iff {oracle : OracleStore} {oraclePubkey : BytesN 32}
    (settled : history.Settled oracle) :
    history.Settled (oracle.list oraclePubkey) ↔
      (oracle.oracleConfig oraclePubkey).isSome = true ∧
        history.findings oraclePubkey < maxOracleFailures := by
  constructor
  · intro later
    have listed : (oracle.list oraclePubkey).whitelistedOracle oraclePubkey = true := by
      simp [OracleStore.list]
    exact ⟨later.configured oraclePubkey listed, later.trusted oraclePubkey listed⟩
  · rintro ⟨configured, trusted⟩
    refine ⟨fun other listed => ?_, fun other listed => ?_⟩ <;>
      rcases eq_or_ne other oraclePubkey with rfl | differs
    · exact configured
    · exact settled.configured other (by simpa [OracleStore.list, differs] using listed)
    · exact trusted
    · exact settled.trusted other (by simpa [OracleStore.list, differs] using listed)

theorem OracleHistory.Settled.of_keeps {later : OracleHistory} {before after : OracleStore}
    (settled : history.Settled before) (keeps : before.Keeps after)
    (fewer : ∀ oraclePubkey, before.whitelistedOracle oraclePubkey = true →
      later.findings oraclePubkey ≤ history.findings oraclePubkey) : later.Settled after := by
  refine ⟨fun oraclePubkey listed => ?_, fun oraclePubkey listed => ?_⟩
  · have before := keeps.listed oraclePubkey listed
    exact keeps.configured oraclePubkey (settled.configured oraclePubkey before)
  · have before := keeps.listed oraclePubkey listed
    exact (fewer oraclePubkey before).trans_lt (settled.trusted oraclePubkey before)

/-- A call leaves the entries settled exactly when it lists no oracle that is not. -/
theorem settled_step_iff (calm : world.oracle.Calm) (settled : history.Settled world.oracle) :
    (invocation.recordFindings world history).Settled (step invocation world).oracle ↔
      invocation.ListsSettled (world, history) := by
  have fewer (oraclePubkey : BytesN 32)
      (listed : world.oracle.whitelistedOracle oraclePubkey = true) :
      (invocation.recordFindings world history).findings oraclePubkey ≤
        history.findings oraclePubkey :=
    Invocation.findings_countFinding_le calm listed
  by_cases lists : ∃ admin oraclePubkey, invocation.call = .whitelistOracle admin oraclePubkey ∧
      world.config.admin = some admin ∧ invocation.env.authorised admin = true
  · obtain ⟨admin, oraclePubkey, call, stored, signed⟩ := lists
    have run : Commits invocation.body world ()
        { world with oracle := world.oracle.list oraclePubkey } := by
      rw [Invocation.body, call]
      exact (commits_whitelistOracle ()).mpr ⟨⟨stored, signed⟩, rfl⟩
    have findings : (invocation.recordFindings world history).findings = history.findings := by
      rw [Invocation.recordFindings, OracleHistory.findings_noteDemotions,
        Invocation.countFinding, call]
    rw [step_of_commits run]
    have same : (invocation.recordFindings world history).Settled
          (world.oracle.list oraclePubkey) ↔ history.Settled (world.oracle.list oraclePubkey) := by
      constructor <;> intro later
      · exact ⟨later.configured, findings ▸ later.trusted⟩
      · exact ⟨later.configured, findings.symm ▸ later.trusted⟩
    refine same.trans (settled.list_iff.trans ⟨fun fits other listed named _ _ => ?_, fun meets =>
      meets admin oraclePubkey call stored signed⟩)
    cases call.symm.trans named
    exact fits
  · have keeps : world.oracle.Keeps (step invocation world).oracle := by
      rcases step_cases invocation world with run | same
      · refine dispatch_keeps run fun admin oraclePubkey call => ?_
        rw [Invocation.body, call] at run
        obtain ⟨⟨stored, signed⟩, _⟩ := (commits_whitelistOracle ()).mp run
        exact lists ⟨admin, oraclePubkey, call, stored, signed⟩
      · rw [same]
        exact .of_same rfl rfl
    refine iff_of_true (settled.of_keeps keeps fewer) fun admin oraclePubkey call stored signed => ?_
    exact absurd ⟨admin, oraclePubkey, call, stored, signed⟩ lists

/-- A store that can be reached, with a history that notes no demotion. -/
structure OracleTraced (state : World × OracleHistory) : Prop where
  reachable : Reachable state.1
  undemoted : ∀ oraclePubkey, state.2.demoted oraclePubkey = false

theorem OracleTraced.next {state : World × OracleHistory} (traced : OracleTraced state)
    (invocation : Invocation) : OracleTraced (oracleStep invocation state) := by
  have reachable : Reachable (step invocation state.1) := traced.reachable.next invocation
  refine ⟨reachable, fun oraclePubkey => ?_⟩
  refine OracleHistory.demoted_noteDemotions reachable.safeguards.calm (fun other => ?_) oraclePubkey
  exact (Invocation.demoted_countFinding other).trans (traced.undemoted other)

theorem OracleTraced.lawful_iff {state : World × OracleHistory} (traced : OracleTraced state) :
    state.2.Lawful state.1.oracle ↔ state.2.Settled state.1.oracle :=
  OracleHistory.lawful_iff_settled traced.reachable.safeguards.calm traced.undemoted

end Runs

/-- The store and the history of the oracles after some calls to a new deployment. -/
def oracleTrace (config : ConfigStore) (billing : BillingStore)
    (securityCouncil : Option SecurityCouncil) (calls : List Invocation) :
    World × OracleHistory :=
  Run.run oracleStep calls (World.genesis config billing securityCouncil, .fresh)

theorem oracleTrace_traced (config : ConfigStore) (billing : BillingStore)
    (securityCouncil : Option SecurityCouncil) (calls : List Invocation) :
    OracleTraced (oracleTrace config billing securityCouncil calls) :=
  Run.invariant (fun invocation _ traced => traced.next invocation) calls
    ⟨.genesis config billing securityCouncil, fun _ => rfl⟩

/-- In a run from a new deployment, the law holds in every state after some setup exactly when
the setup left the entries settled, and no call since whitelists an oracle that is not configured
or was found unavailable too often. -/
theorem availability_law_iff (config : ConfigStore) (billing : BillingStore)
    (securityCouncil : Option SecurityCouncil) (setup calls : List Invocation) :
    (∀ earlier, earlier <+: calls →
        (oracleTrace config billing securityCouncil (setup ++ earlier)).2.Lawful
          (oracleTrace config billing securityCouncil (setup ++ earlier)).1.oracle) ↔
      (oracleTrace config billing securityCouncil setup).2.Settled
          (oracleTrace config billing securityCouncil setup).1.oracle ∧
        Run.MeetsAlong oracleStep Invocation.ListsSettled calls
          (oracleTrace config billing securityCouncil setup) := by
  have traced := oracleTrace_traced config billing securityCouncil setup
  have append (earlier : List Invocation) :
      oracleTrace config billing securityCouncil (setup ++ earlier) =
        Run.run oracleStep earlier (oracleTrace config billing securityCouncil setup) :=
    Run.run_append setup earlier _
  simp only [append]
  rw [@Run.forall_prefix_iff _ _ oracleStep fun state => state.2.Lawful state.1.oracle,
    traced.lawful_iff]
  refine and_congr_right fun settled => ?_
  refine @Run.meetsAlong_iff _ _ oracleStep OracleTraced (fun state => state.2.Settled state.1.oracle)
    _ _ (fun invocation state traced => traced.next invocation) ?_ ?_ _ _ traced settled
  · intro invocation state traced settled
    rw [(traced.next invocation).lawful_iff]
    exact settled_step_iff traced.reachable.safeguards.calm settled
  · intro invocation state traced _ lawful
    exact (traced.next invocation).lawful_iff.mp lawful

/-! ## Oracles of the admin -/

/-- The trace of a deployment of admin 1. -/
def administeredTrace (calls : List Invocation) : World × OracleHistory :=
  oracleTrace { openSettings with admin := some ⟨1⟩ } openBilling none calls

/-- Oracle 1 is whitelisted, and no hierarchy is installed. -/
def listedTrace : World × OracleHistory :=
  administeredTrace [callAt 0 (.whitelistOracle ⟨1⟩ (.repeated 32 1))]

/-- A slash report by oracle 1. -/
def reporting (nonce : U64) : Invocation :=
  callAt 100000 (.executeDepositSlash (sampleReport .minor nonce))

/-- Oracle 1 reports three times before it is installed. -/
def distrustedTrace : World × OracleHistory :=
  administeredTrace ([reporting 1, reporting 2, reporting 3] ++
    installation (.repeated 32 1) (.repeated 32 2))

/-- Oracle 1 and its backup are installed. -/
def installedTrace : World × OracleHistory :=
  administeredTrace (installation (.repeated 32 1) (.repeated 32 2))

theorem installedTrace_settled : installedTrace.2.Settled installedTrace.1.oracle := by
  have entries : installedTrace.1.oracle.whitelistedOracle =
      Function.update (Function.update (fun _ => false) (.repeated 32 1) true)
        (.repeated 32 2) true := rfl
  refine ⟨fun oraclePubkey listed => ?_, fun _ _ => show 0 < maxOracleFailures by decide⟩
  rw [entries] at listed
  rcases eq_or_ne oraclePubkey (.repeated 32 2) with rfl | unlikeBackup
  · decide
  · rcases eq_or_ne oraclePubkey (.repeated 32 1) with rfl | unlikePrimary
    · decide
    · rw [Function.update_of_ne unlikeBackup, Function.update_of_ne unlikePrimary] at listed
      cases listed

/-- Oracle 1 is taken off the whitelist, found unavailable three times, reset and whitelisted
again. -/
def reinstatement : List Invocation :=
  [callAt 50 (.removeOracle ⟨1⟩ (.repeated 32 1)), reporting 1, reporting 2, reporting 3,
    callAt 200000 (.resetOracleStatus ⟨1⟩ (.repeated 32 1)),
    callAt 200000 (.whitelistOracle ⟨1⟩ (.repeated 32 1))]

/-- A reset oracle is lawfully admitted again. -/
theorem reinstatement_lawful :
    (administeredTrace (installation (.repeated 32 1) (.repeated 32 2) ++ reinstatement)).2.Lawful
      (administeredTrace
        (installation (.repeated 32 1) (.repeated 32 2) ++ reinstatement)).1.oracle := by
  refine (availability_law_iff _ _ _ _ reinstatement).mpr ⟨installedTrace_settled, ?_⟩ reinstatement
    List.prefix_rfl
  refine ⟨nofun, nofun, nofun, nofun, nofun, fun admin oraclePubkey named _ _ => ?_, trivial⟩
  cases named
  exact ⟨by decide, by decide⟩

/-- A whitelisted oracle does not pass the check before a hierarchy is installed, and one that was
found unavailable three times passes it as soon as one is. -/
theorem availability_unlawful :
    (listedTrace.1.oracle.whitelistedOracle (.repeated 32 1) = true ∧
      listedTrace.2.demoted (.repeated 32 1) = false ∧
      listedTrace.1.oracle.passesCheck 100000 (.repeated 32 1) = false ∧
      ¬ listedTrace.2.Lawful listedTrace.1.oracle) ∧
    distrustedTrace.2.findings (.repeated 32 1) = maxOracleFailures ∧
      distrustedTrace.1.oracle.passesCheck 100000 (.repeated 32 1) = true ∧
      ¬ distrustedTrace.2.Lawful distrustedTrace.1.oracle := by
  constructor
  · have listed : listedTrace.1.oracle.whitelistedOracle (.repeated 32 1) = true := by decide
    have undemoted : listedTrace.2.demoted (.repeated 32 1) = false := by decide
    have stopped : listedTrace.1.oracle.passesCheck 100000 (.repeated 32 1) = false := by decide
    refine ⟨listed, undemoted, stopped, fun lawful => ?_⟩
    cases stopped.symm.trans (lawful.admitted _ listed undemoted 100000)
  · have found : distrustedTrace.2.findings (.repeated 32 1) = maxOracleFailures := by decide
    have passes : distrustedTrace.1.oracle.passesCheck 100000 (.repeated 32 1) = true := by decide
    refine ⟨found, passes, fun lawful => ?_⟩
    cases passes.symm.trans (lawful.refused _ found.ge 100000)

end LeaseFlow
