import LeaseFlow.Safeguards.ReportSignature

/-!
# Demotion of the primary oracle

The branches that demote an oracle all end in an `Err`, and the staleness check ends
the call before any of them.  A submission that should demote the primary is therefore
rolled back, and the primary keeps its standing.
-/

set_option autoImplicit false

namespace LeaseFlow

open Transaction

/-- The check that the slash entry point makes of an oracle fails. -/
def OracleStore.Unavailable (oracle : OracleStore) (now : U64) (oraclePubkey : BytesN 32) : Prop :=
  oracle.whitelistedOracle oraclePubkey = false ∨
    ∃ config, oracle.oracleConfig oraclePubkey = some config ∧ config.isAvailable now = false

/-- A slash report by the primary oracle that is too old, or whose oracle is unavailable. -/
structure PrimaryRejected (env : Env) (payload : OraclePayload) (oracle : OracleStore) : Prop where
  primary : ∃ hierarchy, oracle.fallbackHierarchy = some hierarchy ∧
    payload.oraclePubkey = hierarchy.primaryOracle
  cause : stalenessThreshold < env.timestamp - payload.timestamp ∨
    oracle.Unavailable env.timestamp payload.oraclePubkey

/-- The store records the demotion of an oracle and has handed over to the backup. -/
structure OracleStore.RecordsDemotion (oracle : OracleStore) (oraclePubkey : BytesN 32) :
    Prop where
  demoted : ∃ config, oracle.oracleConfig oraclePubkey = some config ∧ config.status = .demoted
  active : ∃ hierarchy, oracle.fallbackHierarchy = some hierarchy ∧
    hierarchy.hierarchyActive = true

section Demotion

variable {env : Env} {payload : OraclePayload} {oracle : OracleStore} {world : World}

theorem OracleStore.Unavailable.not_admits
    (unavailable : oracle.Unavailable env.timestamp payload.oraclePubkey) :
    ¬ oracle.Admits env.timestamp payload := by
  intro admits
  rcases unavailable with unlisted | ⟨config, configured, down⟩
  · cases unlisted.symm.trans admits.whitelisted
  · obtain ⟨stored, found, up⟩ := admits.available
    cases configured.symm.trans found
    cases down.symm.trans up

theorem PrimaryRejected.not_admits (rejected : PrimaryRejected env payload oracle) :
    ¬ oracle.Admits env.timestamp payload := by
  intro admits
  rcases rejected.cause with stale | unavailable
  · exact absurd admits.fresh (not_le.mpr stale)
  · exact unavailable.not_admits admits

theorem OracleStore.Calm.not_recordsDemotion (calm : oracle.Calm) (oraclePubkey : BytesN 32) :
    ¬ oracle.RecordsDemotion oraclePubkey := by
  rintro ⟨⟨config, configured, demoted⟩, _⟩
  cases (calm.active oraclePubkey config configured).symm.trans demoted

/-- A slash report that is not admitted leaves no trace. -/
theorem step_of_not_admits (refused : ¬ world.oracle.Admits env.timestamp payload) :
    step ⟨env, .executeDepositSlash payload⟩ world = world := by
  rcases step_cases ⟨env, .executeDepositSlash payload⟩ world with run | same
  · obtain ⟨lease, slashed⟩ := executeDepositSlash_commits run
    exact absurd slashed.admitted refused
  · exact same

/-- No oracle of a reachable store is ever short of a grace period, so the unavailable
ones are those the admin took off the whitelist. -/
theorem Reachable.unavailable_iff (reached : Reachable world) {now : U64}
    {oraclePubkey : BytesN 32} :
    world.oracle.Unavailable now oraclePubkey ↔
      world.oracle.whitelistedOracle oraclePubkey = false := by
  constructor
  · rintro (unlisted | ⟨config, configured, down⟩)
    · exact unlisted
    · have up := reached.safeguards.calm.active oraclePubkey config configured
      simp [OracleConfig.isAvailable, up] at down
  · exact .inl

/-- The backup is admitted whether or not a submission of the primary was rejected: it
has to be fresh, whitelisted and configured, and the hierarchy never holds it back. -/
theorem Reachable.admits_iff (reached : Reachable world) :
    world.oracle.Admits env.timestamp payload ↔
      payload.timestamp ≤ env.timestamp ∧
        env.timestamp - payload.timestamp ≤ stalenessThreshold ∧
        world.oracle.whitelistedOracle payload.oraclePubkey = true ∧
        ∃ config, world.oracle.oracleConfig payload.oraclePubkey = some config := by
  obtain ⟨calm, _, _⟩ := reached.safeguards
  constructor
  · rintro ⟨past, fresh, whitelisted, ⟨config, configured, _⟩, _⟩
    exact ⟨past, fresh, whitelisted, config, configured⟩
  · rintro ⟨past, fresh, whitelisted, config, configured⟩
    have up := calm.active _ config configured
    refine ⟨past, fresh, whitelisted, ⟨config, configured, by simp [OracleConfig.isAvailable, up]⟩,
      fun hierarchy installed active => ?_⟩
    cases (calm.resting hierarchy installed).symm.trans active

/-- No rejected submission of the primary is recorded as its demotion.  It leaves the
store exactly as it was. -/
theorem demotion_never_recorded (reached : Reachable world)
    (rejected : PrimaryRejected env payload world.oracle) :
    step ⟨env, .executeDepositSlash payload⟩ world = world ∧
      ¬ (step ⟨env, .executeDepositSlash payload⟩ world).oracle.RecordsDemotion
        payload.oraclePubkey :=
  ⟨step_of_not_admits rejected.not_admits,
    (reached.next _).safeguards.calm.not_recordsDemotion payload.oraclePubkey⟩

end Demotion

/-- A store with an installed hierarchy of two oracles. -/
def guardedWorld : World :=
  Run.run step (installation (.repeated 32 1) (.repeated 32 2)) (administeredWorld none)

theorem guardedWorld_reachable : Reachable guardedWorld :=
  ⟨_, _, _, _, rfl⟩

theorem stale_primary_not_demoted :
    ¬ (step ⟨openLedger 300000 0, .executeDepositSlash (sampleReport .minor 1)⟩
      guardedWorld).oracle.RecordsDemotion (.repeated 32 1) :=
  (demotion_never_recorded guardedWorld_reachable
    ⟨⟨⟨.repeated 32 1, .repeated 32 2, true, false, none⟩, rfl, rfl⟩, .inl (by decide)⟩).2

/-- The primary is off the whitelist and submits a fresh report.  The body demotes it and
activates the hierarchy before it fails; after the call neither is recorded. -/
theorem removed_primary_not_demoted :
    let world := step (callAt 0 (.removeOracle ⟨1⟩ (.repeated 32 1))) guardedWorld
    let submission : Invocation := callAt 100000 (.executeDepositSlash (sampleReport .minor 1))
    PrimaryRejected submission.env (sampleReport .minor 1) world.oracle ∧
      (∃ attempted, Faults submission.body world (.err .oracleStale) attempted ∧
        attempted.oracle.RecordsDemotion (.repeated 32 1)) ∧
      ¬ (step submission world).oracle.RecordsDemotion (.repeated 32 1) := by
  refine ⟨⟨⟨⟨.repeated 32 1, .repeated 32 2, true, false, none⟩, rfl, rfl⟩, .inr (.inl rfl)⟩,
    ⟨_, rfl, ⟨_, rfl, rfl⟩, ⟨_, rfl, rfl⟩⟩, ?_⟩
  rintro ⟨⟨config, configured, demoted⟩, _⟩
  cases configured
  cases demoted

end LeaseFlow
