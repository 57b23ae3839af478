import LeaseFlow.OracleGovernance.Operations

/-!
# What a call to the oracle governance does

`Effect` says once, for each operation, what it checked and which entries it leaves.
-/

set_option autoImplicit false

namespace LeaseFlow.OracleGovernance

open Transaction Failure

/-- The stores agree on the oracles, the counters, the admins and the leases. -/
structure Store.SameEntries (store other : Store) : Prop where
  oracleRecord : store.oracleRecord = other.oracleRecord
  whitelistCount : store.whitelistCount = other.whitelistCount
  blacklistCount : store.blacklistCount = other.blacklistCount
  governanceAdmin : store.governanceAdmin = other.governanceAdmin
  activeLeaseOracle : store.activeLeaseOracle = other.activeLeaseOracle

inductive Operation.IsQuery : Operation → Prop where
  | isOracleActive (oraclePubkey : OracleKey) : IsQuery (.isOracleActive oraclePubkey)
  | isOracleBlacklisted (oraclePubkey : OracleKey) : IsQuery (.isOracleBlacklisted oraclePubkey)
  | getOracleRecord (oraclePubkey : OracleKey) : IsQuery (.getOracleRecord oraclePubkey)
  | getLeaseOracle (leaseId : U64) : IsQuery (.getLeaseOracle leaseId)
  | getMigrationHistory (leaseId : U64) : IsQuery (.getMigrationHistory leaseId)

/-- An admin of the store signed the call. -/
structure SignedByAdmin (env : Env) (store : Store) (admin : Address) : Prop where
  signed : env.authorised admin = true
  member : store.isAdmin admin = true

inductive Effect (env : Env) (before after : Store) : Operation → Prop where
  | whitelisted {admin : Address} {oraclePubkey : OracleKey} {reason : String}
      (byAdmin : SignedByAdmin env before admin)
      (existing : before.statusOf oraclePubkey = none ∨
        before.statusOf oraclePubkey = some .blacklisted)
      (entries : after.SameEntries { before.putRecord oraclePubkey
        (.fresh env oraclePubkey .whitelisted reason [] admin) with
          whitelistCount := some (before.whitelistCount.getD 0 + 1) }) :
      Effect env before after (.whitelistOracle admin oraclePubkey reason)
  | blacklisted {admin : Address} {oraclePubkey : OracleKey} {reason : String}
      {affectedLeases : List U64} (byAdmin : SignedByAdmin env before admin)
      (entries : after.SameEntries { before.putRecord oraclePubkey
        (.blacklisted env admin oraclePubkey reason affectedLeases
          (before.oracleRecord.lookup oraclePubkey)) with
            blacklistCount := some (before.blacklistCount.getD 0 + 1) }) :
      Effect env before after (.emergencyBlacklist admin oraclePubkey reason affectedLeases)
  | suspended {admin : Address} {oraclePubkey : OracleKey} {reason : String}
      {record : OracleGovernanceRecord} (byAdmin : SignedByAdmin env before admin)
      (found : before.oracleRecord.lookup oraclePubkey = some record)
      (unlisted : record.status ≠ .blacklisted)
      (entries : after.SameEntries
        (before.putRecord oraclePubkey (record.restated env .suspended reason))) :
      Effect env before after (.suspendOracle admin oraclePubkey reason)
  | reactivated {admin : Address} {oraclePubkey : OracleKey} {record : OracleGovernanceRecord}
      (byAdmin : SignedByAdmin env before admin)
      (found : before.oracleRecord.lookup oraclePubkey = some record)
      (unlisted : record.status ≠ .blacklisted)
      (entries : after.SameEntries (before.putRecord oraclePubkey
        (record.restated env .whitelisted "Reactivated by governance"))) :
      Effect env before after (.reactivateOracle admin oraclePubkey)
  | migrated {caller : Address} {leaseId : U64} {oldOracle newOracle : OracleKey}
      (entries : after.SameEntries (before.migrate env caller leaseId oldOracle newOracle)) :
      Effect env before after (.migrateLeaseOracle caller leaseId oldOracle newOracle)
  | adminAdded {caller newAdmin : Address} (byAdmin : SignedByAdmin env before caller)
      (entries : after.SameEntries (before.putAdmin newAdmin (some true))) :
      Effect env before after (.addGovernanceAdmin caller newAdmin)
  | adminRemoved {caller adminToRemove : Address} (byAdmin : SignedByAdmin env before caller)
      (entries : after.SameEntries (before.putAdmin adminToRemove none)) :
      Effect env before after (.removeGovernanceAdmin caller adminToRemove)
  | initialized {admin : Address} (unregistered : before.governanceAdmin admin = none)
      (entries : after.SameEntries (before.putAdmin admin (some true))) :
      Effect env before after (.initializeGovernance admin)
  | queried {operation : Operation} (query : operation.IsQuery) (same : after = before) :
      Effect env before after operation

section Primitives

variable {before after : Store}

@[simp] theorem commits_publish (event : Event) (result : Unit) :
    Commits (publish event) before result after ↔
      after = { before with events := event :: before.events } :=
  commits_modify _ result

@[simp] theorem commits_requireAuth (env : Env) (address : Address) (result : Unit) :
    Commits (requireAuth env address) before result after ↔
      env.authorised address = true ∧ after = before :=
  commits_orTrap _ _ result

@[simp] theorem commits_requireAdmin (address : Address) (result : Unit) :
    Commits (requireAdmin address) before result after ↔
      before.isAdmin address = true ∧ after = before := by
  simp only [requireAdmin, commits_bind, commits_inspect, commits_check]
  constructor
  · rintro ⟨_, _, ⟨rfl, rfl⟩, member, rfl⟩
    exact ⟨member, rfl⟩
  · rintro ⟨member, rfl⟩
    exact ⟨_, _, ⟨rfl, rfl⟩, member, rfl⟩

@[simp] theorem commits_fetchRecord (oraclePubkey : OracleKey) (error : String)
    (record : OracleGovernanceRecord) :
    Commits (fetchRecord oraclePubkey error) before record after ↔
      before.oracleRecord.lookup oraclePubkey = some record ∧ after = before := by
  simp [fetchRecord, eq_comm, and_comm]

end Primitives

section Operations

variable {env : Env} {before after : Store}

theorem whitelistOracle_effect {admin : Address} {oraclePubkey : OracleKey} {reason : String}
    (run : Commits (whitelistOracle env admin oraclePubkey reason) before () after) :
    Effect env before after (.whitelistOracle admin oraclePubkey reason) := by
  simp only [whitelistOracle, commits_bind, commits_requireAdmin, commits_requireAuth,
    commits_inspect, commits_check, commits_checkedUpTo, commits_modify, commits_publish] at run
  obtain ⟨_, _, ⟨member, rfl⟩, _, _, ⟨signed, rfl⟩, _, _, ⟨rfl, rfl⟩, _, _, ⟨existing, rfl⟩, _, _,
    rfl, _, _, ⟨rfl, rfl⟩, _, _, ⟨counted, rfl, rfl⟩, _, _, rfl, rfl⟩ := run
  exact .whitelisted ⟨signed, member⟩ existing ⟨rfl, rfl, rfl, rfl, rfl⟩

theorem emergencyBlacklist_effect {admin : Address} {oraclePubkey : OracleKey}
    {reason : String} {affectedLeases : List U64}
    (run : Commits (emergencyBlacklist env admin oraclePubkey reason affectedLeases) before ()
      after) :
    Effect env before after
      (.emergencyBlacklist admin oraclePubkey reason affectedLeases) := by
  simp only [emergencyBlacklist, commits_bind, commits_requireAdmin, commits_requireAuth,
    commits_inspect, commits_checkedUpTo, commits_modify, commits_publish] at run
  obtain ⟨_, _, ⟨member, rfl⟩, _, _, ⟨signed, rfl⟩, _, _, ⟨rfl, rfl⟩, _, _, rfl, _, _,
    ⟨rfl, rfl⟩, _, _, ⟨counted, rfl, rfl⟩, _, _, rfl, _, _, rfl, rfl⟩ := run
  exact .blacklisted ⟨signed, member⟩ ⟨rfl, rfl, rfl, rfl, rfl⟩

theorem suspendOracle_effect {admin : Address} {oraclePubkey : OracleKey} {reason : String}
    (run : Commits (suspendOracle env admin oraclePubkey reason) before () after) :
    Effect env before after (.suspendOracle admin oraclePubkey reason) := by
  simp only [suspendOracle, getOracleRecord, commits_bind, commits_requireAdmin,
    commits_requireAuth, commits_fetchRecord, commits_check, commits_modify,
    commits_publish] at run
  obtain ⟨_, _, ⟨member, rfl⟩, _, _, ⟨signed, rfl⟩, record, _, ⟨found, rfl⟩, _, _,
    ⟨unlisted, rfl⟩, _, _, rfl, rfl⟩ := run
  exact .suspended ⟨signed, member⟩ found unlisted ⟨rfl, rfl, rfl, rfl, rfl⟩

theorem reactivateOracle_effect {admin : Address} {oraclePubkey : OracleKey}
    (run : Commits (reactivateOracle env admin oraclePubkey) before () after) :
    Effect env before after (.reactivateOracle admin oraclePubkey) := by
  simp only [reactivateOracle, getOracleRecord, commits_bind, commits_requireAdmin,
    commits_requireAuth, commits_fetchRecord, commits_check, commits_modify,
    commits_publish] at run
  obtain ⟨_, _, ⟨member, rfl⟩, _, _, ⟨signed, rfl⟩, record, _, ⟨found, rfl⟩, _, _,
    ⟨unlisted, rfl⟩, _, _, rfl, rfl⟩ := run
  exact .reactivated ⟨signed, member⟩ found unlisted ⟨rfl, rfl, rfl, rfl, rfl⟩

theorem migrateLeaseOracle_effect {caller : Address} {leaseId : U64}
    {oldOracle newOracle : OracleKey}
    (run : Commits (migrateLeaseOracle env caller leaseId oldOracle newOracle) before ()
      after) :
    Effect env before after (.migrateLeaseOracle caller leaseId oldOracle newOracle) := by
  simp only [migrateLeaseOracle, commits_bind, commits_requireAuth, commits_fetchRecord,
    commits_check, commits_modify, commits_publish] at run
  obtain ⟨_, _, ⟨signed, rfl⟩, record, _, ⟨found, rfl⟩, _, _, ⟨active, rfl⟩, _, _, rfl, rfl⟩ := run
  exact .migrated ⟨rfl, rfl, rfl, rfl, rfl⟩

theorem addGovernanceAdmin_effect {caller newAdmin : Address}
    (run : Commits (addGovernanceAdmin env caller newAdmin) before () after) :
    Effect env before after (.addGovernanceAdmin caller newAdmin) := by
  simp only [addGovernanceAdmin, commits_bind, commits_requireAdmin, commits_requireAuth,
    commits_modify] at run
  obtain ⟨_, _, ⟨member, rfl⟩, _, _, ⟨signed, rfl⟩, rfl⟩ := run
  exact .adminAdded ⟨signed, member⟩ ⟨rfl, rfl, rfl, rfl, rfl⟩

theorem removeGovernanceAdmin_effect {caller adminToRemove : Address}
    (run : Commits (removeGovernanceAdmin env caller adminToRemove) before () after) :
    Effect env before after (.removeGovernanceAdmin caller adminToRemove) := by
  simp only [removeGovernanceAdmin, commits_bind, commits_requireAdmin, commits_requireAuth,
    commits_modify] at run
  obtain ⟨_, _, ⟨member, rfl⟩, _, _, ⟨signed, rfl⟩, rfl⟩ := run
  exact .adminRemoved ⟨signed, member⟩ ⟨rfl, rfl, rfl, rfl, rfl⟩

theorem initializeGovernance_effect {admin : Address}
    (run : Commits (initializeGovernance env admin) before () after) :
    Effect env before after (.initializeGovernance admin) := by
  simp only [initializeGovernance, commits_bind, commits_requireAuth, commits_inspect,
    commits_check, commits_modify] at run
  obtain ⟨_, _, ⟨signed, rfl⟩, _, _, ⟨rfl, rfl⟩, _, _, ⟨unregistered, rfl⟩, rfl⟩ := run
  exact .initialized unregistered ⟨rfl, rfl, rfl, rfl, rfl⟩

/-- A query leaves the store alone. -/
theorem query_effect {α : Type} {operation : Operation} {view : Store → α}
    (query : operation.IsQuery)
    (run : Commits (inspect view >>= fun _ => pure () : Body Unit) before () after) :
    Effect env before after operation := by
  obtain ⟨_, _, read, finished⟩ := (commits_bind _ _ _).mp run
  obtain ⟨_, rfl⟩ := (commits_pure _ _).mp finished
  exact .queried query ((commits_inspect _ _).mp read).2

/-- What every operation that goes through checked and wrote. -/
theorem call_effect {call : Call} (run : Commits call.body before () after) :
    Effect call.env before after call.operation := by
  obtain ⟨env, operation⟩ := call
  cases operation with
  | whitelistOracle admin oraclePubkey reason => exact whitelistOracle_effect run
  | emergencyBlacklist admin oraclePubkey reason affectedLeases =>
      exact emergencyBlacklist_effect run
  | suspendOracle admin oraclePubkey reason => exact suspendOracle_effect run
  | reactivateOracle admin oraclePubkey => exact reactivateOracle_effect run
  | migrateLeaseOracle caller leaseId oldOracle newOracle => exact migrateLeaseOracle_effect run
  | isOracleActive oraclePubkey => exact query_effect (.isOracleActive oraclePubkey) run
  | isOracleBlacklisted oraclePubkey => exact query_effect (.isOracleBlacklisted oraclePubkey) run
  | getOracleRecord oraclePubkey =>
      obtain ⟨_, _, read, finished⟩ := (commits_bind _ _ _).mp run
      obtain ⟨_, rfl⟩ := (commits_pure _ _).mp finished
      exact .queried (.getOracleRecord oraclePubkey) ((commits_fetchRecord _ _ _).mp read).2
  | getLeaseOracle leaseId => exact query_effect (.getLeaseOracle leaseId) run
  | getMigrationHistory leaseId => exact query_effect (.getMigrationHistory leaseId) run
  | addGovernanceAdmin caller newAdmin => exact addGovernanceAdmin_effect run
  | removeGovernanceAdmin caller adminToRemove => exact removeGovernanceAdmin_effect run
  | initializeGovernance admin => exact initializeGovernance_effect run

end Operations

end LeaseFlow.OracleGovernance
