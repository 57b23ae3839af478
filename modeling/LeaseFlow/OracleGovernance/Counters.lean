import LeaseFlow.Foundations.Register
import LeaseFlow.OracleGovernance.Outsiders

/-!
# The counters of the oracle registry

The whitelist counter goes up when an oracle is whitelisted and the blacklist counter when one is
blacklisted; neither ever goes down.
-/

set_option autoImplicit false

namespace LeaseFlow.OracleGovernance

open Transaction

/-- The number of oracles that have the status. -/
def Store.withStatus (store : Store) (status : OracleGovernanceStatus) : Nat :=
  store.oracleRecord.count fun record => decide (record.status = status)

/-- Both counters are exact. -/
structure Store.Counted (store : Store) : Prop where
  whitelisted : store.whitelistCount.getD 0 = store.withStatus .whitelisted
  blacklisted : store.blacklistCount.getD 0 = store.withStatus .blacklisted

/-- The counters follow the operation: the oracle leaves neither list, and a counter that goes up
stands for one oracle more. -/
def Operation.KeepsCounters (store : Store) : Operation → Prop
  | .whitelistOracle _ oraclePubkey _ => store.statusOf oraclePubkey = none
  | .emergencyBlacklist _ oraclePubkey _ _ =>
      store.statusOf oraclePubkey = none ∨ store.statusOf oraclePubkey = some .suspended
  | .suspendOracle _ oraclePubkey _ => store.statusOf oraclePubkey = some .suspended
  | .reactivateOracle _ oraclePubkey => store.statusOf oraclePubkey = some .whitelisted
  | _ => True

def Call.KeepsCounters (call : Call) (store : Store) : Prop :=
  call.Goes store → call.operation.KeepsCounters store

section Counting

variable {before after : Store} {oraclePubkey : OracleKey} {record : OracleGovernanceRecord}

/-- Of each status there is one oracle more if the new record has it, and one less if the old one
had it. -/
theorem Store.withStatus_put
    (written : after.oracleRecord = before.oracleRecord.set oraclePubkey (some record))
    (status : OracleGovernanceStatus) :
    after.withStatus status + (decide (before.statusOf oraclePubkey = some status)).toNat =
      before.withStatus status + (decide (record.status = status)).toNat := by
  have replaced : (before.oracleRecord.lookup oraclePubkey).any
      (fun stored => decide (stored.status = status)) =
        decide (before.statusOf oraclePubkey = some status) := by
    unfold statusOf
    cases before.oracleRecord.lookup oraclePubkey <;> simp
  have counts := before.oracleRecord.count_set
    (fun stored => decide (stored.status = status)) oraclePubkey (some record)
  rw [replaced, ← written] at counts
  exact counts

/-- After a write the counters are exact if each went up by what its status gained. -/
theorem Store.Counted.put_iff {whitelisted blacklisted : Nat} (counted : before.Counted)
    (written : after.oracleRecord = before.oracleRecord.set oraclePubkey (some record))
    (toWhite : after.whitelistCount.getD 0 = before.whitelistCount.getD 0 + whitelisted)
    (toBlack : after.blacklistCount.getD 0 = before.blacklistCount.getD 0 + blacklisted) :
    after.Counted ↔
      whitelisted + (decide (before.statusOf oraclePubkey = some .whitelisted)).toNat =
          (decide (record.status = .whitelisted)).toNat ∧
        blacklisted + (decide (before.statusOf oraclePubkey = some .blacklisted)).toNat =
          (decide (record.status = .blacklisted)).toNat := by
  have gained : after.Counted ↔
      before.withStatus .whitelisted + whitelisted = after.withStatus .whitelisted ∧
        before.withStatus .blacklisted + blacklisted = after.withStatus .blacklisted := by
    rw [← counted.whitelisted, ← counted.blacklisted, ← toWhite, ← toBlack]
    exact ⟨fun counts => ⟨counts.whitelisted, counts.blacklisted⟩,
      fun counts => ⟨counts.1, counts.2⟩⟩
  have white := Store.withStatus_put written .whitelisted
  have black := Store.withStatus_put written .blacklisted
  rw [gained]
  omega

theorem Store.Counted.same (counted : before.Counted)
    (records : after.oracleRecord = before.oracleRecord)
    (white : after.whitelistCount = before.whitelistCount)
    (black : after.blacklistCount = before.blacklistCount) : after.Counted := by
  refine ⟨?_, ?_⟩
  · rw [white, Store.withStatus, records]
    exact counted.whitelisted
  · rw [black, Store.withStatus, records]
    exact counted.blacklisted

theorem OracleGovernanceRecord.blacklisted_status (env : Env) (admin : Address)
    (oraclePubkey : OracleKey) (reason : String) (affectedLeases : List U64)
    (existing : Option OracleGovernanceRecord) :
    (blacklisted env admin oraclePubkey reason affectedLeases existing).status =
      .blacklisted := by
  cases existing <;> rfl

/-- A call that goes through keeps the counters exact only where they follow it. -/
theorem Effect.counted_iff {call : Call}
    (effect : Effect call.env before after call.operation) (counted : before.Counted) :
    after.Counted ↔ call.operation.KeepsCounters before := by
  obtain ⟨env, operation⟩ := call
  cases effect with
  | @whitelisted admin oraclePubkey reason byAdmin existing entries =>
      rw [@Store.Counted.put_iff _ _ _ _ 1 0 counted entries.oracleRecord
        (by rw [entries.whitelistCount]; rfl) (by rw [entries.blacklistCount]; rfl)]
      simp only [Operation.KeepsCounters, OracleGovernanceRecord.fresh]
      rcases existing with unknown | blacklisted
      · simp [unknown]
      · simp [blacklisted]
  | @blacklisted admin oraclePubkey reason affectedLeases byAdmin entries =>
      rw [@Store.Counted.put_iff _ _ _ _ 0 1 counted entries.oracleRecord
        (by rw [entries.whitelistCount]; rfl) (by rw [entries.blacklistCount]; rfl),
        OracleGovernanceRecord.blacklisted_status]
      simp only [Operation.KeepsCounters]
      generalize before.statusOf oraclePubkey = status
      rcases status with _ | _ | _ | _ <;> simp
  | @suspended admin oraclePubkey reason record byAdmin found unlisted entries =>
      rw [@Store.Counted.put_iff _ _ _ _ 0 0 counted entries.oracleRecord
        (by rw [entries.whitelistCount]; rfl) (by rw [entries.blacklistCount]; rfl)]
      simp only [Operation.KeepsCounters, OracleGovernanceRecord.restated, Store.statusOf, found,
        Option.map_some]
      revert unlisted
      cases record.status <;> simp
  | @reactivated admin oraclePubkey record byAdmin found unlisted entries =>
      rw [@Store.Counted.put_iff _ _ _ _ 0 0 counted entries.oracleRecord
        (by rw [entries.whitelistCount]; rfl) (by rw [entries.blacklistCount]; rfl)]
      simp only [Operation.KeepsCounters, OracleGovernanceRecord.restated, Store.statusOf, found,
        Option.map_some]
      revert unlisted
      cases record.status <;> simp
  | migrated entries | adminAdded _ entries | adminRemoved _ entries | initialized _ entries =>
      exact iff_of_true
        (counted.same entries.oracleRecord entries.whitelistCount entries.blacklistCount) trivial
  | queried query same =>
      rw [same]
      cases query <;> exact iff_of_true counted trivial

end Counting

/-- Along a run from the empty store both counters are exact exactly if every call that goes
through keeps them. -/
theorem counted_along_iff (calls : List Call) :
    (∀ earlier, earlier <+: calls → (Run.run step earlier .empty).Counted) ↔
      Run.MeetsAlong step Call.KeepsCounters calls .empty := by
  refine @Run.invariant_along_iff_given _ _ step (fun _ _ => True) (fun _ => True) _ _
    (fun _ _ _ _ => trivial) (fun call store _ _ counted => ?_) _ _
    (Run.meetsAlong_trivial calls Store.empty) trivial ⟨rfl, rfl⟩
  exact Machine.step_keeps_iff counted fun next run => (call_effect run).counted_iff counted

/-- An oracle that is whitelisted and then suspended is still counted. -/
theorem suspended_still_counted :
    ¬ ∀ calls, (Run.run step calls Store.empty).Counted := by
  intro counted
  have exact_ := counted [callBy 1 (.initializeGovernance ⟨1⟩),
    callBy 1 (.whitelistOracle ⟨1⟩ (.repeated 32 1) "hardware"),
    callBy 1 (.suspendOracle ⟨1⟩ (.repeated 32 1) "maintenance")]
  exact absurd exact_.whitelisted (by decide +kernel)

/-! ## What the events tell -/

/-- What is published of an oracle: its status and since when, and who added it and when. -/
structure Standing where
  status : OracleGovernanceStatus
  updatedAt : U64
  addedBy : Address
  addedAt : U64
  deriving DecidableEq

def Standing.restated (status : OracleGovernanceStatus) (timestamp : U64)
    (standing : Standing) : Standing :=
  { standing with status := status, updatedAt := timestamp }

def OracleGovernanceRecord.standing (record : OracleGovernanceRecord) : Standing :=
  ⟨record.status, record.updatedAt, record.addedBy, record.addedAt⟩

/-- The registry as its readers see it. -/
structure Account where
  standing : OracleKey → Option Standing
  whitelistCount : Nat
  blacklistCount : Nat
  migrationHistory : U64 → Option OracleMigration
  activeLeaseOracle : U64 → Option OracleKey

def Store.account (store : Store) : Account where
  standing oraclePubkey :=
    (store.oracleRecord.lookup oraclePubkey).map OracleGovernanceRecord.standing
  whitelistCount := store.whitelistCount.getD 0
  blacklistCount := store.blacklistCount.getD 0
  migrationHistory := store.migrationHistory
  activeLeaseOracle := store.activeLeaseOracle

def Account.blank : Account :=
  ⟨fun _ => none, 0, 0, fun _ => none, fun _ => none⟩

def Account.put (oraclePubkey : OracleKey) (standing : Option Standing) (account : Account) :
    Account :=
  { account with standing := Function.update account.standing oraclePubkey standing }

/-- What a reader of the events writes down for one of them. -/
def Event.tell : Event → Account → Account
  | .oracleWhitelisted oraclePubkey addedBy timestamp, account =>
      { account.put oraclePubkey (some ⟨.whitelisted, timestamp, addedBy, timestamp⟩) with
        whitelistCount := account.whitelistCount + 1 }
  | .oracleBlacklisted oraclePubkey _ blacklistedBy timestamp, account =>
      let standing := (account.standing oraclePubkey).getD
        ⟨.blacklisted, timestamp, blacklistedBy, timestamp⟩
      { account.put oraclePubkey (some (standing.restated .blacklisted timestamp)) with
        blacklistCount := account.blacklistCount + 1 }
  | .oracleSuspended oraclePubkey _ _ timestamp, account =>
      account.put oraclePubkey
        ((account.standing oraclePubkey).map (Standing.restated .suspended timestamp))
  | .oracleReactivated oraclePubkey _ timestamp, account =>
      account.put oraclePubkey
        ((account.standing oraclePubkey).map (Standing.restated .whitelisted timestamp))
  | .leaseOracleMigrated leaseId oldOracle newOracle migratedBy timestamp, account =>
      { account with
        migrationHistory := Function.update account.migrationHistory leaseId
          (some ⟨leaseId, oldOracle, newOracle, timestamp, migratedBy⟩)
        activeLeaseOracle := Function.update account.activeLeaseOracle leaseId (some newOracle) }
  | .emergencyBlacklist .., account => account

/-- The operation publishes what it changes of the account. -/
abbrev Publishes {α : Type} (body : Body α) : Prop :=
  Register.Tells Store.events Store.account Event.tell body

section Publishing

open Failure

variable {env : Env}

theorem Store.account_putRecord (store : Store) (oraclePubkey : OracleKey)
    (record : OracleGovernanceRecord) : (store.putRecord oraclePubkey record).account =
      store.account.put oraclePubkey (some record.standing) := by
  have standings : (store.putRecord oraclePubkey record).account.standing =
      Function.update store.account.standing oraclePubkey (some record.standing) :=
    Table.map_lookup_set OracleGovernanceRecord.standing store.oracleRecord oraclePubkey record
  unfold Account.put
  rw [← standings]
  rfl

/-- The write of a record that is in the registry. -/
theorem Store.account_restated {store : Store} {oraclePubkey : OracleKey}
    {record : OracleGovernanceRecord} (found : store.oracleRecord.lookup oraclePubkey = some record)
    (status : OracleGovernanceStatus) (reason : String) :
    (store.putRecord oraclePubkey (record.restated env status reason)).account =
      store.account.put oraclePubkey ((store.account.standing oraclePubkey).map
        (Standing.restated status env.timestamp)) := by
  have standing : store.account.standing oraclePubkey = some record.standing := by
    change (store.oracleRecord.lookup oraclePubkey).map _ = _
    rw [found]
    rfl
  rw [account_putRecord, standing]
  rfl

theorem whitelistOracle_publishes (admin : Address) (oraclePubkey : OracleKey)
    (reason : String) : Publishes (whitelistOracle env admin oraclePubkey reason) := by
  intro before value after run
  simp only [whitelistOracle, commits_bind, commits_requireAdmin, commits_requireAuth,
    commits_inspect, commits_check, commits_checkedUpTo, commits_modify, commits_publish] at run
  obtain ⟨_, _, ⟨member, rfl⟩, _, _, ⟨signed, rfl⟩, _, _, ⟨rfl, rfl⟩, _, _, ⟨existing, rfl⟩, _, _,
    rfl, _, _, ⟨rfl, rfl⟩, _, _, ⟨counted, rfl, rfl⟩, _, _, rfl, rfl⟩ := run
  refine ⟨[_], rfl, ?_⟩
  exact congrArg (fun account : Account =>
    { account with whitelistCount := account.whitelistCount + 1 })
      (Store.account_putRecord _ oraclePubkey _)

theorem emergencyBlacklist_publishes (admin : Address) (oraclePubkey : OracleKey)
    (reason : String) (affectedLeases : List U64) :
    Publishes (emergencyBlacklist env admin oraclePubkey reason affectedLeases) := by
  intro before value after run
  simp only [emergencyBlacklist, commits_bind, commits_requireAdmin, commits_requireAuth,
    commits_inspect, commits_checkedUpTo, commits_modify, commits_publish] at run
  obtain ⟨_, _, ⟨member, rfl⟩, _, _, ⟨signed, rfl⟩, existing, _, ⟨found, rfl⟩, _, _, rfl, _, _,
    ⟨rfl, rfl⟩, _, _, ⟨counted, rfl, rfl⟩, _, _, rfl, _, _, rfl, rfl⟩ := run
  refine ⟨[_, _], rfl, ?_⟩
  have standing : (OracleGovernanceRecord.blacklisted env admin oraclePubkey reason affectedLeases
      existing).standing = ((existing.map OracleGovernanceRecord.standing).getD
        ⟨.blacklisted, env.timestamp, admin, env.timestamp⟩).restated .blacklisted
          env.timestamp := by
    cases existing <;> rfl
  subst found
  refine (congrArg (fun account : Account =>
    { account with blacklistCount := account.blacklistCount + 1 })
      (Store.account_putRecord _ oraclePubkey _)).trans ?_
  rw [standing]
  rfl

theorem suspendOracle_publishes (admin : Address) (oraclePubkey : OracleKey) (reason : String) :
    Publishes (suspendOracle env admin oraclePubkey reason) := by
  intro before value after run
  simp only [suspendOracle, getOracleRecord, commits_bind, commits_requireAdmin,
    commits_requireAuth, commits_fetchRecord, commits_check, commits_modify,
    commits_publish] at run
  obtain ⟨_, _, ⟨member, rfl⟩, _, _, ⟨signed, rfl⟩, record, _, ⟨found, rfl⟩, _, _,
    ⟨unlisted, rfl⟩, _, _, rfl, rfl⟩ := run
  exact ⟨[_], rfl, Store.account_restated found .suspended reason⟩

theorem reactivateOracle_publishes (admin : Address) (oraclePubkey : OracleKey) :
    Publishes (reactivateOracle env admin oraclePubkey) := by
  intro before value after run
  simp only [reactivateOracle, getOracleRecord, commits_bind, commits_requireAdmin,
    commits_requireAuth, commits_fetchRecord, commits_check, commits_modify,
    commits_publish] at run
  obtain ⟨_, _, ⟨member, rfl⟩, _, _, ⟨signed, rfl⟩, record, _, ⟨found, rfl⟩, _, _,
    ⟨unlisted, rfl⟩, _, _, rfl, rfl⟩ := run
  exact ⟨[_], rfl, Store.account_restated found .whitelisted "Reactivated by governance"⟩

theorem migrateLeaseOracle_publishes (caller : Address) (leaseId : U64)
    (oldOracle newOracle : OracleKey) :
    Publishes (migrateLeaseOracle env caller leaseId oldOracle newOracle) := by
  intro before value after run
  simp only [migrateLeaseOracle, commits_bind, commits_requireAuth, commits_fetchRecord,
    commits_check, commits_modify, commits_publish] at run
  obtain ⟨_, _, ⟨signed, rfl⟩, record, _, ⟨found, rfl⟩, _, _, ⟨active, rfl⟩, _, _, rfl, rfl⟩ := run
  exact ⟨[_], rfl, rfl⟩

/-- What neither publishes nor changes the account. -/
def Silent {α : Type} (body : Body α) : Prop :=
  Steady (fun store : Store => (store.events, store.account)) body

theorem silent_requireAdmin (address : Address) : Silent (requireAdmin address) :=
  steady_bind (steady_inspect _) fun _ => steady_check _ _

theorem silent_putAdmin (address : Address) (entry : Option Bool) :
    Silent (modify (Store.putAdmin address entry) : Body Unit) :=
  steady_modify fun _ => rfl

/-- Every call publishes what it changes of the account. -/
theorem Call.publishes (call : Call) : Publishes call.body := by
  obtain ⟨env, operation⟩ := call
  cases operation with
  | whitelistOracle admin oraclePubkey reason =>
      exact whitelistOracle_publishes admin oraclePubkey reason
  | emergencyBlacklist admin oraclePubkey reason affectedLeases =>
      exact emergencyBlacklist_publishes admin oraclePubkey reason affectedLeases
  | suspendOracle admin oraclePubkey reason =>
      exact suspendOracle_publishes admin oraclePubkey reason
  | reactivateOracle admin oraclePubkey => exact reactivateOracle_publishes admin oraclePubkey
  | migrateLeaseOracle caller leaseId oldOracle newOracle =>
      exact migrateLeaseOracle_publishes caller leaseId oldOracle newOracle
  | getOracleRecord oraclePubkey =>
      refine Register.tells_of_steady (steady_bind (steady_bind (steady_inspect _) fun _ => ?_)
        fun _ => steady_pure _)
      exact steady_orErr _ _
  | isOracleActive _ | isOracleBlacklisted _ | getLeaseOracle _ | getMigrationHistory _ =>
      exact Register.tells_of_steady (steady_bind (steady_inspect _) fun _ => steady_pure _)
  | addGovernanceAdmin caller newAdmin =>
      refine Register.tells_of_steady (steady_bind (silent_requireAdmin caller) fun _ => ?_)
      exact steady_bind (steady_ensure _ _) fun _ => silent_putAdmin newAdmin (some true)
  | removeGovernanceAdmin caller adminToRemove =>
      refine Register.tells_of_steady (steady_bind (silent_requireAdmin caller) fun _ => ?_)
      exact steady_bind (steady_ensure _ _) fun _ => silent_putAdmin adminToRemove none
  | initializeGovernance admin =>
      refine Register.tells_of_steady (steady_bind (steady_ensure _ _) fun _ => ?_)
      refine steady_bind (steady_inspect _) fun _ => steady_bind (steady_check _ _) fun _ => ?_
      exact silent_putAdmin admin (some true)

end Publishing

/-- In every run from the empty store the events alone tell the registry: which oracles it holds,
with their status, who added them and when, both counters, and for each lease the last migration
and the oracle that is active. -/
theorem events_tell_account (calls : List Call) :
    (Run.run step calls .empty).account =
      (Run.run step calls .empty).events.foldr Event.tell .blank :=
  Register.told_of_run Call.publishes calls rfl

end LeaseFlow.OracleGovernance
