import LeaseFlow.Contract.Records
import LeaseFlow.Foundations.Failure
import LeaseFlow.Foundations.Machine

/-!
# The operations of `OracleGovernanceModule`

Admins whitelist, blacklist, suspend and reactivate oracles, and a lease is migrated from one
oracle to another.
-/

set_option autoImplicit false

namespace LeaseFlow.OracleGovernance

open Transaction Failure

/-! ## Records -/

abbrev OracleKey := BytesN 32

inductive OracleGovernanceStatus where
  | whitelisted
  | blacklisted
  | suspended
  deriving DecidableEq, Repr

structure OracleGovernanceRecord where
  oraclePubkey : OracleKey
  status : OracleGovernanceStatus
  addedAt : U64
  updatedAt : U64
  reason : String
  affectedLeases : List U64
  addedBy : Address
  deriving DecidableEq

structure OracleMigration where
  leaseId : U64
  oldOracle : OracleKey
  newOracle : OracleKey
  migratedAt : U64
  migratedBy : Address

inductive Event where
  | oracleWhitelisted (oraclePubkey : OracleKey) (addedBy : Address) (timestamp : U64)
  | oracleBlacklisted (oraclePubkey : OracleKey) (reason : String) (blacklistedBy : Address)
      (timestamp : U64)
  | oracleSuspended (oraclePubkey : OracleKey) (reason : String) (suspendedBy : Address)
      (timestamp : U64)
  | oracleReactivated (oraclePubkey : OracleKey) (reactivatedBy : Address) (timestamp : U64)
  | leaseOracleMigrated (leaseId : U64) (oldOracle newOracle : OracleKey) (migratedBy : Address)
      (timestamp : U64)
  | emergencyBlacklist (oraclePubkey : OracleKey) (reason : String) (emergencyBy : Address)
      (affectedLeasesCount : U32) (timestamp : U64)

/-! ## Storage and environment -/

/-- The instance storage, an entry for each key, and the events, newest first. -/
structure Store where
  oracleRecord : Table OracleKey OracleGovernanceRecord
  whitelistCount : Option U64
  blacklistCount : Option U64
  governanceAdmin : Address → Option Bool
  activeLeaseOracle : U64 → Option OracleKey
  migrationHistory : U64 → Option OracleMigration
  events : List Event

/-- A call sees the ledger time and the addresses that authorised it. -/
structure Env where
  timestamp : U64
  authorised : Address → Bool

abbrev Body (α : Type) := Transaction Store (Failure String) α

def publish (event : Event) : Body Unit :=
  modify fun store => { store with events := event :: store.events }

def requireAuth (env : Env) (address : Address) : Body Unit :=
  orTrap (env.authorised address = true) "HostError: Error(Auth, InvalidAction)"

def Store.putRecord (oraclePubkey : OracleKey) (record : OracleGovernanceRecord)
    (store : Store) : Store :=
  { store with oracleRecord := store.oracleRecord.set oraclePubkey (some record) }

def Store.putAdmin (address : Address) (entry : Option Bool) (store : Store) : Store :=
  { store with governanceAdmin := Function.update store.governanceAdmin address entry }

/-! ## Queries -/

def Store.isAdmin (store : Store) (address : Address) : Bool :=
  (store.governanceAdmin address).getD false

def Store.statusOf (store : Store) (oraclePubkey : OracleKey) : Option OracleGovernanceStatus :=
  (store.oracleRecord.lookup oraclePubkey).map OracleGovernanceRecord.status

/-- `is_oracle_active` -/
def Store.isOracleActive (store : Store) (oraclePubkey : OracleKey) : Bool :=
  decide (store.statusOf oraclePubkey = some .whitelisted)

/-- `is_oracle_blacklisted` -/
def Store.isOracleBlacklisted (store : Store) (oraclePubkey : OracleKey) : Bool :=
  decide (store.statusOf oraclePubkey = some .blacklisted)

def fetchRecord (oraclePubkey : OracleKey) (error : String) : Body OracleGovernanceRecord := do
  let found ← inspect fun store => store.oracleRecord.lookup oraclePubkey
  orErr found error

def getOracleRecord (oraclePubkey : OracleKey) : Body OracleGovernanceRecord :=
  fetchRecord oraclePubkey "Oracle not found in registry"

def requireAdmin (address : Address) : Body Unit := do
  let isAdmin ← inspect fun store => store.isAdmin address
  check (isAdmin = true) "Not a governance admin"

/-! ## Oracles -/

def OracleGovernanceRecord.fresh (env : Env) (oraclePubkey : OracleKey)
    (status : OracleGovernanceStatus) (reason : String) (affectedLeases : List U64)
    (addedBy : Address) : OracleGovernanceRecord where
  oraclePubkey := oraclePubkey
  status := status
  addedAt := env.timestamp
  updatedAt := env.timestamp
  reason := reason
  affectedLeases := affectedLeases
  addedBy := addedBy

def whitelistOracle (env : Env) (admin : Address) (oraclePubkey : OracleKey) (reason : String) :
    Body Unit := do
  requireAdmin admin
  requireAuth env admin
  let existing ← inspect fun store => store.statusOf oraclePubkey
  check (existing = none ∨ existing = some .blacklisted) "Oracle already in registry"
  modify (Store.putRecord oraclePubkey (.fresh env oraclePubkey .whitelisted reason [] admin))
  let count ← inspect fun store => store.whitelistCount.getD 0
  let nextCount ← checkedUpTo u64Max (count + 1)
  modify fun store => { store with whitelistCount := some nextCount }
  publish (.oracleWhitelisted oraclePubkey admin env.timestamp)

/-- What `emergency_blacklist` stores: the record that is there, or a new one. -/
def OracleGovernanceRecord.blacklisted (env : Env) (admin : Address) (oraclePubkey : OracleKey)
    (reason : String) (affectedLeases : List U64) :
    Option OracleGovernanceRecord → OracleGovernanceRecord
  | some existing =>
      { existing with
        status := .blacklisted
        updatedAt := env.timestamp
        reason := reason
        affectedLeases := affectedLeases }
  | none => .fresh env oraclePubkey .blacklisted reason affectedLeases admin

def emergencyBlacklist (env : Env) (admin : Address) (oraclePubkey : OracleKey) (reason : String)
    (affectedLeases : List U64) : Body Unit := do
  requireAdmin admin
  requireAuth env admin
  let existing ← inspect fun store => store.oracleRecord.lookup oraclePubkey
  modify (Store.putRecord oraclePubkey
    (.blacklisted env admin oraclePubkey reason affectedLeases existing))
  let count ← inspect fun store => store.blacklistCount.getD 0
  let nextCount ← checkedUpTo u64Max (count + 1)
  modify fun store => { store with blacklistCount := some nextCount }
  publish (.emergencyBlacklist oraclePubkey reason admin affectedLeases.length env.timestamp)
  publish (.oracleBlacklisted oraclePubkey reason admin env.timestamp)

/-- The record with another status, and why. -/
def OracleGovernanceRecord.restated (env : Env) (status : OracleGovernanceStatus)
    (reason : String) (record : OracleGovernanceRecord) : OracleGovernanceRecord :=
  { record with status := status, updatedAt := env.timestamp, reason := reason }

def suspendOracle (env : Env) (admin : Address) (oraclePubkey : OracleKey) (reason : String) :
    Body Unit := do
  requireAdmin admin
  requireAuth env admin
  let record ← getOracleRecord oraclePubkey
  check (record.status ≠ .blacklisted) "Oracle already blacklisted"
  modify (Store.putRecord oraclePubkey (record.restated env .suspended reason))
  publish (.oracleSuspended oraclePubkey reason admin env.timestamp)

def reactivateOracle (env : Env) (admin : Address) (oraclePubkey : OracleKey) : Body Unit := do
  requireAdmin admin
  requireAuth env admin
  let record ← getOracleRecord oraclePubkey
  check (record.status ≠ .blacklisted) "Cannot reactivate blacklisted oracle"
  modify (Store.putRecord oraclePubkey
    (record.restated env .whitelisted "Reactivated by governance"))
  publish (.oracleReactivated oraclePubkey admin env.timestamp)

/-! ## Leases -/

def Store.migrate (env : Env) (caller : Address) (leaseId : U64)
    (oldOracle newOracle : OracleKey) (store : Store) : Store :=
  { store with
    migrationHistory := Function.update store.migrationHistory leaseId
      (some ⟨leaseId, oldOracle, newOracle, env.timestamp, caller⟩)
    activeLeaseOracle := Function.update store.activeLeaseOracle leaseId (some newOracle) }

def migrateLeaseOracle (env : Env) (caller : Address) (leaseId : U64)
    (oldOracle newOracle : OracleKey) : Body Unit := do
  requireAuth env caller
  let newOracleRecord ← fetchRecord newOracle "New oracle not whitelisted"
  check (newOracleRecord.status = .whitelisted) "New oracle not active"
  modify (Store.migrate env caller leaseId oldOracle newOracle)
  publish (.leaseOracleMigrated leaseId oldOracle newOracle caller env.timestamp)

/-! ## Admins -/

def addGovernanceAdmin (env : Env) (caller newAdmin : Address) : Body Unit := do
  requireAdmin caller
  requireAuth env caller
  modify (Store.putAdmin newAdmin (some true))

def removeGovernanceAdmin (env : Env) (caller adminToRemove : Address) : Body Unit := do
  requireAdmin caller
  requireAuth env caller
  modify (Store.putAdmin adminToRemove none)

/-- Refused only where this very address has an entry. -/
def initializeGovernance (env : Env) (admin : Address) : Body Unit := do
  requireAuth env admin
  let stored ← inspect fun store => store.governanceAdmin admin
  check (stored = none) "Already initialized"
  modify (Store.putAdmin admin (some true))

/-! ## Calls -/

inductive Operation where
  | whitelistOracle (admin : Address) (oraclePubkey : OracleKey) (reason : String)
  | emergencyBlacklist (admin : Address) (oraclePubkey : OracleKey) (reason : String)
      (affectedLeases : List U64)
  | suspendOracle (admin : Address) (oraclePubkey : OracleKey) (reason : String)
  | reactivateOracle (admin : Address) (oraclePubkey : OracleKey)
  | migrateLeaseOracle (caller : Address) (leaseId : U64) (oldOracle newOracle : OracleKey)
  | isOracleActive (oraclePubkey : OracleKey)
  | isOracleBlacklisted (oraclePubkey : OracleKey)
  | getOracleRecord (oraclePubkey : OracleKey)
  | getLeaseOracle (leaseId : U64)
  | getMigrationHistory (leaseId : U64)
  | addGovernanceAdmin (caller newAdmin : Address)
  | removeGovernanceAdmin (caller adminToRemove : Address)
  | initializeGovernance (admin : Address)

structure Call where
  env : Env
  operation : Operation

def Call.body (call : Call) : Body Unit :=
  match call.operation with
  | .whitelistOracle admin oraclePubkey reason =>
      OracleGovernance.whitelistOracle call.env admin oraclePubkey reason
  | .emergencyBlacklist admin oraclePubkey reason affectedLeases =>
      OracleGovernance.emergencyBlacklist call.env admin oraclePubkey reason affectedLeases
  | .suspendOracle admin oraclePubkey reason =>
      OracleGovernance.suspendOracle call.env admin oraclePubkey reason
  | .reactivateOracle admin oraclePubkey =>
      OracleGovernance.reactivateOracle call.env admin oraclePubkey
  | .migrateLeaseOracle caller leaseId oldOracle newOracle =>
      OracleGovernance.migrateLeaseOracle call.env caller leaseId oldOracle newOracle
  | .isOracleActive oraclePubkey => do
      let _ ← inspect fun store => store.isOracleActive oraclePubkey
  | .isOracleBlacklisted oraclePubkey => do
      let _ ← inspect fun store => store.isOracleBlacklisted oraclePubkey
  | .getOracleRecord oraclePubkey => do
      let _ ← OracleGovernance.getOracleRecord oraclePubkey
  | .getLeaseOracle leaseId => do
      let _ ← inspect fun store => store.activeLeaseOracle leaseId
  | .getMigrationHistory leaseId => do
      let _ ← inspect fun store => store.migrationHistory leaseId
  | .addGovernanceAdmin caller newAdmin =>
      OracleGovernance.addGovernanceAdmin call.env caller newAdmin
  | .removeGovernanceAdmin caller adminToRemove =>
      OracleGovernance.removeGovernanceAdmin call.env caller adminToRemove
  | .initializeGovernance admin => OracleGovernance.initializeGovernance call.env admin

abbrev step : Call → Store → Store :=
  Machine.step Call.body

abbrev Call.Goes (call : Call) (store : Store) : Prop :=
  Machine.Goes Call.body call store

/-- Nothing is stored. -/
def Store.empty : Store where
  oracleRecord := ∅
  whitelistCount := none
  blacklistCount := none
  governanceAdmin _ := none
  activeLeaseOracle _ := none
  migrationHistory _ := none
  events := []

end LeaseFlow.OracleGovernance
