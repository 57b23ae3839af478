import LeaseFlow.Contract.Dispatch

/-!
# Storage cleanup

Pruning finalized leases down to tombstones, the legal holds that stop it, and its
whitelist.  The operations work on the store of the lease contract: their keys for lease
records, payers, balances and flags are the contract's own.
-/

set_option autoImplicit false

namespace LeaseFlow

open Transaction

/-! ## Records -/

inductive LegalHoldType where
  | appeal
  | regulatoryHold
  | courtOrder
  | investigation
  deriving DecidableEq, Repr

structure LegalHold where
  leaseId : LeaseId
  holdType : LegalHoldType
  initiatedBy : Address
  initiatedAt : U64
  reason : String
  expiresAt : Option U64

/-- What remains of a pruned lease. -/
structure LeaseTombstone where
  leaseId : LeaseId
  originalHash : BytesN 32
  terminatedAt : U64
  terminatedBy : Address
  finalStatus : LeaseStatus
  totalRentPaid : I128
  totalDeposits : I128
  propertyUriHash : BytesN 32
  tenantAnonymousHash : BytesN 32
  landlordAnonymousHash : BytesN 32
  createdAt : U64
  prunedAt : U64
  prunedBy : Address
  bytesRecovered : U32
  deriving DecidableEq

structure StorageMetrics where
  totalLeasesPruned : U64
  totalBytesRecovered : U64
  totalTombstonesCreated : U64
  activeLegalHolds : U64
  lastPruneTimestamp : U64
  averageLeaseSizeBytes : U32

inductive CleanupEvent where
  | leaseDataPruned (leaseId : LeaseId) (bytesRecovered : U32) (tombstoneHash : BytesN 32)
      (prunedBy : Address) (prunedAt : U64)
  | legalHoldPlaced (leaseId : LeaseId) (holdType : LegalHoldType) (initiatedBy : Address)
      (reason : String) (expiresAt : Option U64)
  | legalHoldReleased (leaseId : LeaseId) (releasedBy : Address) (releasedAt : U64)

/-- The declared errors; the code never returns `TombstoneExists`. -/
inductive CleanupError where
  | leaseNotFound
  | leaseNotFinalized
  | pruneCooldownNotMet
  | activeLegalHold
  | activeStatePruneAttempt
  | tombstoneExists
  | notAuthorized
  | storageCleanupFailed
  | invalidTimestamp
  | hashComputationFailed
  deriving DecidableEq, Repr

inductive CleanupFault where
  | err (error : CleanupError)
  | trap (message : String)
  deriving DecidableEq, Repr

/-- The entries only the cleanup uses. -/
structure CleanupStore where
  leaseTombstone : LeaseId → Option LeaseTombstone
  legalHold : LeaseId → Option LegalHold
  storageMetrics : Option StorageMetrics
  pruneWhitelist : Address → Bool
  events : List CleanupEvent

structure Ledger extends World where
  cleanup : CleanupStore

/-- A value as it goes into a hash. -/
inductive HashedValue where
  | address (value : Address)
  | i128 (value : I128)
  | u64 (value : U64)
  | status (value : LeaseStatus)
  | string (value : String)
  | bytes (value : BytesN 32)

/-- The hash function of the host, and the two random addresses a cleanup draws. -/
structure CleanupEnv extends Env where
  sha256 : List HashedValue → BytesN 32
  randomPayer : Address
  randomRoommate : Address

namespace StorageCleanup

def pruneCooldownDays : U64 := 60
def dayInSeconds : U64 := 86400
def pruneCooldownSeconds : U64 := pruneCooldownDays * dayInSeconds

/-! ## Primitives -/

abbrev Cleanup (α : Type) := Transaction Ledger CleanupFault α

def require (condition : Prop) [Decidable condition] (error : CleanupError) : Cleanup Unit :=
  ensure condition (.err error)

/-- Overflow checks are on. -/
def checked (value : Nat) (limit : Nat) : Cleanup Nat := do
  ensure (value ≤ limit) (.trap "attempt to perform arithmetic with overflow")
  pure value

def updateCleanup (change : CleanupStore → CleanupStore) : Cleanup Unit :=
  modify fun ledger => { ledger with cleanup := change ledger.cleanup }

def publish (event : CleanupEvent) : Cleanup Unit :=
  updateCleanup fun cleanup => { cleanup with events := event :: cleanup.events }

def loadLease (leaseId : LeaseId) : Cleanup LeaseInstance := do
  let found ← inspect fun ledger => ledger.leases.lookup leaseId
  fetch found (.err .leaseNotFound)

/-! ## Checks -/

def isAdmin (address : Address) : Cleanup Bool :=
  inspect fun ledger => decide (ledger.config.admin = some address)

def verifyPruneAuthorization (caller : Address) : Cleanup Unit := do
  let listed ← inspect fun ledger => ledger.cleanup.pruneWhitelist caller
  let admin ← isAdmin caller
  require (listed = true ∨ admin = true) .notAuthorized

def verifyLegalAuthority (caller : Address) : Cleanup Unit := do
  let admin ← isAdmin caller
  require (admin = true) .notAuthorized

def verifyLeaseFinalized (lease : LeaseInstance) : Cleanup Unit :=
  require (lease.status = .terminated ∨ lease.status = .expired) .leaseNotFinalized

/-- The end date stands for the time of termination. -/
def verifyPruneCooldown (env : CleanupEnv) (lease : LeaseInstance) : Cleanup Unit := do
  let prunable ← checked (lease.endDate + pruneCooldownSeconds) u64Max
  require (prunable ≤ env.timestamp) .pruneCooldownNotMet

def verifyNoLegalHolds (leaseId : LeaseId) : Cleanup Unit := do
  let held ← inspect fun ledger => (ledger.cleanup.legalHold leaseId).isSome
  require (held = false) .activeLegalHold

/-! ## Tombstones -/

def computeLeaseHash (env : CleanupEnv) (lease : LeaseInstance) : BytesN 32 :=
  env.sha256 [.address lease.landlord, .address lease.tenant, .i128 lease.rentAmount,
    .i128 lease.depositAmount, .u64 lease.startDate, .u64 lease.endDate, .status lease.status,
    .i128 lease.rentPaid, .i128 lease.cumulativePayments]

def computeStringHash (env : CleanupEnv) (input : String) : BytesN 32 :=
  env.sha256 [.string input]

def computeAddressHash (env : CleanupEnv) (address : Address) : BytesN 32 :=
  env.sha256 [.address address]

def computeTombstoneHash (env : CleanupEnv) (tombstone : LeaseTombstone) : BytesN 32 :=
  env.sha256 [.u64 tombstone.leaseId.toNat, .bytes tombstone.originalHash,
    .u64 tombstone.terminatedAt, .status tombstone.finalStatus, .i128 tombstone.totalRentPaid,
    .i128 tombstone.totalDeposits, .u64 tombstone.prunedAt]

/-- The tombstone of a lease pruned now.  Its `bytes_recovered` stays zero. -/
def tombstoneOf (env : CleanupEnv) (lease : LeaseInstance) (leaseId : LeaseId)
    (caller : Address) : LeaseTombstone where
  leaseId := leaseId
  originalHash := computeLeaseHash env lease
  terminatedAt := lease.endDate
  terminatedBy := caller
  finalStatus := lease.status
  totalRentPaid := lease.rentPaid
  totalDeposits := lease.depositAmount + lease.securityDeposit
  propertyUriHash := computeStringHash env lease.propertyUri
  tenantAnonymousHash := computeAddressHash env lease.tenant
  landlordAnonymousHash := computeAddressHash env lease.landlord
  createdAt := lease.startDate
  prunedAt := env.timestamp
  prunedBy := caller
  bytesRecovered := 0

def createTombstone (env : CleanupEnv) (lease : LeaseInstance) (leaseId : LeaseId)
    (caller : Address) : Cleanup LeaseTombstone := do
  ensure (i128Min ≤ lease.depositAmount + lease.securityDeposit ∧
      lease.depositAmount + lease.securityDeposit ≤ i128Max)
    (.trap "attempt to perform arithmetic with overflow")
  pure (tombstoneOf env lease leaseId caller)

/-! ## Pruning -/

def calculateTombstoneSize : U32 := 128

/-- An estimate: 512 bytes and 32 for each arbitrator, 16 for each of 8 optional fields
and 64 for each of 4 strings. -/
def calculateLeaseStorageSize (leaseId : LeaseId) : Cleanup U32 := do
  let found ← inspect fun ledger => ledger.leases.lookup leaseId
  match found with
  | some lease => checked (512 + lease.arbitrators.length * 32 + 8 * 16 + 4 * 64) (2 ^ 32 - 1)
  | none => pure 0

/-- The payer and the roommate whose entries are removed are drawn at random. -/
def cleanupRelatedData (env : CleanupEnv) (leaseId : LeaseId) : Cleanup Unit :=
  modify fun ledger => { ledger with
    rent := {
      authorizedPayer :=
        Function.update ledger.rent.authorizedPayer (leaseId, env.randomPayer) false
      roommateBalance :=
        Function.update ledger.rent.roommateBalance (leaseId, env.randomRoommate) none }
    assets := { ledger.assets with
      tenantFlag := Function.update ledger.assets.tenantFlag leaseId false } }

/-- The tombstone is stored whether or not the id has one already. -/
def executeStorageCleanup (env : CleanupEnv) (leaseId : LeaseId) (tombstone : LeaseTombstone) :
    Cleanup U32 := do
  let bytesBefore ← calculateLeaseStorageSize leaseId
  modify fun ledger => { ledger with leases := ledger.leases.set leaseId none }
  cleanupRelatedData env leaseId
  updateCleanup fun cleanup => { cleanup with
    leaseTombstone := Function.update cleanup.leaseTombstone leaseId (some tombstone) }
  pure (bytesBefore - calculateTombstoneSize)

def getStorageMetrics : Cleanup StorageMetrics :=
  inspect fun ledger => ledger.cleanup.storageMetrics.getD ⟨0, 0, 0, 0, 0, 0⟩

def saveStorageMetrics (metrics : StorageMetrics) : Cleanup Unit :=
  updateCleanup fun cleanup => { cleanup with storageMetrics := some metrics }

def updateStorageMetrics (env : CleanupEnv) (bytesRecovered : U32) : Cleanup Unit := do
  let metrics ← getStorageMetrics
  let totalLeasesPruned ← checked (metrics.totalLeasesPruned + 1) u64Max
  let totalBytesRecovered ← checked (metrics.totalBytesRecovered + bytesRecovered) u64Max
  let totalTombstonesCreated ← checked (metrics.totalTombstonesCreated + 1) u64Max
  saveStorageMetrics { metrics with
    totalLeasesPruned := totalLeasesPruned
    totalBytesRecovered := totalBytesRecovered
    totalTombstonesCreated := totalTombstonesCreated
    lastPruneTimestamp := env.timestamp
    averageLeaseSizeBytes := totalBytesRecovered / totalLeasesPruned % 2 ^ 32 }

/-- Asks for no authorization: naming a whitelisted caller is enough. -/
def pruneFinalizedLease (env : CleanupEnv) (leaseId : LeaseId) (caller : Address) :
    Cleanup (BytesN 32) := do
  verifyPruneAuthorization caller
  let lease ← loadLease leaseId
  verifyLeaseFinalized lease
  verifyPruneCooldown env lease
  verifyNoLegalHolds leaseId
  let _bytesBefore ← calculateLeaseStorageSize leaseId
  let tombstone ← createTombstone env lease leaseId caller
  let bytesRecovered ← executeStorageCleanup env leaseId tombstone
  updateStorageMetrics env bytesRecovered
  publish (.leaseDataPruned leaseId bytesRecovered (computeTombstoneHash env tombstone) caller
    env.timestamp)
  pure (computeTombstoneHash env tombstone)

/-! ## Legal holds -/

def incrementLegalHolds : Cleanup Unit := do
  let metrics ← getStorageMetrics
  let activeLegalHolds ← checked (metrics.activeLegalHolds + 1) u64Max
  saveStorageMetrics { metrics with activeLegalHolds := activeLegalHolds }

def decrementLegalHolds : Cleanup Unit := do
  let metrics ← getStorageMetrics
  saveStorageMetrics { metrics with activeLegalHolds := metrics.activeLegalHolds - 1 }

def setLegalHold (leaseId : LeaseId) (hold : Option LegalHold) : Cleanup Unit :=
  updateCleanup fun cleanup => { cleanup with
    legalHold := Function.update cleanup.legalHold leaseId hold }

def placeLegalHold (env : CleanupEnv) (leaseId : LeaseId) (holdType : LegalHoldType)
    (reason : String) (expiresAt : Option U64) (caller : Address) : Cleanup Unit := do
  verifyLegalAuthority caller
  let _lease ← loadLease leaseId
  verifyNoLegalHolds leaseId
  setLegalHold leaseId (some ⟨leaseId, holdType, caller, env.timestamp, reason, expiresAt⟩)
  incrementLegalHolds
  publish (.legalHoldPlaced leaseId holdType caller reason expiresAt)

def releaseLegalHold (env : CleanupEnv) (leaseId : LeaseId) (caller : Address) :
    Cleanup Unit := do
  verifyLegalAuthority caller
  let found ← inspect fun ledger => ledger.cleanup.legalHold leaseId
  let hold ← fetch found (.err .leaseNotFound)
  let admin ← isAdmin caller
  require (hold.initiatedBy = caller ∨ admin = true) .notAuthorized
  setLegalHold leaseId none
  decrementLegalHolds
  publish (.legalHoldReleased leaseId caller env.timestamp)

/-! ## The whitelist -/

def setPruneWhitelist (env : CleanupEnv) (admin address : Address) (listed : Bool) :
    Cleanup Unit := do
  let known ← isAdmin admin
  require (known = true) .notAuthorized
  ensure (env.authorised admin = true) (.trap "HostError: Error(Auth, InvalidAction)")
  updateCleanup fun cleanup => { cleanup with
    pruneWhitelist := Function.update cleanup.pruneWhitelist address listed }

def addPruneWhitelist (env : CleanupEnv) (admin address : Address) : Cleanup Unit :=
  setPruneWhitelist env admin address true

def removePruneWhitelist (env : CleanupEnv) (admin address : Address) : Cleanup Unit :=
  setPruneWhitelist env admin address false

end StorageCleanup

/-! ## Calls of the contract and of the cleanup -/

inductive CleanupCall where
  | pruneFinalizedLease (leaseId : LeaseId) (caller : Address)
  | placeLegalHold (leaseId : LeaseId) (holdType : LegalHoldType) (reason : String)
      (expiresAt : Option U64) (caller : Address)
  | releaseLegalHold (leaseId : LeaseId) (caller : Address)
  | addPruneWhitelist (admin address : Address)
  | removePruneWhitelist (admin address : Address)

def CleanupCall.dispatch (env : CleanupEnv) : CleanupCall → StorageCleanup.Cleanup Unit
  | .pruneFinalizedLease leaseId caller => do
      let _hash ← StorageCleanup.pruneFinalizedLease env leaseId caller
      pure ()
  | .placeLegalHold leaseId holdType reason expiresAt caller =>
      StorageCleanup.placeLegalHold env leaseId holdType reason expiresAt caller
  | .releaseLegalHold leaseId caller => StorageCleanup.releaseLegalHold env leaseId caller
  | .addPruneWhitelist admin address => StorageCleanup.addPruneWhitelist env admin address
  | .removePruneWhitelist admin address => StorageCleanup.removePruneWhitelist env admin address

inductive LedgerInvocation where
  | contract (invocation : Invocation)
  | cleanup (env : CleanupEnv) (call : CleanupCall)

namespace Ledger

def step : LedgerInvocation → Ledger → Ledger
  | .contract invocation, ledger =>
      { ledger with toWorld := LeaseFlow.step invocation ledger.toWorld }
  | .cleanup env call, ledger => (call.dispatch env).attempt ledger

/-- A new deployment, of the contract and of its cleanup. -/
def genesis (config : ConfigStore) (billing : BillingStore)
    (securityCouncil : Option SecurityCouncil) : Ledger where
  toWorld := World.genesis config billing securityCouncil
  cleanup := ⟨fun _ => none, fun _ => none, none, fun _ => false, []⟩

end Ledger

def LedgerInvocation.Committed (invocation : LedgerInvocation) (ledger : Ledger) : Prop :=
  match invocation with
  | .contract invocation => invocation.Committed ledger.toWorld
  | .cleanup env call => (call.dispatch env).succeeds ledger = true

/-! ## What the cleanup leaves alone -/

namespace StorageCleanup

/-- The archive and the tombstones. -/
def records (ledger : Ledger) : ArchiveStore × (LeaseId → Option LeaseTombstone) :=
  (ledger.archive, ledger.cleanup.leaseTombstone)

section Effect

variable {ledger after : Ledger} {env : CleanupEnv}

theorem steady_updateCleanup {change : CleanupStore → CleanupStore}
    (same : ∀ cleanup, (change cleanup).leaseTombstone = cleanup.leaseTombstone) :
    Steady records (updateCleanup change) :=
  steady_modify fun ledger => congrArg (Prod.mk ledger.archive) (same ledger.cleanup)

theorem steady_require (condition : Prop) [Decidable condition] (error : CleanupError) :
    Steady records (require condition error) :=
  steady_ensure condition (CleanupFault.err error)

theorem steady_checked (value limit : Nat) : Steady records (checked value limit) :=
  steady_bind (steady_ensure _ _) fun _ => steady_pure value

theorem steady_publish (event : CleanupEvent) : Steady records (publish event) :=
  steady_updateCleanup fun _ => rfl

theorem steady_setLegalHold (leaseId : LeaseId) (hold : Option LegalHold) :
    Steady records (setLegalHold leaseId hold) :=
  steady_updateCleanup fun _ => rfl

theorem steady_verifyLegalAuthority (caller : Address) :
    Steady records (verifyLegalAuthority caller) :=
  steady_bind (steady_inspect _) fun _ => steady_require _ _

theorem steady_placeLegalHold {leaseId : LeaseId} {holdType : LegalHoldType} {reason : String}
    {expiresAt : Option U64} {caller : Address} :
    Steady records (placeLegalHold env leaseId holdType reason expiresAt caller) := by
  have counted : Steady records incrementLegalHolds :=
    steady_bind (steady_inspect _) fun _ => steady_bind (steady_checked _ _) fun _ =>
      steady_updateCleanup fun _ => rfl
  refine steady_bind (steady_verifyLegalAuthority caller) fun _ => ?_
  refine steady_bind (steady_bind (steady_inspect _) fun _ => steady_fetch _ _) fun _ => ?_
  refine steady_bind (steady_bind (steady_inspect _) fun _ => steady_require _ _) fun _ => ?_
  exact steady_bind (steady_setLegalHold _ _) fun _ => steady_bind counted fun _ =>
    steady_publish _

theorem steady_releaseLegalHold {leaseId : LeaseId} {caller : Address} :
    Steady records (releaseLegalHold env leaseId caller) := by
  have counted : Steady records decrementLegalHolds :=
    steady_bind (steady_inspect _) fun _ => steady_updateCleanup fun _ => rfl
  refine steady_bind (steady_verifyLegalAuthority caller) fun _ => ?_
  refine steady_bind (steady_inspect _) fun _ => steady_bind (steady_fetch _ _) fun _ => ?_
  refine steady_bind (steady_inspect _) fun _ => steady_bind (steady_require _ _) fun _ => ?_
  exact steady_bind (steady_setLegalHold _ _) fun _ => steady_bind counted fun _ =>
    steady_publish _

theorem steady_setPruneWhitelist {admin address : Address} {listed : Bool} :
    Steady records (setPruneWhitelist env admin address listed) := by
  refine steady_bind (steady_inspect _) fun _ => steady_bind (steady_require _ _) fun _ => ?_
  exact steady_bind (steady_ensure _ _) fun _ => steady_updateCleanup fun _ => rfl

theorem steady_calculateLeaseStorageSize (leaseId : LeaseId) :
    Steady records (calculateLeaseStorageSize leaseId) := by
  refine steady_bind (steady_inspect _) fun found => ?_
  cases found with
  | none => exact steady_pure 0
  | some lease => exact steady_checked _ _

theorem steady_updateStorageMetrics (bytesRecovered : U32) :
    Steady records (updateStorageMetrics env bytesRecovered) := by
  refine steady_bind (steady_inspect _) fun metrics => ?_
  refine steady_bind (steady_checked _ _) fun _ => steady_bind (steady_checked _ _) fun _ => ?_
  exact steady_bind (steady_checked _ _) fun _ => steady_updateCleanup fun _ => rfl

theorem executeStorageCleanup_records {leaseId : LeaseId} {tombstone : LeaseTombstone}
    {bytesRecovered : U32}
    (run : Commits (executeStorageCleanup env leaseId tombstone) ledger bytesRecovered after) :
    records after = ((records ledger).1,
      Function.update (records ledger).2 leaseId (some tombstone)) := by
  simp only [executeStorageCleanup, cleanupRelatedData, updateCleanup, commits_bind,
    commits_modify, commits_pure] at run
  obtain ⟨_, _, measured, _, _, rfl, _, _, rfl, _, _, rfl, _, rfl⟩ := run
  rw [← (steady_calculateLeaseStorageSize leaseId).keeps measured]
  rfl

theorem commits_loadLease {leaseId : LeaseId} {lease : LeaseInstance} :
    Commits (loadLease leaseId) ledger lease after ↔
      ledger.leases.lookup leaseId = some lease ∧ after = ledger := by
  simp [loadLease, eq_comm]

theorem steady_verifyPruneAuthorization {ν : Type} (view : Ledger → ν) (caller : Address) :
    Steady view (verifyPruneAuthorization caller) :=
  steady_bind (steady_inspect _) fun _ => steady_bind (steady_inspect _) fun _ =>
    steady_ensure _ _

theorem steady_verifyPruneCooldown (lease : LeaseInstance) :
    Steady records (verifyPruneCooldown env lease) :=
  steady_bind (steady_checked _ _) fun _ => steady_require _ _

theorem steady_verifyNoLegalHolds (leaseId : LeaseId) :
    Steady records (verifyNoLegalHolds leaseId) :=
  steady_bind (steady_inspect _) fun _ => steady_require _ _

/-- A pruning stores the tombstone of the lease it found, over one that may be there. -/
theorem pruneFinalizedLease_records {leaseId : LeaseId} {caller : Address} {hash : BytesN 32}
    (run : Commits (pruneFinalizedLease env leaseId caller) ledger hash after) :
    ∃ lease, ledger.leases.lookup leaseId = some lease ∧
      records after = ((records ledger).1, Function.update (records ledger).2 leaseId
        (some (tombstoneOf env lease leaseId caller))) := by
  simp only [pruneFinalizedLease, createTombstone, commits_bind, commits_ensure,
    commits_pure] at run
  obtain ⟨_, w1, authorised, lease, w2, loaded, _, w3, finalized, _, w4, cooled, _, w5, unheld, _,
    w6, measured, _, w7, ⟨_, w8, ⟨_, same⟩, rfl, again⟩, _, w9, cleaned, _, w10, counted, _, w11,
    published, _, rfl⟩ := run
  have leases : w1.leases = ledger.leases :=
    (steady_verifyPruneAuthorization (·.leases) caller).keeps authorised
  have found : ledger.leases.lookup leaseId = some lease :=
    leases ▸ (commits_loadLease.mp loaded).1
  have kept : records w7 = records ledger := by
    rw [again, same, (steady_calculateLeaseStorageSize _).keeps measured,
      (steady_verifyNoLegalHolds _).keeps unheld, (steady_verifyPruneCooldown _).keeps cooled,
      (steady_require _ _).keeps finalized, (commits_loadLease.mp loaded).2,
      (steady_verifyPruneAuthorization records caller).keeps authorised]
  refine ⟨lease, found, ?_⟩
  rw [(steady_publish _).keeps published, (steady_updateStorageMetrics _).keeps counted,
    executeStorageCleanup_records cleaned, kept]

end Effect

end StorageCleanup

end LeaseFlow
