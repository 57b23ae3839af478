import LeaseFlow.Archive.StorageCleanup

/-!
# What a cleanup does

One rule for each operation of the cleanup: what it asks of the ledger, and the ledger it leaves.
-/

set_option autoImplicit false

namespace LeaseFlow

open Transaction StorageCleanup

/-! ## The ledgers they leave -/

/-- The metrics that are read, all zero before the first write. -/
def Ledger.storageMetrics (ledger : Ledger) : StorageMetrics :=
  ledger.cleanup.storageMetrics.getD ⟨0, 0, 0, 0, 0, 0⟩

def Ledger.putMetrics (metrics : StorageMetrics) (ledger : Ledger) : Ledger :=
  { ledger with cleanup := { ledger.cleanup with storageMetrics := some metrics } }

def Ledger.putHold (leaseId : LeaseId) (hold : Option LegalHold) (ledger : Ledger) : Ledger :=
  { ledger with cleanup := { ledger.cleanup with
    legalHold := Function.update ledger.cleanup.legalHold leaseId hold } }

def Ledger.emit (event : CleanupEvent) (ledger : Ledger) : Ledger :=
  { ledger with cleanup := { ledger.cleanup with events := event :: ledger.cleanup.events } }

/-- The ledger with a tombstone in place of a lease. -/
def Ledger.entombed (env : CleanupEnv) (leaseId : LeaseId) (tombstone : LeaseTombstone)
    (ledger : Ledger) : Ledger :=
  { ledger with
    leases := ledger.leases.set leaseId none
    rent := {
      authorizedPayer :=
        Function.update ledger.rent.authorizedPayer (leaseId, env.randomPayer) false
      roommateBalance :=
        Function.update ledger.rent.roommateBalance (leaseId, env.randomRoommate) none }
    assets := { ledger.assets with
      tenantFlag := Function.update ledger.assets.tenantFlag leaseId false }
    cleanup := { ledger.cleanup with
      leaseTombstone := Function.update ledger.cleanup.leaseTombstone leaseId (some tombstone) } }

def LeaseInstance.storageSize (lease : LeaseInstance) : U32 :=
  512 + lease.arbitrators.length * 32 + 8 * 16 + 4 * 64

/-- What the pruning of the lease recovers. -/
def LeaseInstance.bytesRecovered (lease : LeaseInstance) : U32 :=
  lease.storageSize - calculateTombstoneSize

def StorageMetrics.pruned (env : CleanupEnv) (bytesRecovered : U32) (metrics : StorageMetrics) :
    StorageMetrics :=
  { metrics with
    totalLeasesPruned := metrics.totalLeasesPruned + 1
    totalBytesRecovered := metrics.totalBytesRecovered + bytesRecovered
    totalTombstonesCreated := metrics.totalTombstonesCreated + 1
    lastPruneTimestamp := env.timestamp
    averageLeaseSizeBytes := (metrics.totalBytesRecovered + bytesRecovered) /
      (metrics.totalLeasesPruned + 1) % 2 ^ 32 }

def Ledger.pruned (env : CleanupEnv) (leaseId : LeaseId) (caller : Address) (lease : LeaseInstance)
    (ledger : Ledger) : Ledger :=
  let tombstone := tombstoneOf env lease leaseId caller
  ((ledger.entombed env leaseId tombstone).putMetrics
    (ledger.storageMetrics.pruned env lease.bytesRecovered)).emit
      (.leaseDataPruned leaseId lease.bytesRecovered (computeTombstoneHash env tombstone) caller
        env.timestamp)

/-! ## What they ask for -/

/-- The caller is whitelisted, or the admin. -/
def Ledger.MayPrune (ledger : Ledger) (caller : Address) : Prop :=
  ledger.cleanup.pruneWhitelist caller = true ∨ ledger.config.admin = some caller

/-- The counters of the metrics stay in range. -/
structure StorageMetrics.CountsOne (metrics : StorageMetrics) (bytesRecovered : U32) : Prop where
  leases : metrics.totalLeasesPruned + 1 ≤ u64Max
  bytes : metrics.totalBytesRecovered + bytesRecovered ≤ u64Max
  tombstones : metrics.totalTombstonesCreated + 1 ≤ u64Max

/-- What the pruning of a lease asks for beside its caller and the ledger time. -/
structure Ledger.Prunable (ledger : Ledger) (leaseId : LeaseId) (lease : LeaseInstance) :
    Prop where
  found : ledger.leases.lookup leaseId = some lease
  final : lease.status = .terminated ∨ lease.status = .expired
  unheld : ledger.cleanup.legalHold leaseId = none
  dated : lease.endDate + pruneCooldownSeconds ≤ u64Max
  sized : lease.storageSize ≤ 2 ^ 32 - 1
  totalled : i128Min ≤ lease.depositAmount + lease.securityDeposit ∧
    lease.depositAmount + lease.securityDeposit ≤ i128Max
  counted : ledger.storageMetrics.CountsOne lease.bytesRecovered

namespace StorageCleanup

section Rules

variable {ledger after : Ledger} {env : CleanupEnv} {leaseId : LeaseId} {caller : Address}

@[simp] theorem commits_require (condition : Prop) [Decidable condition] (error : CleanupError)
    (result : Unit) :
    Commits (require condition error) ledger result after ↔ condition ∧ after = ledger :=
  commits_ensure condition _ result

@[simp] theorem commits_checked (value limit result : Nat) :
    Commits (checked value limit) ledger result after ↔
      value ≤ limit ∧ result = value ∧ after = ledger := by
  simp only [checked, commits_bind, commits_ensure, commits_pure]
  constructor
  · rintro ⟨_, _, ⟨fits, rfl⟩, rfl, rfl⟩
    exact ⟨fits, rfl, rfl⟩
  · rintro ⟨fits, rfl, rfl⟩
    exact ⟨(), _, ⟨fits, rfl⟩, rfl, rfl⟩

@[simp] theorem commits_isAdmin (address : Address) (known : Bool) :
    Commits (isAdmin address) ledger known after ↔
      known = decide (ledger.config.admin = some address) ∧ after = ledger :=
  commits_inspect _ _

@[simp] theorem commits_verifyPruneAuthorization (result : Unit) :
    Commits (verifyPruneAuthorization caller) ledger result after ↔
      ledger.MayPrune caller ∧ after = ledger := by
  simp only [verifyPruneAuthorization, commits_bind, commits_inspect, commits_isAdmin,
    commits_require]
  constructor
  · rintro ⟨_, _, ⟨rfl, rfl⟩, _, _, ⟨rfl, rfl⟩, allowed, rfl⟩
    exact ⟨allowed.imp_right of_decide_eq_true, rfl⟩
  · rintro ⟨allowed, rfl⟩
    exact ⟨_, _, ⟨rfl, rfl⟩, _, _, ⟨rfl, rfl⟩, allowed.imp_right decide_eq_true, rfl⟩

@[simp] theorem commits_verifyLegalAuthority (result : Unit) :
    Commits (verifyLegalAuthority caller) ledger result after ↔
      ledger.config.admin = some caller ∧ after = ledger := by
  simp only [verifyLegalAuthority, commits_bind, commits_isAdmin, commits_require]
  constructor
  · rintro ⟨_, _, ⟨rfl, rfl⟩, known, rfl⟩
    exact ⟨of_decide_eq_true known, rfl⟩
  · rintro ⟨known, rfl⟩
    exact ⟨_, _, ⟨rfl, rfl⟩, decide_eq_true known, rfl⟩

@[simp] theorem commits_verifyPruneCooldown (lease : LeaseInstance) (result : Unit) :
    Commits (verifyPruneCooldown env lease) ledger result after ↔
      (lease.endDate + pruneCooldownSeconds ≤ u64Max ∧
        lease.endDate + pruneCooldownSeconds ≤ env.timestamp) ∧ after = ledger := by
  simp only [verifyPruneCooldown, commits_bind, commits_checked, commits_require]
  constructor
  · rintro ⟨_, _, ⟨fits, rfl, rfl⟩, due, rfl⟩
    exact ⟨⟨fits, due⟩, rfl⟩
  · rintro ⟨⟨fits, due⟩, rfl⟩
    exact ⟨_, _, ⟨fits, rfl, rfl⟩, due, rfl⟩

@[simp] theorem commits_verifyNoLegalHolds (result : Unit) :
    Commits (verifyNoLegalHolds leaseId) ledger result after ↔
      ledger.cleanup.legalHold leaseId = none ∧ after = ledger := by
  simp only [verifyNoLegalHolds, commits_bind, commits_inspect, commits_require]
  constructor
  · rintro ⟨_, _, ⟨rfl, rfl⟩, unheld, rfl⟩
    exact ⟨Option.isSome_eq_false_iff.mp unheld |> Option.isNone_iff_eq_none.mp, rfl⟩
  · rintro ⟨unheld, rfl⟩
    exact ⟨_, _, ⟨rfl, rfl⟩, by rw [unheld]; rfl, rfl⟩

theorem commits_calculateLeaseStorageSize {lease : LeaseInstance}
    (found : ledger.leases.lookup leaseId = some lease) (size : U32) :
    Commits (calculateLeaseStorageSize leaseId) ledger size after ↔
      lease.storageSize ≤ 2 ^ 32 - 1 ∧ size = lease.storageSize ∧ after = ledger := by
  simp only [calculateLeaseStorageSize, commits_bind, commits_inspect]
  constructor
  · rintro ⟨_, _, ⟨rfl, rfl⟩, measured⟩
    rw [found] at measured
    exact (commits_checked _ _ _).mp measured
  · rintro ⟨sized, rfl, rfl⟩
    refine ⟨_, _, ⟨rfl, rfl⟩, ?_⟩
    rw [found]
    exact (commits_checked _ _ _).mpr ⟨sized, rfl, rfl⟩

@[simp] theorem commits_createTombstone (lease : LeaseInstance) (tombstone : LeaseTombstone) :
    Commits (createTombstone env lease leaseId caller) ledger tombstone after ↔
      (i128Min ≤ lease.depositAmount + lease.securityDeposit ∧
        lease.depositAmount + lease.securityDeposit ≤ i128Max) ∧
      tombstone = tombstoneOf env lease leaseId caller ∧ after = ledger := by
  simp only [createTombstone, commits_bind, commits_ensure, commits_pure]
  constructor
  · rintro ⟨_, _, ⟨totalled, rfl⟩, rfl, rfl⟩
    exact ⟨totalled, rfl, rfl⟩
  · rintro ⟨totalled, rfl, rfl⟩
    exact ⟨(), _, ⟨totalled, rfl⟩, rfl, rfl⟩

theorem commits_executeStorageCleanup {lease : LeaseInstance}
    (found : ledger.leases.lookup leaseId = some lease) (tombstone : LeaseTombstone)
    (bytesRecovered : U32) :
    Commits (executeStorageCleanup env leaseId tombstone) ledger bytesRecovered after ↔
      lease.storageSize ≤ 2 ^ 32 - 1 ∧ bytesRecovered = lease.bytesRecovered ∧
        after = ledger.entombed env leaseId tombstone := by
  simp only [executeStorageCleanup, cleanupRelatedData, updateCleanup, commits_bind,
    commits_modify, commits_pure, commits_calculateLeaseStorageSize found]
  constructor
  · rintro ⟨_, _, ⟨sized, rfl, rfl⟩, _, _, rfl, _, _, rfl, _, _, rfl, recovered, left⟩
    exact ⟨sized, recovered, left⟩
  · rintro ⟨sized, recovered, left⟩
    exact ⟨_, _, ⟨sized, rfl, rfl⟩, (), _, rfl, (), _, rfl, (), _, rfl, recovered, left⟩

@[simp] theorem commits_getStorageMetrics (metrics : StorageMetrics) :
    Commits getStorageMetrics ledger metrics after ↔
      metrics = ledger.storageMetrics ∧ after = ledger :=
  commits_inspect _ _

@[simp] theorem commits_saveStorageMetrics (metrics : StorageMetrics) (result : Unit) :
    Commits (saveStorageMetrics metrics) ledger result after ↔ after = ledger.putMetrics metrics :=
  commits_modify _ result

@[simp] theorem commits_setLegalHold (hold : Option LegalHold) (result : Unit) :
    Commits (setLegalHold leaseId hold) ledger result after ↔ after = ledger.putHold leaseId hold :=
  commits_modify _ result

@[simp] theorem commits_publish (event : CleanupEvent) (result : Unit) :
    Commits (publish event) ledger result after ↔ after = ledger.emit event :=
  commits_modify _ result

@[simp] theorem commits_updateStorageMetrics (bytesRecovered : U32) (result : Unit) :
    Commits (updateStorageMetrics env bytesRecovered) ledger result after ↔
      ledger.storageMetrics.CountsOne bytesRecovered ∧
        after = ledger.putMetrics (ledger.storageMetrics.pruned env bytesRecovered) := by
  simp only [updateStorageMetrics, commits_bind, commits_getStorageMetrics, commits_checked,
    commits_saveStorageMetrics]
  constructor
  · rintro ⟨_, _, ⟨rfl, rfl⟩, _, _, ⟨leases, rfl, rfl⟩, _, _, ⟨bytes, rfl, rfl⟩, _, _,
      ⟨tombstones, rfl, rfl⟩, rfl⟩
    exact ⟨⟨leases, bytes, tombstones⟩, rfl⟩
  · rintro ⟨⟨leases, bytes, tombstones⟩, rfl⟩
    exact ⟨_, _, ⟨rfl, rfl⟩, _, _, ⟨leases, rfl, rfl⟩, _, _, ⟨bytes, rfl, rfl⟩, _, _,
      ⟨tombstones, rfl, rfl⟩, rfl⟩

/-! ### The operations -/

/-- A lease is pruned exactly where it is prunable, by a caller who may, when the cooldown that
its end date starts has passed. -/
theorem commits_pruneFinalizedLease (hash : BytesN 32) :
    Commits (pruneFinalizedLease env leaseId caller) ledger hash after ↔
      ∃ lease, ledger.Prunable leaseId lease ∧ ledger.MayPrune caller ∧
        lease.endDate + pruneCooldownSeconds ≤ env.timestamp ∧
        hash = computeTombstoneHash env (tombstoneOf env lease leaseId caller) ∧
        after = ledger.pruned env leaseId caller lease := by
  simp only [pruneFinalizedLease, verifyLeaseFinalized, commits_bind,
    commits_verifyPruneAuthorization, commits_loadLease, commits_require,
    commits_verifyPruneCooldown, commits_verifyNoLegalHolds, commits_createTombstone,
    commits_updateStorageMetrics, commits_publish, commits_pure]
  constructor
  · rintro ⟨_, _, ⟨allowed, rfl⟩, lease, _, ⟨found, rfl⟩, _, _, ⟨final, rfl⟩, _, _,
      ⟨⟨dated, due⟩, rfl⟩, _, _, ⟨unheld, rfl⟩, _, _, measured, _, _, ⟨totalled, rfl, rfl⟩, _, _,
      cleaned, _, _, ⟨counted, rfl⟩, _, _, rfl, rfl, rfl⟩
    obtain ⟨sized, -, rfl⟩ := (commits_calculateLeaseStorageSize found _).mp measured
    obtain ⟨-, recovered, rfl⟩ := (commits_executeStorageCleanup found _ _).mp cleaned
    rw [recovered] at counted ⊢
    exact ⟨lease, ⟨found, final, unheld, dated, sized, totalled, counted⟩, allowed, due, rfl, rfl⟩
  · rintro ⟨lease, ⟨found, final, unheld, dated, sized, totalled, counted⟩, allowed, due, rfl, rfl⟩
    exact ⟨(), _, ⟨allowed, rfl⟩, lease, _, ⟨found, rfl⟩, (), _, ⟨final, rfl⟩, (), _,
      ⟨⟨dated, due⟩, rfl⟩, (), _, ⟨unheld, rfl⟩, _, _,
      (commits_calculateLeaseStorageSize found _).mpr ⟨sized, rfl, rfl⟩, _, _,
      ⟨totalled, rfl, rfl⟩, _, _, (commits_executeStorageCleanup found _ _).mpr ⟨sized, rfl, rfl⟩,
      (), _, ⟨counted, rfl⟩, (), _, rfl, rfl, rfl⟩

theorem commits_placeLegalHold {holdType : LegalHoldType} {reason : String}
    {expiresAt : Option U64} (result : Unit) :
    Commits (placeLegalHold env leaseId holdType reason expiresAt caller) ledger result after ↔
      (ledger.config.admin = some caller ∧ (∃ lease, ledger.leases.lookup leaseId = some lease) ∧
        ledger.cleanup.legalHold leaseId = none ∧
        ledger.storageMetrics.activeLegalHolds + 1 ≤ u64Max) ∧
      after = ((ledger.putHold leaseId
        (some ⟨leaseId, holdType, caller, env.timestamp, reason, expiresAt⟩)).putMetrics
          { ledger.storageMetrics with
            activeLegalHolds := ledger.storageMetrics.activeLegalHolds + 1 }).emit
              (.legalHoldPlaced leaseId holdType caller reason expiresAt) := by
  simp only [placeLegalHold, incrementLegalHolds, commits_bind, commits_verifyLegalAuthority,
    commits_loadLease, commits_verifyNoLegalHolds, commits_setLegalHold,
    commits_getStorageMetrics, commits_checked, commits_saveStorageMetrics, commits_publish]
  constructor
  · rintro ⟨_, _, ⟨admin, rfl⟩, lease, _, ⟨found, rfl⟩, _, _, ⟨unheld, rfl⟩, _, _, rfl, _, _,
      ⟨_, _, ⟨rfl, rfl⟩, _, _, ⟨counted, rfl, rfl⟩, rfl⟩, rfl⟩
    exact ⟨⟨admin, ⟨lease, found⟩, unheld, counted⟩, rfl⟩
  · rintro ⟨⟨admin, ⟨lease, found⟩, unheld, counted⟩, rfl⟩
    exact ⟨(), _, ⟨admin, rfl⟩, lease, _, ⟨found, rfl⟩, (), _, ⟨unheld, rfl⟩, (), _, rfl, (), _,
      ⟨_, _, ⟨rfl, rfl⟩, _, _, ⟨counted, rfl, rfl⟩, rfl⟩, rfl⟩

theorem commits_releaseLegalHold (result : Unit) :
    Commits (releaseLegalHold env leaseId caller) ledger result after ↔
      (ledger.config.admin = some caller ∧
        ∃ hold, ledger.cleanup.legalHold leaseId = some hold) ∧
      after = ((ledger.putHold leaseId none).putMetrics
        { ledger.storageMetrics with
          activeLegalHolds := ledger.storageMetrics.activeLegalHolds - 1 }).emit
            (.legalHoldReleased leaseId caller env.timestamp) := by
  simp only [releaseLegalHold, decrementLegalHolds, commits_bind, commits_verifyLegalAuthority,
    commits_inspect, commits_fetch, commits_isAdmin, commits_require, commits_setLegalHold,
    commits_getStorageMetrics, commits_saveStorageMetrics, commits_publish]
  constructor
  · rintro ⟨_, _, ⟨admin, rfl⟩, _, _, ⟨rfl, rfl⟩, hold, _, ⟨found, rfl⟩, _, _, ⟨rfl, rfl⟩, _, _,
      ⟨_, rfl⟩, _, _, rfl, _, _, ⟨_, _, ⟨rfl, rfl⟩, rfl⟩, rfl⟩
    exact ⟨⟨admin, hold, found⟩, rfl⟩
  · rintro ⟨⟨admin, hold, found⟩, rfl⟩
    exact ⟨(), _, ⟨admin, rfl⟩, _, _, ⟨rfl, rfl⟩, hold, _, ⟨found, rfl⟩, _, _, ⟨rfl, rfl⟩, (), _,
      ⟨.inr (decide_eq_true admin), rfl⟩, (), _, rfl, (), _, ⟨_, _, ⟨rfl, rfl⟩, rfl⟩, rfl⟩

theorem commits_setPruneWhitelist {admin address : Address} {listed : Bool} (result : Unit) :
    Commits (setPruneWhitelist env admin address listed) ledger result after ↔
      (ledger.config.admin = some admin ∧ env.authorised admin = true) ∧
      after = { ledger with cleanup := { ledger.cleanup with
        pruneWhitelist := Function.update ledger.cleanup.pruneWhitelist address listed } } := by
  simp only [setPruneWhitelist, updateCleanup, commits_bind, commits_isAdmin, commits_require,
    commits_ensure, commits_modify]
  constructor
  · rintro ⟨_, _, ⟨rfl, rfl⟩, _, _, ⟨known, rfl⟩, _, _, ⟨signed, rfl⟩, rfl⟩
    exact ⟨⟨of_decide_eq_true known, signed⟩, rfl⟩
  · rintro ⟨⟨known, signed⟩, rfl⟩
    exact ⟨_, _, ⟨rfl, rfl⟩, (), _, ⟨decide_eq_true known, rfl⟩, (), _, ⟨signed, rfl⟩, rfl⟩

theorem prune_commits_iff :
    Commits ((CleanupCall.pruneFinalizedLease leaseId caller).dispatch env) ledger () after ↔
      ∃ lease, ledger.Prunable leaseId lease ∧ ledger.MayPrune caller ∧
        lease.endDate + pruneCooldownSeconds ≤ env.timestamp ∧
        after = ledger.pruned env leaseId caller lease := by
  simp only [CleanupCall.dispatch, commits_bind, commits_pure]
  constructor
  · rintro ⟨_, _, pruned, _, rfl⟩
    obtain ⟨lease, prunable, allowed, due, _, rfl⟩ := (commits_pruneFinalizedLease _).mp pruned
    exact ⟨lease, prunable, allowed, due, rfl⟩
  · rintro ⟨lease, prunable, allowed, due, rfl⟩
    exact ⟨_, _, (commits_pruneFinalizedLease _).mpr ⟨lease, prunable, allowed, due, rfl, rfl⟩,
      trivial, rfl⟩

end Rules

end StorageCleanup

end LeaseFlow
