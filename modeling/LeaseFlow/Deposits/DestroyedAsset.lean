import LeaseFlow.Safeguards.Demotion

/-!
# Destroyed assets

A report that the asset of an active lease is destroyed terminates and archives the lease,
and then slashes its deposit.  The slash looks for the lease in live storage, so it fails
and takes the whole call with it.
-/

set_option autoImplicit false

namespace LeaseFlow

open Transaction

/-- The record of a lease, live or archived, is settled. -/
def World.SettledRecord (leaseId : LeaseId) (world : World) : Prop :=
  ∃ lease : LeaseInstance, lease.depositStatus = .settled ∧
    (world.leases.lookup leaseId = some lease ∨
      ∃ archived, world.archive.historicalLease leaseId = some archived ∧ archived.lease = lease)

/-- The call goes through, the lease is closed, and its landlord is paid the whole deposit
in settlement. -/
structure Invocation.EndsInSlash (leaseId : LeaseId) (lease : LeaseInstance)
    (invocation : Invocation) (world : World) : Prop where
  committed : invocation.Committed world
  closed : ∀ left, (step invocation world).leases.lookup leaseId = some left →
    left.status = .terminated
  paid : (step invocation world).deposits =
    depositPayout invocation.env leaseId .landlordPayout lease.paymentToken lease.landlord
      lease.totalDeposit ++ world.deposits
  settled : (step invocation world).SettledRecord leaseId

section Destruction

variable {env : Env} {world : World} {payload : AssetConditionMetadataPayload}
  {assetRegistryAddress : Address} {lease : LeaseInstance}

/-- The slash does not find the lease that was terminated for it. -/
theorem destruction_refused (stored : world.leases.lookup payload.leaseId = some lease)
    (active : lease.status = .active) (destroyed : payload.assetCondition = .destroyed) :
    ¬ (⟨env, .updateAssetConditionMetadata payload assetRegistryAddress⟩ :
      Invocation).Committed world := by
  intro committed
  obtain ⟨found, standing, idle⟩ :=
    (updateAssetConditionMetadata_commits committed.commits).2 destroyed
  cases stored.symm.trans standing
  exact idle active

/-- No report of a destroyed asset ends an active lease: the call is rolled back. -/
theorem destroyed_asset_never_slashed
    (stored : world.leases.lookup payload.leaseId = some lease)
    (active : lease.status = .active) (destroyed : payload.assetCondition = .destroyed) :
    step ⟨env, .updateAssetConditionMetadata payload assetRegistryAddress⟩ world = world ∧
      ¬ (⟨env, .updateAssetConditionMetadata payload assetRegistryAddress⟩ :
        Invocation).EndsInSlash payload.leaseId lease world := by
  have refused := @destruction_refused env _ _ assetRegistryAddress _ stored active destroyed
  constructor
  · exact step_of_not_committed refused
  · exact fun ends => refused ends.committed

end Destruction

/-! ## A report that passes every check -/

/-- Both oracles are installed, and the record of lease 7 is active. -/
def occupiedWorld : World :=
  guardedWorld.holding 7 (startedLease 1000000 50 50)

def destructionReport : AssetConditionMetadataPayload where
  leaseId := 7
  oraclePubkey := .repeated 32 1
  assetCondition := .destroyed
  nonce := 1
  timestamp := 100001
  signature := .repeated 64 0

/-- The report passes every check of its own, terminates the lease, and then fails because
the lease is gone. -/
theorem destroyed_lease_not_found :
    let report := callAt 100001 (.updateAssetConditionMetadata destructionReport ⟨6⟩)
    Commits (verifyConditionReport report.env destructionReport) occupiedWorld ()
        occupiedWorld ∧
      report.env.contracts.updateAssetMetadata ⟨6⟩ 7 AssetCondition.destroyed.name = true ∧
      (∃ attempted, Faults report.body occupiedWorld (.err .leaseNotFound) attempted) ∧
      ∃ lease, occupiedWorld.leases.lookup 7 = some lease ∧ lease.status = .active ∧
        ¬ report.EndsInSlash 7 lease occupiedWorld := by
  refine ⟨?_, rfl, ⟨_, rfl⟩, ⟨_, rfl, rfl, fun ends => ?_⟩⟩
  · exact (commits_verifyConditionReport destructionReport ()).mpr
      ⟨⟨rfl, by decide, by decide, rfl, ⟨_, rfl⟩, by decide, rfl⟩, rfl⟩
  · exact destruction_refused rfl rfl rfl ends.committed

/-- The same report leaves the store as it was. -/
theorem occupiedWorld_unchanged :
    step (callAt 100001 (.updateAssetConditionMetadata destructionReport ⟨6⟩)) occupiedWorld =
      occupiedWorld :=
  (@destroyed_asset_never_slashed _ occupiedWorld destructionReport _ _ rfl rfl rfl).1

end LeaseFlow
