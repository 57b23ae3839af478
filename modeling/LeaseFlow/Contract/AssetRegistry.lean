import LeaseFlow.Contract.Administration

/-!
# Real-world assets

Freezing a lease's asset in its registry when the lease is created, and thawing
it when the lease ends.
-/

set_option autoImplicit false

namespace LeaseFlow

open Transaction

def updateAssets (change : AssetStore → AssetStore) : Contract Unit :=
  modify fun world => { world with assets := change world.assets }

def verifyAssetOwnership (env : Env) (leaseId : LeaseId) (landlord registryAddress : Address)
    (assetId : U128) : Contract (BytesN 32) := do
  let known ← inspect fun world => world.config.whitelistedRegistry registryAddress
  require (known = true) .assetRegistryInvalid
  let isWhitelisted ← okOr (env.contracts.registryIsWhitelisted registryAddress)
    .assetRegistryInvalid
  require (isWhitelisted = true) .assetRegistryInvalid
  require (env.contracts.verifyOwnership registryAddress assetId landlord = true) .assetNotOwned
  let freezeProof ← okOr (env.contracts.freezeAsset registryAddress assetId) .assetFreezeFailed
  updateAssets fun assets => { assets with
    assetFreezeProof :=
      Function.update assets.assetFreezeProof (leaseId, registryAddress, assetId) (some freezeProof)
    frozenAsset := Function.update assets.frozenAsset (leaseId, registryAddress, assetId) true }
  publish (.assetOwnershipVerified leaseId registryAddress assetId landlord freezeProof
    env.timestamp)
  pure freezeProof

def thawAsset (env : Env) (leaseId : LeaseId) (registryAddress : Address) (assetId : U128) :
    Contract Unit := do
  let frozen ← inspect fun world => world.assets.frozenAsset (leaseId, registryAddress, assetId)
  require (frozen = true) .assetThawFailed
  let proof ← inspect fun world =>
    world.assets.assetFreezeProof (leaseId, registryAddress, assetId)
  let freezeProof ← okOr proof .assetThawFailed
  require (env.contracts.thawAsset registryAddress assetId freezeProof = true) .assetThawFailed
  updateAssets fun assets => { assets with
    frozenAsset := Function.update assets.frozenAsset (leaseId, registryAddress, assetId) false
    assetFreezeProof :=
      Function.update assets.assetFreezeProof (leaseId, registryAddress, assetId) none }

/-- `let _ = Self::thaw_asset(..)`: an `Err` of the thaw is dropped. -/
def thawLeaseAsset (env : Env) (leaseId : LeaseId) (lease : LeaseInstance) : Contract Unit :=
  match lease.assetRegistryAddress, lease.assetId with
  | some registryAddress, some assetId => do
      let _dropped ← resultOf (thawAsset env leaseId registryAddress assetId)
      pure ()
  | _, _ => pure ()

/-! ## Footprints -/

section Footprints

variable {parts : List Part} {env : Env}

@[simp] theorem writes_verifyAssetOwnership (may : .frozenAssets ∈ parts)
    (announces : .events ∈ parts) (leaseId : LeaseId) (landlord registryAddress : Address)
    (assetId : U128) :
    Writes parts (verifyAssetOwnership env leaseId landlord registryAddress assetId) := by
  unfold verifyAssetOwnership
  repeat refine writes_bind (by simp) fun _ => ?_
  refine writes_bind (writes_modify fun state part aside => ?_) fun _ => by simp [announces]
  cases part <;> first | rfl | exact absurd may aside

@[simp] theorem writes_thawAsset (may : .frozenAssets ∈ parts) (leaseId : LeaseId)
    (registryAddress : Address) (assetId : U128) :
    Writes parts (thawAsset env leaseId registryAddress assetId) := by
  unfold thawAsset
  repeat refine writes_bind (by simp) fun _ => ?_
  refine writes_modify fun state part aside => ?_
  cases part <;> first | rfl | exact absurd may aside

@[simp] theorem writes_thawLeaseAsset (may : .frozenAssets ∈ parts) (leaseId : LeaseId)
    (lease : LeaseInstance) : Writes parts (thawLeaseAsset env leaseId lease) := by
  unfold thawLeaseAsset
  split
  · exact writes_bind (writes_resultOf (writes_thawAsset may _ _ _)) fun _ => writes_pure ()
  · exact writes_pure ()

end Footprints

end LeaseFlow
