import LeaseFlow.Contract.Footprint

/-!
# Administration

The operations of the stored admin, the admission checks every creation makes,
and the platform fee.
-/

set_option autoImplicit false

namespace LeaseFlow

open Transaction

def updateConfig (change : ConfigStore → ConfigStore) : Contract Unit :=
  modify fun world => { world with config := change world.config }

def updateBilling (change : BillingStore → BillingStore) : Contract Unit :=
  modify fun world => { world with billing := change world.billing }

/-- The check every admin operation opens with. -/
def requireStoredAdmin (env : Env) (admin : Address) : Contract Unit := do
  let stored ← inspect fun world => world.config.admin
  let storedAdmin ← okOr stored .unauthorised
  require (admin = storedAdmin) .unauthorised
  requireAuth env admin

/-! ## Installing the admin -/

/-- The source's `initialize`: it neither checks for a stored admin nor asks for authorization. -/
def initializeContract (admin : Address) : Contract Unit :=
  updateConfig fun config => { config with admin := some admin }

def setAdmin (admin : Address) : Contract Unit := do
  let stored ← inspect fun world => world.config.admin
  require (stored = none) .unauthorised
  updateConfig fun config => { config with admin := some admin }

/-! ## Settings -/

def addAllowedAsset (env : Env) (admin asset : Address) : Contract Unit := do
  requireStoredAdmin env admin
  updateConfig fun config =>
    { config with allowedAsset := Function.update config.allowedAsset asset true }

def setKycProvider (env : Env) (admin provider : Address) : Contract Unit := do
  requireStoredAdmin env admin
  updateConfig fun config => { config with kycProvider := some provider }

def setPlatformFee (env : Env) (admin : Address) (feeAmount : I128)
    (feeToken feeRecipient : Address) : Contract Unit := do
  requireStoredAdmin env admin
  updateConfig fun config => { config with
    platformFeeAmount := some feeAmount
    platformFeeToken := some feeToken
    platformFeeRecipient := some feeRecipient }

def setTermsHash (env : Env) (admin : Address) (hash : BytesN 32) : Contract Unit := do
  requireStoredAdmin env admin
  updateConfig fun config => { config with termsHash := some hash }
  publish (.termsHashUpdated hash)

/-- The new code takes over after the call; the store stays as it is. -/
def upgrade (env : Env) (admin : Address) (expectedTermsHash : BytesN 32) : Contract Unit := do
  requireStoredAdmin env admin
  let current ← inspect fun world => world.config.termsHash
  require (∀ hash, current = some hash → hash = expectedTermsHash) .upgradeNotAllowed

def addWhitelistedRegistry (env : Env) (admin registryAddress : Address) : Contract Unit := do
  requireStoredAdmin env admin
  let isWhitelisted ← okOr (env.contracts.registryIsWhitelisted registryAddress)
    .assetRegistryInvalid
  require (isWhitelisted = true) .assetRegistryInvalid
  updateConfig fun config => { config with
    whitelistedRegistry := Function.update config.whitelistedRegistry registryAddress true }

def removeWhitelistedRegistry (env : Env) (admin registryAddress : Address) : Contract Unit := do
  requireStoredAdmin env admin
  updateConfig fun config => { config with
    whitelistedRegistry := Function.update config.whitelistedRegistry registryAddress false }

def getLiquidityBuffer : Contract I128 :=
  inspect fun world => world.config.liquidityBuffer.getD 0

def setLiquidityBuffer (amount : I128) : Contract Unit :=
  updateConfig fun config => { config with liquidityBuffer := some amount }

def setLiquidityBufferAmount (env : Env) (admin : Address) (bufferAmount : I128) :
    Contract Unit := do
  requireStoredAdmin env admin
  setLiquidityBuffer bufferAmount

/-! ## Admission checks -/

def requireStablecoin (token : Address) : Contract Unit := do
  let allowed ← inspect fun world => world.config.allowedAsset token
  require (allowed = true) .invalidAsset

def requireKyc (env : Env) (landlord tenant : Address) : Contract Unit := do
  let provider ← inspect fun world => world.config.kycProvider
  require (∀ address, provider = some address →
    env.contracts.isVerified address landlord = true ∧
      env.contracts.isVerified address tenant = true) .kycRequired

/-! ## The platform fee bounty -/

/-- The relayer's bounty out of the platform fee, in basis points.  The fee has to be
configured in full. -/
def platformFee : Contract (Option (I128 × Address × Address)) :=
  inspect fun world =>
    match world.config.platformFeeAmount, world.config.platformFeeToken,
        world.config.platformFeeRecipient with
    | some feeAmount, some feeToken, some feeRecipient => some (feeAmount, feeToken, feeRecipient)
    | _, _, _ => none

/-! ## Footprints -/

section Footprints

variable {parts : List Part} {env : Env}

@[simp] theorem writes_installAdmin (may : .admin ∈ parts) (admin : Address) :
    Writes parts (updateConfig fun config => { config with admin := some admin }) := by
  refine writes_modify fun state part aside => ?_
  cases part <;> first | rfl | exact absurd may aside

@[simp] theorem writes_updateConfig {change : ConfigStore → ConfigStore}
    (same : ∀ config, (change config).admin = config.admin) (may : .settings ∈ parts) :
    Writes parts (updateConfig change) := by
  refine writes_modify fun state part aside => ?_
  cases part <;> first | rfl | exact same state.config | exact absurd may aside

@[simp] theorem writes_updateBilling (may : .billing ∈ parts)
    (change : BillingStore → BillingStore) : Writes parts (updateBilling change) := by
  refine writes_modify fun state part aside => ?_
  cases part <;> first | rfl | exact absurd may aside

@[simp] theorem writes_requireStoredAdmin (admin : Address) :
    Writes parts (requireStoredAdmin env admin) := by
  unfold requireStoredAdmin
  repeat refine writes_bind (by simp) fun _ => ?_
  simp

@[simp] theorem commits_requireStoredAdmin (env : Env) (admin : Address) {world after : World}
    (result : Unit) :
    Commits (requireStoredAdmin env admin) world result after ↔
      world.config.admin = some admin ∧ env.authorised admin = true ∧ after = world := by
  simp [requireStoredAdmin, and_assoc]

@[simp] theorem writes_initializeContract (may : .admin ∈ parts) (admin : Address) :
    Writes parts (initializeContract admin) :=
  writes_installAdmin may admin

@[simp] theorem writes_setAdmin (may : .admin ∈ parts) (admin : Address) :
    Writes parts (setAdmin admin) := by
  unfold setAdmin
  repeat refine writes_bind (by simp) fun _ => ?_
  simp [may]

@[simp] theorem writes_addAllowedAsset (may : .settings ∈ parts) (admin asset : Address) :
    Writes parts (addAllowedAsset env admin asset) := by
  simp [addAllowedAsset, may]

@[simp] theorem writes_setKycProvider (may : .settings ∈ parts) (admin provider : Address) :
    Writes parts (setKycProvider env admin provider) := by
  simp [setKycProvider, may]

@[simp] theorem writes_setPlatformFee (may : .settings ∈ parts) (admin : Address)
    (feeAmount : I128) (feeToken feeRecipient : Address) :
    Writes parts (setPlatformFee env admin feeAmount feeToken feeRecipient) := by
  simp [setPlatformFee, may]

@[simp] theorem writes_setTermsHash (may : .settings ∈ parts) (announces : .events ∈ parts)
    (admin : Address) (hash : BytesN 32) : Writes parts (setTermsHash env admin hash) := by
  unfold setTermsHash
  repeat refine writes_bind (by simp [may]) fun _ => ?_
  simp [announces]

@[simp] theorem writes_upgrade (admin : Address) (expectedTermsHash : BytesN 32) :
    Writes parts (upgrade env admin expectedTermsHash) := by
  simp [upgrade]

@[simp] theorem writes_addWhitelistedRegistry (may : .settings ∈ parts)
    (admin registryAddress : Address) :
    Writes parts (addWhitelistedRegistry env admin registryAddress) := by
  unfold addWhitelistedRegistry
  repeat refine writes_bind (by simp) fun _ => ?_
  simp [may]

@[simp] theorem writes_removeWhitelistedRegistry (may : .settings ∈ parts)
    (admin registryAddress : Address) :
    Writes parts (removeWhitelistedRegistry env admin registryAddress) := by
  simp [removeWhitelistedRegistry, may]

@[simp] theorem writes_getLiquidityBuffer : Writes parts getLiquidityBuffer :=
  writes_inspect _

@[simp] theorem writes_setLiquidityBuffer (may : .settings ∈ parts) (amount : I128) :
    Writes parts (setLiquidityBuffer amount) := by
  simp [setLiquidityBuffer, may]

@[simp] theorem writes_setLiquidityBufferAmount (may : .settings ∈ parts) (admin : Address)
    (bufferAmount : I128) : Writes parts (setLiquidityBufferAmount env admin bufferAmount) := by
  simp [setLiquidityBufferAmount, may]

@[simp] theorem writes_requireStablecoin (token : Address) :
    Writes parts (requireStablecoin token) := by
  simp [requireStablecoin]

@[simp] theorem writes_requireKyc (landlord tenant : Address) :
    Writes parts (requireKyc env landlord tenant) := by
  simp [requireKyc]

@[simp] theorem writes_platformFee : Writes parts platformFee :=
  writes_inspect _

end Footprints

end LeaseFlow
