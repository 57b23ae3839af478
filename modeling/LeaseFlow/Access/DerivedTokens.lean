import LeaseFlow.Access.LesseeTokens

/-!
# The derived access token manager

Tokens derived from a parent token, kept in a registry of their own.  A mint looks its parent up
among the lessee tokens for its state and its lease, and among the derived tokens for its depth.
-/

set_option autoImplicit false

namespace LeaseFlow.Access

open Transaction Failure

abbrev DerivedManager (α : Type) := Managed DerivedTokenError α

def maxHierarchyDepth : U32 := 10

/-! ## Lookups -/

def getDerivedToken (tokenId : U128) : DerivedManager DerivedAccessToken := do
  let found ← inspect fun tenancy => tenancy.derived.derivedToken.lookup tokenId
  orErr found .parentTokenNotFound

/-- `get_access_token(..).map_err(|_| ParentTokenNotFound)` -/
def getParentToken (parentTokenId : U128) : DerivedManager LesseeAccessToken :=
  raising (mapErr fun _ => .parentTokenNotFound) (getAccessToken parentTokenId)

def getTokenHierarchyDepth (tokenId : U128) : DerivedManager U32 := do
  let token ← getDerivedToken tokenId
  pure token.hierarchyDepth

def getRootLeaseId (parentTokenId : U128) : DerivedManager LeaseId := do
  let parentToken ← getParentToken parentTokenId
  pure parentToken.leaseId

/-- `((parent_token_id as u128) << 64) | (timestamp as u128)`: the shift drops the high bits. -/
def generateUniqueDerivedTokenId (env : Env) (parentTokenId : U128) : U128 :=
  parentTokenId <<< 64 % 2 ^ 128 ||| env.timestamp.toUInt64.toNat

def SpatialZone.isValid : SpatialZone → Bool
  | .entireProperty => true
  | .specificRoom roomName => !roomName.isEmpty
  | .zone zoneName => !zoneName.isEmpty
  | .customArea areaName => !areaName.isEmpty

def validateSpatialZone (zone : SpatialZone) : DerivedManager Unit :=
  check (zone.isValid = true) .invalidSpatialZone

/-- The name in the key of a zone's list. -/
def SpatialZone.key : SpatialZone → String
  | .entireProperty => "entire_property"
  | .specificRoom roomName => roomName
  | .zone zoneName => zoneName
  | .customArea areaName => areaName

/-! ## Storage helpers -/

def DerivedStore.put (tokenId : U128) (token : DerivedAccessToken) (store : DerivedStore) :
    DerivedStore :=
  { store with derivedToken := store.derivedToken.set tokenId (some token) }

/-- The writes of `store_derived_token`. -/
def DerivedStore.record (tokenId : U128) (token : DerivedAccessToken) (store : DerivedStore) :
    DerivedStore :=
  { store.put tokenId token with
    leaseToDerivedTokens := Listing.push token.rootLeaseId tokenId store.leaseToDerivedTokens
    sublesseeToDerivedTokens := Listing.push token.sublessee tokenId store.sublesseeToDerivedTokens
    spatialZoneTokens := Listing.push (token.spatialZone.key, token.rootLeaseId) tokenId
      store.spatialZoneTokens }

def storeDerivedToken (env : Env) (tokenId : U128) (token : DerivedAccessToken) :
    DerivedManager Unit := do
  updateDerived (DerivedStore.record tokenId token)
  let _ttl ← checkedSub token.expirationTimestamp env.timestamp

/-- `if let Ok(parent) = get_derived_token(..)`: a parent among the lessee tokens keeps no list
of its own. -/
def addChildToParent (env : Env) (parentTokenId childTokenId : U128) : DerivedManager Unit := do
  let found ← inspect fun tenancy => tenancy.derived.derivedToken.lookup parentTokenId
  match found with
  | some parentToken =>
      storeDerivedToken env parentTokenId
        { parentToken with childTokens := parentToken.childTokens ++ [childTokenId] }
  | none => pure ()
  updateDerived fun derived => { derived with
    parentToChildren := Listing.push parentTokenId childTokenId derived.parentToChildren }

/-- The total and the greatest depth of the listed tokens that are stored. -/
def sumDepths (derived : DerivedStore) (tokens : List U128) (totals : U32 × U32) :
    DerivedManager (U32 × U32) :=
  tokens.foldlM (fun (maxDepth, totalDepth) tokenId =>
    match derived.derivedToken.lookup tokenId with
    | some token => do
        let totalDepth ← checkedUpTo u32Max (totalDepth + token.hierarchyDepth)
        pure (max maxDepth token.hierarchyDepth, totalDepth)
    | none => pure (maxDepth, totalDepth)) totals

def updateHierarchyMetrics (env : Env) (leaseId : LeaseId) : DerivedManager Unit := do
  let derived ← inspect fun tenancy => tenancy.derived
  let tokens := derived.leaseToDerivedTokens leaseId
  let (maxDepth, totalDepth) ← sumDepths derived tokens (0, 0)
  let metrics : HierarchyMetrics := ⟨tokens.length, maxDepth,
    if 0 < tokens.length then totalDepth / tokens.length else 0, env.timestamp⟩
  updateDerived fun derived => { derived with
    hierarchyMetrics := Function.update derived.hierarchyMetrics leaseId (some metrics) }

/-! ## Minting -/

def DerivedAccessToken.minted (env : Env) (request : DerivedTokenRequest) (tokenId : U128)
    (rootLeaseId : LeaseId) (expirationTimestamp : U64) (hierarchyDepth : U32) :
    DerivedAccessToken where
  tokenId := tokenId
  parentTokenId := request.parentTokenId
  rootLeaseId := rootLeaseId
  sublessee := request.sublessee
  spatialZone := request.spatialZone
  expirationTimestamp := expirationTimestamp
  mintedAt := env.timestamp
  hierarchyDepth := hierarchyDepth
  accessLevel := request.accessLevel
  transferable := request.transferable
  transferCount := 0
  revoked := false
  revokedAt := none
  revocationReason := none
  childTokens := []

def mintDerivedAccessToken (env : Env) (request : DerivedTokenRequest) : DerivedManager U128 := do
  let parentToken ← getParentToken request.parentTokenId
  check (parentToken.revoked = false) .parentTokenRevoked
  check (env.timestamp ≤ parentToken.expirationTimestamp) .parentTokenExpired
  check (parentToken.transferable = true) .unauthorizedSublease
  let parentDepth ← getTokenHierarchyDepth request.parentTokenId
  let hierarchyDepth ← checkedUpTo u32Max (parentDepth + 1)
  check (hierarchyDepth ≤ maxHierarchyDepth) .hierarchyDepthExceeded
  let expirationTimestamp :=
    min (request.expirationTimestamp.getD parentToken.expirationTimestamp)
      parentToken.expirationTimestamp
  check (expirationTimestamp ≤ parentToken.expirationTimestamp) .invalidTemporalDependency
  validateSpatialZone request.spatialZone
  let tokenId := generateUniqueDerivedTokenId env request.parentTokenId
  let rootLeaseId ← getRootLeaseId request.parentTokenId
  storeDerivedToken env tokenId
    (.minted env request tokenId rootLeaseId expirationTimestamp hierarchyDepth)
  addChildToParent env request.parentTokenId tokenId
  updateHierarchyMetrics env rootLeaseId
  announce (.derivedTokenMinted tokenId request.parentTokenId rootLeaseId request.sublessee
    request.spatialZone expirationTimestamp hierarchyDepth env.timestamp)
  pure tokenId

/-! ## Transfers and zones -/

def transferDerivedToken (env : Env) (tokenId : U128) (fromSublessee toSublessee : Address) :
    DerivedManager Unit := do
  let token ← getDerivedToken tokenId
  check (token.transferable = true) .unauthorizedSublease
  check (token.revoked = false) .parentTokenRevoked
  check (env.timestamp ≤ token.expirationTimestamp) .parentTokenExpired
  check (token.sublessee = fromSublessee) .unauthorizedSublease
  let transferCount ← checkedUpTo u32Max (token.transferCount + 1)
  storeDerivedToken env tokenId
    { token with sublessee := toSublessee, transferCount := transferCount }
  updateDerived fun derived => { derived with
    sublesseeToDerivedTokens := Listing.move tokenId fromSublessee toSublessee
      derived.sublesseeToDerivedTokens }
  announce (.derivedTokenTransferred tokenId fromSublessee toSublessee token.hierarchyDepth
    env.timestamp)

def updateSpatialZone (env : Env) (tokenId : U128) (newZone : SpatialZone) :
    DerivedManager Unit := do
  let token ← getDerivedToken tokenId
  check (token.revoked = false) .parentTokenRevoked
  validateSpatialZone newZone
  storeDerivedToken env tokenId { token with spatialZone := newZone }
  let stored ← getDerivedToken tokenId
  updateDerived fun derived => { derived with
    spatialZoneTokens := Listing.move tokenId (token.spatialZone.key, stored.rootLeaseId)
      (newZone.key, stored.rootLeaseId) derived.spatialZoneTokens }
  announce (.spatialZoneUpdated tokenId token.spatialZone newZone env.timestamp)

/-! ## Burning a hierarchy -/

def DerivedAccessToken.burned (reason : RevocationReason) (now : U64)
    (token : DerivedAccessToken) : DerivedAccessToken :=
  { token with revoked := true, revokedAt := some now, revocationReason := some reason }

/-- Burn the children, then the token itself; the counts are the tokens burned so far and the
greatest depth met.  The recursion of the source has no bound of its own: below more levels than
there are tokens it runs in a circle until the host stops it. -/
def recursiveBurnInternal (env : Env) (reason : RevocationReason) :
    Nat → U128 → U32 × U32 → DerivedManager (U32 × U32)
  | 0, _, _ => throw (.trap "HostError: Error(Budget, ExceededLimit)")
  | levels + 1, tokenId, (tokensBurned, maxDepth) => do
      let token ← getDerivedToken tokenId
      let (childrenBurned, deepest) ← token.childTokens.foldlM
        (fun counts childId => recursiveBurnInternal env reason levels childId counts)
        (tokensBurned, max maxDepth token.hierarchyDepth)
      updateDerived (DerivedStore.put tokenId (token.burned reason env.timestamp))
      let burned ← checkedUpTo u32Max (childrenBurned + 1)
      pure (burned, deepest)

def recursiveBurnHierarchy (env : Env) (rootTokenId : U128) (reason : RevocationReason) :
    DerivedManager U32 := do
  let rootToken ← getDerivedToken rootTokenId
  let stored ← inspect fun tenancy => tenancy.derived.derivedToken.entries.length
  let (tokensBurned, maxDepth) ←
    recursiveBurnInternal env reason (stored + 1) rootTokenId (0, 0)
  announce (.derivedHierarchyBurned rootTokenId rootToken.rootLeaseId reason tokensBurned maxDepth
    env.timestamp)
  pure tokensBurned

/-! ## What the operations leave alone -/

section Frames

variable {env : Env} {ε : Type}

/-- The store without the registry of derived tokens. -/
def Tenancy.registered (tenancy : Tenancy) : World × AccessStore :=
  (tenancy.toWorld, tenancy.access)

theorem steady_announce (event : AccessEvent) :
    Steady Tenancy.registered (announce event : Managed ε Unit) :=
  fun _ => rfl

theorem steady_updateDerived (change : DerivedStore → DerivedStore) :
    Steady Tenancy.registered (updateDerived change : Managed ε Unit) :=
  fun _ => rfl

theorem steady_getDerivedToken {ν : Type} {view : Tenancy → ν} (tokenId : U128) :
    Steady view (getDerivedToken tokenId) :=
  steady_bind (steady_inspect _) fun _ => steady_orErr _ _

theorem steady_recursiveBurnInternal {ν : Type} {view : Tenancy → ν}
    (written : ∀ tokenId token,
      Steady view (updateDerived (DerivedStore.put tokenId token) : DerivedManager Unit))
    (reason : RevocationReason) (levels : Nat) (tokenId : U128) (counts : U32 × U32) :
    Steady view (recursiveBurnInternal env reason levels tokenId counts) := by
  induction levels generalizing tokenId counts with
  | zero => exact steady_throw _
  | succ levels ih =>
      refine steady_bind (steady_getDerivedToken tokenId) fun token => ?_
      refine steady_bind (steady_foldlM (fun total child => ih child total) _ _) fun burned => ?_
      refine steady_bind (written _ _) fun _ => ?_
      exact steady_bind (steady_checkedUpTo _ _) fun _ => steady_pure _

theorem steady_recursiveBurnHierarchy_of {ν : Type} {view : Tenancy → ν}
    (written : ∀ tokenId token,
      Steady view (updateDerived (DerivedStore.put tokenId token) : DerivedManager Unit))
    (announced : ∀ event, Steady view (announce event : DerivedManager Unit))
    (rootTokenId : U128) (reason : RevocationReason) :
    Steady view (recursiveBurnHierarchy env rootTokenId reason) := by
  refine steady_bind (steady_getDerivedToken rootTokenId) fun root => ?_
  refine steady_bind (steady_inspect _) fun stored => ?_
  refine steady_bind (steady_recursiveBurnInternal written _ _ _ _) fun counts => ?_
  exact steady_bind (announced _) fun _ => steady_pure _

theorem steady_recursiveBurnHierarchy (rootTokenId : U128) (reason : RevocationReason) :
    Steady Tenancy.registered (recursiveBurnHierarchy env rootTokenId reason) :=
  steady_recursiveBurnHierarchy_of (fun _ _ => steady_updateDerived _) steady_announce rootTokenId
    reason

end Frames

/-! ## The empty registry -/

section Empty

variable {env : Env} {before after : Tenancy}

@[simp] theorem commits_updateDerived {ε : Type} (change : DerivedStore → DerivedStore)
    (result : Unit) :
    Commits (updateDerived change : Managed ε Unit) before result after ↔
      after = { before with derived := change before.derived } := by
  simp [updateDerived]

@[simp] theorem commits_getDerivedToken (tokenId : U128) (token : DerivedAccessToken) :
    Commits (getDerivedToken tokenId) before token after ↔
      before.derived.derivedToken.lookup tokenId = some token ∧ after = before := by
  simp [getDerivedToken, eq_comm, and_comm]

@[simp] theorem commits_getParentToken (tokenId : U128) (token : LesseeAccessToken) :
    Commits (getParentToken tokenId) before token after ↔
      before.access.accessToken tokenId = some token ∧ after = before := by
  simp [getParentToken]

theorem recursiveBurnHierarchy_found {rootTokenId : U128} {reason : RevocationReason}
    {burned : U32}
    (run : Commits (recursiveBurnHierarchy env rootTokenId reason) before burned after) :
    before.derived.derivedToken.lookup rootTokenId ≠ none := by
  simp only [recursiveBurnHierarchy, commits_bind, commits_getDerivedToken] at run
  obtain ⟨token, _, ⟨found, _⟩, _⟩ := run
  rw [found]
  exact Option.some_ne_none _

/-- A token that is not registered cannot be burned, and the attempt writes nothing. -/
theorem execute_recursiveBurnHierarchy_of_none {rootTokenId : U128} {reason : RevocationReason}
    (missing : before.derived.derivedToken.lookup rootTokenId = none) :
    (recursiveBurnHierarchy env rootTokenId reason).execute before =
      (.error (.err .parentTokenNotFound), before) := by
  have absent : (getDerivedToken rootTokenId).execute before =
      (.error (.err .parentTokenNotFound), before) := by
    change (fetch (before.derived.derivedToken.lookup rootTokenId) _).execute before = _
    rw [missing]
    rfl
  unfold recursiveBurnHierarchy
  rw [execute_bind, absent]

end Empty

end LeaseFlow.Access
