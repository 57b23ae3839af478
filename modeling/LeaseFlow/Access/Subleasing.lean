import LeaseFlow.Access.Effect

/-!
# Subleasing

A derived token is to be minted below a lessee token or below another derived token, down to the
depth limit.  The mint reads the state of its parent from the lessee tokens and its depth from
the derived tokens, so the first derived token would have to have a derived parent.
-/

set_option autoImplicit false

namespace LeaseFlow.Access

open Transaction Failure

/-- What a sublease takes from the token it is minted below. -/
structure SubleaseParent where
  hierarchyDepth : U32
  rootLeaseId : LeaseId
  expirationTimestamp : U64
  revoked : Bool
  transferable : Bool

/-- A lessee token stands at the root of its hierarchy. -/
def LesseeAccessToken.asParent (token : LesseeAccessToken) : SubleaseParent :=
  ⟨0, token.leaseId, token.expirationTimestamp, token.revoked, token.transferable⟩

def DerivedAccessToken.asParent (token : DerivedAccessToken) : SubleaseParent :=
  ⟨token.hierarchyDepth, token.rootLeaseId, token.expirationTimestamp, token.revoked,
    token.transferable⟩

/-- The stored tokens that may become parents. -/
inductive Tenancy.Parent (tenancy : Tenancy) (tokenId : U128) : SubleaseParent → Prop where
  | lessee {token : LesseeAccessToken}
      (stored : tenancy.access.accessToken tokenId = some token) :
      tenancy.Parent tokenId token.asParent
  | derived {token : DerivedAccessToken}
      (stored : tenancy.derived.derivedToken.lookup tokenId = some token) :
      tenancy.Parent tokenId token.asParent

structure SubleaseParent.Eligible (env : Env) (parent : SubleaseParent) : Prop where
  unrevoked : parent.revoked = false
  unexpired : env.timestamp ≤ parent.expirationTimestamp
  transferable : parent.transferable = true

/-- The mint goes through and leaves a token one level below its parent. -/
def Sublets (env : Env) (request : DerivedTokenRequest) (parent : SubleaseParent)
    (before : Tenancy) : Prop :=
  ∃ tokenId after token, Commits (mintDerivedAccessToken env request) before tokenId after ∧
    after.derived.derivedToken.lookup tokenId = some token ∧
    token.hierarchyDepth = parent.hierarchyDepth + 1 ∧
    token.expirationTimestamp ≤ parent.expirationTimestamp ∧
    token.rootLeaseId = parent.rootLeaseId ∧
    tokenId ∈ after.derived.parentToChildren request.parentTokenId

/-- Subleasing below the parent works down to the depth limit and is refused at the limit. -/
structure SubleasingWorks (env : Env) (request : DerivedTokenRequest) (parent : SubleaseParent)
    (before : Tenancy) : Prop where
  sublets : parent.hierarchyDepth < maxHierarchyDepth → request.spatialZone.isValid = true →
    Sublets env request parent before
  limited : parent.hierarchyDepth = maxHierarchyDepth →
    ∃ after, Faults (mintDerivedAccessToken env request) before (.err .hierarchyDepthExceeded)
      after

section Subleasing

variable {env : Env} {request : DerivedTokenRequest} {parent : SubleaseParent}
  {tenancy : Tenancy}

theorem Tenancy.Parent.lessee_of_unsublet {tokenId : U128} (unsublet : tenancy.Unsublet)
    (stored : tenancy.Parent tokenId parent) :
    ∃ token, tenancy.access.accessToken tokenId = some token ∧ parent = token.asParent := by
  cases stored with
  | @lessee token stored => exact ⟨token, stored, rfl⟩
  | derived stored => cases (unsublet tokenId).symm.trans stored

theorem faults_getDerivedToken {tokenId : U128} {fault : Failure DerivedTokenError}
    {after : Tenancy} :
    Faults (getDerivedToken tokenId) tenancy fault after ↔
      tenancy.derived.derivedToken.lookup tokenId = none ∧
        fault = .err .parentTokenNotFound ∧ after = tenancy := by
  simp only [getDerivedToken, faults_bind, not_faults_inspect, false_or, commits_inspect,
    faults_orErr]
  constructor
  · rintro ⟨_, _, ⟨rfl, rfl⟩, missing, rfl, rfl⟩
    exact ⟨missing, rfl, rfl⟩
  · rintro ⟨missing, rfl, rfl⟩
    exact ⟨_, _, ⟨rfl, rfl⟩, missing, rfl, rfl⟩

/-- An eligible lessee token is found as a parent, and then not found for its depth. -/
theorem mintDerivedAccessToken_faults (unsublet : tenancy.Unsublet) {token : LesseeAccessToken}
    (stored : tenancy.access.accessToken request.parentTokenId = some token)
    (eligible : token.asParent.Eligible env) :
    Faults (mintDerivedAccessToken env request) tenancy (.err .parentTokenNotFound) tenancy := by
  have depthless : Faults (getTokenHierarchyDepth request.parentTokenId) tenancy
      (.err .parentTokenNotFound) tenancy :=
    (faults_bind _ _ _).mpr (.inl (faults_getDerivedToken.mpr ⟨unsublet _, rfl, rfl⟩))
  have found : Commits (getParentToken request.parentTokenId) tenancy token tenancy :=
    (commits_getParentToken _ _).mpr ⟨stored, rfl⟩
  unfold mintDerivedAccessToken
  refine (faults_bind _ _ _).mpr (.inr ⟨_, _, found, ?_⟩)
  refine (faults_bind _ _ _).mpr
    (.inr ⟨_, _, (commits_check _ _ ()).mpr ⟨eligible.unrevoked, rfl⟩, ?_⟩)
  refine (faults_bind _ _ _).mpr
    (.inr ⟨_, _, (commits_check _ _ ()).mpr ⟨eligible.unexpired, rfl⟩, ?_⟩)
  refine (faults_bind _ _ _).mpr
    (.inr ⟨_, _, (commits_check _ _ ()).mpr ⟨eligible.transferable, rfl⟩, ?_⟩)
  exact (faults_bind _ _ _).mpr (.inl depthless)

/-- From no store of leases on does subleasing work: below every eligible token, all of which
are lessee tokens, a mint ends in `ParentTokenNotFound`. -/
theorem subleasing_never_works (arises : Arises tenancy)
    (stored : tenancy.Parent request.parentTokenId parent) (eligible : parent.Eligible env)
    (zoned : request.spatialZone.isValid = true) :
    Faults (mintDerivedAccessToken env request) tenancy (.err .parentTokenNotFound) tenancy ∧
      ¬ SubleasingWorks env request parent tenancy := by
  obtain ⟨token, found, rfl⟩ := stored.lessee_of_unsublet arises.unsublet
  refine ⟨mintDerivedAccessToken_faults arises.unsublet found eligible, fun works => ?_⟩
  obtain ⟨tokenId, after, _, minted, _⟩ := works.sublets (Nat.succ_pos 9) zoned
  exact mintDerivedAccessToken_found minted (arises.unsublet _)

end Subleasing

/-! ## A sublease below a fresh lessee token -/

def sampleSublease : DerivedTokenRequest where
  parentTokenId := letTokenId
  sublessee := ⟨9⟩
  spatialZone := .specificRoom "Bedroom 1"
  accessLevel := .limited
  transferable := true
  expirationTimestamp := none

theorem letWorld_sublease_refused :
    Faults (mintDerivedAccessToken (openLedger 70 0) sampleSublease) letWorld
        (.err .parentTokenNotFound) letWorld ∧
      ¬ SubleasingWorks (openLedger 70 0) sampleSublease
        letToken.asParent letWorld :=
  subleasing_never_works letWorld_arises (.lessee letWorld_token) ⟨rfl, by decide, rfl⟩
    (by decide)

/-- The token of the lease is unrevoked, unexpired and transferable, and no sublease below it
goes through. -/
theorem subleasing_refused_at_the_root :
    ¬ ∀ tenancy, Arises tenancy → ∀ (env : Env) (request : DerivedTokenRequest) parent,
      tenancy.Parent request.parentTokenId parent → parent.Eligible env →
      request.spatialZone.isValid = true → SubleasingWorks env request parent tenancy := by
  intro works
  have promised := (works letWorld letWorld_arises (openLedger 70 0) sampleSublease
    letToken.asParent (.lessee letWorld_token) ⟨rfl, by decide, rfl⟩ (by decide)).sublets
      (by decide) (by decide)
  obtain ⟨tokenId, after, _, minted, _⟩ := promised
  exact mintDerivedAccessToken_found minted rfl

end LeaseFlow.Access
