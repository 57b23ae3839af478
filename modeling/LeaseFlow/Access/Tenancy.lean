import LeaseFlow.Access.DerivedTokens
import LeaseFlow.Foundations.Machine

/-!
# The contract and its access tokens as one machine

The operations of the lease contract and of both token managers on one store.  A regular
termination burns and revokes the tokens of its lease between its payments and its archiving;
every other contract call leaves the registries alone.  `AccessEffect` says once what a call can
do to the lessee tokens.
-/

set_option autoImplicit false

namespace LeaseFlow.Access

open Transaction Failure

/-! ## Regular termination -/

/-- The checks of a regular termination. -/
def admitTermination (env : Env) (leaseId : LeaseId) (caller : Address) :
    Contract LeaseInstance := do
  let lease ← loadLeaseInstanceById leaseId
  let admin ← isAdmin caller
  LeaseFlow.require (caller = lease.landlord ∨ caller = lease.tenant ∨ admin = true) .unauthorised
  requireAuth env caller
  LeaseFlow.require (lease.endDate ≤ env.timestamp) .leaseNotExpired
  LeaseFlow.require (lease.depositStatus ≠ .held ∧ lease.depositStatus ≠ .disputed)
    .depositNotSettled
  pure lease

/-- What a caller that ignores the result of a manager still has to raise. -/
def fatalTrap {ε : Type} : Failure ε → Option Fault
  | .err _ => none
  | .trap message => some (.trap message)

/-- Burn the hierarchy below the lease's token and revoke the token; both results are ignored. -/
def cascadeBurn (env : Env) (leaseId : LeaseId) (tokenId : Option U128) :
    Transaction Tenancy Fault Unit :=
  match tokenId with
  | some accessTokenId => do
      dropping fatalTrap (recursiveBurnHierarchy env accessTokenId .leaseTerminated)
      dropping fatalTrap (revokeAccessToken env leaseId .leaseTerminated)
  | none => pure ()

def terminateLease (env : Env) (leaseId : LeaseId) (caller : Address) :
    Transaction Tenancy Fault Unit := do
  let lease ← inWorld (admitTermination env leaseId caller)
  inWorld (payTerminationBounty env leaseId caller)
  inWorld (burnAccessTokens leaseId lease.tokenId)
  cascadeBurn env leaseId lease.tokenId
  inWorld (thawLeaseAsset env leaseId lease)
  inWorld (archiveLease env leaseId lease caller)
  inWorld (publish (.leaseTerminated leaseId))

/-! ## The operations -/

inductive Operation where
  | contract (call : LeaseFlow.Call)
  | mintLesseeAccessToken (leaseId : LeaseId) (assetIdentifier : String) (assetType : AssetType)
      (accessLevel : AccessLevel) (transferable : Bool)
  | verifyAccessToken (request : AccessVerificationRequest)
  | transferAccessToken (request : TokenTransferRequest)
  | revokeAccessToken (leaseId : LeaseId) (reason : RevocationReason)
  | renewAccessToken (leaseId : LeaseId) (newExpiration : U64)
  | handleLeaseStateChange (leaseId : LeaseId) (oldStatus newStatus : LeaseStatus)
  | mintDerivedAccessToken (request : DerivedTokenRequest)
  | transferDerivedToken (tokenId : U128) (fromSublessee toSublessee : Address)
  | updateSpatialZone (tokenId : U128) (newZone : SpatialZone)
  | burnDerivedTokenHierarchy (rootTokenId : U128)

inductive Error where
  | lease (error : LeaseError)
  | access (error : AccessError)
  | derived (error : DerivedTokenError)
  deriving DecidableEq, Repr

def ofFault : Fault → Failure Error
  | .err error => .err (.lease error)
  | .trap message => .trap message

/-- The returned value is not part of the store. -/
def forget {ε α : Type} (body : Managed ε α) : Managed ε Unit :=
  (fun _ => ()) <$> body

def contractBody (env : Env) : LeaseFlow.Call → Transaction Tenancy Fault Unit
  | .terminateLease leaseId caller => terminateLease env leaseId caller
  | call => inWorld (dispatch env call)

def Operation.body (env : Env) : Operation → Managed Error Unit
  | .contract call => raising ofFault (contractBody env call)
  | .mintLesseeAccessToken leaseId assetIdentifier assetType accessLevel transferable =>
      raising (mapErr .access) (forget (Access.mintLesseeAccessToken env leaseId assetIdentifier
        assetType accessLevel transferable))
  | .verifyAccessToken request =>
      raising (mapErr .access) (forget (Access.verifyAccessToken env request))
  | .transferAccessToken request =>
      raising (mapErr .access) (Access.transferAccessToken env request)
  | .revokeAccessToken leaseId reason =>
      raising (mapErr .access) (Access.revokeAccessToken env leaseId reason)
  | .renewAccessToken leaseId newExpiration =>
      raising (mapErr .access) (Access.renewAccessToken env leaseId newExpiration)
  | .handleLeaseStateChange leaseId oldStatus newStatus =>
      raising (mapErr .access) (Access.handleLeaseStateChange env leaseId oldStatus newStatus)
  | .mintDerivedAccessToken request =>
      raising (mapErr .derived) (forget (Access.mintDerivedAccessToken env request))
  | .transferDerivedToken tokenId fromSublessee toSublessee =>
      raising (mapErr .derived) (Access.transferDerivedToken env tokenId fromSublessee toSublessee)
  | .updateSpatialZone tokenId newZone =>
      raising (mapErr .derived) (Access.updateSpatialZone env tokenId newZone)
  | .burnDerivedTokenHierarchy rootTokenId =>
      raising (mapErr .derived)
        (forget (recursiveBurnHierarchy env rootTokenId .leaseTerminated))

structure Invocation where
  env : Env
  operation : Operation

def Invocation.body (invocation : Invocation) : Managed Error Unit :=
  invocation.operation.body invocation.env

abbrev step : Invocation → Tenancy → Tenancy :=
  Machine.step Invocation.body

abbrev Invocation.Goes (invocation : Invocation) (tenancy : Tenancy) : Prop :=
  Machine.Goes Invocation.body invocation tenancy

def Reachable (tenancy : Tenancy) : Prop :=
  ∃ config billing securityCouncil,
    Run.Reaches step (.vacant (World.genesis config billing securityCouncil)) tenancy

/-- The store is reached from one of leases alone, without a token.  A token is minted only
for an active lease, and no entry point stores one, so the leases may be any. -/
def Arises (tenancy : Tenancy) : Prop :=
  ∃ world, Run.Reaches step (.vacant world) tenancy

theorem Reachable.arises {tenancy : Tenancy} (reached : Reachable tenancy) : Arises tenancy := by
  obtain ⟨config, billing, securityCouncil, run⟩ := reached
  exact ⟨_, run⟩

theorem Arises.invariant {inv : Tenancy → Prop} {tenancy : Tenancy} (arises : Arises tenancy)
    (initially : ∀ world, inv (.vacant world))
    (kept : ∀ (invocation : Invocation) before after, Commits invocation.body before () after →
      inv before → inv after) : inv tenancy := by
  obtain ⟨world, run⟩ := arises
  exact Machine.invariant_of_reaches kept run (initially world)

/-! ## The burn cascade -/

/-- No derived token is stored. -/
def Tenancy.Unsublet (tenancy : Tenancy) : Prop :=
  ∀ tokenId, tenancy.derived.derivedToken.lookup tokenId = none

theorem Tenancy.Unsublet.withWorld {tenancy : Tenancy} (unsublet : tenancy.Unsublet)
    (world : World) : (tenancy.withWorld world).Unsublet :=
  unsublet

section Contract

variable {env : Env} {before after : Tenancy} {leaseId : LeaseId} {caller : Address}

@[simp] theorem commits_inWorld {α : Type} (body : Contract α) (result : α) :
    Commits (inWorld body) before result after ↔
      ∃ world, Commits body before.toWorld result world ∧ after = before.withWorld world :=
  commits_within body result

@[simp] theorem commits_forget {ε α : Type} {body : Managed ε α} {result : Unit} :
    Commits (forget body) before result after ↔ ∃ value, Commits body before value after := by
  simp [forget]

theorem commits_dropping_revoke_iff {reason : RevocationReason} {result : Unit} :
    Commits (dropping fatalTrap (revokeAccessToken env leaseId reason)) before result after ↔
      Commits (revokeAccessToken env leaseId reason) before () after ∨
        (before.access.Unlinked leaseId ∧ after = before) := by
  rw [commits_dropping]
  refine or_congr ⟨fun ⟨_, run⟩ => run, fun run => ⟨(), run⟩⟩ ?_
  constructor
  · rintro ⟨fault, faulted, dropped⟩
    cases fault with
    | err error =>
        obtain ⟨unlinked, _, rfl⟩ := faults_revokeAccessToken.mp faulted
        exact ⟨unlinked, rfl⟩
    | trap message => cases dropped
  · rintro ⟨unlinked, rfl⟩
    exact ⟨.err .tokenNotFound, faults_revokeAccessToken.mpr ⟨unlinked, rfl, rfl⟩, rfl⟩

theorem commits_dropping_burn_iff (unsublet : before.Unsublet) {rootTokenId : U128}
    {reason : RevocationReason} {result : Unit} :
    Commits (dropping fatalTrap (recursiveBurnHierarchy env rootTokenId reason)) before result
      after ↔ after = before := by
  have missing := @execute_recursiveBurnHierarchy_of_none env before rootTokenId reason
    (unsublet rootTokenId)
  rw [Commits, execute_dropping, missing]
  constructor
  · intro run
    cases run
    rfl
  · rintro rfl
    rfl

/-- The cascade revokes the token of the lease, if its record holds one and it is stored. -/
theorem commits_cascadeBurn_iff (unsublet : before.Unsublet) {tokenId : Option U128}
    {result : Unit} :
    Commits (cascadeBurn env leaseId tokenId) before result after ↔
      (tokenId ≠ none ∧
        Commits (revokeAccessToken env leaseId .leaseTerminated) before () after) ∨
        ((tokenId = none ∨ before.access.Unlinked leaseId) ∧ after = before) := by
  cases tokenId with
  | none => simp [cascadeBurn]
  | some accessTokenId =>
      simp only [cascadeBurn, commits_bind, commits_dropping_burn_iff unsublet, exists_eq_left,
        commits_dropping_revoke_iff]
      simp

theorem cascadeBurn_world (unsublet : before.Unsublet) {tokenId : Option U128} {result : Unit}
    (run : Commits (cascadeBurn env leaseId tokenId) before result after) :
    after.toWorld = before.toWorld ∧ after.derived = before.derived := by
  rcases (commits_cascadeBurn_iff unsublet).mp run with ⟨_, revoked⟩ | ⟨_, rfl⟩
  · obtain ⟨_, _, _, _, _, _, _, rfl⟩ := commits_revokeAccessToken_iff.mp revoked
    exact ⟨rfl, rfl⟩
  · exact ⟨rfl, rfl⟩

/-! ## Regular terminations -/

/-- The lease and the caller pass the checks of a regular termination. -/
structure Terminable (env : Env) (leaseId : LeaseId) (caller : Address) (world : World)
    (lease : LeaseInstance) : Prop where
  found : world.leases.lookup leaseId = some lease
  entitled : caller = lease.landlord ∨ caller = lease.tenant ∨ world.config.admin = some caller
  authorised : env.authorised caller = true
  expired : lease.endDate ≤ env.timestamp
  closed : lease.depositStatus ≠ .held ∧ lease.depositStatus ≠ .disputed

theorem commits_admitTermination {world left : World} (lease : LeaseInstance) :
    Commits (admitTermination env leaseId caller) world lease left ↔
      Terminable env leaseId caller world lease ∧ left = world := by
  simp only [admitTermination, commits_bind, commits_loadLeaseInstanceById, commits_isAdmin,
    commits_require, commits_requireAuth, commits_pure]
  constructor
  · rintro ⟨_, _, ⟨found, rfl⟩, _, _, ⟨rfl, rfl⟩, _, _, ⟨entitled, rfl⟩, _, _, ⟨authorised, rfl⟩,
      _, _, ⟨expired, rfl⟩, _, _, ⟨closed, rfl⟩, rfl, rfl⟩
    exact ⟨⟨found, by simpa using entitled, authorised, expired, closed⟩, rfl⟩
  · rintro ⟨⟨found, entitled, authorised, expired, closed⟩, rfl⟩
    exact ⟨_, _, ⟨found, rfl⟩, _, _, ⟨rfl, rfl⟩, (), _, ⟨by simpa using entitled, rfl⟩, (), _,
      ⟨authorised, rfl⟩, (), _, ⟨expired, rfl⟩, (), _, ⟨closed, rfl⟩, rfl, rfl⟩

/-- What follows the burn cascade of a regular termination. -/
def closeTermination (env : Env) (leaseId : LeaseId) (lease : LeaseInstance) (caller : Address) :
    Contract Unit := do
  thawLeaseAsset env leaseId lease
  archiveLease env leaseId lease caller
  publish (.leaseTerminated leaseId)

theorem commits_contract_terminateLease_iff {world left : World} {result : Unit} :
    Commits (LeaseFlow.terminateLease env leaseId caller) world result left ↔
      ∃ lease paid burned, Terminable env leaseId caller world lease ∧
        Commits (payTerminationBounty env leaseId caller) world () paid ∧
        Commits (burnAccessTokens leaseId lease.tokenId) paid () burned ∧
        Commits (closeTermination env leaseId lease caller) burned () left := by
  have staged : LeaseFlow.terminateLease env leaseId caller = (do
      let lease ← admitTermination env leaseId caller
      payTerminationBounty env leaseId caller
      burnAccessTokens leaseId lease.tokenId
      closeTermination env leaseId lease caller) := by
    simp only [LeaseFlow.terminateLease, admitTermination, closeTermination, bind_assoc, pure_bind]
  simp only [staged, commits_bind, commits_admitTermination]
  constructor
  · rintro ⟨lease, _, ⟨admitted, rfl⟩, _, paid, bounty, _, burned, cascade, closing⟩
    exact ⟨lease, paid, burned, admitted, bounty, cascade, closing⟩
  · rintro ⟨lease, paid, burned, admitted, bounty, cascade, closing⟩
    exact ⟨lease, _, ⟨admitted, rfl⟩, (), paid, bounty, (), burned, cascade, closing⟩

/-- A regular termination does to the contract's store what it does without the registries, and
to the registries what the burn cascade does. -/
theorem commits_terminateLease_iff (unsublet : before.Unsublet) {result : Unit} :
    Commits (terminateLease env leaseId caller) before result after ↔
      ∃ lease paid burned middle, Terminable env leaseId caller before.toWorld lease ∧
        Commits (payTerminationBounty env leaseId caller) before.toWorld () paid ∧
        Commits (burnAccessTokens leaseId lease.tokenId) paid () burned ∧
        Commits (cascadeBurn env leaseId lease.tokenId) (before.withWorld burned) () middle ∧
        ∃ left, Commits (closeTermination env leaseId lease caller) burned () left ∧
          after = middle.withWorld left := by
  simp only [terminateLease, commits_bind, commits_inWorld, commits_admitTermination,
    closeTermination]
  constructor
  · rintro ⟨lease, _, ⟨_, ⟨admitted, rfl⟩, rfl⟩, _, _, ⟨paid, bounty, rfl⟩, _, _,
      ⟨burned, burn, rfl⟩, _, middle, cascade, _, _, ⟨thawed, thaw, rfl⟩, _, _,
      ⟨archived, archive, rfl⟩, left, published, rfl⟩
    have same : middle.toWorld = burned :=
      (cascadeBurn_world (unsublet.withWorld burned) cascade).1
    rw [same] at thaw
    exact ⟨lease, paid, burned, middle, admitted, bounty, burn, cascade, left,
      ⟨(), thawed, thaw, (), archived, archive, published⟩, rfl⟩
  · rintro ⟨lease, paid, burned, middle, admitted, bounty, burn, cascade, left,
      ⟨_, thawed, thaw, _, archived, archive, published⟩, rfl⟩
    have same : middle.toWorld = burned :=
      (cascadeBurn_world (unsublet.withWorld burned) cascade).1
    rw [← same] at thaw
    exact ⟨lease, _, ⟨_, ⟨admitted, rfl⟩, rfl⟩, (), _, ⟨paid, bounty, rfl⟩, (), _,
      ⟨burned, burn, rfl⟩, (), middle, cascade, (), _, ⟨thawed, thaw, rfl⟩, (), _,
      ⟨archived, archive, rfl⟩, left, published, rfl⟩

end Contract

end LeaseFlow.Access
