import LeaseFlow.Access.DerivedEffect
import LeaseFlow.Access.Tenancy

/-!
# What an operation does to the access tokens

`Effect` says once what an operation that goes through leaves of the lessee tokens and of the
contract's store.  No operation ever stores a derived token, since every one of them has to find
another first.
-/

set_option autoImplicit false

namespace LeaseFlow.Access

open Transaction Failure

/-- The call of the contract that the operation is. -/
def Operation.call? : Operation → Option LeaseFlow.Call
  | .contract call => some call
  | _ => none

/-- What a call leaves of the contract's store; without a call it stays as it is. -/
def Advances (env : Env) : Option LeaseFlow.Call → World → World → Prop
  | some call, world, after => Commits (dispatch env call) world () after
  | none, world, after => after = world

inductive Effect (env : Env) (before after : Tenancy) : Option LeaseFlow.Call → Prop where
  | kept {call : Option LeaseFlow.Call} (world : Advances env call before.toWorld after.toWorld)
      (access : after.access = before.access) : Effect env before after call
  | minted {leaseId : LeaseId} {lease : LeaseInstance} {assetIdentifier : String}
      {assetType : AssetType} {accessLevel : AccessLevel} {transferable : Bool}
      (found : before.leases.lookup leaseId = some lease) (active : lease.status = .active)
      (unmapped : before.access.leaseToAccessToken leaseId = none)
      (world : after.toWorld = { before.toWorld with
        leases := before.leases.set leaseId
          (some (tokenisedLease env (generateUniqueTokenId env leaseId) lease)) })
      (access : after.access = before.access.record (generateUniqueTokenId env leaseId)
        (.minted env leaseId lease assetIdentifier assetType accessLevel transferable)) :
      Effect env before after none
  | verified {request : AccessVerificationRequest} {token : LesseeAccessToken}
      (stored : before.access.accessToken request.tokenId = some token)
      (world : after.toWorld = before.toWorld)
      (access : after.access = { before.access with
        accessToken := Function.update before.access.accessToken request.tokenId
          (some { token with
            lastVerified := env.timestamp
            verificationCount := token.verificationCount + 1 })
        verificationCache := Function.update before.access.verificationCache
          (request.tokenId, request.requestingSystem, request.timestamp)
          (some (token.isValid env.timestamp)) }) : Effect env before after none
  | transferred {request : TokenTransferRequest} {token : LesseeAccessToken}
      (stored : before.access.accessToken request.tokenId = some token)
      (unrevoked : token.revoked = false) (world : after.toWorld = before.toWorld)
      (access : after.access = (before.access.record request.tokenId
        (token.handedTo request.toLessee (token.transferCount + 1))).remap request.tokenId
          request.fromLessee request.toLessee) : Effect env before after none
  | revoked {call : Option LeaseFlow.Call} {leaseId : LeaseId} {tokenId : U128}
      {token : LesseeAccessToken} {reason : RevocationReason}
      (mapped : before.access.leaseToAccessToken leaseId = some tokenId)
      (stored : before.access.accessToken tokenId = some token)
      (world : Advances env call before.toWorld after.toWorld)
      (access : after.access = (before.access.record tokenId
        (token.revokedFor reason env.timestamp)).logRevocation env leaseId tokenId reason) :
      Effect env before after call
  | renewed {leaseId : LeaseId} {tokenId : U128} {token : LesseeAccessToken}
      {newExpiration : U64} (mapped : before.access.leaseToAccessToken leaseId = some tokenId)
      (stored : before.access.accessToken tokenId = some token)
      (unrevoked : token.revoked = false) (world : after.toWorld = before.toWorld)
      (access : after.access =
        before.access.record tokenId { token with expirationTimestamp := newExpiration }) :
      Effect env before after none

section Effect

variable {env : Env} {before after : Tenancy} {leaseId : LeaseId} {reason : RevocationReason}

/-- What the operation leaves, with the derived tokens as they were. -/
def Leaves (env : Env) (before after : Tenancy) (call : Option LeaseFlow.Call) : Prop :=
  Effect env before after call ∧ after.derived = before.derived

theorem revokeAccessToken_leaves {call : Option LeaseFlow.Call} {left : World}
    (advances : Advances env call before.toWorld left)
    {world : World} {middle : Tenancy}
    (run : Commits (revokeAccessToken env leaseId reason) (before.withWorld world) () middle) :
    Leaves env before (middle.withWorld left) call := by
  obtain ⟨tokenId, token, mapped, stored, _, _, _, rfl⟩ := commits_revokeAccessToken_iff.mp run
  exact ⟨.revoked mapped stored advances rfl, rfl⟩

theorem terminateLease_leaves (unsublet : before.Unsublet) {caller : Address}
    (run : Commits (terminateLease env leaseId caller) before () after) :
    Leaves env before after (some (.terminateLease leaseId caller)) := by
  obtain ⟨lease, paid, burned, middle, admitted, bounty, burn, cascade, left, closing, rfl⟩ :=
    (commits_terminateLease_iff unsublet).mp run
  have advances : Advances env (some (.terminateLease leaseId caller)) before.toWorld left :=
    commits_contract_terminateLease_iff.mpr ⟨lease, paid, burned, admitted, bounty, burn, closing⟩
  rcases (commits_cascadeBurn_iff (unsublet.withWorld burned)).mp cascade with
    ⟨_, revoked⟩ | ⟨_, rfl⟩
  · exact revokeAccessToken_leaves advances revoked
  · exact ⟨.kept advances rfl, rfl⟩

theorem contractBody_leaves (unsublet : before.Unsublet) {call : LeaseFlow.Call}
    (run : Commits (contractBody env call) before () after) :
    Leaves env before after (some call) := by
  cases call with
  | terminateLease leaseId caller => exact terminateLease_leaves unsublet run
  | _ =>
      obtain ⟨world, ran, rfl⟩ := (commits_inWorld _ _).mp run
      exact ⟨.kept ran rfl, rfl⟩

/-- What every operation does, as long as no derived token is stored. -/
theorem Operation.leaves {operation : Operation} (unsublet : before.Unsublet)
    (run : Commits (operation.body env) before () after) :
    Leaves env before after operation.call? := by
  cases operation with
  | contract call =>
      exact contractBody_leaves unsublet ((commits_raising _ _ _).mp run)
  | mintLesseeAccessToken leaseId assetIdentifier assetType accessLevel transferable =>
      obtain ⟨tokenId, minted⟩ := commits_forget.mp ((commits_raising _ _ _).mp run)
      obtain ⟨lease, found, active, unmapped, rfl, access, derived, world⟩ :=
        mintLesseeAccessToken_commits minted
      exact ⟨.minted found active unmapped world access, derived⟩
  | verifyAccessToken request =>
      obtain ⟨response, verified⟩ := commits_forget.mp ((commits_raising _ _ _).mp run)
      obtain ⟨token, stored, _, world, derived, access⟩ := verifyAccessToken_commits verified
      exact ⟨.verified stored world access, derived⟩
  | transferAccessToken request =>
      obtain ⟨token, stored, unrevoked, world, derived, access⟩ :=
        transferAccessToken_commits ((commits_raising _ _ _).mp run)
      exact ⟨.transferred stored unrevoked world access, derived⟩
  | revokeAccessToken leaseId reason =>
      obtain ⟨tokenId, token, mapped, stored, _, _, _, rfl⟩ :=
        commits_revokeAccessToken_iff.mp ((commits_raising _ _ _).mp run)
      exact ⟨.revoked mapped stored rfl rfl, rfl⟩
  | renewAccessToken leaseId newExpiration =>
      obtain ⟨tokenId, token, mapped, stored, unrevoked, world, derived, access⟩ :=
        renewAccessToken_commits ((commits_raising _ _ _).mp run)
      exact ⟨.renewed mapped stored unrevoked world access, derived⟩
  | handleLeaseStateChange leaseId oldStatus newStatus =>
      have handled := (commits_raising _ _ _).mp run
      unfold Access.handleLeaseStateChange at handled
      split at handled
      · obtain ⟨tokenId, token, mapped, stored, _, _, _, rfl⟩ :=
          commits_revokeAccessToken_iff.mp handled
        exact ⟨.revoked mapped stored rfl rfl, rfl⟩
      · obtain ⟨_, rfl⟩ := (commits_pure _ _).mp handled
        exact ⟨.kept rfl rfl, rfl⟩
  | mintDerivedAccessToken request =>
      obtain ⟨tokenId, minted⟩ := commits_forget.mp ((commits_raising _ _ _).mp run)
      exact absurd (unsublet _) (mintDerivedAccessToken_found minted)
  | transferDerivedToken tokenId fromSublessee toSublessee =>
      exact absurd (unsublet _) (transferDerivedToken_found ((commits_raising _ _ _).mp run))
  | updateSpatialZone tokenId newZone =>
      exact absurd (unsublet _) (updateSpatialZone_found ((commits_raising _ _ _).mp run))
  | burnDerivedTokenHierarchy rootTokenId =>
      obtain ⟨burned, ran⟩ := commits_forget.mp ((commits_raising _ _ _).mp run)
      exact absurd (unsublet _) (recursiveBurnHierarchy_found ran)

theorem Operation.effect {operation : Operation} (unsublet : before.Unsublet)
    (run : Commits (operation.body env) before () after) :
    Effect env before after operation.call? :=
  (operation.leaves unsublet run).1

theorem Operation.unsublet {operation : Operation} (unsublet : before.Unsublet)
    (run : Commits (operation.body env) before () after) : after.Unsublet := by
  have same : after.derived = before.derived := (operation.leaves unsublet run).2
  rw [Tenancy.Unsublet, same]
  exact unsublet

/-- No store that arises holds a derived token. -/
theorem Arises.unsublet {tenancy : Tenancy} (arises : Arises tenancy) : tenancy.Unsublet :=
  arises.invariant (fun _ _ => rfl) fun _ _ _ run unsublet => Operation.unsublet unsublet run

end Effect

/-! ## A tenanted lease -/

def operateAt (timestamp : U64) (operation : Operation) : Invocation :=
  ⟨openLedger timestamp 0, operation⟩

/-- Lease 7 of landlord 1 and tenant 2 is active. -/
def tenantedWorld : World :=
  freshWorld.holding 7 (startedLease 1000050 100 100)

def mintLetting : Invocation :=
  operateAt 60 (.mintLesseeAccessToken 7 "door" .physical .full true)

/-- A transferable token is minted for the lease. -/
def letWorld : Tenancy :=
  step mintLetting (.vacant tenantedWorld)

def letTokenId : U128 :=
  7 <<< 64 ||| 60

def letToken : LesseeAccessToken where
  leaseId := 7
  lessee := ⟨2⟩
  assetIdentifier := "door"
  expirationTimestamp := 1000050
  mintedAt := 60
  lastVerified := 60
  verificationCount := 0
  transferable := true
  transferCount := 0
  revoked := false
  revokedAt := none
  revocationReason := none
  assetType := .physical
  accessLevel := .full

theorem letWorld_token : letWorld.access.accessToken letTokenId = some letToken := by
  decide +kernel

theorem letWorld_arises : Arises letWorld :=
  ⟨tenantedWorld, [mintLetting], rfl⟩

end LeaseFlow.Access
