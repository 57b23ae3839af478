import LeaseFlow.Access.Records
import LeaseFlow.Foundations.Listing

/-!
# The lessee access token manager

The five operations on lessee access tokens and the hook for lease state changes.  Minting,
transferring, revoking and renewing go through one helper, which writes the token and puts its
id on the lists of its lessee and of its asset.
-/

set_option autoImplicit false

namespace LeaseFlow.Access

open Transaction Failure

abbrev Manager (α : Type) := Managed AccessError α

/-! ## Storage helpers -/

/-- `((lease_id as u128) << 64) | (timestamp as u128)` -/
def generateUniqueTokenId (env : Env) (leaseId : LeaseId) : U128 :=
  leaseId.toNat <<< 64 ||| env.timestamp.toUInt64.toNat

theorem generateUniqueTokenId_lease (env : Env) (leaseId : LeaseId) :
    generateUniqueTokenId env leaseId >>> 64 = leaseId.toNat := by
  have small : env.timestamp.toUInt64.toNat >>> 64 = 0 := by
    rw [Nat.shiftRight_eq_div_pow]
    exact Nat.div_eq_of_lt (UInt64.toNat_lt _)
  rw [generateUniqueTokenId, Nat.shiftRight_or_distrib, Nat.shiftLeft_shiftRight, small,
    Nat.or_zero]

/-- The writes of `store_access_token`. -/
def AccessStore.record (tokenId : U128) (token : LesseeAccessToken) (store : AccessStore) :
    AccessStore :=
  { store with
    accessToken := Function.update store.accessToken tokenId (some token)
    leaseToAccessToken := Function.update store.leaseToAccessToken token.leaseId (some tokenId)
    lesseeToTokens := Listing.push token.lessee tokenId store.lesseeToTokens
    assetToTokens := Listing.push token.assetIdentifier tokenId store.assetToTokens }

/-- The time to live is unsigned: for a token past its expiration the subtraction traps. -/
def storeAccessToken (env : Env) (tokenId : U128) (token : LesseeAccessToken) :
    Manager Unit := do
  updateAccess (AccessStore.record tokenId token)
  let _ttl ← checkedSub token.expirationTimestamp env.timestamp

def getAccessToken (tokenId : U128) : Manager LesseeAccessToken := do
  let found ← inspect fun tenancy => tenancy.access.accessToken tokenId
  orErr found .tokenNotFound

/-- The token a lease is mapped to, with its id. -/
def getTokenOfLease (leaseId : LeaseId) : Manager (U128 × LesseeAccessToken) := do
  let linked ← inspect fun tenancy => tenancy.access.leaseToAccessToken leaseId
  let tokenId ← orErr linked .tokenNotFound
  let token ← getAccessToken tokenId
  pure (tokenId, token)

def LesseeAccessToken.isValid (token : LesseeAccessToken) (currentTime : U64) : Bool :=
  !token.revoked && decide (currentTime ≤ token.expirationTimestamp)

/-! ## Minting -/

def LesseeAccessToken.minted (env : Env) (leaseId : LeaseId) (lease : LeaseInstance)
    (assetIdentifier : String) (assetType : AssetType) (accessLevel : AccessLevel)
    (transferable : Bool) : LesseeAccessToken where
  leaseId := leaseId
  lessee := lease.tenant
  assetIdentifier := assetIdentifier
  expirationTimestamp := lease.endDate
  mintedAt := env.timestamp
  lastVerified := env.timestamp
  verificationCount := 0
  transferable := transferable
  transferCount := 0
  revoked := false
  revokedAt := none
  revocationReason := none
  assetType := assetType
  accessLevel := accessLevel

/-- The record of a lease that a token was minted for: the contract itself is its NFT
contract. -/
def tokenisedLease (env : Env) (tokenId : U128) (lease : LeaseInstance) : LeaseInstance :=
  { lease with nftContract := some env.currentContractAddress, tokenId := some tokenId }

def Tenancy.saveLease (leaseId : LeaseId) (lease : LeaseInstance) (tenancy : Tenancy) : Tenancy :=
  { tenancy with leases := tenancy.leases.set leaseId (some lease) }

def updateLeaseForAccessToken (env : Env) (leaseId : LeaseId) (tokenId : U128) :
    Manager Unit := do
  let found ← inspect fun tenancy => tenancy.leases.lookup leaseId
  let lease ← orErr found .leaseNotFound
  modify (Tenancy.saveLease leaseId (tokenisedLease env tokenId lease))

def mintLesseeAccessToken (env : Env) (leaseId : LeaseId) (assetIdentifier : String)
    (assetType : AssetType) (accessLevel : AccessLevel) (transferable : Bool) :
    Manager U128 := do
  let found ← inspect fun tenancy => tenancy.leases.lookup leaseId
  let lease ← orErr found .leaseNotFound
  check (lease.status = .active) .invalidLeaseState
  check (lease.depositStatus = .held) .invalidLeaseState
  let existing ← inspect fun tenancy => tenancy.access.leaseToAccessToken leaseId
  check (existing = none) .tokenAlreadyExists
  let tokenId := generateUniqueTokenId env leaseId
  let token := LesseeAccessToken.minted env leaseId lease assetIdentifier assetType accessLevel
    transferable
  storeAccessToken env tokenId token
  updateLeaseForAccessToken env leaseId tokenId
  announce (.lesseeAccessGranted leaseId tokenId lease.tenant assetIdentifier
    token.expirationTimestamp token.mintedAt)
  pure tokenId

/-! ## Verification -/

/-- The token is read again, counted and stored under its id alone. -/
def updateVerificationStats (env : Env) (tokenId : U128) : Manager Unit := do
  let token ← getAccessToken tokenId
  let verificationCount ← checkedUpTo u32Max (token.verificationCount + 1)
  updateAccess fun access => { access with
    accessToken := Function.update access.accessToken tokenId (some { token with
      lastVerified := env.timestamp
      verificationCount := verificationCount }) }

def cacheVerificationResult (request : AccessVerificationRequest) (isValid : Bool) :
    Manager Unit :=
  updateAccess fun access => { access with
    verificationCache := Function.update access.verificationCache
      (request.tokenId, request.requestingSystem, request.timestamp) (some isValid) }

def verificationResponse (env : Env) (request : AccessVerificationRequest)
    (token : LesseeAccessToken) : AccessVerificationResponse where
  tokenId := request.tokenId
  isValid := token.isValid env.timestamp
  lessee := token.lessee
  assetIdentifier := token.assetIdentifier
  expirationTimestamp := token.expirationTimestamp
  accessLevel := token.accessLevel
  verificationTimestamp := env.timestamp
  remainingTime := token.expirationTimestamp - env.timestamp
  transferable := token.transferable

def verifyAccessToken (env : Env) (request : AccessVerificationRequest) :
    Manager AccessVerificationResponse := do
  let token ← getAccessToken request.tokenId
  let isValid := token.isValid env.timestamp
  updateVerificationStats env request.tokenId
  cacheVerificationResult request isValid
  announce (.accessTokenVerified request.tokenId request.requestingSystem
    request.verificationPurpose isValid env.timestamp)
  pure (verificationResponse env request token)

/-! ## Transfers -/

/-- The id leaves the list of the old lessee and goes on that of the new one. -/
def AccessStore.remap (tokenId : U128) (fromLessee toLessee : Address) (store : AccessStore) :
    AccessStore :=
  { store with lesseeToTokens := Listing.move tokenId fromLessee toLessee store.lesseeToTokens }

def LesseeAccessToken.handedTo (toLessee : Address) (transferCount : U32)
    (token : LesseeAccessToken) : LesseeAccessToken :=
  { token with lessee := toLessee, transferCount := transferCount }

def transferAccessToken (env : Env) (request : TokenTransferRequest) : Manager Unit := do
  let token ← getAccessToken request.tokenId
  check (token.transferable = true) .transferNotAllowed
  check (token.revoked = false) .tokenRevoked
  check (env.timestamp ≤ token.expirationTimestamp) .tokenExpired
  check (token.lessee = request.fromLessee) .unauthorizedTransfer
  let transferCount ← checkedUpTo u32Max (token.transferCount + 1)
  storeAccessToken env request.tokenId (token.handedTo request.toLessee transferCount)
  updateAccess (AccessStore.remap request.tokenId request.fromLessee request.toLessee)
  announce (.accessTokenTransferred request.tokenId request.fromLessee request.toLessee
    request.transferReason request.timestamp)

/-! ## Revocation and renewal -/

/-- The `u64` under the tenant-flag key of the lease.  The slash of a deposit stores a `bool`
there, which does not convert. -/
def readRevocationIndex (leaseId : LeaseId) : Manager U64 := do
  let flagged ← inspect fun tenancy => tenancy.assets.tenantFlag leaseId
  orTrap (flagged = false) "stored value is not of the expected type"
  inspect fun tenancy => (tenancy.access.revocationIndex leaseId).getD 0

def storeRevocationHistory (env : Env) (leaseId : LeaseId) (tokenId : U128)
    (reason : RevocationReason) : Manager Unit := do
  let index ← readRevocationIndex leaseId
  updateAccess fun access => { access with
    revocationHistory := Function.update access.revocationHistory (leaseId, index)
      (some (tokenId, reason, env.timestamp)) }
  let next ← checkedUpTo u64Max (index + 1)
  updateAccess fun access => { access with
    revocationIndex := Function.update access.revocationIndex leaseId (some next) }

def LesseeAccessToken.revokedFor (reason : RevocationReason) (now : U64)
    (token : LesseeAccessToken) : LesseeAccessToken :=
  { token with revoked := true, revokedAt := some now, revocationReason := some reason }

def revokeAccessToken (env : Env) (leaseId : LeaseId) (reason : RevocationReason) :
    Manager Unit := do
  let (tokenId, token) ← getTokenOfLease leaseId
  storeAccessToken env tokenId (token.revokedFor reason env.timestamp)
  storeRevocationHistory env leaseId tokenId reason
  announce (.lesseeAccessRevoked leaseId tokenId token.lessee reason env.timestamp)

def renewAccessToken (env : Env) (leaseId : LeaseId) (newExpiration : U64) : Manager Unit := do
  let (tokenId, token) ← getTokenOfLease leaseId
  check (token.revoked = false) .tokenRevoked
  storeAccessToken env tokenId { token with expirationTimestamp := newExpiration }
  announce (.accessTokenRenewed tokenId newExpiration env.timestamp)

/-- Why a lease that enters the status loses its token. -/
def revocationReasonOf : LeaseStatus → Option RevocationReason
  | .terminated => some .leaseTerminated
  | .expired => some .leaseExpired
  | .disputed => some .leaseDisputed
  | _ => none

def handleLeaseStateChange (env : Env) (leaseId : LeaseId) (_oldStatus newStatus : LeaseStatus) :
    Manager Unit :=
  match revocationReasonOf newStatus with
  | some reason => revokeAccessToken env leaseId reason
  | none => pure ()

/-! ## What the operations do -/

section Specifications

variable {env : Env} {before after : Tenancy} {tokenId : U128} {leaseId : LeaseId}

@[simp] theorem commits_announce {ε : Type} (event : AccessEvent) (result : Unit) :
    Commits (announce event : Managed ε Unit) before result after ↔
      after = { before with notices := event :: before.notices } := by
  simp [announce]

@[simp] theorem commits_updateAccess {ε : Type} (change : AccessStore → AccessStore)
    (result : Unit) :
    Commits (updateAccess change : Managed ε Unit) before result after ↔
      after = { before with access := change before.access } := by
  simp [updateAccess]

@[simp] theorem commits_storeAccessToken (token : LesseeAccessToken) (result : Unit) :
    Commits (storeAccessToken env tokenId token) before result after ↔
      env.timestamp ≤ token.expirationTimestamp ∧
        after = { before with access := before.access.record tokenId token } := by
  simp [storeAccessToken]

@[simp] theorem commits_getAccessToken (token : LesseeAccessToken) :
    Commits (getAccessToken tokenId) before token after ↔
      before.access.accessToken tokenId = some token ∧ after = before := by
  simp [getAccessToken, eq_comm, and_comm]

@[simp] theorem commits_getTokenOfLease (linked : U128 × LesseeAccessToken) :
    Commits (getTokenOfLease leaseId) before linked after ↔
      before.access.leaseToAccessToken leaseId = some linked.1 ∧
        before.access.accessToken linked.1 = some linked.2 ∧ after = before := by
  simp only [getTokenOfLease, commits_bind, commits_inspect, commits_orErr, commits_getAccessToken,
    commits_pure]
  constructor
  · rintro ⟨_, _, ⟨rfl, rfl⟩, _, _, ⟨mapped, rfl⟩, _, _, ⟨stored, rfl⟩, rfl, rfl⟩
    exact ⟨mapped, stored, rfl⟩
  · rintro ⟨mapped, stored, rfl⟩
    exact ⟨_, _, ⟨rfl, rfl⟩, _, _, ⟨mapped, rfl⟩, _, _, ⟨stored, rfl⟩, rfl, rfl⟩

/-- A token is minted for an active lease with a held deposit that has none, up to its end
date. -/
theorem mintLesseeAccessToken_commits {assetIdentifier : String} {assetType : AssetType}
    {accessLevel : AccessLevel} {transferable : Bool}
    (run : Commits (mintLesseeAccessToken env leaseId assetIdentifier assetType accessLevel
      transferable) before tokenId after) :
    ∃ lease, before.leases.lookup leaseId = some lease ∧ lease.status = .active ∧
      before.access.leaseToAccessToken leaseId = none ∧
      tokenId = generateUniqueTokenId env leaseId ∧
      after.access = before.access.record tokenId (.minted env leaseId lease assetIdentifier
        assetType accessLevel transferable) ∧
      after.derived = before.derived ∧
      after.toWorld = { before.toWorld with
        leases := before.leases.set leaseId (some (tokenisedLease env tokenId lease)) } := by
  simp only [mintLesseeAccessToken, updateLeaseForAccessToken, commits_bind, commits_inspect,
    commits_orErr, commits_check, commits_storeAccessToken, commits_modify, commits_announce,
    commits_pure] at run
  obtain ⟨_, _, ⟨rfl, rfl⟩, lease, _, ⟨found, rfl⟩, _, _, ⟨active, rfl⟩, _, _, ⟨held, rfl⟩, _, _,
    ⟨rfl, rfl⟩, _, _, ⟨unmapped, rfl⟩, _, _, ⟨timely, rfl⟩, rest⟩ := run
  obtain ⟨_, _, ⟨_, _, ⟨rfl, rfl⟩, again, _, ⟨stored, rfl⟩, rfl⟩, _, _, rfl, rfl, rfl⟩ := rest
  obtain rfl := Option.some.inj (found.symm.trans stored)
  exact ⟨lease, found, active, unmapped, rfl, rfl, rfl, rfl⟩

theorem verifyAccessToken_commits {request : AccessVerificationRequest}
    {response : AccessVerificationResponse}
    (run : Commits (verifyAccessToken env request) before response after) :
    ∃ token, before.access.accessToken request.tokenId = some token ∧
      response.isValid = token.isValid env.timestamp ∧
      after.toWorld = before.toWorld ∧ after.derived = before.derived ∧
      after.access = { before.access with
        accessToken := Function.update before.access.accessToken request.tokenId
          (some { token with
            lastVerified := env.timestamp
            verificationCount := token.verificationCount + 1 })
        verificationCache := Function.update before.access.verificationCache
          (request.tokenId, request.requestingSystem, request.timestamp)
          (some (token.isValid env.timestamp)) } := by
  simp only [verifyAccessToken, updateVerificationStats, cacheVerificationResult, commits_bind,
    commits_getAccessToken, commits_checkedUpTo, commits_updateAccess, commits_announce,
    commits_pure] at run
  obtain ⟨token, _, ⟨found, rfl⟩, _, _, ⟨again, _, ⟨stored, rfl⟩, _, _, ⟨_, rfl, rfl⟩, rfl⟩, _, _,
    rfl, _, _, rfl, rfl, rfl⟩ := run
  obtain rfl := Option.some.inj (found.symm.trans stored)
  exact ⟨token, found, rfl, rfl, rfl, rfl⟩

theorem verifyAccessToken_answers {request : AccessVerificationRequest}
    {token : LesseeAccessToken} (stored : before.access.accessToken request.tokenId = some token)
    (counted : token.verificationCount + 1 ≤ u32Max) :
    ∃ after, Commits (verifyAccessToken env request) before
      (verificationResponse env request token) after := by
  simp only [verifyAccessToken, updateVerificationStats, cacheVerificationResult, commits_bind,
    commits_getAccessToken, commits_checkedUpTo, commits_updateAccess, commits_announce,
    commits_pure]
  exact ⟨_, token, _, ⟨stored, rfl⟩, (), _, ⟨token, _, ⟨stored, rfl⟩, _, _, ⟨counted, rfl, rfl⟩,
    rfl⟩, (), _, rfl, (), _, rfl, rfl, rfl⟩

theorem transferAccessToken_commits {request : TokenTransferRequest} {result : Unit}
    (run : Commits (transferAccessToken env request) before result after) :
    ∃ token, before.access.accessToken request.tokenId = some token ∧ token.revoked = false ∧
      after.toWorld = before.toWorld ∧ after.derived = before.derived ∧
      after.access = (before.access.record request.tokenId
        (token.handedTo request.toLessee (token.transferCount + 1))).remap request.tokenId
          request.fromLessee request.toLessee := by
  simp only [transferAccessToken, commits_bind, commits_getAccessToken, commits_check,
    commits_checkedUpTo, commits_storeAccessToken, commits_updateAccess, commits_announce] at run
  obtain ⟨token, _, ⟨found, rfl⟩, _, _, ⟨_, rfl⟩, _, _, ⟨unrevoked, rfl⟩, _, _, ⟨_, rfl⟩, _, _,
    ⟨_, rfl⟩, _, _, ⟨_, rfl, rfl⟩, _, _, ⟨_, rfl⟩, _, _, rfl, rfl⟩ := run
  exact ⟨token, found, unrevoked, rfl, rfl, rfl⟩

/-- The index was counted up and the revocation entered under it. -/
def AccessStore.logRevocation (env : Env) (leaseId : LeaseId) (tokenId : U128)
    (reason : RevocationReason) (store : AccessStore) : AccessStore :=
  { store with
    revocationHistory := Function.update store.revocationHistory
      (leaseId, (store.revocationIndex leaseId).getD 0) (some (tokenId, reason, env.timestamp))
    revocationIndex := Function.update store.revocationIndex leaseId
      (some ((store.revocationIndex leaseId).getD 0 + 1)) }

@[simp] theorem commits_storeRevocationHistory (reason : RevocationReason) (result : Unit) :
    Commits (storeRevocationHistory env leaseId tokenId reason) before result after ↔
      before.assets.tenantFlag leaseId = false ∧
        (before.access.revocationIndex leaseId).getD 0 + 1 ≤ u64Max ∧
        after = { before with
          access := before.access.logRevocation env leaseId tokenId reason } := by
  simp only [storeRevocationHistory, readRevocationIndex, commits_bind, commits_inspect,
    commits_orTrap, commits_updateAccess, commits_checkedUpTo]
  constructor
  · rintro ⟨_, _, ⟨_, _, ⟨rfl, rfl⟩, _, _, ⟨unflagged, rfl⟩, rfl, rfl⟩, _, _, rfl, _, _,
      ⟨fits, rfl, rfl⟩, rfl⟩
    exact ⟨unflagged, fits, rfl⟩
  · rintro ⟨unflagged, fits, rfl⟩
    exact ⟨_, _, ⟨_, _, ⟨rfl, rfl⟩, (), _, ⟨unflagged, rfl⟩, rfl, rfl⟩, (), _, rfl, _, _,
      ⟨fits, rfl, rfl⟩, rfl⟩

/-- A revocation goes through exactly when the lease is mapped to a stored token that is not
past its expiration, and its revocations can be counted. -/
theorem commits_revokeAccessToken_iff {reason : RevocationReason} {result : Unit} :
    Commits (revokeAccessToken env leaseId reason) before result after ↔
      ∃ tokenId token, before.access.leaseToAccessToken leaseId = some tokenId ∧
        before.access.accessToken tokenId = some token ∧
        env.timestamp ≤ token.expirationTimestamp ∧
        before.assets.tenantFlag leaseId = false ∧
        (before.access.revocationIndex leaseId).getD 0 + 1 ≤ u64Max ∧
        after = { before with
          access := ((before.access.record tokenId
            (token.revokedFor reason env.timestamp)).logRevocation env leaseId tokenId reason)
          notices := .lesseeAccessRevoked leaseId tokenId token.lessee reason env.timestamp ::
            before.notices } := by
  simp only [revokeAccessToken, commits_bind, commits_getTokenOfLease, commits_storeAccessToken,
    commits_storeRevocationHistory, commits_announce, Prod.exists]
  constructor
  · rintro ⟨tokenId, token, _, ⟨mapped, stored, rfl⟩, _, _, ⟨timely, rfl⟩, _, _,
      ⟨unflagged, fits, rfl⟩, rfl⟩
    exact ⟨tokenId, token, mapped, stored, timely, unflagged, fits, rfl⟩
  · rintro ⟨tokenId, token, mapped, stored, timely, unflagged, fits, rfl⟩
    exact ⟨tokenId, token, _, ⟨mapped, stored, rfl⟩, (), _, ⟨timely, rfl⟩, (), _,
      ⟨unflagged, fits, rfl⟩, rfl⟩

/-- The lease is mapped to no stored token. -/
def AccessStore.Unlinked (store : AccessStore) (leaseId : LeaseId) : Prop :=
  ∀ tokenId, store.leaseToAccessToken leaseId = some tokenId → store.accessToken tokenId = none

theorem AccessStore.linked_of_not_unlinked {store : AccessStore}
    (linked : ¬ store.Unlinked leaseId) :
    ∃ tokenId token, store.leaseToAccessToken leaseId = some tokenId ∧
      store.accessToken tokenId = some token := by
  simp only [Unlinked, not_forall] at linked
  obtain ⟨tokenId, mapped, stored⟩ := linked
  obtain ⟨token, stored⟩ := Option.ne_none_iff_exists'.mp stored
  exact ⟨tokenId, token, mapped, stored⟩

theorem faults_getAccessToken {fault : Failure AccessError} :
    Faults (getAccessToken tokenId) before fault after ↔
      before.access.accessToken tokenId = none ∧ fault = .err .tokenNotFound ∧ after = before := by
  simp only [getAccessToken, faults_bind, not_faults_inspect, false_or, commits_inspect,
    faults_orErr]
  constructor
  · rintro ⟨_, _, ⟨rfl, rfl⟩, missing, rfl, rfl⟩
    exact ⟨missing, rfl, rfl⟩
  · rintro ⟨missing, rfl, rfl⟩
    exact ⟨_, _, ⟨rfl, rfl⟩, missing, rfl, rfl⟩

theorem faults_getTokenOfLease {fault : Failure AccessError} :
    Faults (getTokenOfLease leaseId) before fault after ↔
      before.access.Unlinked leaseId ∧ fault = .err .tokenNotFound ∧ after = before := by
  simp only [getTokenOfLease, faults_bind, not_faults_inspect, not_faults_pure, false_or,
    commits_inspect, commits_orErr, faults_orErr, faults_getAccessToken, and_false, exists_false,
    or_false]
  constructor
  · rintro ⟨_, _, ⟨rfl, rfl⟩, ⟨missing, rfl, rfl⟩ | ⟨tokenId, _, ⟨mapped, rfl⟩, missing, rfl, rfl⟩⟩
    · refine ⟨fun tokenId mapped => ?_, rfl, rfl⟩
      rw [missing] at mapped
      cases mapped
    · refine ⟨fun other also => ?_, rfl, rfl⟩
      rwa [Option.some.inj (also.symm.trans mapped)]
  · rintro ⟨unlinked, rfl, rfl⟩
    refine ⟨_, _, ⟨rfl, rfl⟩, ?_⟩
    cases mapped : after.access.leaseToAccessToken leaseId with
    | none => exact .inl ⟨rfl, rfl, rfl⟩
    | some tokenId => exact .inr ⟨tokenId, _, ⟨rfl, rfl⟩, unlinked tokenId mapped, rfl, rfl⟩

theorem faults_revokeAccessToken {reason : RevocationReason} {error : AccessError} :
    Faults (revokeAccessToken env leaseId reason) before (.err error) after ↔
      before.access.Unlinked leaseId ∧ error = .tokenNotFound ∧ after = before := by
  have traps (linked : U128 × LesseeAccessToken) : TrapsOnly (do
      storeAccessToken env linked.1 (linked.2.revokedFor reason env.timestamp)
      storeRevocationHistory env leaseId linked.1 reason
      announce (.lesseeAccessRevoked leaseId linked.1 linked.2.lessee reason env.timestamp)) := by
    refine trapsOnly_bind ?_ fun _ => trapsOnly_bind ?_ fun _ => trapsOnly_modify _
    · exact trapsOnly_bind (trapsOnly_modify _) fun _ =>
        trapsOnly_bind (trapsOnly_checkedSub _ _) fun _ => trapsOnly_pure _
    · refine trapsOnly_bind (trapsOnly_bind (trapsOnly_inspect _) fun _ =>
        trapsOnly_bind (trapsOnly_orTrap _ _) fun _ => trapsOnly_inspect _) fun _ => ?_
      exact trapsOnly_bind (trapsOnly_modify _) fun _ =>
        trapsOnly_bind (trapsOnly_checkedUpTo _ _) fun _ => trapsOnly_modify _
  unfold revokeAccessToken
  rw [faults_bind, faults_getTokenOfLease]
  constructor
  · rintro (⟨unlinked, same, rfl⟩ | ⟨linked, middle, _, late⟩)
    · cases same
      exact ⟨unlinked, rfl, rfl⟩
    · exact absurd late (traps linked middle error after)
  · rintro ⟨unlinked, rfl, rfl⟩
    exact .inl ⟨unlinked, rfl, rfl⟩

theorem renewAccessToken_commits {newExpiration : U64} {result : Unit}
    (run : Commits (renewAccessToken env leaseId newExpiration) before result after) :
    ∃ tokenId token, before.access.leaseToAccessToken leaseId = some tokenId ∧
      before.access.accessToken tokenId = some token ∧ token.revoked = false ∧
      after.toWorld = before.toWorld ∧ after.derived = before.derived ∧
      after.access =
        before.access.record tokenId { token with expirationTimestamp := newExpiration } := by
  simp only [renewAccessToken, commits_bind, commits_getTokenOfLease, commits_check,
    commits_storeAccessToken, commits_announce, Prod.exists] at run
  obtain ⟨tokenId, token, _, ⟨mapped, stored, rfl⟩, _, _, ⟨unrevoked, rfl⟩, _, _, ⟨_, rfl⟩,
    rfl⟩ := run
  exact ⟨tokenId, token, mapped, stored, unrevoked, rfl, rfl, rfl⟩

end Specifications

end LeaseFlow.Access
