import LeaseFlow.KeySpace.IotIntegration
import LeaseFlow.Contract.Dispatch

/-!
# What opens a lock

A request is granted on the first valid token that is listed for the user, whatever asset the
token is for, whoever made the call, and for a time that the urgency alone decides.
-/

set_option autoImplicit false

namespace LeaseFlow.KeySpace

open Transaction Failure

def Storage.accessToken (storage : Storage) (tokenId : U128) :
    Option Access.LesseeAccessToken :=
  (storage.persistent (accessTokenKey tokenId)).bind Held.lesseeAccessToken.convert

theorem Storage.accessToken_of_lies {storage : Storage} {tokenId : U128}
    {token : Access.LesseeAccessToken}
    (lies : storage.persistent (accessTokenKey tokenId) =
      some (Held.lesseeAccessToken.store token)) : storage.accessToken tokenId = some token := by
  rw [accessToken, lies, Option.bind_some, Held.lesseeAccessToken.convert_store]

/-- The tokens listed for a user, none where no list is kept. -/
def Storage.tokensOf (storage : Storage) (user : Address) : List U128 :=
  ((storage.persistent (AccessDataKey.lesseeToTokens user).key).bind
    Held.tokenIds.convert).getD []

/-! ## What a grant has looked at -/

section Granting

variable {env : Env} {before after : Storage}

theorem firstValidToken_commits {tokenIds : List U128} {token : Access.LesseeAccessToken}
    (run : Commits (firstValidToken env tokenIds) before (some token) after) :
    ∃ tokenId ∈ tokenIds, before.accessToken tokenId = some token ∧
      token.isValid env.timestamp = true := by
  induction tokenIds generalizing before with
  | nil =>
      simp only [firstValidToken, commits_pure] at run
      cases run.1
  | cons tokenId rest ih =>
      simp only [firstValidToken, commits_bind, commits_persistently,
        TypedStore.commits_get] at run
      obtain ⟨found, _, ⟨_, ⟨lies, rfl⟩, rfl⟩, chosen⟩ := run
      cases kept : found.filter (·.isValid env.timestamp) with
      | none =>
          rw [kept] at chosen
          obtain ⟨other, among, stored⟩ := ih chosen
          exact ⟨other, List.mem_cons_of_mem _ among, stored⟩
      | some first =>
          rw [kept] at chosen
          obtain ⟨same, -⟩ := (commits_pure _ _).mp chosen
          obtain rfl := Option.some.inj same
          obtain ⟨rfl, valid⟩ := Option.filter_eq_some_iff.mp kept
          exact ⟨tokenId, List.mem_cons_self, Storage.accessToken_of_lies lies, valid⟩

/-- Whatever is returned is a grant: the device was online, a token on the user's list was valid,
and the duration of the urgency is added to the time. -/
theorem processAccessRequest_commits {request : IotAccessRequest} {response : IotAccessResponse}
    (run : Commits (processAccessRequest env request) before response after) :
    response.accessGranted = true ∧
      (∃ device, before.persistent deviceKey = some (Held.iotDevice.store device) ∧
        device.status = .online) ∧
      (∃ tokenId ∈ before.tokensOf request.requestingUser, ∃ token,
        before.accessToken tokenId = some token ∧ token.isValid env.timestamp = true ∧
          response.accessLevel = iotAccessLevel token.accessLevel) ∧
      response.expiresAt = some (env.timestamp + request.urgency.duration) := by
  simp only [processAccessRequest, getDevice, commits_bind, commits_getOr, commits_check,
    commits_checkedUpTo, commits_pure] at run
  obtain ⟨device, _, ⟨lies, rfl⟩, _, _, ⟨online, rfl⟩, _, _, ⟨_, rfl⟩, token, _, chosen, _, _,
    ⟨_, rfl⟩, _, _, ⟨_, rfl⟩, _, _, ⟨_, rfl, rfl⟩, _, _, _, rfl, _⟩ := run
  simp only [getUserAccessToken, getLesseeTokens, commits_bind, commits_persistently,
    TypedStore.commits_get, commits_pure, commits_orErr] at chosen
  obtain ⟨_, _, ⟨listed, _, ⟨_, ⟨lists, rfl⟩, rfl⟩, rfl, rfl⟩, _, _, first, rfl, rfl⟩ := chosen
  obtain ⟨tokenId, among, stored, valid⟩ := firstValidToken_commits first
  refine ⟨rfl, ⟨device, lies, online⟩, ⟨tokenId, ?_, token, stored, valid, rfl⟩, rfl⟩
  rw [Storage.tokensOf, lists]
  cases listed with
  | none => exact among
  | some tokenIds => exact among

end Granting

/-! ## Safe grants -/

section Safe

variable (assetOf : String → String)

/-- The user has an unrevoked token for the asset that the device belongs to, which lasts until
the time. -/
def Storage.HoldsFor (storage : Storage) (request : IotAccessRequest) (time : U64) : Prop :=
  ∃ tokenId token, storage.accessToken tokenId = some token ∧
    token.lessee = request.requestingUser ∧ token.revoked = false ∧
    token.assetIdentifier = assetOf request.deviceId ∧ time ≤ token.expirationTimestamp

/-- The user authorised the call and holds a token for the asset of the device, which is valid
and outlasts the access that is granted. -/
structure Storage.SafelyGranted (storage : Storage) (env : Env) (request : IotAccessRequest)
    (response : IotAccessResponse) : Prop where
  authorised : env.authorised request.requestingUser = true
  held : ∃ tokenId token expiresAt, storage.accessToken tokenId = some token ∧
    token.lessee = request.requestingUser ∧ token.isValid env.timestamp = true ∧
    token.assetIdentifier = assetOf request.deviceId ∧
    response.expiresAt = some expiresAt ∧ expiresAt ≤ token.expirationTimestamp

variable {assetOf} {env : Env} {before after : Storage} {request : IotAccessRequest}
  {response : IotAccessResponse}

/-- A grant is safe exactly if the user authorised the call and holds a token for the asset that
lasts as long as the urgency asks for. -/
theorem safelyGranted_iff
    (run : Commits (processAccessRequest env request) before response after) :
    before.SafelyGranted assetOf env request response ↔
      env.authorised request.requestingUser = true ∧
        before.HoldsFor assetOf request (env.timestamp + request.urgency.duration) := by
  obtain ⟨-, -, -, expires⟩ := processAccessRequest_commits run
  constructor
  · rintro ⟨authorised, tokenId, token, _, stored, owned, valid, asset, granted, outlasts⟩
    obtain rfl := Option.some.inj (expires.symm.trans granted)
    have unrevoked : token.revoked = false := by
      simpa using (Bool.and_eq_true_iff.mp valid).1
    exact ⟨authorised, tokenId, token, stored, owned, unrevoked, asset, outlasts⟩
  · rintro ⟨authorised, tokenId, token, stored, owned, unrevoked, asset, outlasts⟩
    have valid : token.isValid env.timestamp = true := by
      rw [Access.LesseeAccessToken.isValid, unrevoked]
      exact decide_eq_true ((Nat.le_add_right _ _).trans outlasts)
    exact ⟨authorised, tokenId, token, _, stored, owned, valid, asset, expires, outlasts⟩

end Safe

/-! ## A lock of another flat -/

/-- The token of a flat, valid until time `1000`. -/
def flatToken : Access.LesseeAccessToken where
  leaseId := 7
  lessee := ⟨2⟩
  assetIdentifier := "flat 1"
  expirationTimestamp := 1000
  mintedAt := 0
  lastVerified := 0
  verificationCount := 0
  transferable := false
  transferCount := 0
  revoked := false
  revokedAt := none
  revocationReason := none
  assetType := .physical
  accessLevel := .full

def frontDoor : IotDevice where
  deviceId := "front door"
  deviceType := .smartLock
  owner := ⟨1⟩
  location := "ground floor"
  capabilities := ⟨.smartLock, true, true, true, true, true, 1, true, .none⟩
  registeredAt := 0
  lastSeen := 0
  status := .online
  firmwareVersion := "1"
  hardwareVersion := "1"

def lockEntries : Entries
  | ⟨"LeaseInstance", [.u64 0]⟩ => some (.iotDevice frontDoor)
  | ⟨"LesseeToTokens", [.address ⟨2⟩]⟩ => some (.tokenIds [70])
  | ⟨"LesseeAccessToken", [.u128 70]⟩ => some (.lesseeAccessToken flatToken)
  | _ => none

def lockStorage : Storage where
  persistent := lockEntries
  temporary _ := none
  instanceData _ := none
  events := []

def frontDoorRequest (urgency : AccessUrgency) : IotAccessRequest :=
  ⟨"front door", ⟨2⟩, .mobileApp, urgency⟩

/-- The tenant of the flat opens its door for five minutes. -/
theorem frontDoor_safelyGranted :
    ∃ response after,
      Commits (processAccessRequest (openLedger 60 0) (frontDoorRequest .low)) lockStorage response
        after ∧
      lockStorage.SafelyGranted (fun _ => "flat 1") (openLedger 60 0) (frontDoorRequest .low)
        response := by
  have goes : (processAccessRequest (openLedger 60 0) (frontDoorRequest .low)).succeeds
      lockStorage = true := by decide +kernel
  obtain ⟨response, after, run⟩ := succeeds_iff.mp goes
  exact ⟨response, after, run,
    (safelyGranted_iff run).mpr ⟨rfl, 70, flatToken, rfl, rfl, rfl, rfl, by decide⟩⟩

/-- A stranger names the tenant, at the door of another flat, for half an hour that the token
does not last. -/
theorem otherDoor_not_safelyGranted :
    ¬ ∀ (assetOf : String → String) (env : Env) (request : IotAccessRequest)
      (before after : Storage) (response : IotAccessResponse),
      Commits (processAccessRequest env request) before response after →
        response.accessGranted = true → before.SafelyGranted assetOf env request response := by
  intro safe
  have goes : (processAccessRequest (unsignedLedger 60) (frontDoorRequest .high)).succeeds
      lockStorage = true := by decide +kernel
  obtain ⟨response, after, run⟩ := succeeds_iff.mp goes
  have granted := safe (fun _ => "flat 2") _ _ _ _ _ run (processAccessRequest_commits run).1
  cases granted.authorised

end LeaseFlow.KeySpace
