import LeaseFlow.KeySpace.Storage
import LeaseFlow.Access.LesseeTokens

/-!
# The device integration

The operations on devices and their queries of access tokens.  There is one device, and it lies
at the key of lease `0`.
-/

set_option autoImplicit false

namespace LeaseFlow.KeySpace

open Transaction Failure

/-! ## Devices -/

def deviceKey : StorageKey :=
  (AccessDataKey.leaseInstance 0).key

def storeDevice (device : IotDevice) : Module Unit :=
  persistently (TypedStore.set Held.iotDevice deviceKey device)

/-- The device that is asked for is not compared with the one that is stored. -/
def getDevice (_deviceId : String) : Module IotDevice :=
  getOr Held.iotDevice deviceKey (.iot .deviceNotFound)

def registerDevice (env : Env) (deviceId : String) (deviceType : IotDeviceType) (owner : Address)
    (location : String) (capabilities : DeviceCapabilities)
    (firmwareVersion hardwareVersion : String) : Module Unit := do
  let taken ← persistently (TypedStore.has deviceKey)
  check (taken = false) (.iot .deviceNotRegistered)
  storeDevice {
    deviceId := deviceId
    deviceType := deviceType
    owner := owner
    location := location
    capabilities := capabilities
    registeredAt := env.timestamp
    lastSeen := env.timestamp
    status := .online
    firmwareVersion := firmwareVersion
    hardwareVersion := hardwareVersion }
  announce (.deviceRegistered deviceId deviceType owner env.timestamp)

/-- No address is an admin. -/
def isIotAdmin (_address : Address) : Bool := false

def updateDeviceStatus (env : Env) (deviceId : String) (newStatus : DeviceStatus)
    (requester : Address) : Module Unit := do
  let device ← getDevice deviceId
  check (device.owner = requester ∨ isIotAdmin requester = true) (.iot .unauthorizedDevice)
  storeDevice { device with status := newStatus, lastSeen := env.timestamp }
  announce (.deviceStatusUpdated deviceId device.status newStatus env.timestamp)

def getDeviceInfo (deviceId : String) : Module IotDevice :=
  getDevice deviceId

def performHealthCheck (env : Env) (deviceId : String) : Module DeviceHealthStatus := do
  let device ← getDevice deviceId
  pure {
    deviceId := deviceId
    isOnline := decide (device.status = .online)
    lastSeen := device.lastSeen
    uptime := env.timestamp - device.registeredAt
    batteryLevel := none
    signalStrength := none
    firmwareUptoDate := true
    lastHealthCheck := env.timestamp
    issues := [] }

def getOwnerDevices (_owner : Address) : Module (List IotDevice) :=
  pure []

def getDevicesByType (_deviceType : IotDeviceType) : Module (List IotDevice) :=
  pure []

def getOnlineDevices : Module (List IotDevice) :=
  pure []

/-! ## Access tokens -/

def accessTokenKey (tokenId : U128) : StorageKey :=
  (AccessDataKey.lesseeAccessToken tokenId).key

def getAccessToken (tokenId : U128) : Module Access.LesseeAccessToken :=
  getOr Held.lesseeAccessToken (accessTokenKey tokenId) (.access .tokenNotFound)

def getLesseeTokens (lessee : Address) : Module (List U128) := do
  let found ← persistently (TypedStore.get Held.tokenIds (AccessDataKey.lesseeToTokens lessee).key)
  pure (found.getD [])

/-- The manager's verification, on the shared store. -/
def verifyAccessToken (env : Env) (request : Access.AccessVerificationRequest) :
    Module Access.AccessVerificationResponse := do
  let token ← getAccessToken request.tokenId
  let isValid := token.isValid env.timestamp
  let again ← getAccessToken request.tokenId
  let verificationCount ← checkedUpTo Access.u32Max (again.verificationCount + 1)
  persistently (TypedStore.set Held.lesseeAccessToken (accessTokenKey request.tokenId)
    { again with lastVerified := env.timestamp, verificationCount := verificationCount })
  temporarily (TypedStore.set Held.bool
    (AccessDataKey.verificationCache request.tokenId request.requestingSystem
      request.timestamp.toUInt64).key isValid)
  announce (.accessTokenVerified request.tokenId request.requestingSystem
    request.verificationPurpose isValid env.timestamp)
  pure (Access.verificationResponse env request token)

def queryTokenValidity (env : Env) (tokenId : U128) (requestingSystem : Address) :
    Module Bool := do
  let response ← orFail (.iot .crossContractCallFailed)
    (verifyAccessToken env ⟨tokenId, requestingSystem, .validate, env.timestamp⟩)
  pure response.isValid

/-- Every system is authorised. -/
def isSystemAuthorized (_system : Address) : Bool := true

def getTokenDetails (tokenId : U128) (requestingSystem : Address) :
    Module Access.LesseeAccessToken := do
  let token ← orFail (.iot .tokenNotFound) (getAccessToken tokenId)
  check (isSystemAuthorized requestingSystem = true) (.iot .unauthorizedDevice)
  pure token

/-! ## Access requests -/

/-- The first token of a list that is stored and valid. -/
def firstValidToken (env : Env) : List U128 → Module (Option Access.LesseeAccessToken)
  | [] => pure none
  | tokenId :: rest => do
      let found ← persistently (TypedStore.get Held.lesseeAccessToken (accessTokenKey tokenId))
      match found.filter (·.isValid env.timestamp) with
      | some token => pure (some token)
      | none => firstValidToken env rest

def getUserAccessToken (env : Env) (user : Address) : Module Access.LesseeAccessToken := do
  let tokenIds ← getLesseeTokens user
  let found ← firstValidToken env tokenIds
  orErr found (.iot .accessDenied)

/-- Only a voice command needs remote access. -/
def DeviceCapabilities.Supports (capabilities : DeviceCapabilities) : AccessMethod → Bool
  | .voice => capabilities.supportsRemote
  | _ => true

def iotAccessLevel : Access.AccessLevel → IotAccessLevel
  | .full => .full
  | .limited => .limited
  | .timeBased => .standard
  | .conditional => .limited

def AccessUrgency.duration : AccessUrgency → U64
  | .critical => 3600
  | .high => 1800
  | .medium => 900
  | .low => 300

def generateVerificationCode (env : Env) : BytesN 32 :=
  .repeated 32 env.sequence.toUInt8

def generateAccessInstructions (deviceType : IotDeviceType) : List String :=
  "Please verify your identity" ::
    [match deviceType with
    | .smartLock => "Press the unlock button after verification"
    | .accessGate => "Proceed to the gate after access is granted"
    | .smartKey => "Hold the key near the reader"
    | _ => "Follow the device instructions"]

def processAccessRequest (env : Env) (request : IotAccessRequest) : Module IotAccessResponse := do
  let device ← getDevice request.deviceId
  check (device.status = .online) (.iot .deviceOffline)
  check (device.capabilities.Supports request.accessMethod = true) (.iot .invalidAccessMethod)
  let token ← getUserAccessToken env request.requestingUser
  check (token.isValid env.timestamp = true) (.iot .tokenExpired)
  check (token.revoked = false) (.iot .tokenRevoked)
  let accessLevel := iotAccessLevel token.accessLevel
  let duration := request.urgency.duration
  let expiresAt ← checkedUpTo u64Max (env.timestamp + duration)
  announce (.deviceAccessGranted request.deviceId request.requestingUser accessLevel env.timestamp
    expiresAt)
  pure {
    deviceId := request.deviceId
    accessGranted := true
    accessDuration := some duration
    accessLevel := accessLevel
    grantedAt := env.timestamp
    expiresAt := some expiresAt
    verificationCode :=
      if device.capabilities.encryptionLevel = .none then none
      else some (generateVerificationCode env)
    auditRequired := device.capabilities.supportsAudit
    additionalInstructions := generateAccessInstructions device.deviceType }

/-! ## What the operations do -/

section Specifications

variable {env : Env} {before after : Storage} {deviceId : String} {tokenId : U128}

theorem foreign_iotDevice : Held.leaseInstance.Foreign Held.iotDevice :=
  fun _ _ same => by cases same

theorem foreign_lesseeAccessToken : Held.leaseInstance.Foreign Held.lesseeAccessToken :=
  fun _ _ same => by cases same

/-- A device is registered only where nothing lies at its key. -/
theorem registerDevice_commits {deviceType : IotDeviceType} {owner : Address} {location : String}
    {capabilities : DeviceCapabilities} {firmwareVersion hardwareVersion : String} {result : Unit}
    (run : Commits (registerDevice env deviceId deviceType owner location capabilities
      firmwareVersion hardwareVersion) before result after) :
    before.persistent deviceKey = none ∧ ∃ device, after.persistent =
      Function.update before.persistent deviceKey (some (Held.iotDevice.store device)) := by
  simp only [registerDevice, storeDevice, commits_bind, commits_persistently,
    TypedStore.commits_has, commits_check, TypedStore.commits_set, commits_announce] at run
  obtain ⟨_, _, ⟨_, ⟨rfl, rfl⟩, rfl⟩, _, _, ⟨free, rfl⟩, _, _, ⟨_, rfl, rfl⟩, rfl⟩ := run
  exact ⟨Option.isSome_eq_false_iff.mp free |> Option.isNone_iff_eq_none.mp, _, rfl⟩

/-- A status is updated only on a stored device, by its owner. -/
theorem updateDeviceStatus_commits {newStatus : DeviceStatus} {requester : Address} {result : Unit}
    (run : Commits (updateDeviceStatus env deviceId newStatus requester) before result after) :
    ∃ device, before.persistent deviceKey = some (Held.iotDevice.store device) ∧
      device.owner = requester ∧
      after.persistent = Function.update before.persistent deviceKey
        (some (Held.iotDevice.store
          { device with status := newStatus, lastSeen := env.timestamp })) := by
  simp only [updateDeviceStatus, getDevice, storeDevice, commits_bind, commits_getOr, commits_check,
    commits_persistently, TypedStore.commits_set, commits_announce] at run
  obtain ⟨device, _, ⟨lies, rfl⟩, _, _, ⟨allowed, rfl⟩, _, _, ⟨_, rfl, rfl⟩, rfl⟩ := run
  exact ⟨device, lies, allowed.resolve_right (by simp [isIotAdmin]), rfl⟩

theorem leaves_performHealthCheck (env : Env) (deviceId : String) :
    LeavesEntries (performHealthCheck env deviceId) :=
  steady_bind (leaves_getOr _ _ _) fun _ => steady_pure _

theorem leaves_getTokenDetails (tokenId : U128) (requestingSystem : Address) :
    LeavesEntries (getTokenDetails tokenId requestingSystem) :=
  steady_bind (steady_raising _ (leaves_getOr _ _ _)) fun _ =>
    steady_bind (steady_check _ _) fun _ => steady_pure _

theorem leaves_firstValidToken (env : Env) (tokenIds : List U128) :
    LeavesEntries (firstValidToken env tokenIds) := by
  induction tokenIds with
  | nil => exact steady_pure none
  | cons tokenId rest ih =>
      refine steady_bind (leaves_get _ _) fun found => ?_
      cases found.filter (·.isValid env.timestamp) with
      | some token => exact steady_pure (some token)
      | none => exact ih

theorem leaves_getUserAccessToken (env : Env) (user : Address) :
    LeavesEntries (getUserAccessToken env user) := by
  refine steady_bind (steady_bind (leaves_get _ _) fun _ => steady_pure _) fun tokenIds => ?_
  exact steady_bind (leaves_firstValidToken env tokenIds) fun found => steady_orErr found _

theorem leaves_processAccessRequest (env : Env) (request : IotAccessRequest) :
    LeavesEntries (processAccessRequest env request) := by
  refine steady_bind (leaves_getOr _ _ _) fun device => ?_
  refine steady_bind (steady_check _ _) fun _ => steady_bind (steady_check _ _) fun _ => ?_
  refine steady_bind (leaves_getUserAccessToken env _) fun token => ?_
  refine steady_bind (steady_check _ _) fun _ => steady_bind (steady_check _ _) fun _ => ?_
  refine steady_bind (steady_checkedUpTo _ _) fun expiresAt => ?_
  exact steady_bind (leaves_announce _) fun _ => steady_pure _

/-- A verification counts itself on the token and writes no other entry. -/
theorem verifyAccessToken_commits {request : Access.AccessVerificationRequest}
    {response : Access.AccessVerificationResponse}
    (run : Commits (verifyAccessToken env request) before response after) :
    ∃ token, before.persistent (accessTokenKey request.tokenId) =
        some (Held.lesseeAccessToken.store token) ∧
      token.verificationCount + 1 ≤ Access.u32Max ∧
      response = Access.verificationResponse env request token ∧
      after.persistent = Function.update before.persistent (accessTokenKey request.tokenId)
        (some (Held.lesseeAccessToken.store { token with
          lastVerified := env.timestamp
          verificationCount := token.verificationCount + 1 })) := by
  simp only [verifyAccessToken, getAccessToken, commits_bind, commits_getOr, commits_checkedUpTo,
    commits_persistently, TypedStore.commits_set, commits_announce, commits_pure] at run
  obtain ⟨token, _, ⟨lies, rfl⟩, again, _, ⟨same, rfl⟩, _, _, ⟨counted, rfl, rfl⟩, _, _,
    ⟨_, rfl, rfl⟩, _, _, cached, _, _, rfl, rfl, rfl⟩ := run
  obtain rfl := Held.lesseeAccessToken.store_injective (Option.some.inj (lies.symm.trans same))
  exact ⟨token, lies, counted, rfl, (leaves_temporarily _).keeps cached⟩

end Specifications

/-! ## The manager's own verification -/

/-- The registry holds the tokens that lie in the shared store. -/
def Mirrors (storage : Storage) (tenancy : Access.Tenancy) : Prop :=
  ∀ tokenId, storage.persistent (accessTokenKey tokenId) =
    (tenancy.access.accessToken tokenId).map Held.lesseeAccessToken.store

theorem accessTokenKey_injective : Function.Injective accessTokenKey := by
  intro first second same
  simpa [accessTokenKey, AccessDataKey.key] using same

/-- Every verification on the shared store is one of the access token manager. -/
theorem verifyAccessToken_refines {env : Env} {storage next : Storage} {tenancy : Access.Tenancy}
    {request : Access.AccessVerificationRequest} {response : Access.AccessVerificationResponse}
    (mirrors : Mirrors storage tenancy)
    (run : Commits (verifyAccessToken env request) storage response next) :
    ∃ after, Commits (Access.verifyAccessToken env request) tenancy response after ∧
      Mirrors next after := by
  obtain ⟨token, lies, counted, rfl, written⟩ := verifyAccessToken_commits run
  have stored : tenancy.access.accessToken request.tokenId = some token := by
    have mirrored := mirrors request.tokenId
    rw [lies, eq_comm, Option.map_eq_some_iff] at mirrored
    obtain ⟨held, found, same⟩ := mirrored
    rw [found, Held.lesseeAccessToken.store_injective same]
  obtain ⟨after, verified⟩ := @Access.verifyAccessToken_answers env _ _ _ stored counted
  refine ⟨after, verified, fun tokenId => ?_⟩
  obtain ⟨again, found, -, -, -, updated⟩ := Access.verifyAccessToken_commits verified
  obtain rfl := Option.some.inj (stored.symm.trans found)
  rw [written, updated]
  by_cases same : tokenId = request.tokenId
  · subst same
    simp
  · simp only [Function.update_of_ne same,
      Function.update_of_ne (accessTokenKey_injective.ne same)]
    exact mirrors tokenId

end LeaseFlow.KeySpace
