import LeaseFlow.KeySpace.Records
import LeaseFlow.Foundations.Machine

/-!
# The store of the modules

The values that lie in the shared key space, the three parts of the contract's storage, and the
primitives of the modules on them.
-/

set_option autoImplicit false

namespace LeaseFlow.KeySpace

open Transaction Failure

/-! ## Values -/

/-- A structure is stored as the map of its fields, so no two of these convert into each other. -/
inductive Stored where
  | leaseInstance (lease : StoredLease)
  | nftMetadata (metadata : LessorRightsNftMetadata)
  | nftTransferRecord (record : NftTransferRecord)
  | indestructibilityLock (lock : NftIndestructibilityLock)
  | ownershipVerification (response : OwnershipVerificationResponse)
  | paymentRoutingConfig (config : PaymentRoutingConfig)
  | yieldAccumulation (accumulation : YieldAccumulation)
  | dexConfig (config : DexIntegrationConfig)
  | nftListing (listing : NftListing)
  | nftMarketData (marketData : NftMarketData)
  | iotDevice (device : IotDevice)
  | lesseeAccessToken (token : Access.LesseeAccessToken)
  | tokenIds (tokenIds : List U128)
  | address (address : Address)
  | u128 (value : U128)
  | u32 (value : U32)
  | bool (value : Bool)

namespace Held

def leaseInstance : Kind Stored StoredLease where
  store := .leaseInstance
  convert | .leaseInstance lease => some lease | _ => none
  convert_eq_some_iff stored value := by cases stored <;> simp

def nftMetadata : Kind Stored LessorRightsNftMetadata where
  store := .nftMetadata
  convert | .nftMetadata metadata => some metadata | _ => none
  convert_eq_some_iff stored value := by cases stored <;> simp

def nftTransferRecord : Kind Stored NftTransferRecord where
  store := .nftTransferRecord
  convert | .nftTransferRecord record => some record | _ => none
  convert_eq_some_iff stored value := by cases stored <;> simp

def indestructibilityLock : Kind Stored NftIndestructibilityLock where
  store := .indestructibilityLock
  convert | .indestructibilityLock lock => some lock | _ => none
  convert_eq_some_iff stored value := by cases stored <;> simp

def ownershipVerification : Kind Stored OwnershipVerificationResponse where
  store := .ownershipVerification
  convert | .ownershipVerification response => some response | _ => none
  convert_eq_some_iff stored value := by cases stored <;> simp

def paymentRoutingConfig : Kind Stored PaymentRoutingConfig where
  store := .paymentRoutingConfig
  convert | .paymentRoutingConfig config => some config | _ => none
  convert_eq_some_iff stored value := by cases stored <;> simp

def yieldAccumulation : Kind Stored YieldAccumulation where
  store := .yieldAccumulation
  convert | .yieldAccumulation accumulation => some accumulation | _ => none
  convert_eq_some_iff stored value := by cases stored <;> simp

def dexConfig : Kind Stored DexIntegrationConfig where
  store := .dexConfig
  convert | .dexConfig config => some config | _ => none
  convert_eq_some_iff stored value := by cases stored <;> simp

def nftListing : Kind Stored NftListing where
  store := .nftListing
  convert | .nftListing listing => some listing | _ => none
  convert_eq_some_iff stored value := by cases stored <;> simp

def nftMarketData : Kind Stored NftMarketData where
  store := .nftMarketData
  convert | .nftMarketData marketData => some marketData | _ => none
  convert_eq_some_iff stored value := by cases stored <;> simp

def iotDevice : Kind Stored IotDevice where
  store := .iotDevice
  convert | .iotDevice device => some device | _ => none
  convert_eq_some_iff stored value := by cases stored <;> simp

def lesseeAccessToken : Kind Stored Access.LesseeAccessToken where
  store := .lesseeAccessToken
  convert | .lesseeAccessToken token => some token | _ => none
  convert_eq_some_iff stored value := by cases stored <;> simp

def tokenIds : Kind Stored (List U128) where
  store := .tokenIds
  convert | .tokenIds tokenIds => some tokenIds | _ => none
  convert_eq_some_iff stored value := by cases stored <;> simp

def address : Kind Stored Address where
  store := .address
  convert | .address address => some address | _ => none
  convert_eq_some_iff stored value := by cases stored <;> simp

def u128 : Kind Stored U128 where
  store := .u128
  convert | .u128 value => some value | _ => none
  convert_eq_some_iff stored value := by cases stored <;> simp

def u32 : Kind Stored U32 where
  store := .u32
  convert | .u32 value => some value | _ => none
  convert_eq_some_iff stored value := by cases stored <;> simp

def bool : Kind Stored Bool where
  store := .bool
  convert | .bool value => some value | _ => none
  convert_eq_some_iff stored value := by cases stored <;> simp

end Held

/-! ## Storage -/

abbrev Entries := TypedStore StorageKey Stored

inductive ModuleEvent where
  | lessorRightsTokenized (leaseId : LeaseId) (tokenId : U128) (originalLessor : Address)
      (mintedAt : U64)
  | nftLocked (tokenId : U128) (leaseId : LeaseId) (lockReason : LockReason) (lockedAt : U64)
  | nftTransferred (tokenId : U128) (fromHolder toHolder : Address) (transferTimestamp : U64)
      (accruedYield prorationAmount : I128)
  | yieldRedirected (tokenId : U128) (newHolder : Address) (yieldAmount : I128)
      (redirectionTimestamp : U64)
  | paymentRouted (leaseId : LeaseId) (sender recipient : Address) (amount : I128)
      (routingTimestamp : U64)
  | yieldAccumulated (leaseId : LeaseId) (holder : Address) (accumulatedAmount : I128)
      (accumulationPeriod : U64)
  | routingUpdated (leaseId : LeaseId) (previousHolder newHolder : Address)
      (updateTimestamp : U64)
  | mutualLeaseFinalized (leaseId : LeaseId) (returnAmount slashAmount tenantRefund
      landlordPayout : I128)
  | nftListed (tokenId : U128) (seller : Address) (price : I128) (leaseId : LeaseId)
      (listedAt : U64)
  | nftSold (tokenId : U128) (seller buyer : Address) (price fees : I128) (leaseId : LeaseId)
      (soldAt : U64)
  | nftDelisted (tokenId : U128) (seller : Address) (delistedAt : U64)
  | marketDataUpdated (tokenId : U128) (leaseId : LeaseId) (newPrice : I128)
      (updateTimestamp : U64)
  | accessTokenVerified (tokenId : U128) (requestingSystem : Address)
      (verificationPurpose : Access.VerificationPurpose) (isValid : Bool) (verifiedAt : U64)
  | deviceRegistered (deviceId : String) (deviceType : IotDeviceType) (owner : Address)
      (registeredAt : U64)
  | deviceAccessGranted (deviceId : String) (user : Address) (accessLevel : IotAccessLevel)
      (grantedAt expiresAt : U64)
  | deviceStatusUpdated (deviceId : String) (oldStatus newStatus : DeviceStatus)
      (updatedAt : U64)

/-- The three parts of the storage, and the events, newest first. -/
structure Storage where
  persistent : Entries
  temporary : Entries
  instanceData : Entries
  events : List ModuleEvent

/-- The lease record at the key of a lease, if one lies there. -/
def Storage.lease (storage : Storage) (leaseId : LeaseId) : Option StoredLease :=
  (storage.persistent (leaseKey leaseId)).bind Held.leaseInstance.convert

inductive ModuleError where
  | lease (error : LeaseError)
  | nft (error : NftError)
  | routing (error : RoutingError)
  | dex (error : DexError)
  | access (error : Access.AccessError)
  | iot (error : IotError)
  deriving DecidableEq, Repr

/-- What the source leaves undecided: which key a token id makes as the `u64` of a lease, which
index a transfer record has, which declares no transfer count, and the address that a test
utility generates. -/
structure Gaps where
  listingPayload : U128 → KeyField
  transferCount : NftTransferRecord → UInt64
  generatedAddress : Address

abbrev Module (α : Type) := Transaction Storage (Failure ModuleError) α

def persistently {α : Type} (body : Transaction Entries (Failure ModuleError) α) : Module α :=
  within Storage.persistent (fun entries storage => { storage with persistent := entries }) body

def temporarily {α : Type} (body : Transaction Entries (Failure ModuleError) α) : Module α :=
  within Storage.temporary (fun entries storage => { storage with temporary := entries }) body

def inInstance {α : Type} (body : Transaction Entries (Failure ModuleError) α) : Module α :=
  within Storage.instanceData (fun entries storage => { storage with instanceData := entries }) body

def announce (event : ModuleEvent) : Module Unit :=
  modify fun storage => { storage with events := event :: storage.events }

def requireAuth (env : Env) (address : Address) : Module Unit :=
  orTrap (env.authorised address = true) "HostError: Error(Auth, InvalidAction)"

def checkedI128 (value : Int) : Module I128 := do
  orTrap (i128Min ≤ value ∧ value ≤ i128Max) "attempt to perform arithmetic with overflow"
  pure value

/-- `map_err(|_| error)` -/
def orFail {α : Type} (error : ModuleError) (body : Module α) : Module α :=
  raising (mapErr fun _ => error) body

/-- `get(key).ok_or(missing)` -/
def getOr {α : Type} (kind : Kind Stored α) (key : StorageKey) (missing : ModuleError) :
    Module α := do
  let found ← persistently (TypedStore.get kind key)
  orErr found missing

def loadLease (leaseId : LeaseId) (missing : ModuleError) : Module StoredLease :=
  getOr Held.leaseInstance (leaseKey leaseId) missing

def saveLease (leaseId : LeaseId) (lease : StoredLease) : Module Unit :=
  persistently (TypedStore.set Held.leaseInstance (leaseKey leaseId) lease)

/-! ## What the primitives do -/

section Primitives

variable {before after : Storage} {leaseId : LeaseId}

@[simp] theorem commits_persistently {α : Type}
    (body : Transaction Entries (Failure ModuleError) α) (result : α) :
    Commits (persistently body) before result after ↔
      ∃ entries, Commits body before.persistent result entries ∧
        after = { before with persistent := entries } :=
  commits_within body result

@[simp] theorem commits_announce (event : ModuleEvent) (result : Unit) :
    Commits (announce event) before result after ↔
      after = { before with events := event :: before.events } :=
  commits_modify _ result

@[simp] theorem commits_requireAuth (env : Env) (address : Address) (result : Unit) :
    Commits (requireAuth env address) before result after ↔
      env.authorised address = true ∧ after = before :=
  commits_orTrap _ _ result

@[simp] theorem commits_checkedI128 (value : Int) (result : I128) :
    Commits (checkedI128 value) before result after ↔
      (i128Min ≤ value ∧ value ≤ i128Max) ∧ result = value ∧ after = before := by
  simp [checkedI128, and_assoc, and_comm]

@[simp] theorem commits_orFail {α : Type} (error : ModuleError) (body : Module α) (result : α) :
    Commits (orFail error body) before result after ↔ Commits body before result after :=
  commits_raising _ body result

theorem Storage.lease_eq_some_iff {storage : Storage} {lease : StoredLease} :
    storage.lease leaseId = some lease ↔
      storage.persistent (leaseKey leaseId) = some (Held.leaseInstance.store lease) := by
  simp only [Storage.lease, Option.bind_eq_some_iff, Held.leaseInstance.convert_eq_some_iff,
    exists_eq_right]

@[simp] theorem commits_getOr {α : Type} (kind : Kind Stored α) (key : StorageKey)
    (missing : ModuleError) (value : α) :
    Commits (getOr kind key missing) before value after ↔
      before.persistent key = some (kind.store value) ∧ after = before := by
  simp only [getOr, commits_bind, commits_persistently, TypedStore.commits_get, commits_orErr]
  constructor
  · rintro ⟨_, _, ⟨_, ⟨lies, rfl⟩, rfl⟩, rfl, rfl⟩
    exact ⟨lies, rfl⟩
  · rintro ⟨lies, rfl⟩
    exact ⟨some value, _, ⟨_, ⟨lies, rfl⟩, rfl⟩, rfl, rfl⟩

@[simp] theorem commits_loadLease (missing : ModuleError) (lease : StoredLease) :
    Commits (loadLease leaseId missing) before lease after ↔
      before.persistent (leaseKey leaseId) = some (Held.leaseInstance.store lease) ∧
        after = before :=
  commits_getOr _ _ missing lease

@[simp] theorem commits_saveLease (lease : StoredLease) (result : Unit) :
    Commits (saveLease leaseId lease) before result after ↔
      after = { before with
        persistent := Function.update before.persistent (leaseKey leaseId)
          (some (Held.leaseInstance.store lease)) } := by
  simp [saveLease]

/-- A body that reads another kind than lies at the key does not go on. -/
theorem not_commits_read {α β γ : Type} {held : Kind Stored α} {kind : Kind Stored β}
    {key : StorageKey} {value : α} (foreign : held.Foreign kind)
    (lies : before.persistent key = some (held.store value)) (next : Option β → Module γ)
    (result : γ) :
    ¬ Commits (persistently (TypedStore.get kind key) >>= next) before result after := by
  simp only [commits_bind, commits_persistently]
  rintro ⟨found, _, ⟨entries, read, rfl⟩, _⟩
  exact TypedStore.not_commits_get_of_foreign foreign lies found read

end Primitives

/-! ## Bodies that leave the persistent entries alone -/

/-- The body, whether it returns or not, writes no persistent entry. -/
abbrev LeavesEntries {α : Type} (body : Module α) : Prop :=
  Steady Storage.persistent body

section Leaves

variable {α : Type}

theorem leaves_get (kind : Kind Stored α) (key : StorageKey) :
    LeavesEntries (persistently (TypedStore.get kind key)) := by
  intro storage
  exact @TypedStore.steady_get _ _ _ _ _ id kind key storage.persistent

theorem leaves_temporarily (body : Transaction Entries (Failure ModuleError) α) :
    LeavesEntries (temporarily body) :=
  fun _ => rfl

theorem leaves_inInstance (body : Transaction Entries (Failure ModuleError) α) :
    LeavesEntries (inInstance body) :=
  fun _ => rfl

theorem leaves_announce (event : ModuleEvent) : LeavesEntries (announce event) :=
  steady_modify fun _ => rfl

theorem leaves_getOr (kind : Kind Stored α) (key : StorageKey) (missing : ModuleError) :
    LeavesEntries (getOr kind key missing) :=
  steady_bind (leaves_get kind key) fun found => steady_orErr found missing

end Leaves

end LeaseFlow.KeySpace
