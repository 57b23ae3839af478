import LeaseFlow.Foundations.TypedStore
import LeaseFlow.Access.Records

/-!
# The shared key space

The payment router, the secondary market and the device integration keep their records in the
store of the lease contract, under keys of their own enumerations.  An enumeration value is
stored by the name of its variant and its payload alone, so the variants of one name are one key.
-/

set_option autoImplicit false

namespace LeaseFlow.KeySpace

open Transaction Failure

/-! ## Keys -/

inductive KeyField where
  | u64 (value : UInt64)
  | u128 (value : U128)
  | address (value : Address)
  deriving DecidableEq, Repr

structure StorageKey where
  variant : String
  payload : List KeyField
  deriving DecidableEq, Repr

/-- The keys of the lease contract that the modules use. -/
inductive DataKey where
  | leaseInstance (leaseId : LeaseId)
  | authorizedPayer (leaseId : LeaseId) (payer : Address)

/-- The keys of the lessor rights, of the router and of the market.  The payload of a lease
instance is declared a `u64`, and the market hands it the `u128` of a token. -/
inductive NftDataKey where
  | leaseInstance (payload : KeyField)
  | admin
  | nftMetadata (tokenId : U128)
  | nftTransferRecord (tokenId : U128) (transferIndex : UInt64)
  | nftIndestructibilityLock (leaseId : LeaseId)
  | leaseToNftMapping (leaseId : LeaseId)
  | holderToNfts (holder : Address)
  | ownershipVerificationCache (leaseId : LeaseId) (requester : Address)

/-- The keys of the access tokens and of the devices. -/
inductive AccessDataKey where
  | leaseInstance (leaseId : LeaseId)
  | lesseeAccessToken (tokenId : U128)
  | lesseeToTokens (lessee : Address)
  | verificationCache (tokenId : U128) (system : Address) (timestamp : UInt64)

def DataKey.key : DataKey → StorageKey
  | .leaseInstance leaseId => ⟨"LeaseInstance", [.u64 leaseId]⟩
  | .authorizedPayer leaseId payer => ⟨"AuthorizedPayer", [.u64 leaseId, .address payer]⟩

def NftDataKey.key : NftDataKey → StorageKey
  | .leaseInstance payload => ⟨"LeaseInstance", [payload]⟩
  | .admin => ⟨"Admin", []⟩
  | .nftMetadata tokenId => ⟨"NFTMetadata", [.u128 tokenId]⟩
  | .nftTransferRecord tokenId transferIndex =>
      ⟨"NFTTransferRecord", [.u128 tokenId, .u64 transferIndex]⟩
  | .nftIndestructibilityLock leaseId => ⟨"NFTIndestructibilityLock", [.u64 leaseId]⟩
  | .leaseToNftMapping leaseId => ⟨"LeaseToNFTMapping", [.u64 leaseId]⟩
  | .holderToNfts holder => ⟨"HolderToNFTs", [.address holder]⟩
  | .ownershipVerificationCache leaseId requester =>
      ⟨"OwnershipVerificationCache", [.u64 leaseId, .address requester]⟩

def AccessDataKey.key : AccessDataKey → StorageKey
  | .leaseInstance leaseId => ⟨"LeaseInstance", [.u64 leaseId]⟩
  | .lesseeAccessToken tokenId => ⟨"LesseeAccessToken", [.u128 tokenId]⟩
  | .lesseeToTokens lessee => ⟨"LesseeToTokens", [.address lessee]⟩
  | .verificationCache tokenId system timestamp =>
      ⟨"VerificationCache", [.u128 tokenId, .address system, .u64 timestamp]⟩

/-- The key of a lease record. -/
abbrev leaseKey (leaseId : LeaseId) : StorageKey :=
  (DataKey.leaseInstance leaseId).key

/-- The names of the keys that the lessor rights, their owners and their locks lie under. -/
def rightsVariants : List String :=
  ["NFTMetadata", "LeaseToNFTMapping", "HolderToNFTs", "NFTIndestructibilityLock"]

/-- The three enumerations name one key. -/
theorem shared_leaseKey (leaseId : LeaseId) :
    (NftDataKey.leaseInstance (.u64 leaseId)).key = leaseKey leaseId ∧
      (AccessDataKey.leaseInstance leaseId).key = leaseKey leaseId :=
  ⟨rfl, rfl⟩

/-- A key that a lease record can lie at. -/
def IsLeaseKey (key : StorageKey) : Prop :=
  ∃ leaseId, key = leaseKey leaseId

theorem not_isLeaseKey_of_variant {key : StorageKey} (different : key.variant ≠ "LeaseInstance") :
    ¬ IsLeaseKey key := by
  rintro ⟨leaseId, rfl⟩
  exact different rfl

/-! ## Lease records -/

/-- A lease with all its declared fields, and the time of the tenant's last interaction, which
the heartbeat writes. -/
structure StoredLease extends LeaseInstance where
  paused : Bool
  pauseReason : Option String
  pausedAt : Option U64
  pauseInitiator : Option Address
  totalPausedDuration : U64
  lastRentPullTimestamp : Option U64
  billingCycleDuration : U64
  continuousBillingEnabled : Bool
  rentTreasuryAddress : Option Address
  yieldDelegationEnabled : Bool
  yieldAccumulated : I128
  equityBalance : I128
  petDepositAmount : I128
  petRentAmount : I128
  expiryTime : U64
  rentPaidThrough : U64
  lastTenantInteraction : U64

/-! ## Records of the lessor rights -/

structure LessorRightsNftMetadata where
  leaseId : LeaseId
  originalLessor : Address
  currentHolder : Address
  leaseStart : U64
  leaseEnd : U64
  monthlyRent : I128
  securityDeposit : I128
  propertyHash : BytesN 32
  mintedAt : U64
  lastTransfer : U64
  transferCount : U32
  pendingYield : I128
  billingCycleStart : U64

structure NftTransferRecord where
  tokenId : U128
  fromHolder : Address
  toHolder : Address
  transferTimestamp : U64
  accruedRentAtTransfer : I128
  prorationAmount : I128
  billingCycleRemaining : U64

inductive OwnershipPurpose where
  | rentPayment
  | depositRefund
  | slashing
  | buyout
  | termination
  deriving DecidableEq, Repr

structure OwnershipVerificationRequest where
  leaseId : LeaseId
  requestingContract : Address
  verificationPurpose : OwnershipPurpose

structure OwnershipVerificationResponse where
  isValid : Bool
  currentHolder : Address
  verificationTimestamp : U64
  leaseId : LeaseId
  tokenId : U128

inductive LockReason where
  | leaseActive
  | leaseDisputed
  | arbitrationInProgress
  | regulatoryHold
  deriving DecidableEq, Repr

structure NftIndestructibilityLock where
  leaseId : LeaseId
  tokenId : U128
  lockReason : LockReason
  lockedAt : U64
  expiresAt : Option U64

inductive NftError where
  | leaseNotFound
  | nftAlreadyExists
  | invalidLeaseState
  | unauthorizedTransfer
  | nftNotFound
  | transferDuringLock
  deriving DecidableEq, Repr

/-! ## Records of the payment router -/

structure PaymentRoutingConfig where
  leaseId : LeaseId
  currentHolder : Address
  routingEnabled : Bool
  lastRoutingUpdate : U64
  yieldAccumulationStart : U64

structure YieldAccumulation where
  leaseId : LeaseId
  holder : Address
  accumulatedYield : I128
  accumulationStart : U64
  lastPaymentTimestamp : U64
  paymentCount : U32

inductive RoutingError where
  | nftNotFound
  | ownershipVerificationFailed
  | insufficientYield
  deriving DecidableEq, Repr

/-! ## Records of the secondary market -/

structure DexIntegrationConfig where
  dexContract : Address
  tokenContract : Address
  feeBps : U32
  minPrice : I128
  maxPrice : I128
  enabled : Bool

structure NftListing where
  tokenId : U128
  seller : Address
  price : I128
  listedAt : U64
  expiresAt : Option U64
  leaseId : LeaseId
  yieldProjection : I128
  active : Bool

structure PricePoint where
  price : I128
  timestamp : U64
  volume : I128

structure YieldPoint where
  yieldAmount : I128
  timestamp : U64
  holder : Address

structure NftMarketData where
  tokenId : U128
  leaseId : LeaseId
  currentPrice : I128
  lastSalePrice : I128
  lastSaleTimestamp : U64
  priceHistory : List PricePoint
  yieldHistory : List YieldPoint
  totalVolume : I128
  saleCount : U32

inductive DexError where
  | nftNotFound
  | notAuthorized
  | invalidPrice
  | listingExpired
  | dexNotEnabled
  | transferFailed
  | marketDataCorrupted
  deriving DecidableEq, Repr

/-! ## Records of the device integration -/

inductive IotDeviceType where
  | smartLock
  | accessGate
  | smartKey
  | biometric
  | rfid
  | qrCode
  | nfc
  | bluetooth
  | hybrid
  deriving DecidableEq, Repr

inductive EncryptionLevel where
  | none
  | basic
  | standard
  | high
  | military
  deriving DecidableEq, Repr

structure DeviceCapabilities where
  deviceType : IotDeviceType
  supportsRemote : Bool
  supportsOffline : Bool
  supportsAudit : Bool
  supportsTimeBased : Bool
  supportsMultiUser : Bool
  maxConcurrentAccess : U32
  batteryBackup : Bool
  encryptionLevel : EncryptionLevel

inductive DeviceStatus where
  | online
  | offline
  | maintenance
  | error
  | decommissioned
  deriving DecidableEq, Repr

structure IotDevice where
  deviceId : String
  deviceType : IotDeviceType
  owner : Address
  location : String
  capabilities : DeviceCapabilities
  registeredAt : U64
  lastSeen : U64
  status : DeviceStatus
  firmwareVersion : String
  hardwareVersion : String

inductive AccessMethod where
  | biometric
  | rfid
  | nfc
  | qrCode
  | mobileApp
  | webApp
  | voice
  | physical
  deriving DecidableEq, Repr

inductive AccessUrgency where
  | low
  | medium
  | high
  | critical
  deriving DecidableEq, Repr

structure IotAccessRequest where
  deviceId : String
  requestingUser : Address
  accessMethod : AccessMethod
  urgency : AccessUrgency

inductive IotAccessLevel where
  | limited
  | standard
  | full
  deriving DecidableEq, Repr

structure IotAccessResponse where
  deviceId : String
  accessGranted : Bool
  accessDuration : Option U64
  accessLevel : IotAccessLevel
  grantedAt : U64
  expiresAt : Option U64
  verificationCode : Option (BytesN 32)
  auditRequired : Bool
  additionalInstructions : List String

structure DeviceHealthStatus where
  deviceId : String
  isOnline : Bool
  lastSeen : U64
  uptime : U64
  batteryLevel : Option U32
  signalStrength : Option U32
  firmwareUptoDate : Bool
  lastHealthCheck : U64
  issues : List String

inductive IotError where
  | deviceNotFound
  | deviceNotRegistered
  | deviceOffline
  | accessDenied
  | invalidAccessMethod
  | tokenExpired
  | tokenRevoked
  | tokenNotFound
  | unauthorizedDevice
  | crossContractCallFailed
  deriving DecidableEq, Repr

end LeaseFlow.KeySpace
