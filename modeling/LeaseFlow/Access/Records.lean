import LeaseFlow.Contract.Dispatch
import LeaseFlow.Foundations.Failure

/-!
# Access tokens

The records of the lessee access tokens and of the tokens derived from them, the indexes kept
over them, and the contract's store with both beside it.
-/

set_option autoImplicit false

namespace LeaseFlow.Access

open Transaction

/-! ## Lessee access tokens -/

inductive AssetType where
  | physical
  | digital
  | ioT
  | hybrid
  deriving DecidableEq, Repr

inductive AccessLevel where
  | full
  | limited
  | timeBased
  | conditional
  deriving DecidableEq, Repr

inductive RevocationReason where
  | leaseTerminated
  | leaseExpired
  | leaseEvicted
  | leaseDefaulted
  | leaseDisputed
  | securityBreach
  | assetDamage
  | regulatoryCompliance
  | courtOrder
  | other (text : String)
  deriving DecidableEq, Repr

structure LesseeAccessToken where
  leaseId : LeaseId
  lessee : Address
  assetIdentifier : String
  expirationTimestamp : U64
  mintedAt : U64
  lastVerified : U64
  verificationCount : U32
  transferable : Bool
  transferCount : U32
  revoked : Bool
  revokedAt : Option U64
  revocationReason : Option RevocationReason
  assetType : AssetType
  accessLevel : AccessLevel
  deriving DecidableEq

inductive VerificationPurpose where
  | unlock
  | access
  | authenticate
  | validate
  | audit
  deriving DecidableEq, Repr

structure AccessVerificationRequest where
  tokenId : U128
  requestingSystem : Address
  verificationPurpose : VerificationPurpose
  timestamp : U64

structure AccessVerificationResponse where
  tokenId : U128
  isValid : Bool
  lessee : Address
  assetIdentifier : String
  expirationTimestamp : U64
  accessLevel : AccessLevel
  verificationTimestamp : U64
  remainingTime : U64
  transferable : Bool

structure TokenTransferRequest where
  tokenId : U128
  fromLessee : Address
  toLessee : Address
  transferReason : String
  timestamp : U64

/-- The errors the manager returns. -/
inductive AccessError where
  | leaseNotFound
  | tokenNotFound
  | tokenAlreadyExists
  | invalidLeaseState
  | unauthorizedTransfer
  | tokenRevoked
  | tokenExpired
  | transferNotAllowed
  deriving DecidableEq, Repr

/-! ## Derived tokens -/

inductive SpatialZone where
  | entireProperty
  | specificRoom (roomName : String)
  | zone (zoneName : String)
  | customArea (areaName : String)
  deriving DecidableEq, Repr

structure DerivedAccessToken where
  tokenId : U128
  parentTokenId : U128
  rootLeaseId : LeaseId
  sublessee : Address
  spatialZone : SpatialZone
  expirationTimestamp : U64
  mintedAt : U64
  hierarchyDepth : U32
  accessLevel : AccessLevel
  transferable : Bool
  transferCount : U32
  revoked : Bool
  revokedAt : Option U64
  revocationReason : Option RevocationReason
  childTokens : List U128
  deriving DecidableEq

structure DerivedTokenRequest where
  parentTokenId : U128
  sublessee : Address
  spatialZone : SpatialZone
  accessLevel : AccessLevel
  transferable : Bool
  expirationTimestamp : Option U64

/-- The errors the manager returns. -/
inductive DerivedTokenError where
  | parentTokenNotFound
  | parentTokenExpired
  | parentTokenRevoked
  | invalidTemporalDependency
  | hierarchyDepthExceeded
  | unauthorizedSublease
  | invalidSpatialZone
  deriving DecidableEq, Repr

structure HierarchyMetrics where
  totalTokens : U32
  maxDepth : U32
  avgDepth : U32
  lastUpdated : U64

/-! ## Events -/

inductive AccessEvent where
  | lesseeAccessGranted (leaseId : LeaseId) (tokenId : U128) (lessee : Address)
      (assetIdentifier : String) (expirationTimestamp grantedAt : U64)
  | lesseeAccessRevoked (leaseId : LeaseId) (tokenId : U128) (lessee : Address)
      (revocationReason : RevocationReason) (revokedAt : U64)
  | accessTokenTransferred (tokenId : U128) (fromLessee toLessee : Address)
      (transferReason : String) (transferredAt : U64)
  | accessTokenVerified (tokenId : U128) (requestingSystem : Address)
      (verificationPurpose : VerificationPurpose) (isValid : Bool) (verifiedAt : U64)
  | accessTokenRenewed (tokenId : U128) (newExpiration renewedAt : U64)
  | derivedTokenMinted (tokenId parentTokenId : U128) (rootLeaseId : LeaseId)
      (sublessee : Address) (spatialZone : SpatialZone) (expirationTimestamp : U64)
      (hierarchyDepth : U32) (mintedAt : U64)
  | derivedHierarchyBurned (rootTokenId : U128) (rootLeaseId : LeaseId)
      (burnReason : RevocationReason) (totalTokensBurned hierarchyDepth : U32) (burnedAt : U64)
  | derivedTokenTransferred (tokenId : U128) (fromSublessee toSublessee : Address)
      (hierarchyDepth : U32) (transferredAt : U64)
  | spatialZoneUpdated (tokenId : U128) (oldZone newZone : SpatialZone) (updatedAt : U64)

/-! ## Storage -/

/-- The lessee tokens and their indexes.  A list that was never stored is read as empty.  The
revocation index of a lease lies under the key of its tenant flag. -/
structure AccessStore where
  accessToken : U128 → Option LesseeAccessToken
  leaseToAccessToken : LeaseId → Option U128
  lesseeToTokens : Address → List U128
  assetToTokens : String → List U128
  verificationCache : U128 × Address × U64 → Option Bool
  revocationHistory : LeaseId × U64 → Option (U128 × RevocationReason × U64)
  revocationIndex : LeaseId → Option U64

structure DerivedStore where
  derivedToken : Table U128 DerivedAccessToken
  parentToChildren : U128 → List U128
  leaseToDerivedTokens : LeaseId → List U128
  sublesseeToDerivedTokens : Address → List U128
  spatialZoneTokens : String × LeaseId → List U128
  hierarchyMetrics : LeaseId → Option HierarchyMetrics

/-- The store of the contract with the token registries beside it. -/
structure Tenancy extends World where
  access : AccessStore
  derived : DerivedStore
  notices : List AccessEvent

def AccessStore.empty : AccessStore where
  accessToken _ := none
  leaseToAccessToken _ := none
  lesseeToTokens _ := []
  assetToTokens _ := []
  verificationCache _ := none
  revocationHistory _ := none
  revocationIndex _ := none

def DerivedStore.empty : DerivedStore where
  derivedToken := ∅
  parentToChildren _ := []
  leaseToDerivedTokens _ := []
  sublesseeToDerivedTokens _ := []
  spatialZoneTokens _ := []
  hierarchyMetrics _ := none

/-- The contract's store before any token is minted. -/
def Tenancy.vacant (world : World) : Tenancy :=
  ⟨world, .empty, .empty, []⟩

def Tenancy.withWorld (world : World) (tenancy : Tenancy) : Tenancy :=
  { tenancy with toWorld := world }

/-! ## Primitives -/

section Primitives

variable {ε α : Type}

/-- A body over the store that fails with the errors of its module. -/
abbrev Managed (ε α : Type) := Transaction Tenancy (Failure ε) α

def announce (event : AccessEvent) : Managed ε Unit :=
  modify fun tenancy => { tenancy with notices := event :: tenancy.notices }

def updateAccess (change : AccessStore → AccessStore) : Managed ε Unit :=
  modify fun tenancy => { tenancy with access := change tenancy.access }

def updateDerived (change : DerivedStore → DerivedStore) : Managed ε Unit :=
  modify fun tenancy => { tenancy with derived := change tenancy.derived }

/-- Execute a body of the contract on the contract's store. -/
def inWorld (body : Contract α) : Transaction Tenancy Fault α :=
  within Tenancy.toWorld Tenancy.withWorld body

end Primitives

def u32Max : Nat := 2 ^ 32 - 1

end LeaseFlow.Access
