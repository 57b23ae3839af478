import LeaseFlow.KeySpace.Storage
import LeaseFlow.Access.LesseeTokens

/-!
# Lessor rights

The functions of the lessor rights NFT: minting, holders, locks and transfers.  None of those that
the payment router and the secondary market call writes at the key of a lease.
-/

set_option autoImplicit false

namespace LeaseFlow.KeySpace

open Transaction Failure

/-- Thirty days. -/
def billingCycleDuration : U64 := 30 * 24 * 60 * 60

/-! ## Holders -/

def getNftMetadata (tokenId : U128) : Module LessorRightsNftMetadata :=
  getOr Held.nftMetadata (NftDataKey.nftMetadata tokenId).key (.nft .nftNotFound)

/-- The token that a lease is mapped to. -/
def tokenOfLease (leaseId : LeaseId) : Module U128 :=
  getOr Held.u128 (NftDataKey.leaseToNftMapping leaseId).key (.nft .nftNotFound)

def getCurrentHolder (leaseId : LeaseId) : Module Address := do
  let tokenId ← tokenOfLease leaseId
  let metadata ← getNftMetadata tokenId
  pure metadata.currentHolder

def OwnershipPurpose.Allows (purpose : OwnershipPurpose) (status : LeaseStatus) : Prop :=
  match purpose with
  | .rentPayment | .buyout => status = .active
  | .depositRefund | .slashing | .termination => status = .terminated ∨ status = .expired

instance (purpose : OwnershipPurpose) (status : LeaseStatus) : Decidable (purpose.Allows status) := by
  cases purpose <;> unfold OwnershipPurpose.Allows <;> infer_instance

def verifyPurposeValidity (leaseId : LeaseId) (purpose : OwnershipPurpose) : Module Unit := do
  let lease ← loadLease leaseId (.nft .leaseNotFound)
  check (purpose.Allows lease.status) (.nft .invalidLeaseState)

def cacheOwnership (request : OwnershipVerificationRequest)
    (response : OwnershipVerificationResponse) : Module Unit :=
  temporarily (TypedStore.set Held.ownershipVerification
    (NftDataKey.ownershipVerificationCache request.leaseId request.requestingContract).key response)

def verifyTokenOwnership (env : Env) (request : OwnershipVerificationRequest) :
    Module OwnershipVerificationResponse := do
  let tokenId ← tokenOfLease request.leaseId
  let metadata ← getNftMetadata tokenId
  verifyPurposeValidity request.leaseId request.verificationPurpose
  let response : OwnershipVerificationResponse := {
    isValid := true
    currentHolder := metadata.currentHolder
    verificationTimestamp := env.timestamp
    leaseId := request.leaseId
    tokenId := tokenId }
  cacheOwnership request response
  pure response

def getHolderNfts (holder : Address) : Module (List U128) := do
  let found ← persistently (TypedStore.get Held.tokenIds (NftDataKey.holderToNfts holder).key)
  pure (found.getD [])

/-! ## Locks -/

def saveLock (leaseId : LeaseId) (lock : NftIndestructibilityLock) : Module Unit :=
  persistently (TypedStore.set Held.indestructibilityLock
    (NftDataKey.nftIndestructibilityLock leaseId).key lock)

/-- A lock without an expiry. -/
def createIndestructibilityLock (env : Env) (leaseId : LeaseId) (tokenId : U128)
    (lockReason : LockReason) : Module Unit :=
  saveLock leaseId ⟨leaseId, tokenId, lockReason, env.timestamp, none⟩

/-- Whoever calls replaces the lock, whatever the status of the lease. -/
def updateNftLock (env : Env) (leaseId : LeaseId) (lockReason : LockReason)
    (expiresAt : Option U64) : Module Unit := do
  let tokenId ← tokenOfLease leaseId
  saveLock leaseId ⟨leaseId, tokenId, lockReason, env.timestamp, expiresAt⟩
  announce (.nftLocked tokenId leaseId lockReason env.timestamp)

/-- Whether there is a lock, expired or not. -/
def isNftLocked (leaseId : LeaseId) : Module Bool :=
  persistently (TypedStore.has (NftDataKey.nftIndestructibilityLock leaseId).key)

/-- Removing a lock that is not there does nothing. -/
def releaseNftLock (leaseId : LeaseId) : Module Unit := do
  let locked ← isNftLocked leaseId
  if locked then
    persistently (TypedStore.remove (NftDataKey.nftIndestructibilityLock leaseId).key)

/-! ## Transfers -/

structure RentProration where
  accruedRent : I128
  prorationAmount : I128
  billingCycleRemaining : U64

/-- The rent accrued since the start of the billing cycle. -/
def calculateYieldProration (env : Env) (metadata : LessorRightsNftMetadata) :
    Module RentProration := do
  let timeElapsed := env.timestamp - metadata.billingCycleStart
  let accrued ← checkedI128 (timeElapsed * metadata.monthlyRent)
  let accruedRent := accrued.tdiv billingCycleDuration
  pure ⟨accruedRent, accruedRent, billingCycleDuration - timeElapsed⟩

def storeTransferRecord (gaps : Gaps) (tokenId : U128) (record : NftTransferRecord) :
    Module Unit :=
  persistently (TypedStore.set Held.nftTransferRecord
    (NftDataKey.nftTransferRecord tokenId (gaps.transferCount record)).key record)

def updateNftMetadataOnTransfer (env : Env) (tokenId : U128) (newHolder : Address) :
    Module Unit := do
  let metadata ← getNftMetadata tokenId
  let transferCount ← checkedUpTo Access.u32Max (metadata.transferCount + 1)
  persistently (TypedStore.set Held.nftMetadata (NftDataKey.nftMetadata tokenId).key
    { metadata with
      currentHolder := newHolder
      lastTransfer := env.timestamp
      transferCount := transferCount
      pendingYield := 0
      billingCycleStart := env.timestamp })

/-- Replace the list of the tokens of a holder, empty where there is none. -/
def updateHolderNfts (holder : Address) (change : List U128 → List U128) : Module Unit := do
  let found ← persistently (TypedStore.get Held.tokenIds (NftDataKey.holderToNfts holder).key)
  persistently (TypedStore.set Held.tokenIds (NftDataKey.holderToNfts holder).key
    (change (found.getD [])))

def updateHolderMappings (tokenId : U128) (fromHolder toHolder : Address) : Module Unit := do
  updateHolderNfts fromHolder fun tokenIds => tokenIds.filter (· ≠ tokenId)
  updateHolderNfts toHolder fun tokenIds => tokenIds ++ [tokenId]

def transferNft (gaps : Gaps) (env : Env) (tokenId : U128) (fromHolder toHolder : Address) :
    Module Unit := do
  let metadata ← getNftMetadata tokenId
  check (metadata.currentHolder = fromHolder) (.nft .unauthorizedTransfer)
  let locked ← isNftLocked metadata.leaseId
  check (locked = false) (.nft .transferDuringLock)
  let proration ← calculateYieldProration env metadata
  storeTransferRecord gaps tokenId {
    tokenId := tokenId
    fromHolder := fromHolder
    toHolder := toHolder
    transferTimestamp := env.timestamp
    accruedRentAtTransfer := proration.accruedRent
    prorationAmount := proration.prorationAmount
    billingCycleRemaining := proration.billingCycleRemaining }
  announce (.yieldRedirected tokenId toHolder proration.prorationAmount env.timestamp)
  updateNftMetadataOnTransfer env tokenId toHolder
  updateHolderMappings tokenId fromHolder toHolder
  announce (.nftTransferred tokenId fromHolder toHolder env.timestamp proration.accruedRent
    proration.prorationAmount)

/-! ## Minting -/

/-- `is_lease_tokenizable` -/
def StoredLease.Tokenizable (lease : StoredLease) : Prop :=
  lease.status = .active ∨ lease.status = .pending

instance (lease : StoredLease) : Decidable lease.Tokenizable :=
  inferInstanceAs (Decidable (_ ∨ _))

/-- The ids of the rights are made like those of the access tokens. -/
def generateUniqueTokenId (env : Env) (leaseId : LeaseId) : U128 :=
  Access.generateUniqueTokenId env leaseId

def LessorRightsNftMetadata.fresh (propertyHash : BytesN 32) (env : Env) (lease : StoredLease)
    (leaseId : LeaseId) (lessor : Address) (securityDeposit : I128) :
    LessorRightsNftMetadata where
  leaseId := leaseId
  originalLessor := lessor
  currentHolder := lessor
  leaseStart := lease.startDate
  leaseEnd := lease.endDate
  monthlyRent := lease.rentAmount
  securityDeposit := securityDeposit
  propertyHash := propertyHash
  mintedAt := env.timestamp
  lastTransfer := env.timestamp
  transferCount := 0
  pendingYield := 0
  billingCycleStart := lease.startDate

def createNftMetadata (sha256 : String → BytesN 32) (env : Env) (lease : StoredLease)
    (leaseId : LeaseId) (lessor : Address) : Module LessorRightsNftMetadata := do
  let securityDeposit ← checkedI128 (lease.depositAmount + lease.securityDeposit)
  pure (.fresh (sha256 lease.propertyUri) env lease leaseId lessor securityDeposit)

def storeNftData (tokenId : U128) (metadata : LessorRightsNftMetadata) (leaseId : LeaseId) :
    Module Unit := do
  persistently (TypedStore.set Held.nftMetadata (NftDataKey.nftMetadata tokenId).key metadata)
  persistently (TypedStore.set Held.u128 (NftDataKey.leaseToNftMapping leaseId).key tokenId)
  updateHolderNfts metadata.currentHolder fun tokenIds => tokenIds ++ [tokenId]

def StoredLease.tokenised (env : Env) (tokenId : U128) (lease : StoredLease) : StoredLease :=
  { lease with
    nftContract := some env.currentContractAddress
    tokenId := some tokenId }

def updateLeaseForNft (env : Env) (leaseId : LeaseId) (tokenId : U128) : Module Unit := do
  let lease ← loadLease leaseId (.nft .leaseNotFound)
  saveLease leaseId (lease.tokenised env tokenId)

/-- Whoever calls names the lessor. -/
def mintLessorRightsToken (sha256 : String → BytesN 32) (env : Env) (leaseId : LeaseId)
    (lessor : Address) : Module U128 := do
  let lease ← loadLease leaseId (.nft .leaseNotFound)
  check lease.Tokenizable (.nft .invalidLeaseState)
  let taken ← persistently (TypedStore.has (NftDataKey.leaseToNftMapping leaseId).key)
  check (taken = false) (.nft .nftAlreadyExists)
  let tokenId := generateUniqueTokenId env leaseId
  let metadata ← createNftMetadata sha256 env lease leaseId lessor
  storeNftData tokenId metadata leaseId
  createIndestructibilityLock env leaseId tokenId .leaseActive
  updateLeaseForNft env leaseId tokenId
  announce (.lessorRightsTokenized leaseId tokenId lessor env.timestamp)
  pure tokenId

/-! ## What they read and write -/

section Specifications

variable {before after : Storage} {leaseId : LeaseId}

theorem leaves_getCurrentHolder (leaseId : LeaseId) : LeavesEntries (getCurrentHolder leaseId) :=
  steady_bind (leaves_getOr _ _ _) fun _ =>
    steady_bind (leaves_getOr _ _ _) fun metadata => steady_pure metadata.currentHolder

theorem leaves_verifyTokenOwnership (env : Env) (request : OwnershipVerificationRequest) :
    LeavesEntries (verifyTokenOwnership env request) := by
  refine steady_bind (leaves_getOr _ _ _) fun tokenId => ?_
  refine steady_bind (leaves_getOr _ _ _) fun metadata => ?_
  refine steady_bind (steady_bind (leaves_getOr _ _ _) fun _ => steady_check _ _) fun _ => ?_
  exact steady_bind (leaves_temporarily _) fun _ => steady_pure _

/-- Whether there was a lock or not, none is left, and no other entry changed. -/
theorem releaseNftLock_commits {result : Unit}
    (run : Commits (releaseNftLock leaseId) before result after) :
    after = { before with
      persistent := Function.update before.persistent
        (NftDataKey.nftIndestructibilityLock leaseId).key none } := by
  simp only [releaseNftLock, isNftLocked, commits_bind, commits_persistently,
    TypedStore.commits_has, commits_ite, TypedStore.commits_remove, commits_pure] at run
  obtain ⟨locked, _, ⟨_, ⟨rfl, rfl⟩, rfl⟩, released⟩ := run
  split at released
  · obtain ⟨_, rfl, rfl⟩ := released
    rfl
  · next free =>
      obtain ⟨-, rfl⟩ := released
      have absent : before.persistent (NftDataKey.nftIndestructibilityLock leaseId).key = none := by
        simpa using free
      rw [← absent, Function.update_eq_self]

end Specifications

end LeaseFlow.KeySpace
