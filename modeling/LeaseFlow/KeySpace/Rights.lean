import LeaseFlow.KeySpace.LeaseRecords
import LeaseFlow.Foundations.Listing

/-!
# The registry of the lessor rights

The records of the tokens, the tokens of the leases and of the holders, and the locks lie under
four families of keys.  Read together with the leases they are one registry, and each operation
that goes through is a change of it.
-/

set_option autoImplicit false

namespace LeaseFlow.KeySpace

open Transaction Failure

/-! ## The registry -/

def LessorRightsNftMetadata.transferred (env : Env) (newHolder : Address)
    (metadata : LessorRightsNftMetadata) : LessorRightsNftMetadata :=
  { metadata with
    currentHolder := newHolder
    lastTransfer := env.timestamp
    transferCount := metadata.transferCount + 1
    pendingYield := 0
    billingCycleStart := env.timestamp }

structure Rights where
  metadata : U128 → Option LessorRightsNftMetadata
  tokenOf : LeaseId → Option U128
  nftsOf : Address → Option (List U128)
  lock : LeaseId → Option NftIndestructibilityLock
  lease : LeaseId → Option StoredLease

namespace Rights

def putMetadata (tokenId : U128) (metadata : LessorRightsNftMetadata) (rights : Rights) : Rights :=
  { rights with metadata := Function.update rights.metadata tokenId (some metadata) }

def putToken (leaseId : LeaseId) (tokenId : U128) (rights : Rights) : Rights :=
  { rights with tokenOf := Function.update rights.tokenOf leaseId (some tokenId) }

def putNfts (holder : Address) (tokenIds : List U128) (rights : Rights) : Rights :=
  { rights with nftsOf := Function.update rights.nftsOf holder (some tokenIds) }

def putLock (leaseId : LeaseId) (lock : Option NftIndestructibilityLock) (rights : Rights) :
    Rights :=
  { rights with lock := Function.update rights.lock leaseId lock }

def putLease (leaseId : LeaseId) (lease : Option StoredLease) (rights : Rights) : Rights :=
  { rights with lease := Function.update rights.lease leaseId lease }

/-- The tokens of a holder, none where no list is kept. -/
def listed (rights : Rights) (holder : Address) : List U128 :=
  (rights.nftsOf holder).getD []

theorem listed_putNfts (rights : Rights) (holder : Address) (tokenIds : List U128) :
    (rights.putNfts holder tokenIds).listed = Function.update rights.listed holder tokenIds := by
  funext other
  by_cases same : other = holder
  · subst same
    simp [listed, putNfts]
  · simp [listed, putNfts, same]

/-- The token is appended to the list of a holder. -/
def assign (holder : Address) (tokenId : U128) (rights : Rights) : Rights :=
  rights.putNfts holder (rights.listed holder ++ [tokenId])

/-- The token is taken off the list of one holder and appended to that of another. -/
def reassign (tokenId : U128) (fromHolder toHolder : Address) (rights : Rights) : Rights :=
  (rights.putNfts fromHolder ((rights.listed fromHolder).filter (· ≠ tokenId))).assign toHolder
    tokenId

theorem listed_assign (rights : Rights) (holder : Address) (tokenId : U128) :
    (rights.assign holder tokenId).listed = Listing.push holder tokenId rights.listed :=
  listed_putNfts rights holder _

theorem listed_reassign (rights : Rights) (tokenId : U128) (fromHolder toHolder : Address) :
    (rights.reassign tokenId fromHolder toHolder).listed =
      Listing.move tokenId fromHolder toHolder rights.listed := by
  rw [reassign, listed_assign, listed_putNfts]
  rfl

section Changes

variable (env : Env) (rights : Rights)

def mint (propertyHash : BytesN 32) (leaseId : LeaseId) (lessor : Address) (lease : StoredLease) :
    Rights :=
  let tokenId := generateUniqueTokenId env leaseId
  ((((rights.putMetadata tokenId (.fresh propertyHash env lease leaseId lessor
    (lease.depositAmount + lease.securityDeposit))).putToken leaseId tokenId).assign lessor
      tokenId).putLock leaseId (some ⟨leaseId, tokenId, .leaseActive, env.timestamp, none⟩)).putLease
        leaseId (some (lease.tokenised env tokenId))

def transfer (tokenId : U128) (fromHolder toHolder : Address)
    (metadata : LessorRightsNftMetadata) : Rights :=
  (rights.putMetadata tokenId (metadata.transferred env toHolder)).reassign tokenId fromHolder
    toHolder

/-- A mutual release takes the lock away and settles the lease. -/
def settle (leaseId : LeaseId) (lease : StoredLease) : Rights :=
  (rights.putLock leaseId none).putLease leaseId (some lease.released)

end Changes

end Rights

/-! ## Where it lies -/

/-- The keys that the registry lies under. -/
def NftDataKey.OfRights : NftDataKey → Prop
  | .nftMetadata _ | .leaseToNftMapping _ | .holderToNfts _ | .nftIndestructibilityLock _ => True
  | _ => False

def Rights.entry (rights : Rights) : NftDataKey → Option Stored
  | .nftMetadata tokenId => (rights.metadata tokenId).map Held.nftMetadata.store
  | .leaseToNftMapping leaseId => (rights.tokenOf leaseId).map Held.u128.store
  | .holderToNfts holder => (rights.nftsOf holder).map Held.tokenIds.store
  | .nftIndestructibilityLock leaseId =>
      (rights.lock leaseId).map Held.indestructibilityLock.store
  | _ => none

/-- The persistent entries under the keys of the registry, and the leases, are those of the
registry. -/
structure Storage.Holds (storage : Storage) (rights : Rights) : Prop where
  entries : ∀ key : NftDataKey, key.OfRights → storage.persistent key.key = rights.entry key
  leases : storage.lease = rights.lease

theorem NftDataKey.key_injective : Function.Injective NftDataKey.key := by
  intro first second same
  cases first <;> cases second <;> simp_all [key]

theorem NftDataKey.OfRights.variant_mem {key : NftDataKey} (ofRights : key.OfRights) :
    key.key.variant ∈ rightsVariants := by
  cases key with
  | nftMetadata | leaseToNftMapping | holderToNfts | nftIndestructibilityLock =>
      simp [NftDataKey.key, rightsVariants]
  | _ => exact ofRights.elim

theorem leaseKey_outside {key : StorageKey} (leases : IsLeaseKey key) :
    key.variant ∉ rightsVariants := by
  obtain ⟨leaseId, rfl⟩ := leases
  simp [leaseKey, DataKey.key, rightsVariants]

theorem leaseKey_injective : Function.Injective leaseKey := by
  intro first second same
  simpa [leaseKey, DataKey.key] using same

section Holds

variable {before after : Storage} {rights : Rights}

theorem Storage.Holds.unwritten (holds : before.Holds rights)
    (same : after.persistent = before.persistent) : after.Holds rights where
  entries key ofRights := by
    rw [same]
    exact holds.entries key ofRights
  leases := by
    rw [← holds.leases]
    exact funext fun leaseId => Storage.lease_congr (congrFun same _)

theorem Storage.Holds.entries_aside {key : StorageKey} {entry : Option Stored}
    (holds : before.Holds rights)
    (written : after.persistent = Function.update before.persistent key entry)
    (outside : key.variant ∉ rightsVariants) (own : NftDataKey) (ofRights : own.OfRights) :
    after.persistent own.key = rights.entry own := by
  have differs : own.key ≠ key := by
    rintro rfl
    exact outside ofRights.variant_mem
  rw [written, Function.update_of_ne differs]
  exact holds.entries own ofRights

/-- What is written aside leaves the registry as it is. -/
theorem Storage.Holds.aside (holds : before.Holds rights) (aside : WritesAside before after) :
    after.Holds rights where
  entries key ofRights := by
    rcases aside with same | ⟨other, entry, written, outside, _⟩
    · rw [same]
      exact holds.entries key ofRights
    · exact holds.entries_aside written outside key ofRights
  leases := (funext aside.lease).trans holds.leases

theorem Storage.lease_unwritten {key : StorageKey} {entry : Option Stored}
    (written : after.persistent = Function.update before.persistent key entry)
    (outside : ¬ IsLeaseKey key) : after.lease = before.lease := by
  refine funext fun leaseId => Storage.lease_congr ?_
  rw [written, Function.update_of_ne]
  rintro rfl
  exact outside ⟨leaseId, rfl⟩

theorem Storage.Holds.write {key : NftDataKey} {entry : Option Stored} {next : Rights}
    (holds : before.Holds rights)
    (written : after.persistent = Function.update before.persistent key.key entry)
    (ofRights : key.OfRights) (here : next.entry key = entry)
    (elsewhere : ∀ other, other ≠ key → next.entry other = rights.entry other)
    (leases : next.lease = rights.lease) : after.Holds next where
  entries other others := by
    rw [written]
    by_cases same : other = key
    · subst same
      rw [Function.update_self, here]
    · rw [Function.update_of_ne (NftDataKey.key_injective.ne same), elsewhere other same]
      exact holds.entries other others
  leases := by
    rw [leases, ← holds.leases]
    exact Storage.lease_unwritten written fun leases => leaseKey_outside leases ofRights.variant_mem

theorem Storage.Holds.putMetadata {tokenId : U128} {metadata : LessorRightsNftMetadata}
    (holds : before.Holds rights)
    (written : after.persistent = Function.update before.persistent
      (NftDataKey.nftMetadata tokenId).key (some (Held.nftMetadata.store metadata))) :
    after.Holds (rights.putMetadata tokenId metadata) := by
  refine holds.write written trivial (by simp [Rights.entry, Rights.putMetadata])
    (fun other differs => ?_) rfl
  cases other with
  | nftMetadata another =>
      have apart : another ≠ tokenId := fun same => differs (congrArg _ same)
      simp [Rights.entry, Rights.putMetadata, apart]
  | _ => rfl

theorem Storage.Holds.putToken {leaseId : LeaseId} {tokenId : U128} (holds : before.Holds rights)
    (written : after.persistent = Function.update before.persistent
      (NftDataKey.leaseToNftMapping leaseId).key (some (Held.u128.store tokenId))) :
    after.Holds (rights.putToken leaseId tokenId) := by
  refine holds.write written trivial (by simp [Rights.entry, Rights.putToken])
    (fun other differs => ?_) rfl
  cases other with
  | leaseToNftMapping another =>
      have apart : another ≠ leaseId := fun same => differs (congrArg _ same)
      simp [Rights.entry, Rights.putToken, apart]
  | _ => rfl

theorem Storage.Holds.putNfts {holder : Address} {tokenIds : List U128}
    (holds : before.Holds rights)
    (written : after.persistent = Function.update before.persistent
      (NftDataKey.holderToNfts holder).key (some (Held.tokenIds.store tokenIds))) :
    after.Holds (rights.putNfts holder tokenIds) := by
  refine holds.write written trivial (by simp [Rights.entry, Rights.putNfts])
    (fun other differs => ?_) rfl
  cases other with
  | holderToNfts another =>
      have apart : another ≠ holder := fun same => differs (congrArg _ same)
      simp [Rights.entry, Rights.putNfts, apart]
  | _ => rfl

theorem Storage.Holds.putLock {leaseId : LeaseId} {lock : Option NftIndestructibilityLock}
    (holds : before.Holds rights)
    (written : after.persistent = Function.update before.persistent
      (NftDataKey.nftIndestructibilityLock leaseId).key
      (lock.map Held.indestructibilityLock.store)) :
    after.Holds (rights.putLock leaseId lock) := by
  refine holds.write written trivial (by simp [Rights.entry, Rights.putLock])
    (fun other differs => ?_) rfl
  cases other with
  | nftIndestructibilityLock another =>
      have apart : another ≠ leaseId := fun same => differs (congrArg _ same)
      simp [Rights.entry, Rights.putLock, apart]
  | _ => rfl

theorem Storage.Holds.putLease {leaseId : LeaseId} {lease : Option StoredLease}
    (holds : before.Holds rights)
    (written : after.persistent = Function.update before.persistent (leaseKey leaseId)
      (lease.map Held.leaseInstance.store)) : after.Holds (rights.putLease leaseId lease) where
  entries := holds.entries_aside written (leaseKey_outside ⟨leaseId, rfl⟩)
  leases := by
    funext other
    show after.lease other = Function.update rights.lease leaseId lease other
    rw [← holds.leases]
    by_cases same : other = leaseId
    · subst same
      rw [Function.update_self, Storage.lease, written, Function.update_self]
      cases lease <;> simp
    · rw [Function.update_of_ne same]
      exact Storage.lease_congr (by rw [written, Function.update_of_ne (leaseKey_injective.ne same)])

theorem Storage.Holds.metadata_of_lies {tokenId : U128} {metadata : LessorRightsNftMetadata}
    (holds : before.Holds rights)
    (lies : before.persistent (NftDataKey.nftMetadata tokenId).key =
      some (Held.nftMetadata.store metadata)) : rights.metadata tokenId = some metadata := by
  rw [holds.entries (.nftMetadata tokenId) trivial] at lies
  exact Option.map_injective Held.nftMetadata.store_injective lies

theorem Storage.Holds.tokenOf_of_lies {leaseId : LeaseId} {tokenId : U128}
    (holds : before.Holds rights)
    (lies : before.persistent (NftDataKey.leaseToNftMapping leaseId).key =
      some (Held.u128.store tokenId)) : rights.tokenOf leaseId = some tokenId := by
  rw [holds.entries (.leaseToNftMapping leaseId) trivial] at lies
  exact Option.map_injective Held.u128.store_injective lies

theorem Storage.Holds.nftsOf_of_lies {holder : Address} {found : Option (List U128)}
    (holds : before.Holds rights)
    (lies : before.persistent (NftDataKey.holderToNfts holder).key =
      found.map Held.tokenIds.store) : rights.nftsOf holder = found := by
  rw [holds.entries (.holderToNfts holder) trivial] at lies
  exact Option.map_injective Held.tokenIds.store_injective lies

theorem Storage.Holds.lease_of_lies {leaseId : LeaseId} {lease : StoredLease}
    (holds : before.Holds rights)
    (lies : before.persistent (leaseKey leaseId) = some (Held.leaseInstance.store lease)) :
    rights.lease leaseId = some lease := by
  rw [← holds.leases]
  exact Storage.lease_eq_some_iff.mpr lies

theorem Storage.Holds.isSome_lock (holds : before.Holds rights) (leaseId : LeaseId) :
    (before.persistent (NftDataKey.nftIndestructibilityLock leaseId).key).isSome =
      (rights.lock leaseId).isSome := by
  rw [holds.entries (.nftIndestructibilityLock leaseId) trivial, Rights.entry, Option.isSome_map]

theorem Storage.Holds.isSome_tokenOf (holds : before.Holds rights) (leaseId : LeaseId) :
    (before.persistent (NftDataKey.leaseToNftMapping leaseId).key).isSome =
      (rights.tokenOf leaseId).isSome := by
  rw [holds.entries (.leaseToNftMapping leaseId) trivial, Rights.entry, Option.isSome_map]

end Holds

/-! ## What the functions make of it -/

section Functions

variable {env : Env} {before after : Storage} {rights : Rights} {leaseId : LeaseId}
  {tokenId : U128} {result : Unit}

theorem updateHolderNfts_holds {holder : Address} {change : List U128 → List U128}
    (holds : before.Holds rights)
    (run : Commits (updateHolderNfts holder change) before result after) :
    after.Holds (rights.putNfts holder (change (rights.listed holder))) := by
  simp only [updateHolderNfts, commits_bind, commits_persistently, TypedStore.commits_get,
    TypedStore.commits_set] at run
  obtain ⟨found, _, ⟨_, ⟨lies, rfl⟩, rfl⟩, _, rfl, rfl⟩ := run
  rw [Rights.listed, holds.nftsOf_of_lies lies]
  exact holds.putNfts rfl

theorem foreign_nftTransferRecord : Held.leaseInstance.Foreign Held.nftTransferRecord :=
  fun _ _ same => by cases same

theorem storeTransferRecord_holds {gaps : Gaps} {record : NftTransferRecord}
    (holds : before.Holds rights)
    (run : Commits (storeTransferRecord gaps tokenId record) before result after) :
    after.Holds rights := by
  simp only [storeTransferRecord, commits_persistently, TypedStore.commits_set] at run
  obtain ⟨_, rfl, rfl⟩ := run
  refine holds.aside (writesAside_of_store foreign_nftTransferRecord rfl
    (by simp [NftDataKey.key, rightsVariants]) fun leases => ?_)
  exact absurd leases (not_isLeaseKey_of_variant (by simp [NftDataKey.key]))

theorem updateNftMetadataOnTransfer_holds {newHolder : Address}
    {metadata : LessorRightsNftMetadata} (holds : before.Holds rights)
    (found : rights.metadata tokenId = some metadata)
    (run : Commits (updateNftMetadataOnTransfer env tokenId newHolder) before result after) :
    after.Holds (rights.putMetadata tokenId (metadata.transferred env newHolder)) := by
  simp only [updateNftMetadataOnTransfer, getNftMetadata, commits_bind, commits_getOr,
    commits_checkedUpTo, commits_persistently, TypedStore.commits_set] at run
  obtain ⟨again, _, ⟨lies, rfl⟩, _, _, ⟨_, rfl, rfl⟩, _, rfl, rfl⟩ := run
  obtain rfl := Option.some.inj (found.symm.trans (holds.metadata_of_lies lies))
  exact holds.putMetadata rfl

theorem commits_isNftLocked (locked : Bool) :
    Commits (isNftLocked leaseId) before locked after ↔
      locked = (before.persistent (NftDataKey.nftIndestructibilityLock leaseId).key).isSome ∧
        after = before := by
  simp only [isNftLocked, commits_persistently, TypedStore.commits_has]
  constructor
  · rintro ⟨_, ⟨rfl, rfl⟩, rfl⟩
    exact ⟨rfl, rfl⟩
  · rintro ⟨rfl, rfl⟩
    exact ⟨_, ⟨rfl, rfl⟩, rfl⟩

/-- A transfer hands an unlocked token of its holder on. -/
theorem transferNft_holds {gaps : Gaps} {fromHolder toHolder : Address}
    (holds : before.Holds rights)
    (run : Commits (transferNft gaps env tokenId fromHolder toHolder) before result after) :
    ∃ metadata, rights.metadata tokenId = some metadata ∧ metadata.currentHolder = fromHolder ∧
      rights.lock metadata.leaseId = none ∧
      after.Holds (rights.transfer env tokenId fromHolder toHolder metadata) := by
  simp only [transferNft, getNftMetadata, calculateYieldProration, commits_bind, commits_getOr,
    commits_check, commits_isNftLocked, commits_checkedI128, commits_pure,
    commits_announce] at run
  obtain ⟨metadata, _, ⟨lies, rfl⟩, _, _, ⟨owned, rfl⟩, _, _, ⟨rfl, rfl⟩, _, _, ⟨unlocked, rfl⟩,
    proration, _, ⟨_, _, ⟨_, _, rfl⟩, _, rfl⟩, _, recorded, record, _, redirected, rfl, _, renamed,
    rename, _, moved, move, rfl⟩ := run
  have found := holds.metadata_of_lies lies
  rw [holds.isSome_lock] at unlocked
  have amended := updateNftMetadataOnTransfer_holds
    ((storeTransferRecord_holds holds record).unwritten (by rfl)) found rename
  simp only [updateHolderMappings, commits_bind] at move
  obtain ⟨_, _, taken, given⟩ := move
  have reassigned := updateHolderNfts_holds (updateHolderNfts_holds amended taken) given
  refine ⟨metadata, found, owned, ?_, reassigned.unwritten rfl⟩
  exact Option.not_isSome_iff_eq_none.mp (by simp [unlocked])

theorem saveLock_holds {lock : NftIndestructibilityLock} (holds : before.Holds rights)
    (run : Commits (saveLock leaseId lock) before result after) :
    after.Holds (rights.putLock leaseId (some lock)) := by
  simp only [saveLock, commits_persistently, TypedStore.commits_set] at run
  obtain ⟨_, rfl, rfl⟩ := run
  exact holds.putLock rfl

/-- The lock of a tokenised lease is replaced. -/
theorem updateNftLock_holds {lockReason : LockReason} {expiresAt : Option U64}
    (holds : before.Holds rights)
    (run : Commits (updateNftLock env leaseId lockReason expiresAt) before result after) :
    ∃ tokenId, rights.tokenOf leaseId = some tokenId ∧
      after.Holds (rights.putLock leaseId
        (some ⟨leaseId, tokenId, lockReason, env.timestamp, expiresAt⟩)) := by
  simp only [updateNftLock, tokenOfLease, commits_bind, commits_getOr, commits_announce] at run
  obtain ⟨tokenId, _, ⟨lies, rfl⟩, _, locked, lock, rfl⟩ := run
  exact ⟨tokenId, holds.tokenOf_of_lies lies, (saveLock_holds holds lock).unwritten rfl⟩

theorem releaseNftLock_holds (holds : before.Holds rights)
    (run : Commits (releaseNftLock leaseId) before result after) :
    after.Holds (rights.putLock leaseId none) := by
  rw [releaseNftLock_commits run]
  exact holds.putLock rfl

theorem mutualReleaseWithNftVerification_holds {lesseePubkey lessorPubkey : Address}
    {returnAmount slashAmount : I128} (holds : before.Holds rights)
    (run : Commits (mutualReleaseWithNftVerification env leaseId lesseePubkey lessorPubkey
      returnAmount slashAmount) before result after) :
    ∃ lease, rights.lease leaseId = some lease ∧
      after.Holds (rights.settle leaseId lease) := by
  obtain ⟨lease, lies, _, _, _, written⟩ := mutualReleaseWithNftVerification_commits run
  let unlocked : Storage := { before with
    persistent := Function.update before.persistent
      (NftDataKey.nftIndestructibilityLock leaseId).key none }
  have released : unlocked.Holds (rights.putLock leaseId none) := holds.putLock rfl
  exact ⟨lease, holds.lease_of_lies lies, released.putLease written⟩

theorem storeNftData_holds {metadata : LessorRightsNftMetadata} (holds : before.Holds rights)
    (run : Commits (storeNftData tokenId metadata leaseId) before result after) :
    after.Holds (((rights.putMetadata tokenId metadata).putToken leaseId tokenId).assign
      metadata.currentHolder tokenId) := by
  simp only [storeNftData, commits_bind, commits_persistently, TypedStore.commits_set] at run
  obtain ⟨_, named, ⟨_, rfl, name⟩, _, mapped, ⟨_, rfl, map⟩, assign⟩ := run
  have first : named.Holds (rights.putMetadata tokenId metadata) :=
    holds.putMetadata (congrArg Storage.persistent name)
  have second := first.putToken (congrArg Storage.persistent map)
  exact updateHolderNfts_holds second assign

/-- Noting the token on the lease changes no other field. -/
theorem updateLeaseForNft_holds {lease : StoredLease} (holds : before.Holds rights)
    (found : rights.lease leaseId = some lease)
    (run : Commits (updateLeaseForNft env leaseId tokenId) before result after) :
    after.Holds (rights.putLease leaseId (some (lease.tokenised env tokenId))) := by
  simp only [updateLeaseForNft, commits_bind, commits_loadLease, commits_saveLease] at run
  obtain ⟨again, _, ⟨lies, rfl⟩, rfl⟩ := run
  obtain rfl := Option.some.inj (found.symm.trans (holds.lease_of_lies lies))
  exact holds.putLease rfl

/-- A token is minted for a lease that has none, with a lock, and noted on the lease. -/
theorem mintLessorRightsToken_holds {sha256 : String → BytesN 32} {lessor : Address}
    (holds : before.Holds rights)
    (run : Commits (mintLessorRightsToken sha256 env leaseId lessor) before tokenId after) :
    ∃ lease, rights.lease leaseId = some lease ∧ lease.Tokenizable ∧
      rights.tokenOf leaseId = none ∧ tokenId = generateUniqueTokenId env leaseId ∧
      after.Holds (rights.mint env (sha256 lease.propertyUri) leaseId lessor lease) := by
  simp only [mintLessorRightsToken, createNftMetadata, createIndestructibilityLock, commits_bind,
    commits_loadLease, commits_check, commits_persistently, TypedStore.commits_has,
    commits_checkedI128, commits_announce, commits_pure] at run
  obtain ⟨lease, _, ⟨lies, rfl⟩, _, _, ⟨tokenizable, rfl⟩, _, _, ⟨_, ⟨rfl, rfl⟩, rfl⟩, _, _,
    ⟨free, rfl⟩, metadata, _, ⟨_, _, ⟨_, rfl, rfl⟩, rfl, rfl⟩, _, stored, store, _, locked, lock, _,
    noted, note, _, _, rfl, rfl, rfl⟩ := run
  have found := holds.lease_of_lies lies
  rw [holds.isSome_tokenOf] at free
  have kept := updateLeaseForNft_holds (saveLock_holds (storeNftData_holds holds store) lock)
    found note
  refine ⟨lease, found, tokenizable, ?_, rfl, kept.unwritten rfl⟩
  exact Option.not_isSome_iff_eq_none.mp (by simp [free])

end Functions

/-! ## Operations -/

/-- Whatever the lease contract leaves of a lease. -/
def writeLease (leaseId : LeaseId) (lease : Option StoredLease) : Module Unit :=
  persistently (modify fun entries =>
    Function.update entries (leaseKey leaseId) (lease.map Held.leaseInstance.store))

/-- The operations on the rights, those of the other modules, and the writes of the contract. -/
inductive RightsOperation where
  | mintLessorRightsToken (leaseId : LeaseId) (lessor : Address)
  | transferNft (tokenId : U128) (fromHolder toHolder : Address)
  | updateNftLock (leaseId : LeaseId) (lockReason : LockReason) (expiresAt : Option U64)
  | releaseNftLock (leaseId : LeaseId)
  | operate (operation : Operation)
  | writeLease (leaseId : LeaseId) (lease : Option StoredLease)

structure RightsCall where
  env : Env
  operation : RightsOperation

def RightsCall.body (gaps : Gaps) (sha256 : String → BytesN 32) (call : RightsCall) :
    Module Unit :=
  match call.operation with
  | .mintLessorRightsToken leaseId lessor =>
      forget (KeySpace.mintLessorRightsToken sha256 call.env leaseId lessor)
  | .transferNft tokenId fromHolder toHolder =>
      KeySpace.transferNft gaps call.env tokenId fromHolder toHolder
  | .updateNftLock leaseId lockReason expiresAt =>
      KeySpace.updateNftLock call.env leaseId lockReason expiresAt
  | .releaseNftLock leaseId => KeySpace.releaseNftLock leaseId
  | .operate operation => operation.body gaps call.env
  | .writeLease leaseId lease => KeySpace.writeLease leaseId lease

/-- What an operation that goes through has checked and makes of the registry. -/
inductive RightsEffect (env : Env) (before after : Rights) : RightsOperation → Prop where
  | minted {leaseId : LeaseId} {lessor : Address} {lease : StoredLease}
      {propertyHash : BytesN 32} (found : before.lease leaseId = some lease)
      (tokenizable : lease.Tokenizable) (unmapped : before.tokenOf leaseId = none)
      (result : after = before.mint env propertyHash leaseId lessor lease) :
      RightsEffect env before after (.mintLessorRightsToken leaseId lessor)
  | transferred {tokenId : U128} {fromHolder toHolder : Address}
      {metadata : LessorRightsNftMetadata} (found : before.metadata tokenId = some metadata)
      (owned : metadata.currentHolder = fromHolder)
      (unlocked : before.lock metadata.leaseId = none)
      (result : after = before.transfer env tokenId fromHolder toHolder metadata) :
      RightsEffect env before after (.transferNft tokenId fromHolder toHolder)
  | locked {leaseId : LeaseId} {tokenId : U128} {lockReason : LockReason}
      {expiresAt : Option U64} (mapped : before.tokenOf leaseId = some tokenId)
      (result : after = before.putLock leaseId
        (some ⟨leaseId, tokenId, lockReason, env.timestamp, expiresAt⟩)) :
      RightsEffect env before after (.updateNftLock leaseId lockReason expiresAt)
  | released {leaseId : LeaseId} (result : after = before.putLock leaseId none) :
      RightsEffect env before after (.releaseNftLock leaseId)
  | settled {leaseId : LeaseId} {lesseePubkey lessorPubkey : Address}
      {returnAmount slashAmount : I128} {lease : StoredLease}
      (found : before.lease leaseId = some lease) (result : after = before.settle leaseId lease) :
      RightsEffect env before after (.operate (.mutualReleaseWithNftVerification leaseId
        lesseePubkey lessorPubkey returnAmount slashAmount))
  | operated {operation : Operation} (other : ¬ operation.IsRelease) (result : after = before) :
      RightsEffect env before after (.operate operation)
  | written {leaseId : LeaseId} {lease : Option StoredLease}
      (result : after = before.putLease leaseId lease) :
      RightsEffect env before after (.writeLease leaseId lease)

section Refinement

variable {gaps : Gaps} {sha256 : String → BytesN 32} {before after : Storage} {rights : Rights}
  {call : RightsCall}

/-- Each operation that goes through is one of the registry. -/
theorem rightsCall_effect (holds : before.Holds rights)
    (run : Commits (call.body gaps sha256) before () after) :
    ∃ next, after.Holds next ∧ RightsEffect call.env rights next call.operation := by
  obtain ⟨env, operation⟩ := call
  cases operation with
  | mintLessorRightsToken leaseId lessor =>
      obtain ⟨_, ran, _⟩ := (commits_map _ _ _).mp run
      obtain ⟨lease, found, tokenizable, unmapped, _, kept⟩ := mintLessorRightsToken_holds holds ran
      exact ⟨_, kept, .minted found tokenizable unmapped rfl⟩
  | transferNft tokenId fromHolder toHolder =>
      obtain ⟨metadata, found, owned, unlocked, kept⟩ := transferNft_holds holds run
      exact ⟨_, kept, .transferred found owned unlocked rfl⟩
  | updateNftLock leaseId lockReason expiresAt =>
      obtain ⟨tokenId, mapped, kept⟩ := updateNftLock_holds holds run
      exact ⟨_, kept, .locked mapped rfl⟩
  | releaseNftLock leaseId => exact ⟨_, releaseNftLock_holds holds run, .released rfl⟩
  | operate operation =>
      by_cases release : operation.IsRelease
      · obtain ⟨leaseId, lesseePubkey, lessorPubkey, returnAmount, slashAmount, rfl⟩ := release
        obtain ⟨lease, found, kept⟩ := mutualReleaseWithNftVerification_holds holds run
        exact ⟨_, kept, .settled found rfl⟩
      · exact ⟨rights, holds.aside (writesAside_of_commits run release), .operated release rfl⟩
  | writeLease leaseId lease =>
      obtain ⟨entries, written, rfl⟩ := (commits_persistently _ _).mp run
      obtain rfl := (commits_modify _ _).mp written
      exact ⟨_, holds.putLease rfl, .written rfl⟩

end Refinement

/-! ## The registry of a store -/

def Storage.rights (storage : Storage) : Rights where
  metadata tokenId :=
    (storage.persistent (NftDataKey.nftMetadata tokenId).key).bind Held.nftMetadata.convert
  tokenOf leaseId :=
    (storage.persistent (NftDataKey.leaseToNftMapping leaseId).key).bind Held.u128.convert
  nftsOf holder :=
    (storage.persistent (NftDataKey.holderToNfts holder).key).bind Held.tokenIds.convert
  lock leaseId :=
    (storage.persistent (NftDataKey.nftIndestructibilityLock leaseId).key).bind
      Held.indestructibilityLock.convert
  lease := storage.lease

theorem Storage.Holds.rights_eq {storage : Storage} {rights : Rights}
    (holds : storage.Holds rights) : storage.rights = rights := by
  have entry : ∀ {α : Type} (kind : Kind Stored α) (key : NftDataKey) (found : Option α),
      key.OfRights → rights.entry key = found.map kind.store →
        (storage.persistent key.key).bind kind.convert = found := by
    intro α kind key found ofRights same
    rw [holds.entries key ofRights, same, kind.bind_convert_map]
  obtain ⟨metadata, tokenOf, nftsOf, lock, lease⟩ := rights
  rw [Storage.rights, holds.leases]
  congr 1
  · exact funext fun tokenId => entry _ (.nftMetadata tokenId) _ trivial rfl
  · exact funext fun leaseId => entry _ (.leaseToNftMapping leaseId) _ trivial rfl
  · exact funext fun holder => entry _ (.holderToNfts holder) _ trivial rfl
  · exact funext fun leaseId => entry _ (.nftIndestructibilityLock leaseId) _ trivial rfl

/-- Nothing lies under the keys of the registry. -/
def Storage.Untokenised (storage : Storage) : Prop :=
  ∀ key : NftDataKey, key.OfRights → storage.persistent key.key = none

theorem Storage.Untokenised.holds {storage : Storage} (untokenised : storage.Untokenised) :
    storage.Holds ⟨fun _ => none, fun _ => none, fun _ => none, fun _ => none, storage.lease⟩ where
  entries key ofRights := by
    rw [untokenised key ofRights]
    cases key <;> rfl
  leases := rfl

end LeaseFlow.KeySpace
