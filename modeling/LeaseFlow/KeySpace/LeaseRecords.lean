import LeaseFlow.KeySpace.DexIntegration
import LeaseFlow.KeySpace.IotIntegration

/-!
# Lease records under the modules

All three modules write at keys that lease records can lie at.  Each of these writes comes after
a read at the same key, and the read traps on a lease record: the operations that would store
something else there never go through, and the others find their own record or nothing.
-/

set_option autoImplicit false

namespace LeaseFlow.KeySpace

open Transaction Failure

/-! ## The operations -/

inductive Operation where
  | payLeaseRentWithNftRouting (leaseId : LeaseId) (payer : Address) (paymentAmount : I128)
  | refundDepositToNftHolder (leaseId : LeaseId) (refundAmount : I128)
  | mutualReleaseWithNftVerification (leaseId : LeaseId) (lesseePubkey lessorPubkey : Address)
      (returnAmount slashAmount : I128)
  | updatePaymentRoutingOnNftTransfer (leaseId : LeaseId) (previousHolder newHolder : Address)
  | getPaymentRoutingConfig (leaseId : LeaseId)
  | listNftOnDex (tokenId : U128) (seller : Address) (price : I128) (durationDays : Option U32)
  | buyNftFromDex (tokenId : U128) (buyer : Address) (maxPrice : I128)
  | delistNft (tokenId : U128) (seller : Address)
  | updateListingPrice (tokenId : U128) (seller : Address) (newPrice : I128)
  | getMarketData (tokenId : U128)
  | getActiveListings
  | getMarketStatistics
  | configureDex (admin dexContract tokenContract : Address) (feeBps : U32)
      (minPrice maxPrice : I128)
  | toggleDexIntegration (admin : Address) (enabled : Bool)
  | registerDevice (deviceId : String) (deviceType : IotDeviceType) (owner : Address)
      (location : String) (capabilities : DeviceCapabilities)
      (firmwareVersion hardwareVersion : String)
  | processAccessRequest (request : IotAccessRequest)
  | queryTokenValidity (tokenId : U128) (requestingSystem : Address)
  | getTokenDetails (tokenId : U128) (requestingSystem : Address)
  | updateDeviceStatus (deviceId : String) (newStatus : DeviceStatus) (requester : Address)
  | getDeviceInfo (deviceId : String)
  | getOwnerDevices (owner : Address)
  | getDevicesByType (deviceType : IotDeviceType)
  | getOnlineDevices
  | performHealthCheck (deviceId : String)

/-- The returned value is not part of the store. -/
def forget {α : Type} (body : Module α) : Module Unit :=
  (fun _ => ()) <$> body

def Operation.body (gaps : Gaps) (env : Env) : Operation → Module Unit
  | .payLeaseRentWithNftRouting leaseId payer paymentAmount =>
      KeySpace.payLeaseRentWithNftRouting gaps env leaseId payer paymentAmount
  | .refundDepositToNftHolder leaseId refundAmount =>
      KeySpace.refundDepositToNftHolder env leaseId refundAmount
  | .mutualReleaseWithNftVerification leaseId lesseePubkey lessorPubkey returnAmount
      slashAmount =>
      KeySpace.mutualReleaseWithNftVerification env leaseId lesseePubkey lessorPubkey
        returnAmount slashAmount
  | .updatePaymentRoutingOnNftTransfer leaseId previousHolder newHolder =>
      KeySpace.updatePaymentRoutingOnNftTransfer env leaseId previousHolder newHolder
  | .getPaymentRoutingConfig leaseId => forget (KeySpace.getPaymentRoutingConfig env leaseId)
  | .listNftOnDex tokenId seller price durationDays =>
      KeySpace.listNftOnDex gaps env tokenId seller price durationDays
  | .buyNftFromDex tokenId buyer maxPrice =>
      KeySpace.buyNftFromDex gaps env tokenId buyer maxPrice
  | .delistNft tokenId seller => KeySpace.delistNft gaps env tokenId seller
  | .updateListingPrice tokenId seller newPrice =>
      KeySpace.updateListingPrice gaps env tokenId seller newPrice
  | .getMarketData tokenId => forget (KeySpace.getMarketData gaps tokenId)
  | .getActiveListings => forget KeySpace.getActiveListings
  | .getMarketStatistics => forget (KeySpace.getMarketStatistics env)
  | .configureDex admin dexContract tokenContract feeBps minPrice maxPrice =>
      KeySpace.configureDex admin dexContract tokenContract feeBps minPrice maxPrice
  | .toggleDexIntegration admin enabled => KeySpace.toggleDexIntegration admin enabled
  | .registerDevice deviceId deviceType owner location capabilities firmwareVersion
      hardwareVersion =>
      KeySpace.registerDevice env deviceId deviceType owner location capabilities firmwareVersion
        hardwareVersion
  | .processAccessRequest request => forget (KeySpace.processAccessRequest env request)
  | .queryTokenValidity tokenId requestingSystem =>
      forget (KeySpace.queryTokenValidity env tokenId requestingSystem)
  | .getTokenDetails tokenId requestingSystem =>
      forget (KeySpace.getTokenDetails tokenId requestingSystem)
  | .updateDeviceStatus deviceId newStatus requester =>
      KeySpace.updateDeviceStatus env deviceId newStatus requester
  | .getDeviceInfo deviceId => forget (KeySpace.getDeviceInfo deviceId)
  | .getOwnerDevices owner => forget (KeySpace.getOwnerDevices owner)
  | .getDevicesByType deviceType => forget (KeySpace.getDevicesByType deviceType)
  | .getOnlineDevices => forget KeySpace.getOnlineDevices
  | .performHealthCheck deviceId => forget (KeySpace.performHealthCheck env deviceId)

/-- The one operation that is there to write a lease record. -/
def Operation.IsRelease (operation : Operation) : Prop :=
  ∃ leaseId lesseePubkey lessorPubkey returnAmount slashAmount,
    operation = .mutualReleaseWithNftVerification leaseId lesseePubkey lessorPubkey returnAmount
      slashAmount

/-! ## What an operation may write to a lease -/

/-- What an operation is documented to make of the record of a lease: a release settles the one
it names, and a payment by its tenant marks the time. -/
def Operation.documented (env : Env) (operation : Operation) (leaseId : LeaseId)
    (lease : StoredLease) : StoredLease :=
  match operation with
  | .mutualReleaseWithNftVerification named _ _ _ _ =>
      if leaseId = named then lease.released else lease
  | .payLeaseRentWithNftRouting named payer _ =>
      if leaseId = named ∧ payer = lease.tenant then lease.touched env.timestamp else lease
  | _ => lease

/-- Every field but the two statuses, the flags and the time of the last interaction is the
same: the parties, the deposits, the rents, the fees and the dates. -/
def StoredLease.SameTerms (kept lease : StoredLease) : Prop :=
  kept = { lease with
    status := kept.status
    depositStatus := kept.depositStatus
    flags := kept.flags
    lastTenantInteraction := kept.lastTenantInteraction }

theorem StoredLease.sameTerms_refl (lease : StoredLease) : lease.SameTerms lease :=
  rfl

theorem StoredLease.SameTerms.trans {first second third : StoredLease}
    (one : second.SameTerms first) (two : third.SameTerms second) : third.SameTerms first := by
  unfold SameTerms at one two ⊢
  rw [two, one]

theorem Operation.documented_sameTerms (env : Env) (operation : Operation) (leaseId : LeaseId)
    (lease : StoredLease) : (operation.documented env leaseId lease).SameTerms lease := by
  unfold Operation.documented
  split
  · split <;> rfl
  · split <;> rfl
  · rfl

/-! ## Every operation -/

section Effect

variable {gaps : Gaps} {env : Env} {before after : Storage} {result : Unit}

/-- At most one entry is written, outside the registry of the lessor rights; it is no lease
record and lies where no lease record lay. -/
def WritesAside (before after : Storage) : Prop :=
  after.persistent = before.persistent ∨
    ∃ key entry, after.persistent = Function.update before.persistent key entry ∧
      key.variant ∉ rightsVariants ∧
      ∀ lease, entry ≠ some (Held.leaseInstance.store lease) ∧
        (IsLeaseKey key → before.persistent key ≠ some (Held.leaseInstance.store lease))

theorem writesAside_of_leaves {α : Type} {body : Module α} (leaves : LeavesEntries body)
    (run : Commits (forget body) before result after) : WritesAside before after := by
  obtain ⟨_, ran, rfl⟩ := (commits_map _ _ _).mp run
  exact .inl (leaves.keeps ran)

/-- What is stored is of another kind than a lease record. -/
theorem writesAside_of_store {α : Type} {kind : Kind Stored α} {key : StorageKey} {value : α}
    (foreign : Held.leaseInstance.Foreign kind)
    (written : after.persistent =
      Function.update before.persistent key (some (kind.store value)))
    (outside : key.variant ∉ rightsVariants)
    (free : IsLeaseKey key → ∀ lease,
      before.persistent key ≠ some (Held.leaseInstance.store lease)) : WritesAside before after := by
  refine .inr ⟨key, _, written, outside, fun lease => ⟨fun same => ?_, fun leases => free leases lease⟩⟩
  exact foreign lease value (Option.some.inj same).symm

theorem free_of_foreign {α : Type} {kind : Kind Stored α} {key : StorageKey} {value : α}
    (foreign : Held.leaseInstance.Foreign kind)
    (lies : before.persistent key = some (kind.store value)) (lease : StoredLease) :
    before.persistent key ≠ some (Held.leaseInstance.store lease) := by
  intro other
  exact foreign lease value (Option.some.inj (other.symm.trans lies))

/-- Every operation but a release writes aside. -/
theorem writesAside_of_commits {operation : Operation}
    (run : Commits (operation.body gaps env) before result after)
    (other : ¬ operation.IsRelease) : WritesAside before after := by
  cases operation with
  | mutualReleaseWithNftVerification leaseId lesseePubkey lessorPubkey returnAmount slashAmount =>
      exact absurd ⟨_, _, _, _, _, rfl⟩ other
  | payLeaseRentWithNftRouting leaseId payer paymentAmount =>
      exact absurd run not_commits_payLeaseRentWithNftRouting
  | updatePaymentRoutingOnNftTransfer leaseId previousHolder newHolder =>
      exact absurd run not_commits_updatePaymentRoutingOnNftTransfer
  | listNftOnDex tokenId seller price durationDays => exact absurd run not_commits_listNftOnDex
  | buyNftFromDex tokenId buyer maxPrice => exact absurd run not_commits_buyNftFromDex
  | updateListingPrice tokenId seller newPrice => exact absurd run not_commits_updateListingPrice
  | delistNft tokenId seller =>
      obtain ⟨listing, lies, _, written⟩ := delistNft_commits run
      refine .inr ⟨_, none, written, by simp [Gaps.listingKey, NftDataKey.key, rightsVariants],
        fun lease => ⟨by simp, fun _ => free_of_foreign foreign_nftListing lies lease⟩⟩
  | configureDex admin dexContract tokenContract feeBps minPrice maxPrice =>
      exact writesAside_of_store foreign_dexConfig (configureDex_commits run) (by decide)
        fun leases => absurd leases (not_isLeaseKey_of_variant (by decide))
  | toggleDexIntegration admin enabled =>
      obtain ⟨config, written⟩ := toggleDexIntegration_commits run
      exact writesAside_of_store foreign_dexConfig written (by decide)
        fun leases => absurd leases (not_isLeaseKey_of_variant (by decide))
  | registerDevice deviceId deviceType owner location capabilities firmwareVersion
      hardwareVersion =>
      obtain ⟨free, device, written⟩ := registerDevice_commits run
      refine writesAside_of_store foreign_iotDevice written (by decide) fun _ lease => ?_
      rw [free]
      exact (Option.some_ne_none _).symm
  | updateDeviceStatus deviceId newStatus requester =>
      obtain ⟨device, lies, _, written⟩ := updateDeviceStatus_commits run
      exact writesAside_of_store foreign_iotDevice written (by decide)
        fun _ => free_of_foreign foreign_iotDevice lies
  | queryTokenValidity tokenId requestingSystem =>
      obtain ⟨_, ran, _⟩ := (commits_map _ _ _).mp run
      obtain ⟨response, _, verified, _, rfl⟩ := (commits_bind _ _ _).mp ran
      obtain ⟨token, _, _, _, written⟩ := verifyAccessToken_commits
        ((commits_orFail _ _ _).mp verified)
      exact writesAside_of_store foreign_lesseeAccessToken written
        (by simp [accessTokenKey, AccessDataKey.key, rightsVariants])
        fun leases => absurd leases (not_isLeaseKey_of_variant
          (by simp [accessTokenKey, AccessDataKey.key]))
  | refundDepositToNftHolder leaseId refundAmount =>
      exact .inl ((leaves_refundDepositToNftHolder env leaseId refundAmount).keeps run)
  | getPaymentRoutingConfig leaseId =>
      exact writesAside_of_leaves (leaves_getPaymentRoutingConfig env leaseId) run
  | processAccessRequest request =>
      exact writesAside_of_leaves (leaves_processAccessRequest env request) run
  | getTokenDetails tokenId requestingSystem =>
      exact writesAside_of_leaves (leaves_getTokenDetails tokenId requestingSystem) run
  | performHealthCheck deviceId =>
      exact writesAside_of_leaves (leaves_performHealthCheck env deviceId) run
  | getMarketData tokenId | getDeviceInfo deviceId =>
      exact writesAside_of_leaves (leaves_getOr _ _ _) run
  | getActiveListings | getMarketStatistics | getOwnerDevices owner | getDevicesByType deviceType
  | getOnlineDevices => exact writesAside_of_leaves (steady_pure _) run

theorem Storage.lease_congr {leaseId : LeaseId}
    (same : after.persistent (leaseKey leaseId) = before.persistent (leaseKey leaseId)) :
    after.lease leaseId = before.lease leaseId := by
  rw [Storage.lease, Storage.lease, same]

/-- What is written aside is no lease record and replaces none. -/
theorem WritesAside.lease (aside : WritesAside before after) (leaseId : LeaseId) :
    after.lease leaseId = before.lease leaseId := by
  rcases aside with same | ⟨key, entry, written, _, apart⟩
  · exact Storage.lease_congr (congrFun same _)
  · by_cases here : key = leaseKey leaseId
    · subst here
      refine Option.ext fun lease => ?_
      simp only [Storage.lease_eq_some_iff, written, Function.update_self]
      exact iff_of_false (apart lease).1 ((apart lease).2 ⟨leaseId, rfl⟩)
    · refine Storage.lease_congr ?_
      rw [written, Function.update_of_ne (Ne.symm here)]

/-- A payment by the tenant would mark the time, but no payment goes through. -/
theorem documented_eq_self {operation : Operation}
    (run : Commits (operation.body gaps env) before result after)
    (other : ¬ operation.IsRelease) (leaseId : LeaseId) (lease : StoredLease) :
    operation.documented env leaseId lease = lease := by
  cases operation with
  | mutualReleaseWithNftVerification named lesseePubkey lessorPubkey returnAmount slashAmount =>
      exact absurd ⟨_, _, _, _, _, rfl⟩ other
  | payLeaseRentWithNftRouting named payer paymentAmount =>
      exact absurd run not_commits_payLeaseRentWithNftRouting
  | _ => rfl

/-- A lease record lies where it lay, changed as documented for the lease the call names. -/
theorem lease_of_commits {operation : Operation} {leaseId : LeaseId} {lease : StoredLease}
    (run : Commits (operation.body gaps env) before result after)
    (stored : before.lease leaseId = some lease) :
    after.lease leaseId = some (operation.documented env leaseId lease) := by
  rw [Storage.lease_eq_some_iff] at stored ⊢
  by_cases release : operation.IsRelease
  · obtain ⟨named, _, _, _, _, rfl⟩ := release
    obtain ⟨found, lies, _, _, _, written⟩ := mutualReleaseWithNftVerification_commits run
    rw [written]
    unfold Operation.documented
    by_cases same : leaseId = named
    · subst same
      obtain rfl := Held.leaseInstance.store_injective (Option.some.inj (stored.symm.trans lies))
      simp
    · have apart : leaseKey leaseId ≠ leaseKey named := by
        simpa [leaseKey, DataKey.key] using same
      have unlocked : leaseKey leaseId ≠ (NftDataKey.nftIndestructibilityLock named).key := by
        simp [leaseKey, DataKey.key, NftDataKey.key]
      simp only [if_neg same, Function.update_of_ne apart, Function.update_of_ne unlocked]
      exact stored
  · rw [documented_eq_self run release]
    rw [← Storage.lease_eq_some_iff] at stored ⊢
    rw [(writesAside_of_commits run release).lease, stored]

end Effect

/-! ## Runs -/

structure Invocation where
  env : Env
  operation : Operation

def Invocation.body (gaps : Gaps) (invocation : Invocation) : Module Unit :=
  invocation.operation.body gaps invocation.env

/-- Through any run of the three modules a lease record keeps its terms. -/
theorem lease_terms_along_run {gaps : Gaps} {start storage : Storage} {leaseId : LeaseId}
    {lease : StoredLease} (stored : start.lease leaseId = some lease)
    (reached : Run.Reaches (Machine.step (Invocation.body gaps)) start storage) :
    ∃ kept, storage.lease leaseId = some kept ∧ kept.SameTerms lease := by
  refine @Machine.invariant_of_reaches _ _ _ _ _
    (fun state => ∃ kept, state.lease leaseId = some kept ∧ kept.SameTerms lease) start
    (fun invocation before next run held => ?_) reached ⟨lease, stored, lease.sameTerms_refl⟩
  obtain ⟨middle, found, same⟩ := held
  exact ⟨_, lease_of_commits run found, same.trans (Operation.documented_sameTerms ..)⟩

/-! ## One call -/

/-- After a call of any of the three modules that goes through, every lease record lies at its
key, with the same terms, and has changed as documented for the lease that the call names. -/
theorem lease_records_undamaged (gaps : Gaps) {env : Env} {operation : Operation}
    {storage next : Storage} (run : Commits (operation.body gaps env) storage () next) :
    ∀ leaseId lease, storage.lease leaseId = some lease →
      ∃ kept, next.lease leaseId = some kept ∧ kept.SameTerms lease ∧
        kept = operation.documented env leaseId lease := by
  intro leaseId lease stored
  exact ⟨_, lease_of_commits run stored, operation.documented_sameTerms env leaseId lease, rfl⟩

/-- The market keys its listings by the low half of the token id. -/
def lowHalfGaps : Gaps where
  listingPayload tokenId := .u64 tokenId.toUInt64
  transferCount _ := 0
  generatedAddress := ⟨9⟩

/-- The record of a lease with a deposit of `100`. -/
def rentedLease : StoredLease where
  toLeaseInstance :=
    { proposedLease ⟨1⟩ (sampleProposal 0 40) 60 with status := .active }
  paused := false
  pauseReason := none
  pausedAt := none
  pauseInitiator := none
  totalPausedDuration := 0
  lastRentPullTimestamp := none
  billingCycleDuration := billingCycleDuration
  continuousBillingEnabled := false
  rentTreasuryAddress := none
  yieldDelegationEnabled := false
  yieldAccumulated := 0
  equityBalance := 0
  petDepositAmount := 0
  petRentAmount := 0
  expiryTime := 1000000
  rentPaidThrough := 0
  lastTenantInteraction := 0

/-- The rights to the lease were handed to `⟨5⟩`. -/
def tradedRights : LessorRightsNftMetadata where
  leaseId := 7
  originalLessor := ⟨1⟩
  currentHolder := ⟨5⟩
  leaseStart := 0
  leaseEnd := 1000000
  monthlyRent := 10
  securityDeposit := 100
  propertyHash := .repeated 32 0
  mintedAt := 0
  lastTransfer := 10
  transferCount := 1
  pendingYield := 0
  billingCycleStart := 10

def tradedEntries : Entries
  | ⟨"LeaseInstance", [.u64 7]⟩ => some (.leaseInstance rentedLease)
  | ⟨"LeaseToNFTMapping", [.u64 7]⟩ => some (.u128 70)
  | ⟨"NFTMetadata", [.u128 70]⟩ => some (.nftMetadata tradedRights)
  | _ => none

def tradedStorage : Storage where
  persistent := tradedEntries
  temporary _ := none
  instanceData _ := none
  events := []

def tradedRelease : Operation :=
  .mutualReleaseWithNftVerification 7 ⟨2⟩ ⟨5⟩ 60 40

def releasedStorage : Storage :=
  (tradedRelease.body lowHalfGaps (openLedger 50 0)).attempt tradedStorage

theorem tradedRelease_goes :
    (tradedRelease.body lowHalfGaps (openLedger 50 0)).succeeds tradedStorage = true := by
  decide +kernel

/-- The release settles the lease and leaves its terms. -/
theorem released_lease_undamaged :
    ∃ kept, releasedStorage.lease 7 = some kept ∧ kept.SameTerms rentedLease ∧
      kept = tradedRelease.documented (openLedger 50 0) 7 rentedLease :=
  lease_records_undamaged lowHalfGaps (commits_attempt tradedRelease_goes) 7 rentedLease rfl

end LeaseFlow.KeySpace
