import LeaseFlow.KeySpace.Rights

/-!
# The deposit of a lease in the modules

What the operations on the lessor rights and on deposits read, write and route of one lease: the
account is its record with the amount that was routed on it.
-/

set_option autoImplicit false

namespace LeaseFlow.KeySpace

open Transaction Failure

/-! ## Routed amounts -/

/-- What an event routes on account of a lease. -/
def ModuleEvent.routed (leaseId : LeaseId) : ModuleEvent → Int
  | .paymentRouted named _ _ amount _ => if named = leaseId then max amount 0 else 0
  | _ => 0

def routed (leaseId : LeaseId) (events : List ModuleEvent) : Int :=
  (events.map (ModuleEvent.routed leaseId)).sum

@[simp] theorem routed_cons (leaseId : LeaseId) (event : ModuleEvent)
    (events : List ModuleEvent) :
    routed leaseId (event :: events) = event.routed leaseId + routed leaseId events := by
  simp [routed]

/-- The record of a lease, and what was routed on it. -/
def Storage.account (leaseId : LeaseId) (storage : Storage) : Option StoredLease × Int :=
  (storage.lease leaseId, routed leaseId storage.events)

/-! ## Bodies that leave the account alone -/

section Leaves

variable {α : Type} {leaseId : LeaseId}

abbrev LeavesAccount (leaseId : LeaseId) (body : Module α) : Prop :=
  Steady (Storage.account leaseId) body

theorem Storage.account_congr {before after : Storage}
    (entry : after.persistent (leaseKey leaseId) = before.persistent (leaseKey leaseId))
    (events : after.events = before.events) : after.account leaseId = before.account leaseId := by
  rw [Storage.account, Storage.lease_congr entry, events, Storage.account]

/-- A body on the entries leaves the account alone if it leaves the entry of the lease alone. -/
theorem leavesAccount_persistently {body : Transaction Entries (Failure ModuleError) α}
    (leaves : Steady (fun entries => entries (leaseKey leaseId)) body) :
    LeavesAccount leaseId (persistently body) :=
  fun storage => Storage.account_congr (leaves storage.persistent) rfl

theorem leavesAccount_get (kind : Kind Stored α) (key : StorageKey) :
    LeavesAccount leaseId (persistently (TypedStore.get kind key)) :=
  leavesAccount_persistently (TypedStore.steady_get kind key)

theorem leavesAccount_getOr (kind : Kind Stored α) (key : StorageKey) (missing : ModuleError) :
    LeavesAccount leaseId (getOr kind key missing) :=
  steady_bind (leavesAccount_get kind key) fun found => steady_orErr found missing

theorem leavesAccount_has (key : StorageKey) :
    LeavesAccount leaseId (persistently (TypedStore.has key)) :=
  leavesAccount_persistently (steady_inspect _)

theorem leavesAccount_set {kind : Kind Stored α} {key : StorageKey} {value : α}
    (outside : leaseKey leaseId ≠ key) :
    LeavesAccount leaseId (persistently (TypedStore.set kind key value)) :=
  leavesAccount_persistently (steady_modify fun _ => Function.update_of_ne outside _ _)

theorem leavesAccount_remove {key : StorageKey} (outside : leaseKey leaseId ≠ key) :
    LeavesAccount leaseId (persistently (TypedStore.remove key)) :=
  leavesAccount_persistently (steady_modify fun _ => Function.update_of_ne outside _ _)

theorem leavesAccount_temporarily (body : Transaction Entries (Failure ModuleError) α) :
    LeavesAccount leaseId (temporarily body) :=
  fun _ => rfl

theorem leavesAccount_announce {event : ModuleEvent} (unrouted : event.routed leaseId = 0) :
    LeavesAccount leaseId (announce event) := by
  refine steady_modify fun storage => ?_
  rw [Storage.account, routed_cons, unrouted, zero_add]
  rfl

theorem leavesAccount_checkedI128 (value : Int) : LeavesAccount leaseId (checkedI128 value) :=
  steady_bind (steady_ensure _ _) fun _ => steady_pure _

end Leaves

/-! ## The operations -/

section Operations

variable {gaps : Gaps} {env : Env} {leaseId : LeaseId}

/-- The keys of the rights are no lease keys. -/
theorem leaseKey_ne {key : NftDataKey} (ofRights : key.OfRights) : leaseKey leaseId ≠ key.key := by
  intro same
  exact leaseKey_outside ⟨leaseId, rfl⟩ (same ▸ ofRights.variant_mem)

theorem leavesAccount_updateHolderNfts (holder : Address) (change : List U128 → List U128) :
    LeavesAccount leaseId (updateHolderNfts holder change) :=
  steady_bind (leavesAccount_get _ _) fun _ => leavesAccount_set (leaseKey_ne trivial)

theorem leavesAccount_saveLock (named : LeaseId) (lock : NftIndestructibilityLock) :
    LeavesAccount leaseId (saveLock named lock) :=
  leavesAccount_set (leaseKey_ne trivial)

theorem leavesAccount_updateNftLock (named : LeaseId) (lockReason : LockReason)
    (expiresAt : Option U64) :
    LeavesAccount leaseId (updateNftLock env named lockReason expiresAt) :=
  steady_bind (leavesAccount_getOr _ _ _) fun _ =>
    steady_bind (leavesAccount_saveLock _ _) fun _ => leavesAccount_announce rfl

theorem leavesAccount_releaseNftLock (named : LeaseId) :
    LeavesAccount leaseId (releaseNftLock named) :=
  steady_bind (leavesAccount_has _) fun _ =>
    steady_ite _ (leavesAccount_remove (leaseKey_ne trivial)) (steady_pure ())

theorem leavesAccount_storeTransferRecord (tokenId : U128) (record : NftTransferRecord) :
    LeavesAccount leaseId (storeTransferRecord gaps tokenId record) :=
  leavesAccount_set (by simp [leaseKey, DataKey.key, NftDataKey.key])

theorem leavesAccount_updateNftMetadataOnTransfer (tokenId : U128) (newHolder : Address) :
    LeavesAccount leaseId (updateNftMetadataOnTransfer env tokenId newHolder) :=
  steady_bind (leavesAccount_getOr _ _ _) fun _ =>
    steady_bind (steady_checkedUpTo _ _) fun _ => leavesAccount_set (leaseKey_ne trivial)

theorem leavesAccount_transferNft (tokenId : U128) (fromHolder toHolder : Address) :
    LeavesAccount leaseId (transferNft gaps env tokenId fromHolder toHolder) := by
  refine steady_bind (leavesAccount_getOr _ _ _) fun metadata => ?_
  refine steady_bind (steady_check _ _) fun _ => ?_
  refine steady_bind (leavesAccount_has _) fun locked => ?_
  refine steady_bind (steady_check _ _) fun _ => ?_
  refine steady_bind (steady_bind (leavesAccount_checkedI128 _) fun _ => steady_pure _)
    fun proration => ?_
  refine steady_bind (leavesAccount_storeTransferRecord _ _) fun _ => ?_
  refine steady_bind (leavesAccount_announce rfl) fun _ => ?_
  refine steady_bind (leavesAccount_updateNftMetadataOnTransfer _ _) fun _ => ?_
  refine steady_bind (steady_bind (leavesAccount_updateHolderNfts _ _) fun _ =>
    leavesAccount_updateHolderNfts _ _) fun _ => ?_
  exact leavesAccount_announce rfl

theorem leavesAccount_getCurrentNftHolder (named : LeaseId) :
    LeavesAccount leaseId (getCurrentNftHolder named) :=
  steady_raising _ (steady_bind (leavesAccount_getOr _ _ _) fun _ =>
    steady_bind (leavesAccount_getOr _ _ _) fun _ => steady_pure _)

theorem leavesAccount_verifyOwnershipForDepositRefund (named : LeaseId)
    (claimedHolder : Address) :
    LeavesAccount leaseId (verifyOwnershipForDepositRefund env named claimedHolder) := by
  refine steady_bind (steady_raising _ ?_) fun _ => steady_check _ _
  refine steady_bind (leavesAccount_getOr _ _ _) fun _ => ?_
  refine steady_bind (leavesAccount_getOr _ _ _) fun _ => ?_
  refine steady_bind (steady_bind (leavesAccount_getOr _ _ _) fun _ => steady_check _ _) fun _ => ?_
  exact steady_bind (leavesAccount_temporarily _) fun _ => steady_pure _

theorem leavesAccount_requireAuth (address : Address) :
    LeavesAccount leaseId (requireAuth env address) :=
  steady_ensure _ _

theorem leavesAccount_admitMutualRelease (named : LeaseId) (lesseePubkey lessorPubkey : Address)
    (returnAmount slashAmount : I128) :
    LeavesAccount leaseId
      (admitMutualRelease env named lesseePubkey lessorPubkey returnAmount slashAmount) := by
  refine steady_bind (leavesAccount_getOr _ _ _) fun lease => ?_
  refine steady_bind (steady_check _ _) fun _ => ?_
  refine steady_bind (steady_raising _ (leavesAccount_getCurrentNftHolder _)) fun _ => ?_
  refine steady_bind (steady_check _ _) fun _ => ?_
  refine steady_bind (leavesAccount_requireAuth _) fun _ => ?_
  refine steady_bind (leavesAccount_requireAuth _) fun _ => ?_
  refine steady_bind (steady_check _ _) fun _ => ?_
  refine steady_bind (leavesAccount_checkedI128 _) fun _ => ?_
  refine steady_bind (leavesAccount_checkedI128 _) fun _ => ?_
  refine steady_bind (steady_check _ _) fun _ => ?_
  exact steady_bind (steady_check _ _) fun _ => steady_pure _

theorem leavesAccount_storeNftData (tokenId : U128) (metadata : LessorRightsNftMetadata)
    (named : LeaseId) : LeavesAccount leaseId (storeNftData tokenId metadata named) :=
  steady_bind (leavesAccount_set (leaseKey_ne trivial)) fun _ =>
    steady_bind (leavesAccount_set (leaseKey_ne trivial)) fun _ => leavesAccount_updateHolderNfts _ _

end Operations

/-! ## Writes of the record -/

section Writes

variable {env : Env} {before after : Storage} {leaseId named : LeaseId} {result : Unit}

theorem Storage.account_eq_iff {record : Option StoredLease} {amount : Int} :
    before.account leaseId = (record, amount) ↔
      before.lease leaseId = record ∧ routed leaseId before.events = amount :=
  Prod.mk_inj

/-- Saving a lease writes its own record only. -/
theorem saveLease_account {lease : StoredLease}
    (run : Commits (saveLease named lease) before result after) :
    after.account leaseId =
      if named = leaseId then (some lease, routed leaseId before.events)
      else before.account leaseId := by
  obtain rfl := (commits_saveLease _ _).mp run
  split
  · next same =>
      subst same
      exact Storage.account_eq_iff.mpr
        ⟨Storage.lease_eq_some_iff.mpr (Function.update_self _ _ _), rfl⟩
  · next differs =>
      refine Storage.account_congr (Function.update_of_ne ?_ _ _) rfl
      exact leaseKey_injective.ne (Ne.symm differs)

theorem routePayout_routed {recipient : Address} {amount : I128}
    (run : Commits (routePayout env leaseId recipient amount) before result after) :
    routed leaseId after.events = max amount 0 + routed leaseId before.events := by
  rw [routePayout, commits_ite] at run
  split at run
  · obtain rfl := (commits_announce _ _).mp run
    simp [ModuleEvent.routed]
  · next empty =>
      obtain ⟨-, rfl⟩ := (commits_pure _ _).mp run
      rw [max_eq_right (not_lt.mp empty), zero_add]

theorem leavesAccount_routePayout (differs : named ≠ leaseId) (recipient : Address)
    (amount : I128) : LeavesAccount leaseId (routePayout env named recipient amount) :=
  steady_ite _ (leavesAccount_announce (if_neg differs)) (steady_pure ())

end Writes

/-! ## Calls -/

/-- The operations that handle the lessor rights or a deposit. -/
inductive ModuleCall where
  | mintLessorRightsToken (leaseId : LeaseId) (lessor : Address)
  | transferNft (tokenId : U128) (fromHolder toHolder : Address)
  | updateNftLock (leaseId : LeaseId) (lockReason : LockReason) (expiresAt : Option U64)
  | releaseNftLock (leaseId : LeaseId)
  | refundDepositToNftHolder (leaseId : LeaseId) (refundAmount : I128)
  | mutualReleaseWithNftVerification (leaseId : LeaseId) (lesseePubkey lessorPubkey : Address)
      (returnAmount slashAmount : I128)

def ModuleCall.body (gaps : Gaps) (sha256 : String → BytesN 32) (env : Env) :
    ModuleCall → Module Unit
  | .mintLessorRightsToken leaseId lessor =>
      forget (KeySpace.mintLessorRightsToken sha256 env leaseId lessor)
  | .transferNft tokenId fromHolder toHolder =>
      KeySpace.transferNft gaps env tokenId fromHolder toHolder
  | .updateNftLock leaseId lockReason expiresAt =>
      KeySpace.updateNftLock env leaseId lockReason expiresAt
  | .releaseNftLock leaseId => KeySpace.releaseNftLock leaseId
  | .refundDepositToNftHolder leaseId refundAmount =>
      KeySpace.refundDepositToNftHolder env leaseId refundAmount
  | .mutualReleaseWithNftVerification leaseId lesseePubkey lessorPubkey returnAmount
      slashAmount =>
      KeySpace.mutualReleaseWithNftVerification env leaseId lesseePubkey lessorPubkey
        returnAmount slashAmount

/-- The lease whose record the call may write. -/
def ModuleCall.subject : ModuleCall → Option LeaseId
  | .mintLessorRightsToken leaseId _ => some leaseId
  | .mutualReleaseWithNftVerification leaseId _ _ _ _ => some leaseId
  | _ => none

/-- What a call that goes through has checked of a lease, makes of its record and routes on
it. -/
inductive ModuleEffect (leaseId : LeaseId) (before after : Option StoredLease) :
    ModuleCall → Int → Prop where
  | aside {call : ModuleCall} (apart : ∀ amount, call ≠ .refundDepositToNftHolder leaseId amount)
      (record : after = before) : ModuleEffect leaseId before after call 0
  | tokenised {lessor : Address} {lease : StoredLease} {env : Env} {tokenId : U128}
      (found : before = some lease) (record : after = some (lease.tokenised env tokenId)) :
      ModuleEffect leaseId before after (.mintLessorRightsToken leaseId lessor) 0
  | refunded {refundAmount : I128} {lease : StoredLease} (found : before = some lease)
      (ended : lease.status = .terminated ∨ lease.status = .expired) (record : after = before) :
      ModuleEffect leaseId before after (.refundDepositToNftHolder leaseId refundAmount)
        (max refundAmount 0)
  | released {lesseePubkey lessorPubkey : Address} {returnAmount slashAmount : I128}
      {lease : StoredLease} (found : before = some lease)
      (running : lease.status = .active ∨ lease.status = .expired)
      (record : after = some lease.released) :
      ModuleEffect leaseId before after (.mutualReleaseWithNftVerification leaseId lesseePubkey
        lessorPubkey returnAmount slashAmount) lease.totalDeposit

section Effect

variable {gaps : Gaps} {sha256 : String → BytesN 32} {env : Env} {before after : Storage}
  {leaseId named : LeaseId} {result : Unit}

theorem mintLessorRightsToken_account (leaseId : LeaseId) {lessor : Address} {tokenId : U128}
    (run : Commits (mintLessorRightsToken sha256 env named lessor) before tokenId after) :
    ∃ lease, before.lease named = some lease ∧
      after.account leaseId =
        if named = leaseId then (some (lease.tokenised env tokenId), routed leaseId before.events)
        else before.account leaseId := by
  simp only [mintLessorRightsToken, createNftMetadata, updateLeaseForNft, commits_bind,
    commits_loadLease, commits_check, commits_persistently, TypedStore.commits_has,
    commits_checkedI128, commits_pure] at run
  obtain ⟨lease, _, ⟨lies, rfl⟩, _, _, ⟨_, rfl⟩, _, _, ⟨_, ⟨rfl, rfl⟩, rfl⟩, _, _, ⟨_, rfl⟩,
    metadata, _, ⟨_, _, ⟨_, rfl, rfl⟩, rfl, rfl⟩, _, stored, store, _, locked, lock, _, noted,
    ⟨again, _, ⟨found, rfl⟩, save⟩, _, _, announced, rfl, rfl⟩ := run
  have unwritten : ∀ other, Storage.account other _ = Storage.account other _ := fun other =>
    ((leavesAccount_saveLock _ _).keeps lock).trans ((leavesAccount_storeNftData _ _ _).keeps store)
  have same := (Storage.account_eq_iff.mp (unwritten named)).1
  rw [Storage.lease_eq_some_iff.mpr lies, Storage.lease_eq_some_iff.mpr found] at same
  obtain rfl := Option.some.inj same
  refine ⟨again, Storage.lease_eq_some_iff.mpr lies, ?_⟩
  rw [(leavesAccount_announce rfl).keeps announced, saveLease_account save, unwritten leaseId,
    (Storage.account_eq_iff.mp (unwritten leaseId)).2]

theorem refundDepositToNftHolder_account (leaseId : LeaseId) {refundAmount : I128}
    (run : Commits (refundDepositToNftHolder env named refundAmount) before result after) :
    ∃ lease, before.lease named = some lease ∧
      (lease.status = .terminated ∨ lease.status = .expired) ∧
      after.account leaseId =
        (before.lease leaseId, (if named = leaseId then max refundAmount 0 else 0) +
          routed leaseId before.events) := by
  simp only [refundDepositToNftHolder, commits_bind, commits_loadLease, commits_check,
    commits_orFail, commits_announce] at run
  obtain ⟨lease, _, ⟨lies, rfl⟩, _, _, ⟨ended, rfl⟩, holder, _, held, _, verified, verify, rfl⟩ :=
    run
  have unwritten : Storage.account leaseId _ = Storage.account leaseId _ :=
    ((leavesAccount_verifyOwnershipForDepositRefund _ _).keeps verify).trans
      ((leavesAccount_getCurrentNftHolder _).keeps held)
  obtain ⟨record, events⟩ := Storage.account_eq_iff.mp unwritten
  refine ⟨lease, Storage.lease_eq_some_iff.mpr lies, ended, Storage.account_eq_iff.mpr ⟨record, ?_⟩⟩
  rw [routed_cons, events]
  rfl

theorem mutualReleaseWithNftVerification_account (leaseId : LeaseId)
    {lesseePubkey lessorPubkey : Address} {returnAmount slashAmount : I128}
    (run : Commits (mutualReleaseWithNftVerification env named lesseePubkey lessorPubkey
      returnAmount slashAmount) before result after) :
    ∃ lease, before.lease named = some lease ∧
      (lease.status = .active ∨ lease.status = .expired) ∧
      after.account leaseId =
        if named = leaseId then
          (some lease.released, lease.totalDeposit + routed leaseId before.events)
        else before.account leaseId := by
  simp only [mutualReleaseWithNftVerification, commits_bind] at run
  obtain ⟨lease, admitted, checked, _, returned, refund, _, slashed, payout, _, unlocked, unlock, _,
    saved, save, finalize⟩ := run
  obtain ⟨lies, _, running, split, ⟨kept, taken⟩, _⟩ := admitMutualRelease_commits checked
  refine ⟨lease, Storage.lease_eq_some_iff.mpr lies, running, ?_⟩
  have admission : admitted.account leaseId = before.account leaseId :=
    (leavesAccount_admitMutualRelease _ _ _ _ _).keeps checked
  have release : unlocked.account leaseId = slashed.account leaseId :=
    (leavesAccount_releaseNftLock _).keeps unlock
  rw [(leavesAccount_announce rfl).keeps finalize, saveLease_account save, release]
  by_cases same : named = leaseId
  · subst same
    have total : routed named unlocked.events =
        lease.totalDeposit + routed named before.events := by
      rw [(Storage.account_eq_iff.mp release).2, routePayout_routed payout,
        routePayout_routed refund, (Storage.account_eq_iff.mp admission).2, max_eq_left kept,
        max_eq_left taken, ← split]
      omega
    rw [if_pos rfl, if_pos rfl, total]
  · rw [if_neg same, if_neg same, (leavesAccount_routePayout same _ _).keeps payout,
      (leavesAccount_routePayout same _ _).keeps refund, admission]

/-- Every call that goes through has one of the effects on the account of a lease. -/
theorem moduleCall_effect (leaseId : LeaseId) {call : ModuleCall}
    (run : Commits (call.body gaps sha256 env) before () after) :
    ∃ amount, ModuleEffect leaseId (before.lease leaseId) (after.lease leaseId) call amount ∧
      routed leaseId after.events = amount + routed leaseId before.events := by
  have aside (apart : ∀ amount, call ≠ .refundDepositToNftHolder leaseId amount)
      (kept : after.account leaseId = before.account leaseId) :
      ∃ amount, ModuleEffect leaseId (before.lease leaseId) (after.lease leaseId) call amount ∧
        routed leaseId after.events = amount + routed leaseId before.events := by
    obtain ⟨record, events⟩ := Storage.account_eq_iff.mp kept
    exact ⟨0, .aside apart record, by rw [events, zero_add]⟩
  cases call with
  | mintLessorRightsToken named lessor =>
      obtain ⟨tokenId, minted, _⟩ := (commits_map _ _ _).mp run
      obtain ⟨lease, found, account⟩ := mintLessorRightsToken_account leaseId minted
      split at account
      · next same =>
          subst same
          obtain ⟨record, events⟩ := Storage.account_eq_iff.mp account
          exact ⟨0, .tokenised found record, by rw [events, zero_add]⟩
      · exact aside (by simp) account
  | transferNft tokenId fromHolder toHolder =>
      exact aside (by simp) ((leavesAccount_transferNft _ _ _).keeps run)
  | updateNftLock named lockReason expiresAt =>
      exact aside (by simp) ((leavesAccount_updateNftLock _ _ _).keeps run)
  | releaseNftLock named => exact aside (by simp) ((leavesAccount_releaseNftLock _).keeps run)
  | refundDepositToNftHolder named refundAmount =>
      obtain ⟨lease, found, ended, account⟩ := refundDepositToNftHolder_account leaseId run
      obtain ⟨record, events⟩ := Storage.account_eq_iff.mp account
      split at events
      · next same =>
          subst same
          exact ⟨_, .refunded found ended record, events⟩
      · next differs =>
          exact ⟨0, .aside (by simp [differs]) record, events⟩
  | mutualReleaseWithNftVerification named lesseePubkey lessorPubkey returnAmount slashAmount =>
      obtain ⟨lease, found, running, account⟩ := mutualReleaseWithNftVerification_account leaseId run
      split at account
      · next same =>
          subst same
          obtain ⟨record, events⟩ := Storage.account_eq_iff.mp account
          exact ⟨_, .released found running record, events⟩
      · exact aside (by simp) account

end Effect

end LeaseFlow.KeySpace
