import LeaseFlow.KeySpace.Rights

/-!
# Who holds the lessor rights

The holder of a token stands in its record and on the lists of the holders, and the token of a
lease in a mapping and in the record.  Every run of the operations keeps them in agreement.
-/

set_option autoImplicit false

namespace LeaseFlow.KeySpace

open Transaction

/-! ## Deeds -/

inductive RightsDeed where
  | minted (leaseId : LeaseId) (tokenId : U128)
  | transferred (tokenId : U128)
  deriving DecidableEq

/-- What the call enters if it goes through. -/
def RightsCall.deed (call : RightsCall) : Option RightsDeed :=
  match call.operation with
  | .mintLessorRightsToken leaseId _ =>
      some (.minted leaseId (generateUniqueTokenId call.env leaseId))
  | .transferNft tokenId _ _ => some (.transferred tokenId)
  | _ => none

section Runs

variable (gaps : Gaps) (sha256 : String → BytesN 32)

abbrev rightsStep : RightsCall → Storage → Storage :=
  Machine.step (RightsCall.body gaps sha256)

/-- The deeds of a run, oldest first. -/
def rightsDeeds (calls : List RightsCall) (start : Storage) : List RightsDeed :=
  Machine.log (RightsCall.body gaps sha256) (fun call _ => call.deed) calls start

end Runs

/-! ## Agreement -/

/-- The record of a token names its lease, the holder on whose list alone the token stands, once,
and the number of its transfers. -/
structure LessorRightsNftMetadata.Describes (metadata : LessorRightsNftMetadata) (leaseId : LeaseId)
    (tokenId : U128) (rights : Rights) (deeds : List RightsDeed) : Prop where
  lease : metadata.leaseId = leaseId
  holder : Listing.Indexed rights.listed metadata.currentHolder tokenId
  transfers : metadata.transferCount = deeds.count (.transferred tokenId)

structure Rights.Agrees (rights : Rights) (deeds : List RightsDeed) : Prop where
  mapped : ∀ leaseId tokenId,
    rights.tokenOf leaseId = some tokenId ↔ .minted leaseId tokenId ∈ deeds
  numbered : ∀ leaseId tokenId, .minted leaseId tokenId ∈ deeds → tokenId >>> 64 = leaseId.toNat
  described : ∀ leaseId tokenId, .minted leaseId tokenId ∈ deeds →
    ∃ metadata, rights.metadata tokenId = some metadata ∧
      metadata.Describes leaseId tokenId rights deeds
  recorded : ∀ tokenId metadata, rights.metadata tokenId = some metadata →
    .minted metadata.leaseId tokenId ∈ deeds
  listed : ∀ holder, ∀ tokenId ∈ rights.listed holder, ∃ leaseId, .minted leaseId tokenId ∈ deeds
  handed : ∀ tokenId, .transferred tokenId ∈ deeds → ∃ leaseId, .minted leaseId tokenId ∈ deeds

section Agrees

variable {env : Env} {rights next : Rights} {deeds : List RightsDeed} {leaseId : LeaseId}
  {tokenId : U128} {metadata : LessorRightsNftMetadata}

theorem Rights.Agrees.minted_eq (agrees : rights.Agrees deeds) {other : LeaseId}
    (minted : .minted leaseId tokenId ∈ deeds) (again : .minted other tokenId ∈ deeds) :
    leaseId = other :=
  UInt64.toNat_inj.mp ((agrees.numbered _ _ minted).symm.trans (agrees.numbered _ _ again))

/-- An operation that changes neither records nor owners. -/
theorem Rights.Agrees.aside (agrees : rights.Agrees deeds)
    (metadata : next.metadata = rights.metadata) (tokenOf : next.tokenOf = rights.tokenOf)
    (listed : next.listed = rights.listed) : next.Agrees deeds where
  mapped := by
    rw [tokenOf]
    exact agrees.mapped
  numbered := agrees.numbered
  described leaseId tokenId minted := by
    obtain ⟨record, found, describes⟩ := agrees.described leaseId tokenId minted
    refine ⟨record, by rw [metadata, found], describes.lease, ?_, describes.transfers⟩
    rw [listed]
    exact describes.holder
  recorded := by
    rw [metadata]
    exact agrees.recorded
  listed := by
    rw [listed]
    exact agrees.listed
  handed := agrees.handed

/-- The id of a new token was not given out before, since its lease has no token yet. -/
theorem Rights.Agrees.fresh (agrees : rights.Agrees deeds)
    (unmapped : rights.tokenOf leaseId = none) (other : LeaseId) :
    .minted other (generateUniqueTokenId env leaseId) ∉ deeds := by
  intro minted
  have number : generateUniqueTokenId env leaseId >>> 64 = leaseId.toNat :=
    Access.generateUniqueTokenId_lease env leaseId
  have same : other = leaseId :=
    UInt64.toNat_inj.mp ((agrees.numbered _ _ minted).symm.trans number)
  subst same
  cases ((agrees.mapped _ _).mpr minted).symm.trans unmapped

/-- A record stays right as long as no deed concerns its token. -/
theorem LessorRightsNftMetadata.Describes.later {deed : RightsDeed}
    (describes : metadata.Describes leaseId tokenId rights deeds)
    (holder : Listing.Indexed next.listed metadata.currentHolder tokenId)
    (other : deed ≠ .transferred tokenId) :
    metadata.Describes leaseId tokenId next (deeds ++ [deed]) where
  lease := describes.lease
  holder := holder
  transfers := by
    rw [List.count_append, List.count_singleton, if_neg (by simpa using other)]
    exact describes.transfers

theorem Rights.Agrees.mint (agrees : rights.Agrees deeds) {propertyHash : BytesN 32}
    {lessor : Address} {lease : StoredLease} (unmapped : rights.tokenOf leaseId = none) :
    (rights.mint env propertyHash leaseId lessor lease).Agrees
      (deeds ++ [.minted leaseId (generateUniqueTokenId env leaseId)]) := by
  let number := generateUniqueTokenId env leaseId
  let next := rights.mint env propertyHash leaseId lessor lease
  have listed : next.listed = Listing.push lessor number rights.listed := rights.listed_assign ..
  have records : next.metadata = Function.update rights.metadata number (some (.fresh propertyHash
      env lease leaseId lessor (lease.depositAmount + lease.securityDeposit))) := rfl
  have unminted : ∀ other, .minted other number ∉ deeds := agrees.fresh unmapped
  have apart : ∀ {other tokenId}, .minted other tokenId ∈ deeds → tokenId ≠ number := by
    rintro other tokenId earlier rfl
    exact unminted other earlier
  have unlisted : ∀ holder, number ∉ rights.listed holder := by
    intro holder among
    obtain ⟨other, earlier⟩ := agrees.listed holder number among
    exact unminted other earlier
  constructor
  · intro other tokenId
    rw [List.mem_append, List.mem_singleton, RightsDeed.minted.injEq]
    by_cases same : other = leaseId
    · subst same
      have before : .minted other tokenId ∉ deeds := by
        rw [← agrees.mapped, unmapped]
        simp
      simp [Rights.mint, Rights.putToken, Rights.assign, Rights.putNfts, Rights.putLock,
        Rights.putLease, Rights.putMetadata, before, eq_comm]
    · simp [Rights.mint, Rights.putToken, Rights.assign, Rights.putNfts, Rights.putLock,
        Rights.putLease, Rights.putMetadata, same, agrees.mapped]
  · intro other tokenId minted
    rcases List.mem_append.mp minted with earlier | now
    · exact agrees.numbered other tokenId earlier
    · obtain ⟨rfl, rfl⟩ := RightsDeed.minted.inj (List.mem_singleton.mp now)
      exact Access.generateUniqueTokenId_lease env other
  · intro other tokenId minted
    rcases List.mem_append.mp minted with earlier | now
    · obtain ⟨metadata, found, describes⟩ := agrees.described other tokenId earlier
      refine ⟨metadata, ?_, describes.later ?_ (by simp)⟩
      · rw [records, Function.update_of_ne (apart earlier), found]
      · rw [listed]
        exact describes.holder.push_other (apart earlier)
    · obtain ⟨rfl, rfl⟩ := RightsDeed.minted.inj (List.mem_singleton.mp now)
      refine ⟨_, by rw [records, Function.update_self], rfl, ?_, ?_⟩
      · rw [listed]
        exact Listing.indexed_push unlisted
      · have unhanded : .transferred number ∉ deeds := fun handed =>
          (agrees.handed number handed).elim unminted
        exact (List.count_eq_zero.mpr (by simpa using unhanded)).symm
  · intro tokenId metadata found
    rw [records] at found
    by_cases same : tokenId = number
    · subst same
      rw [Function.update_self] at found
      obtain rfl := Option.some.inj found
      exact List.mem_append_right _ (List.mem_singleton_self _)
    · rw [Function.update_of_ne same] at found
      exact List.mem_append_left _ (agrees.recorded tokenId metadata found)
  · intro holder tokenId among
    rw [listed] at among
    rcases Listing.mem_push_iff.mp among with earlier | ⟨_, rfl⟩
    · exact (agrees.listed holder tokenId earlier).imp fun _ => List.mem_append_left _
    · exact ⟨leaseId, List.mem_append_right _ (List.mem_singleton_self _)⟩
  · intro tokenId handed
    rcases List.mem_append.mp handed with earlier | now
    · exact (agrees.handed tokenId earlier).imp fun _ => List.mem_append_left _
    · cases List.mem_singleton.mp now

theorem Rights.Agrees.transfer (agrees : rights.Agrees deeds) {toHolder : Address}
    (found : rights.metadata tokenId = some metadata) :
    (rights.transfer env tokenId metadata.currentHolder toHolder metadata).Agrees
      (deeds ++ [.transferred tokenId]) := by
  let next := rights.transfer env tokenId metadata.currentHolder toHolder metadata
  have listed : next.listed =
      Listing.move tokenId metadata.currentHolder toHolder rights.listed :=
    (rights.putMetadata tokenId _).listed_reassign ..
  have records : next.metadata =
      Function.update rights.metadata tokenId (some (metadata.transferred env toHolder)) := rfl
  have minted := agrees.recorded tokenId metadata found
  have undone : ∀ {other item}, .minted other item ∈ deeds ++ [.transferred tokenId] ↔
      .minted other item ∈ deeds := by simp
  constructor
  · intro other item
    rw [undone]
    exact agrees.mapped other item
  · intro other item earlier
    exact agrees.numbered other item (undone.mp earlier)
  · intro other item earlier
    obtain ⟨record, stored, describes⟩ := agrees.described other item (undone.mp earlier)
    by_cases same : item = tokenId
    · subst same
      obtain rfl := Option.some.inj (found.symm.trans stored)
      refine ⟨metadata.transferred env toHolder, by rw [records, Function.update_self],
        describes.lease, ?_, ?_⟩
      · rw [listed]
        exact describes.holder.move_self
      · rw [List.count_append, List.count_singleton_self, ← describes.transfers]
        rfl
    · refine ⟨record, by rw [records, Function.update_of_ne same, stored], describes.later ?_ ?_⟩
      · rw [listed]
        exact describes.holder.move_other same
      · simpa using Ne.symm same
  · intro item record stored
    rw [records] at stored
    rw [undone]
    by_cases same : item = tokenId
    · subst same
      rw [Function.update_self] at stored
      obtain rfl := Option.some.inj stored
      exact minted
    · rw [Function.update_of_ne same] at stored
      exact agrees.recorded item record stored
  · intro holder item among
    rw [listed] at among
    simp only [undone]
    rcases Listing.mem_move among with earlier | rfl
    · exact agrees.listed holder item earlier
    · exact ⟨_, minted⟩
  · intro item handed
    simp only [undone]
    rcases List.mem_append.mp handed with earlier | now
    · exact agrees.handed item earlier
    · obtain rfl := RightsDeed.transferred.inj (List.mem_singleton.mp now)
      exact ⟨_, minted⟩

/-- Every operation keeps the agreement, with its deed entered. -/
theorem RightsEffect.agrees {call : RightsCall} (effect : RightsEffect call.env rights next
    call.operation) (agrees : rights.Agrees deeds) :
    next.Agrees (deeds ++ call.deed.toList) := by
  obtain ⟨env, operation⟩ := call
  cases effect with
  | minted found tokenizable unmapped result =>
      rw [result]
      exact agrees.mint unmapped
  | @transferred tokenId fromHolder toHolder metadata found owned unlocked result =>
      subst owned
      rw [result]
      exact agrees.transfer found
  | locked _ result | released result | settled _ result | operated _ result | written result =>
      rw [result]
      show Rights.Agrees _ (deeds ++ [])
      rw [List.append_nil]
      exact agrees.aside rfl rfl rfl

end Agrees

/-! ## Runs -/

variable {gaps : Gaps} {sha256 : String → BytesN 32}

theorem rights_agree (calls : List RightsCall) {start : Storage}
    (untokenised : start.Untokenised) :
    ∃ rights, (Run.run (rightsStep gaps sha256) calls start).Holds rights ∧
      rights.Agrees (rightsDeeds gaps sha256 calls start) := by
  refine @Machine.invariant_log _ _ _ _ _ _ (fun storage deeds =>
    ∃ rights, storage.Holds rights ∧ rights.Agrees deeds) (fun call before after deeds run held => ?_)
      calls start ⟨_, untokenised.holds, ?_⟩
  · obtain ⟨rights, holds, agrees⟩ := held
    obtain ⟨next, kept, effect⟩ := rightsCall_effect holds run
    exact ⟨next, kept, effect.agrees agrees⟩
  · constructor <;> simp [Rights.listed]

/-- In every run, each token that was minted stands once on the list of the holder in its record
and on no other, its record names its lease and counts its transfers; and the leases with a token
are mapped one to one to the tokens whose records name them. -/
theorem ownership_indexed (gaps : Gaps) (sha256 : String → BytesN 32) (calls : List RightsCall)
    {start : Storage} (untokenised : start.Untokenised) :
    (∀ leaseId tokenId, .minted leaseId tokenId ∈ rightsDeeds gaps sha256 calls start →
      (∃ metadata, (Run.run (rightsStep gaps sha256) calls start).rights.metadata tokenId =
          some metadata ∧
        metadata.Describes leaseId tokenId (Run.run (rightsStep gaps sha256) calls start).rights
          (rightsDeeds gaps sha256 calls start)) ∧
      (Run.run (rightsStep gaps sha256) calls start).rights.tokenOf leaseId = some tokenId ∧
      ∀ other metadata,
        (Run.run (rightsStep gaps sha256) calls start).rights.metadata other = some metadata →
          metadata.leaseId = leaseId → other = tokenId) ∧
    ∀ leaseId other tokenId,
      (Run.run (rightsStep gaps sha256) calls start).rights.tokenOf leaseId = some tokenId →
      .minted leaseId tokenId ∈ rightsDeeds gaps sha256 calls start ∧
        ((Run.run (rightsStep gaps sha256) calls start).rights.tokenOf other = some tokenId →
          leaseId = other) := by
  obtain ⟨rights, holds, agrees⟩ := rights_agree calls untokenised
  rw [holds.rights_eq]
  constructor
  · intro leaseId tokenId minted
    have mapped := (agrees.mapped leaseId tokenId).mpr minted
    refine ⟨agrees.described leaseId tokenId minted, mapped, fun other metadata found names => ?_⟩
    have recorded := (agrees.mapped _ _).mpr (agrees.recorded other metadata found)
    rw [names, mapped] at recorded
    exact (Option.some.inj recorded).symm
  · intro leaseId other tokenId mapped
    have minted := (agrees.mapped leaseId tokenId).mp mapped
    exact ⟨minted, fun again => agrees.minted_eq minted ((agrees.mapped other tokenId).mp again)⟩

/-! ## A lease whose rights are traded -/

def leasedEntries : Entries
  | ⟨"LeaseInstance", [.u64 7]⟩ => some (.leaseInstance rentedLease)
  | _ => none

/-- Lease `7` is active, and no rights are tokenised. -/
def leasedStorage : Storage where
  persistent := leasedEntries
  temporary _ := none
  instanceData _ := none
  events := []

theorem leasedStorage_untokenised : leasedStorage.Untokenised := by
  intro key ofRights
  cases key with
  | nftMetadata | leaseToNftMapping | holderToNfts | nftIndestructibilityLock => rfl
  | _ => exact ofRights.elim

def rightsCallAt (timestamp : U64) (operation : RightsOperation) : RightsCall :=
  ⟨openLedger timestamp 0, operation⟩

/-- The id of the token that is minted at time `5`. -/
def rightsNumber : U128 :=
  generateUniqueTokenId (openLedger 5 0) 7

/-- The rights are minted, handed to the holder itself, on to `⟨5⟩` and back. -/
def tradedCalls : List RightsCall :=
  [rightsCallAt 5 (.mintLessorRightsToken 7 ⟨1⟩), rightsCallAt 6 (.releaseNftLock 7),
    rightsCallAt 7 (.transferNft rightsNumber ⟨1⟩ ⟨1⟩),
    rightsCallAt 8 (.transferNft rightsNumber ⟨1⟩ ⟨5⟩),
    rightsCallAt 9 (.transferNft rightsNumber ⟨5⟩ ⟨1⟩)]

theorem ownership_indexed_traded :
    ∃ metadata,
      (Run.run (rightsStep lowHalfGaps fun _ => .repeated 32 0) tradedCalls
        leasedStorage).rights.metadata rightsNumber = some metadata ∧
      metadata.Describes 7 rightsNumber
        (Run.run (rightsStep lowHalfGaps fun _ => .repeated 32 0) tradedCalls leasedStorage).rights
        (rightsDeeds lowHalfGaps (fun _ => .repeated 32 0) tradedCalls leasedStorage) :=
  ((ownership_indexed lowHalfGaps (fun _ => .repeated 32 0) tradedCalls
    leasedStorage_untokenised).1 7 rightsNumber (by decide +kernel)).1

end LeaseFlow.KeySpace
