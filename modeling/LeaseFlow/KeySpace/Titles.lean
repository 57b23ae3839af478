import LeaseFlow.KeySpace.Ownership
import LeaseFlow.Foundations.Register

/-!
# The chain of title

The events that mint a token and hand it on are the deeds to the lessor rights.  No other operation
publishes one, and a reader who takes no deed that does not fit the ones before it has the whole
registry of titles.
-/

set_option autoImplicit false

namespace LeaseFlow.KeySpace

open Transaction Failure

/-! ## The book of titles -/

/-- What is published of a token. -/
structure Title where
  leaseId : LeaseId
  originalLessor : Address
  mintedAt : U64
  currentHolder : Address
  lastTransfer : U64
  transferCount : U32

def LessorRightsNftMetadata.title (metadata : LessorRightsNftMetadata) : Title where
  leaseId := metadata.leaseId
  originalLessor := metadata.originalLessor
  mintedAt := metadata.mintedAt
  currentHolder := metadata.currentHolder
  lastTransfer := metadata.lastTransfer
  transferCount := metadata.transferCount

/-- The registry without its locks and its leases. -/
structure TitleBook where
  title : U128 → Option Title
  tokenOf : LeaseId → Option U128
  listed : Address → List U128

def Rights.titleBook (rights : Rights) : TitleBook where
  title tokenId := (rights.metadata tokenId).map LessorRightsNftMetadata.title
  tokenOf := rights.tokenOf
  listed := rights.listed

def TitleBook.blank : TitleBook :=
  ⟨fun _ => none, fun _ => none, fun _ => []⟩

def TitleBook.enter (leaseId : LeaseId) (tokenId : U128) (lessor : Address) (mintedAt : U64)
    (book : TitleBook) : TitleBook where
  title := Function.update book.title tokenId
    (some ⟨leaseId, lessor, mintedAt, lessor, mintedAt, 0⟩)
  tokenOf := Function.update book.tokenOf leaseId (some tokenId)
  listed := Listing.push lessor tokenId book.listed

def TitleBook.pass (tokenId : U128) (toHolder : Address) (timestamp : U64) (title : Title)
    (book : TitleBook) : TitleBook where
  title := Function.update book.title tokenId (some
    { title with
      currentHolder := toHolder
      lastTransfer := timestamp
      transferCount := title.transferCount + 1 })
  tokenOf := book.tokenOf
  listed := Listing.move tokenId title.currentHolder toHolder book.listed

/-- What a reader of the events makes of one of them.  A token is minted once, for a lease that
has none, and leaves the hands of its holder alone: any other event is taken by no book. -/
def ModuleEvent.read : ModuleEvent → Option TitleBook → Option TitleBook
  | .lessorRightsTokenized leaseId tokenId originalLessor mintedAt, some book =>
      if book.tokenOf leaseId = none ∧ book.title tokenId = none then
        some (book.enter leaseId tokenId originalLessor mintedAt)
      else none
  | .nftTransferred tokenId fromHolder toHolder transferTimestamp _ _, some book =>
      match book.title tokenId with
      | some title =>
          if title.currentHolder = fromHolder then
            some (book.pass tokenId toHolder transferTimestamp title)
          else none
      | none => none
  | _, book => book

/-- The event mints a token or hands one on. -/
def ModuleEvent.isDeed : ModuleEvent → Bool
  | .lessorRightsTokenized .. => true
  | .nftTransferred .. => true
  | _ => false

/-- The published deeds, newest first. -/
def Storage.deeds (storage : Storage) : List ModuleEvent :=
  storage.events.filter ModuleEvent.isDeed

def Storage.titles (storage : Storage) : Option TitleBook :=
  some storage.rights.titleBook

/-- The deeds published between the two states are a chain of title from the one to the other. -/
abbrev ChainOfTitle (before after : Storage) : Prop :=
  Register.Announced Storage.deeds Storage.titles ModuleEvent.read before after

/-! ## What publishes no deed -/

/-- The body, whether it returns or not, publishes no deed. -/
abbrev Deedless {α : Type} (body : Module α) : Prop :=
  Steady Storage.deeds body

section Deedless

variable {gaps : Gaps} {env : Env} {α : Type}

theorem deedless_persistently (body : Transaction Entries (Failure ModuleError) α) :
    Deedless (persistently body) :=
  fun _ => rfl

theorem deedless_temporarily (body : Transaction Entries (Failure ModuleError) α) :
    Deedless (temporarily body) :=
  fun _ => rfl

theorem deedless_inInstance (body : Transaction Entries (Failure ModuleError) α) :
    Deedless (inInstance body) :=
  fun _ => rfl

theorem deedless_announce {event : ModuleEvent} (other : event.isDeed = false) :
    Deedless (announce event) := by
  refine steady_modify fun storage => ?_
  rw [Storage.deeds, List.filter_cons_of_neg (by simp [other]), Storage.deeds]

theorem deedless_getOr (kind : Kind Stored α) (key : StorageKey) (missing : ModuleError) :
    Deedless (getOr kind key missing) :=
  steady_bind (deedless_persistently _) fun found => steady_orErr found missing

theorem deedless_checkedI128 (value : Int) : Deedless (checkedI128 value) :=
  steady_bind (steady_ensure _ _) fun _ => steady_pure _

theorem deedless_updateHolderNfts (holder : Address) (change : List U128 → List U128) :
    Deedless (updateHolderNfts holder change) :=
  steady_bind (deedless_persistently _) fun _ => deedless_persistently _

theorem deedless_updateNftMetadataOnTransfer (tokenId : U128) (newHolder : Address) :
    Deedless (updateNftMetadataOnTransfer env tokenId newHolder) :=
  steady_bind (deedless_getOr _ _ _) fun _ =>
    steady_bind (steady_checkedUpTo _ _) fun _ => deedless_persistently _

theorem deedless_updateNftLock (leaseId : LeaseId) (lockReason : LockReason)
    (expiresAt : Option U64) : Deedless (updateNftLock env leaseId lockReason expiresAt) :=
  steady_bind (deedless_getOr _ _ _) fun _ =>
    steady_bind (deedless_persistently _) fun _ => deedless_announce rfl

theorem deedless_releaseNftLock (leaseId : LeaseId) : Deedless (releaseNftLock leaseId) :=
  steady_bind (deedless_persistently _) fun _ =>
    steady_ite _ (deedless_persistently _) (steady_pure ())

theorem deedless_getCurrentNftHolder (leaseId : LeaseId) :
    Deedless (getCurrentNftHolder leaseId) :=
  steady_raising _ (steady_bind (deedless_getOr _ _ _) fun _ =>
    steady_bind (deedless_getOr _ _ _) fun _ => steady_pure _)

theorem deedless_verifyTokenOwnership (request : OwnershipVerificationRequest) :
    Deedless (verifyTokenOwnership env request) := by
  refine steady_bind (deedless_getOr _ _ _) fun _ => ?_
  refine steady_bind (deedless_getOr _ _ _) fun _ => ?_
  refine steady_bind (steady_bind (deedless_getOr _ _ _) fun _ => steady_check _ _) fun _ => ?_
  exact steady_bind (deedless_temporarily _) fun _ => steady_pure _

theorem deedless_refundDepositToNftHolder (leaseId : LeaseId) (refundAmount : I128) :
    Deedless (refundDepositToNftHolder env leaseId refundAmount) := by
  refine steady_bind (deedless_getOr _ _ _) fun _ => ?_
  refine steady_bind (steady_check _ _) fun _ => ?_
  refine steady_bind (steady_raising _ (deedless_getCurrentNftHolder leaseId)) fun _ => ?_
  refine steady_bind (steady_bind (steady_raising _ (deedless_verifyTokenOwnership _)) fun _ =>
    steady_check _ _) fun _ => ?_
  exact deedless_announce rfl

theorem deedless_routePayout (leaseId : LeaseId) (recipient : Address) (amount : I128) :
    Deedless (routePayout env leaseId recipient amount) :=
  steady_ite _ (deedless_announce rfl) (steady_pure ())

theorem deedless_admitMutualRelease (leaseId : LeaseId) (lesseePubkey lessorPubkey : Address)
    (returnAmount slashAmount : I128) :
    Deedless (admitMutualRelease env leaseId lesseePubkey lessorPubkey returnAmount
      slashAmount) := by
  refine steady_bind (deedless_getOr _ _ _) fun _ => steady_bind (steady_check _ _) fun _ => ?_
  refine steady_bind (steady_raising _ (deedless_getCurrentNftHolder leaseId)) fun _ => ?_
  refine steady_bind (steady_check _ _) fun _ => ?_
  refine steady_bind (steady_ensure _ _) fun _ => steady_bind (steady_ensure _ _) fun _ => ?_
  refine steady_bind (steady_check _ _) fun _ => ?_
  refine steady_bind (deedless_checkedI128 _) fun _ => ?_
  refine steady_bind (deedless_checkedI128 _) fun _ => ?_
  refine steady_bind (steady_check _ _) fun _ => ?_
  exact steady_bind (steady_check _ _) fun _ => steady_pure _

theorem deedless_mutualReleaseWithNftVerification (leaseId : LeaseId)
    (lesseePubkey lessorPubkey : Address) (returnAmount slashAmount : I128) :
    Deedless (mutualReleaseWithNftVerification env leaseId lesseePubkey lessorPubkey returnAmount
      slashAmount) := by
  refine steady_bind (deedless_admitMutualRelease _ _ _ _ _) fun _ => ?_
  refine steady_bind (deedless_routePayout _ _ _) fun _ => ?_
  refine steady_bind (deedless_routePayout _ _ _) fun _ => ?_
  refine steady_bind (deedless_releaseNftLock _) fun _ => ?_
  exact steady_bind (deedless_persistently _) fun _ => deedless_announce rfl

theorem deedless_getPaymentRoutingConfig (leaseId : LeaseId) :
    Deedless (getPaymentRoutingConfig env leaseId) := by
  refine steady_bind (deedless_persistently _) fun found => ?_
  cases found with
  | some config => exact steady_pure config
  | none =>
      exact steady_bind (steady_raising _ (deedless_getCurrentNftHolder leaseId)) fun _ =>
        steady_pure _

theorem deedless_isDexAdmin (address : Address) : Deedless (isDexAdmin address) :=
  steady_bind (deedless_inInstance _) fun _ => steady_pure _

theorem deedless_configureDex (admin dexContract tokenContract : Address) (feeBps : U32)
    (minPrice maxPrice : I128) :
    Deedless (configureDex admin dexContract tokenContract feeBps minPrice maxPrice) := by
  refine steady_bind (deedless_isDexAdmin admin) fun _ => ?_
  exact steady_bind (steady_check _ _) fun _ => deedless_persistently _

theorem deedless_toggleDexIntegration (admin : Address) (enabled : Bool) :
    Deedless (toggleDexIntegration admin enabled) := by
  refine steady_bind (deedless_isDexAdmin admin) fun _ => steady_bind (steady_check _ _) fun _ => ?_
  exact steady_bind (deedless_getOr _ _ _) fun _ => deedless_persistently _

theorem deedless_delistNft (tokenId : U128) (seller : Address) :
    Deedless (delistNft gaps env tokenId seller) := by
  refine steady_bind (deedless_getOr _ _ _) fun _ => steady_bind (steady_check _ _) fun _ => ?_
  exact steady_bind (deedless_persistently _) fun _ => deedless_announce rfl

theorem deedless_registerDevice (deviceId : String) (deviceType : IotDeviceType) (owner : Address)
    (location : String) (capabilities : DeviceCapabilities)
    (firmwareVersion hardwareVersion : String) :
    Deedless (registerDevice env deviceId deviceType owner location capabilities firmwareVersion
      hardwareVersion) := by
  refine steady_bind (deedless_persistently _) fun _ => steady_bind (steady_check _ _) fun _ => ?_
  exact steady_bind (deedless_persistently _) fun _ => deedless_announce rfl

theorem deedless_updateDeviceStatus (deviceId : String) (newStatus : DeviceStatus)
    (requester : Address) : Deedless (updateDeviceStatus env deviceId newStatus requester) := by
  refine steady_bind (deedless_getOr _ _ _) fun _ => steady_bind (steady_check _ _) fun _ => ?_
  exact steady_bind (deedless_persistently _) fun _ => deedless_announce rfl

theorem deedless_verifyAccessToken (request : Access.AccessVerificationRequest) :
    Deedless (verifyAccessToken env request) := by
  refine steady_bind (deedless_getOr _ _ _) fun _ => steady_bind (deedless_getOr _ _ _) fun _ => ?_
  refine steady_bind (steady_checkedUpTo _ _) fun _ => ?_
  refine steady_bind (deedless_persistently _) fun _ => ?_
  refine steady_bind (deedless_temporarily _) fun _ => ?_
  exact steady_bind (deedless_announce rfl) fun _ => steady_pure _

theorem deedless_firstValidToken (tokenIds : List U128) :
    Deedless (firstValidToken env tokenIds) := by
  induction tokenIds with
  | nil => exact steady_pure none
  | cons tokenId rest ih =>
      refine steady_bind (deedless_persistently _) fun found => ?_
      cases found.filter (·.isValid env.timestamp) with
      | some token => exact steady_pure (some token)
      | none => exact ih

theorem deedless_processAccessRequest (request : IotAccessRequest) :
    Deedless (processAccessRequest env request) := by
  refine steady_bind (deedless_getOr _ _ _) fun _ => ?_
  refine steady_bind (steady_check _ _) fun _ => steady_bind (steady_check _ _) fun _ => ?_
  refine steady_bind ?_ fun token => ?_
  · refine steady_bind (steady_bind (deedless_persistently _) fun _ => steady_pure _) fun _ => ?_
    exact steady_bind (deedless_firstValidToken _) fun _ => steady_orErr _ _
  · refine steady_bind (steady_check _ _) fun _ => steady_bind (steady_check _ _) fun _ => ?_
    refine steady_bind (steady_checkedUpTo _ _) fun _ => ?_
    exact steady_bind (deedless_announce rfl) fun _ => steady_pure _

theorem deedless_forget {body : Module α} (deedless : Deedless body) : Deedless (forget body) :=
  steady_map _ deedless

/-- No operation of the router, the market and the device integration that goes through publishes
a deed. -/
theorem Operation.deedless {operation : Operation} {before after : Storage}
    (run : Commits (operation.body gaps env) before () after) : after.deeds = before.deeds := by
  cases operation with
  | payLeaseRentWithNftRouting leaseId payer paymentAmount =>
      exact absurd run not_commits_payLeaseRentWithNftRouting
  | updatePaymentRoutingOnNftTransfer leaseId previousHolder newHolder =>
      exact absurd run not_commits_updatePaymentRoutingOnNftTransfer
  | listNftOnDex tokenId seller price durationDays => exact absurd run not_commits_listNftOnDex
  | buyNftFromDex tokenId buyer maxPrice => exact absurd run not_commits_buyNftFromDex
  | updateListingPrice tokenId seller newPrice => exact absurd run not_commits_updateListingPrice
  | mutualReleaseWithNftVerification leaseId lesseePubkey lessorPubkey returnAmount slashAmount =>
      exact (deedless_mutualReleaseWithNftVerification _ _ _ _ _).keeps run
  | delistNft tokenId seller => exact (deedless_delistNft _ _).keeps run
  | configureDex admin dexContract tokenContract feeBps minPrice maxPrice =>
      exact (deedless_configureDex _ _ _ _ _ _).keeps run
  | toggleDexIntegration admin enabled => exact (deedless_toggleDexIntegration _ _).keeps run
  | registerDevice deviceId deviceType owner location capabilities firmwareVersion
      hardwareVersion => exact (deedless_registerDevice _ _ _ _ _ _ _).keeps run
  | updateDeviceStatus deviceId newStatus requester =>
      exact (deedless_updateDeviceStatus _ _ _).keeps run
  | refundDepositToNftHolder leaseId refundAmount =>
      exact (deedless_refundDepositToNftHolder _ _).keeps run
  | queryTokenValidity tokenId requestingSystem =>
      refine (deedless_forget ?_).keeps run
      exact steady_bind (steady_raising _ (deedless_verifyAccessToken _)) fun _ => steady_pure _
  | getPaymentRoutingConfig leaseId =>
      exact (deedless_forget (deedless_getPaymentRoutingConfig leaseId)).keeps run
  | processAccessRequest request =>
      exact (deedless_forget (deedless_processAccessRequest request)).keeps run
  | getTokenDetails tokenId requestingSystem =>
      refine (deedless_forget ?_).keeps run
      exact steady_bind (steady_raising _ (deedless_getOr _ _ _)) fun _ =>
        steady_bind (steady_check _ _) fun _ => steady_pure _
  | performHealthCheck deviceId =>
      refine (deedless_forget ?_).keeps run
      exact steady_bind (deedless_getOr _ _ _) fun _ => steady_pure _
  | getMarketData tokenId | getDeviceInfo deviceId =>
      exact (deedless_forget (deedless_getOr _ _ _)).keeps run
  | getActiveListings | getMarketStatistics | getOwnerDevices owner | getDevicesByType deviceType
  | getOnlineDevices => exact (deedless_forget (steady_pure _)).keeps run

end Deedless

/-! ## What publishes one -/

/-- A body that goes through publishes one deed, of the kind. -/
def PublishesDeed {α : Type} (kind : ModuleEvent → Prop) (body : Module α) : Prop :=
  ∀ before value after, Commits body before value after →
    ∃ deed, kind deed ∧ after.deeds = deed :: before.deeds

section Deeds

variable {gaps : Gaps} {sha256 : String → BytesN 32} {env : Env} {α β : Type}
  {kind : ModuleEvent → Prop}

theorem publishesDeed_announce {event : ModuleEvent} (deed : event.isDeed = true)
    (ofKind : kind event) : PublishesDeed kind (announce event) := by
  intro before value after run
  rw [(commits_announce event value).mp run]
  exact ⟨event, ofKind, List.filter_cons_of_pos deed⟩

theorem publishesDeed_after {first : Module α} {next : α → Module β} (deedless : Deedless first)
    (publishes : ∀ value, PublishesDeed kind (next value)) :
    PublishesDeed kind (first >>= next) := by
  intro before value after run
  obtain ⟨middle, between, started, ended⟩ := (commits_bind _ _ _).mp run
  obtain ⟨deed, ofKind, published⟩ := publishes middle between value after ended
  exact ⟨deed, ofKind, by rw [published, deedless.keeps started]⟩

theorem publishesDeed_before {first : Module α} {next : α → Module β}
    (publishes : PublishesDeed kind first) (deedless : ∀ value, Deedless (next value)) :
    PublishesDeed kind (first >>= next) := by
  intro before value after run
  obtain ⟨middle, between, started, ended⟩ := (commits_bind _ _ _).mp run
  obtain ⟨deed, ofKind, published⟩ := publishes before middle between started
  exact ⟨deed, ofKind, by rw [(deedless middle).keeps ended, published]⟩

theorem mintLessorRightsToken_publishes (leaseId : LeaseId) (lessor : Address) :
    PublishesDeed (· = .lessorRightsTokenized leaseId (generateUniqueTokenId env leaseId) lessor
      env.timestamp) (mintLessorRightsToken sha256 env leaseId lessor) := by
  refine publishesDeed_after (deedless_getOr _ _ _) fun lease => ?_
  refine publishesDeed_after (steady_check _ _) fun _ => ?_
  refine publishesDeed_after (deedless_persistently _) fun _ => ?_
  refine publishesDeed_after (steady_check _ _) fun _ => ?_
  refine publishesDeed_after (steady_bind (deedless_checkedI128 _) fun _ => steady_pure _)
    fun metadata => ?_
  refine publishesDeed_after (steady_bind (deedless_persistently _) fun _ =>
    steady_bind (deedless_persistently _) fun _ => deedless_updateHolderNfts _ _) fun _ => ?_
  refine publishesDeed_after (deedless_persistently _) fun _ => ?_
  refine publishesDeed_after (steady_bind (deedless_getOr _ _ _) fun _ =>
    deedless_persistently _) fun _ => ?_
  exact publishesDeed_before (publishesDeed_announce rfl rfl) fun _ => steady_pure _

theorem transferNft_publishes (tokenId : U128) (fromHolder toHolder : Address) :
    PublishesDeed (fun deed => ∃ accruedYield prorationAmount, deed = .nftTransferred tokenId
      fromHolder toHolder env.timestamp accruedYield prorationAmount)
      (transferNft gaps env tokenId fromHolder toHolder) := by
  refine publishesDeed_after (deedless_getOr _ _ _) fun metadata => ?_
  refine publishesDeed_after (steady_check _ _) fun _ => ?_
  refine publishesDeed_after (deedless_persistently _) fun _ => ?_
  refine publishesDeed_after (steady_check _ _) fun _ => ?_
  refine publishesDeed_after (steady_bind (deedless_checkedI128 _) fun _ => steady_pure _)
    fun proration => ?_
  refine publishesDeed_after (deedless_persistently _) fun _ => ?_
  refine publishesDeed_after (deedless_announce rfl) fun _ => ?_
  refine publishesDeed_after (deedless_updateNftMetadataOnTransfer _ _) fun _ => ?_
  refine publishesDeed_after (steady_bind (deedless_updateHolderNfts _ _) fun _ =>
    deedless_updateHolderNfts _ _) fun _ => ?_
  exact publishesDeed_announce rfl ⟨_, _, rfl⟩

end Deeds

/-! ## The book along a run -/

section Book

variable {env : Env} {rights : Rights} {leaseId : LeaseId} {tokenId : U128}

theorem Rights.titleBook_mint {propertyHash : BytesN 32} {lessor : Address} {lease : StoredLease} :
    (rights.mint env propertyHash leaseId lessor lease).titleBook =
      rights.titleBook.enter leaseId (generateUniqueTokenId env leaseId) lessor env.timestamp := by
  let number := generateUniqueTokenId env leaseId
  have listed : (rights.mint env propertyHash leaseId lessor lease).listed =
      Listing.push lessor number rights.listed := rights.listed_assign ..
  have titles : (rights.mint env propertyHash leaseId lessor lease).titleBook.title =
      Function.update rights.titleBook.title number
        (some ⟨leaseId, lessor, env.timestamp, lessor, env.timestamp, 0⟩) :=
    Function.comp_update (Option.map LessorRightsNftMetadata.title) rights.metadata number _
  rw [TitleBook.enter, ← titles]
  exact congrArg (TitleBook.mk _ _) listed

theorem Rights.titleBook_transfer {fromHolder toHolder : Address}
    {metadata : LessorRightsNftMetadata} (owned : metadata.currentHolder = fromHolder) :
    (rights.transfer env tokenId fromHolder toHolder metadata).titleBook =
      rights.titleBook.pass tokenId toHolder env.timestamp metadata.title := by
  let passed := rights.transfer env tokenId fromHolder toHolder metadata
  have listed : passed.listed =
      Listing.move tokenId metadata.currentHolder toHolder rights.listed := by
    rw [owned]
    exact (rights.putMetadata tokenId _).listed_reassign ..
  have titles : passed.titleBook.title = Function.update rights.titleBook.title tokenId
      (some (metadata.transferred env toHolder).title) :=
    Function.comp_update (Option.map LessorRightsNftMetadata.title) rights.metadata tokenId _
  calc passed.titleBook
      = ⟨passed.titleBook.title, rights.tokenOf, passed.listed⟩ := rfl
    _ = rights.titleBook.pass tokenId toHolder env.timestamp metadata.title := by
        rw [titles, listed]
        rfl

theorem Rights.titleBook_title {metadata : LessorRightsNftMetadata}
    (found : rights.metadata tokenId = some metadata) :
    rights.titleBook.title tokenId = some metadata.title :=
  congrArg (Option.map LessorRightsNftMetadata.title) found

/-- A token is unknown as long as its lease has none. -/
theorem Rights.Agrees.untitled {deeds : List RightsDeed} (agrees : rights.Agrees deeds)
    (unmapped : rights.tokenOf leaseId = none) :
    rights.titleBook.title (generateUniqueTokenId env leaseId) = none := by
  change (rights.metadata _).map _ = none
  rw [Option.map_eq_none_iff]
  by_contra known
  obtain ⟨metadata, found⟩ := Option.ne_none_iff_exists'.mp known
  exact agrees.fresh unmapped metadata.leaseId (agrees.recorded _ metadata found)

end Book

section Runs

variable {gaps : Gaps} {sha256 : String → BytesN 32} {before after : Storage} {rights : Rights}

theorem chainOfTitle_of_same {next : Rights} (holds : before.Holds rights)
    (kept : after.Holds next) (book : next.titleBook = rights.titleBook)
    (deeds : after.deeds = before.deeds) : ChainOfTitle before after := by
  refine ⟨[], deeds, ?_⟩
  rw [List.foldr_nil, Storage.titles, Storage.titles, kept.rights_eq, holds.rights_eq, book]

theorem chainOfTitle_of_deed {next : Rights} {deed : ModuleEvent} (holds : before.Holds rights)
    (kept : after.Holds next) (deeds : after.deeds = deed :: before.deeds)
    (read : deed.read (some rights.titleBook) = some next.titleBook) :
    ChainOfTitle before after := by
  refine ⟨[deed], deeds, ?_⟩
  rw [List.foldr_cons, List.foldr_nil, Storage.titles, Storage.titles, kept.rights_eq,
    holds.rights_eq, read]

/-- Every call that goes through publishes its deed, if it is one. -/
theorem rightsCall_chainOfTitle {call : RightsCall} {deeds : List RightsDeed}
    (holds : before.Holds rights) (agrees : rights.Agrees deeds)
    (run : Commits (call.body gaps sha256) before () after) : ChainOfTitle before after := by
  obtain ⟨next, kept, effect⟩ := rightsCall_effect holds run
  obtain ⟨env, operation⟩ := call
  cases effect with
  | @minted leaseId lessor lease propertyHash found tokenizable unmapped result =>
      obtain ⟨_, ran, _⟩ := (commits_map _ _ _).mp run
      obtain ⟨deed, rfl, published⟩ := mintLessorRightsToken_publishes leaseId lessor _ _ _ ran
      refine chainOfTitle_of_deed holds kept published ?_
      rw [result, Rights.titleBook_mint]
      exact if_pos ⟨unmapped, agrees.untitled unmapped⟩
  | @transferred tokenId fromHolder toHolder metadata found owned unlocked result =>
      obtain ⟨deed, ⟨accruedYield, prorationAmount, rfl⟩, published⟩ :=
        transferNft_publishes tokenId fromHolder toHolder _ _ _ run
      refine chainOfTitle_of_deed holds kept published ?_
      rw [result, Rights.titleBook_transfer owned]
      simp only [ModuleEvent.read, Rights.titleBook_title found]
      exact if_pos owned
  | locked mapped result =>
      subst result
      exact chainOfTitle_of_same holds kept rfl ((deedless_updateNftLock _ _ _).keeps run)
  | released result =>
      subst result
      exact chainOfTitle_of_same holds kept rfl ((deedless_releaseNftLock _).keeps run)
  | settled found result =>
      subst result
      exact chainOfTitle_of_same holds kept rfl
        ((deedless_mutualReleaseWithNftVerification _ _ _ _ _).keeps run)
  | operated other result =>
      subst result
      exact chainOfTitle_of_same holds kept rfl (Operation.deedless run)
  | written result =>
      subst result
      exact chainOfTitle_of_same holds kept rfl ((deedless_persistently _).keeps run)

end Runs

/-- The registry of the store agrees with some deeds. -/
def Storage.Kept (storage : Storage) : Prop :=
  ∃ rights deeds, storage.Holds rights ∧ rights.Agrees deeds

theorem Storage.Untokenised.kept {storage : Storage} (untokenised : storage.Untokenised) :
    storage.Kept := by
  refine ⟨_, [], untokenised.holds, ?_⟩
  constructor <;> simp [Rights.listed]

theorem Storage.Untokenised.titles {storage : Storage} (untokenised : storage.Untokenised) :
    storage.titles = some .blank := by
  rw [Storage.titles, untokenised.holds.rights_eq]
  rfl

/-- In every run from a store without tokenised rights the published mints and transfers are a
chain of title: no token is minted twice, no lease gets a second one, and every transfer starts in
the hands that the deeds before it left the token in.  Between any two states of the run they take
the titles and the lists of the holders from the one to the other. -/
theorem deeds_chain (gaps : Gaps) (sha256 : String → BytesN 32) (calls : List RightsCall)
    {start : Storage} (untokenised : start.Untokenised) (unpublished : start.deeds = []) :
    Run.Progresses (rightsStep gaps sha256) ChainOfTitle calls start ∧
      (Run.run (rightsStep gaps sha256) calls start).deeds.foldr ModuleEvent.read (some .blank) =
        some (Run.run (rightsStep gaps sha256) calls start).rights.titleBook := by
  have chains : Run.Progresses (rightsStep gaps sha256) ChainOfTitle calls start := by
    refine Register.progresses_of_commits Register.announced_refl Register.announced_trans
      (fun call before after run kept => ?_) (fun call before after run kept => ?_) calls
        untokenised.kept
    · obtain ⟨rights, deeds, holds, agrees⟩ := kept
      obtain ⟨next, holdsNext, effect⟩ := rightsCall_effect holds run
      exact ⟨next, _, holdsNext, effect.agrees agrees⟩
    · obtain ⟨rights, deeds, holds, agrees⟩ := kept
      exact rightsCall_chainOfTitle holds agrees run
  have told : Register.Told Storage.deeds Storage.titles ModuleEvent.read (some .blank) start := by
    rw [Register.Told, unpublished, untokenised.titles]
    rfl
  exact ⟨chains, (told.announced (chains [] calls (List.prefix_refl calls))).symm⟩

theorem tradedDeeds_chain :
    Run.Progresses (rightsStep lowHalfGaps fun _ => .repeated 32 0) ChainOfTitle tradedCalls
        leasedStorage ∧
      (Run.run (rightsStep lowHalfGaps fun _ => .repeated 32 0) tradedCalls
          leasedStorage).deeds.foldr ModuleEvent.read (some .blank) =
        some (Run.run (rightsStep lowHalfGaps fun _ => .repeated 32 0) tradedCalls
          leasedStorage).rights.titleBook :=
  deeds_chain lowHalfGaps (fun _ => .repeated 32 0) tradedCalls leasedStorage_untokenised rfl

end LeaseFlow.KeySpace
