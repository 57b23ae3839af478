import LeaseFlow.KeySpace.Ownership

/-!
# Records in each other's place

The accumulated rent and the routing of a lease share the key of the lease itself, and a listing
shares the key of the market data.  Of the records at one key only one can be read back.
-/

set_option autoImplicit false

namespace LeaseFlow.KeySpace

open Transaction Failure

/-! ## Payments and sales -/

inductive ModuleDeed where
  | paid (leaseId : LeaseId) (amount : I128)
  | sold (leaseId : LeaseId) (tokenId : U128) (price : I128)
  | handed (leaseId : LeaseId)

section Deeds

variable (gaps : Gaps) (sha256 : String → BytesN 32)

def Storage.listing (storage : Storage) (tokenId : U128) : Option NftListing :=
  (storage.persistent (gaps.listingKey tokenId)).bind Held.nftListing.convert

/-- What the call enters if it goes through. -/
def RightsCall.moduleDeed (call : RightsCall) (storage : Storage) : Option ModuleDeed :=
  match call.operation with
  | .operate (.payLeaseRentWithNftRouting leaseId _ amount) => some (.paid leaseId amount)
  | .operate (.buyNftFromDex tokenId _ _) =>
      (storage.listing gaps tokenId).map fun listing => .sold listing.leaseId tokenId listing.price
  | .transferNft tokenId _ _ =>
      (storage.rights.metadata tokenId).map fun metadata => .handed metadata.leaseId
  | _ => none

def moduleDeeds (calls : List RightsCall) (start : Storage) : List ModuleDeed :=
  Machine.log (RightsCall.body gaps sha256) (RightsCall.moduleDeed gaps) calls start

end Deeds

/-- The rent of a lease paid so far, from anew whenever its rights change hands. -/
def ModuleDeed.enterRent (leaseId : LeaseId) (rents : List I128) : ModuleDeed → List I128
  | .paid other amount => if other = leaseId then rents ++ [amount] else rents
  | .sold other _ _ | .handed other => if other = leaseId then [] else rents

/-- The payments since the rights to the lease last changed hands. -/
def rentSince (leaseId : LeaseId) (deeds : List ModuleDeed) : List I128 :=
  deeds.foldl (ModuleDeed.enterRent leaseId) []

/-- The prices a token was sold at. -/
def salesOf (tokenId : U128) (deeds : List ModuleDeed) : List I128 :=
  deeds.filterMap fun deed =>
    match deed with
    | .sold _ other price => if other = tokenId then some price else none
    | _ => none

/-- All that goes through are transfers. -/
def OnlyHanded (deeds : List ModuleDeed) : Prop :=
  ∀ deed ∈ deeds, ∃ leaseId, deed = .handed leaseId

section OnlyHanded

variable {deeds : List ModuleDeed}

theorem OnlyHanded.rentSince_eq (only : OnlyHanded deeds) (leaseId : LeaseId) :
    rentSince leaseId deeds = [] := by
  unfold rentSince
  induction deeds with
  | nil => rfl
  | cons deed rest ih =>
      obtain ⟨other, rfl⟩ := only deed List.mem_cons_self
      have later : OnlyHanded rest := fun deed among => only deed (List.mem_cons_of_mem _ among)
      rw [List.foldl_cons, ModuleDeed.enterRent, ite_self]
      exact ih later

/-- No payment and no sale goes through in any run. -/
theorem onlyHanded_moduleDeeds (gaps : Gaps) (sha256 : String → BytesN 32)
    (calls : List RightsCall) (start : Storage) :
    OnlyHanded (moduleDeeds gaps sha256 calls start) := by
  refine @Machine.invariant_log _ _ _ _ _ _ (fun _ deeds => OnlyHanded deeds)
    (fun call before after deeds run only => ?_) calls start fun deed among => ?_
  · intro deed among
    rcases List.mem_append.mp among with earlier | now
    · exact only deed earlier
    · obtain ⟨env, operation⟩ := call
      rw [Option.mem_toList] at now
      unfold RightsCall.moduleDeed at now
      split at now
      · next pays =>
          cases pays
          exact absurd run not_commits_payLeaseRentWithNftRouting
      · next buys =>
          cases buys
          exact absurd run not_commits_buyNftFromDex
      · obtain ⟨metadata, _, handed⟩ := Option.map_eq_some_iff.mp now
        exact ⟨_, handed.symm⟩
      · cases now
  · cases among

end OnlyHanded

/-! ## Routed rent -/

/-- The stored accumulation, a new one where there is none, is that of the payments. -/
def Storage.RecordsRent (storage : Storage) (leaseId : LeaseId) (rents : List I128) : Prop :=
  ∃ found after,
    Commits (persistently (TypedStore.get Held.yieldAccumulation (routingKey leaseId))) storage found
      after ∧
    (found.map YieldAccumulation.accumulatedYield).getD 0 = rents.sum ∧
    (found.map YieldAccumulation.paymentCount).getD 0 = rents.length

/-- The configuration of a lease is returned, for the holder of its rights. -/
def Storage.RoutesToHolder (storage : Storage) (env : Env) (leaseId : LeaseId) : Prop :=
  ∃ config after, Commits (getPaymentRoutingConfig env leaseId) storage config after ∧
    Commits (getCurrentHolder leaseId) storage config.currentHolder storage

section Rent

variable {storage : Storage} {leaseId : LeaseId} {lease : StoredLease}

theorem not_recordsRent (stored : storage.lease leaseId = some lease) (rents : List I128) :
    ¬ storage.RecordsRent leaseId rents := by
  rintro ⟨found, after, read, _⟩
  obtain ⟨entries, lies, _⟩ := (commits_persistently _ _).mp read
  exact TypedStore.not_commits_get_of_foreign foreign_yieldAccumulation
    (Storage.lease_eq_some_iff.mp stored) found lies

theorem foreign_paymentRoutingConfig : Held.leaseInstance.Foreign Held.paymentRoutingConfig :=
  fun _ _ same => by cases same

theorem not_routesToHolder (stored : storage.lease leaseId = some lease) (env : Env) :
    ¬ storage.RoutesToHolder env leaseId := by
  rintro ⟨config, after, returned, _⟩
  exact not_commits_read foreign_paymentRoutingConfig (Storage.lease_eq_some_iff.mp stored) _ _
    returned

end Rent

/-- In no run does the rent of a lease that is stored accumulate: no payment goes through, and
neither its accumulation nor its configuration can be read. -/
theorem rent_never_accumulates (gaps : Gaps) (sha256 : String → BytesN 32)
    (calls : List RightsCall) (start : Storage) {leaseId : LeaseId} {lease : StoredLease}
    (stored : (Run.run (rightsStep gaps sha256) calls start).lease leaseId = some lease)
    (env : Env) :
    rentSince leaseId (moduleDeeds gaps sha256 calls start) = [] ∧
      (¬ (Run.run (rightsStep gaps sha256) calls start).RecordsRent leaseId
        (rentSince leaseId (moduleDeeds gaps sha256 calls start))) ∧
      ¬ (Run.run (rightsStep gaps sha256) calls start).RoutesToHolder env leaseId :=
  ⟨(onlyHanded_moduleDeeds gaps sha256 calls start).rentSince_eq leaseId,
    not_recordsRent stored _, not_routesToHolder stored env⟩

def rentCalls : List RightsCall :=
  [rightsCallAt 50 (.operate (.payLeaseRentWithNftRouting 7 ⟨2⟩ 10))]

theorem traded_rent_never_accumulates :
    rentSince 7 (moduleDeeds lowHalfGaps (fun _ => .repeated 32 0) rentCalls tradedStorage) = [] ∧
      (¬ (Run.run (rightsStep lowHalfGaps fun _ => .repeated 32 0) rentCalls
        tradedStorage).RecordsRent 7
          (rentSince 7 (moduleDeeds lowHalfGaps (fun _ => .repeated 32 0) rentCalls
            tradedStorage))) ∧
      ¬ (Run.run (rightsStep lowHalfGaps fun _ => .repeated 32 0) rentCalls
        tradedStorage).RoutesToHolder (openLedger 60 0) 7 := by
  have stored : ∃ lease, (Run.run (rightsStep lowHalfGaps fun _ => .repeated 32 0) rentCalls
      tradedStorage).lease 7 = some lease := Option.isSome_iff_exists.mp (by decide +kernel)
  obtain ⟨lease, found⟩ := stored
  exact rent_never_accumulates lowHalfGaps (fun _ => .repeated 32 0) rentCalls tradedStorage found
    (openLedger 60 0)

/-- The rights to lease `7` are held by `⟨5⟩`, and its configuration cannot be read. -/
theorem traded_rent_not_routed :
    ¬ ∀ (gaps : Gaps) (sha256 : String → BytesN 32) (calls : List RightsCall) (start : Storage)
      (leaseId : LeaseId) (lease : StoredLease) (tokenId : U128) (env : Env),
      (Run.run (rightsStep gaps sha256) calls start).lease leaseId = some lease →
      (Run.run (rightsStep gaps sha256) calls start).rights.tokenOf leaseId = some tokenId →
        (Run.run (rightsStep gaps sha256) calls start).RecordsRent leaseId
          (rentSince leaseId (moduleDeeds gaps sha256 calls start)) ∧
        (Run.run (rightsStep gaps sha256) calls start).RoutesToHolder env leaseId := by
  intro routed
  exact not_routesToHolder rfl _
    (routed lowHalfGaps (fun _ => .repeated 32 0) [] tradedStorage 7 rentedLease 70
      (openLedger 60 0) rfl rfl).2

/-! ## Listings -/

/-- The listing can be read back with its seller and price, and the market data with the sales. -/
def Storage.Lists (gaps : Gaps) (storage : Storage) (tokenId : U128) (seller : Address)
    (price : I128) (sales : List I128) : Prop :=
  (∃ listing after, Commits (getListing gaps tokenId) storage listing after ∧
      listing.seller = seller ∧ listing.price = price) ∧
    ∃ marketData after, Commits (getMarketData gaps tokenId) storage marketData after ∧
      marketData.totalVolume = sales.sum ∧ marketData.saleCount = sales.length

/-- What a listing checks: the seller holds the token, which is not locked, the market is enabled
and accepts the price, and the expiry is a time. -/
structure Storage.AdmitsListing (storage : Storage) (env : Env) (tokenId : U128)
    (seller : Address) (price : I128) (durationDays : Option U32) : Prop where
  held : ∃ metadata, storage.persistent (NftDataKey.nftMetadata tokenId).key =
      some (Held.nftMetadata.store metadata) ∧ metadata.currentHolder = seller ∧
    storage.persistent (NftDataKey.nftIndestructibilityLock metadata.leaseId).key = none
  enabled : ∃ config, storage.persistent NftDataKey.admin.key =
      some (Held.dexConfig.store config) ∧ config.enabled = true ∧ config.Accepts price
  expiry : ∀ days, durationDays = some days → env.timestamp + days * 24 * 60 * 60 ≤ u64Max

section Listings

variable {gaps : Gaps} {env : Env} {storage : Storage} {tokenId : U128} {seller : Address}
  {price : I128}

/-- Of a listing and market data at one key only one can be read. -/
theorem not_lists (sales : List I128) : ¬ storage.Lists gaps tokenId seller price sales := by
  rintro ⟨⟨listing, _, listed, _⟩, marketData, _, accounted, _⟩
  have lies := ((commits_getOr _ _ _ listing).mp listed).1
  have liesToo := ((commits_getOr _ _ _ marketData).mp accounted).1
  exact foreign_nftMarketData listing marketData (Option.some.inj (lies.symm.trans liesToo))

theorem storeListing_answers {listing : NftListing}
    (lives : ∀ expiresAt, listing.expiresAt = some expiresAt → env.timestamp ≤ expiresAt) :
    ∃ after, Commits (storeListing gaps env tokenId listing) storage () after := by
  simp only [storeListing, commits_bind, commits_persistently, TypedStore.commits_set]
  cases expires : listing.expiresAt with
  | none => simp
  | some expiresAt => simp [lives expiresAt expires]

theorem listingExpiry_answers {durationDays : Option U32}
    (expiry : ∀ days, durationDays = some days → env.timestamp + days * 24 * 60 * 60 ≤ u64Max) :
    ∃ expiresAt, Commits (listingExpiry env durationDays) storage expiresAt storage ∧
      ∀ time, expiresAt = some time → env.timestamp ≤ time := by
  cases durationDays with
  | none => exact ⟨none, (commits_pure _ _).mpr ⟨rfl, rfl⟩, fun _ none => by cases none⟩
  | some days =>
      refine ⟨some (env.timestamp + days * 24 * 60 * 60), ?_, fun time same => ?_⟩
      · simp [listingExpiry, expiry days rfl]
      · obtain rfl := Option.some.inj same
        exact Nat.le_add_right _ _

/-- A listing that passes every check stops at its own record, which it finds in the place of the
market data. -/
theorem listNftOnDex_faults {durationDays : Option U32}
    (admitted : storage.AdmitsListing env tokenId seller price durationDays) :
    ∃ after, Faults (listNftOnDex gaps env tokenId seller price durationDays) storage
      (.trap "stored value is not of the expected type") after := by
  obtain ⟨⟨metadata, lies, owned, unlocked⟩, ⟨config, configured, enabled, accepts⟩, expiry⟩ :=
    admitted
  obtain ⟨expiresAt, expires, lives⟩ := @listingExpiry_answers env storage durationDays expiry
  obtain ⟨stored, store⟩ := @storeListing_answers gaps env storage tokenId
    ⟨tokenId, seller, price, env.timestamp, expiresAt, metadata.leaseId,
      calculateYieldProjection env metadata, true⟩ lives
  refine ⟨stored, ?_⟩
  refine faults_of_commits
    ((commits_orFail _ _ _).mpr ((commits_getOr _ _ _ _).mpr ⟨lies, rfl⟩)) ?_
  refine faults_of_commits ((commits_check _ _ ()).mpr ⟨owned, rfl⟩) ?_
  refine faults_of_commits ((commits_getOr _ _ _ _).mpr ⟨configured, rfl⟩) ?_
  refine faults_of_commits ((commits_check _ _ ()).mpr ⟨enabled, rfl⟩) ?_
  refine faults_of_commits ((commits_check _ _ ()).mpr ⟨accepts, rfl⟩) ?_
  refine faults_of_commits ((commits_isNftLocked false).mpr ⟨by rw [unlocked]; rfl, rfl⟩) ?_
  refine faults_of_commits ((commits_check _ _ ()).mpr ⟨rfl, rfl⟩) ?_
  refine faults_of_commits expires ?_
  refine faults_of_commits store ?_
  -- the listing that was just stored lies where the market data are looked for
  exact (faults_bind _ _ _).mpr (.inl ((faults_bind _ _ _).mpr (.inl (faults_within
    (TypedStore.faults_get_of_foreign foreign_nftMarketData (storeListing_commits store))))))

end Listings

/-- In every run, a listing that passes every check traps, and it can neither then nor later be
read back beside the market data of its token; nor does any listing, new price or sale go
through. -/
theorem listing_never_survives (gaps : Gaps) (sha256 : String → BytesN 32)
    (calls : List RightsCall) (start : Storage) {env : Env} {tokenId : U128} {seller : Address}
    {price : I128} {durationDays : Option U32}
    (admitted : (Run.run (rightsStep gaps sha256) calls start).AdmitsListing env tokenId seller
      price durationDays) :
    (∃ after, Faults (RightsCall.body gaps sha256
        ⟨env, .operate (.listNftOnDex tokenId seller price durationDays)⟩)
      (Run.run (rightsStep gaps sha256) calls start)
      (.trap "stored value is not of the expected type") after) ∧
    ∀ later : List RightsCall,
      let listed := calls ++
        ⟨env, .operate (.listNftOnDex tokenId seller price durationDays)⟩ :: later
      (¬ (Run.run (rightsStep gaps sha256) listed start).Lists gaps tokenId seller price
        (salesOf tokenId (moduleDeeds gaps sha256 listed start))) ∧
      ∀ env other address amount days after,
        ¬ Commits (listNftOnDex gaps env other address amount days)
          (Run.run (rightsStep gaps sha256) listed start) () after ∧
        ¬ Commits (updateListingPrice gaps env other address amount)
          (Run.run (rightsStep gaps sha256) listed start) () after ∧
        ¬ Commits (buyNftFromDex gaps env other address amount)
          (Run.run (rightsStep gaps sha256) listed start) () after :=
  ⟨listNftOnDex_faults admitted, fun _ => ⟨not_lists _, fun _ _ _ _ _ _ =>
    ⟨not_commits_listNftOnDex, not_commits_updateListingPrice, not_commits_buyNftFromDex⟩⟩⟩

/-- The rights to lease `7` are not locked, and the market takes prices up to `1000`. -/
def marketEntries : Entries
  | ⟨"NFTMetadata", [.u128 70]⟩ => some (.nftMetadata tradedRights)
  | ⟨"Admin", []⟩ => some (.dexConfig ⟨⟨3⟩, ⟨4⟩, 30, 1, 1000, true⟩)
  | _ => none

def marketStorage : Storage where
  persistent := marketEntries
  temporary _ := none
  instanceData _ := none
  events := []

theorem marketStorage_admits :
    marketStorage.AdmitsListing (openLedger 50 0) 70 ⟨5⟩ 200 (some 7) where
  held := ⟨tradedRights, rfl, rfl, rfl⟩
  enabled := ⟨_, rfl, rfl, by decide⟩
  expiry days same := by
    obtain rfl := Option.some.inj same
    decide

theorem market_listing_never_survives :
    (∃ after, Faults (RightsCall.body lowHalfGaps (fun _ => .repeated 32 0)
        ⟨openLedger 50 0, .operate (.listNftOnDex 70 ⟨5⟩ 200 (some 7))⟩) marketStorage
      (.trap "stored value is not of the expected type") after) ∧
    ¬ (Run.run (rightsStep lowHalfGaps fun _ => .repeated 32 0)
        [⟨openLedger 50 0, .operate (.listNftOnDex 70 ⟨5⟩ 200 (some 7))⟩] marketStorage).Lists
      lowHalfGaps 70 ⟨5⟩ 200 (salesOf 70 (moduleDeeds lowHalfGaps (fun _ => .repeated 32 0)
        [⟨openLedger 50 0, .operate (.listNftOnDex 70 ⟨5⟩ 200 (some 7))⟩] marketStorage)) := by
  have never := listing_never_survives lowHalfGaps (fun _ => .repeated 32 0) [] marketStorage
    marketStorage_admits
  exact ⟨never.1, (never.2 []).1⟩

end LeaseFlow.KeySpace
