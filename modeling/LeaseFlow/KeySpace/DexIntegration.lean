import LeaseFlow.KeySpace.PaymentRouter

/-!
# The secondary market

The operations on listings.  A listing and the market data of its token lie at one key, so every
operation that stores the one and then reads the other traps.
-/

set_option autoImplicit false

namespace LeaseFlow.KeySpace

open Transaction Failure

/-! ## Configuration -/

def getDexConfig : Module DexIntegrationConfig :=
  getOr Held.dexConfig NftDataKey.admin.key (.dex .dexNotEnabled)

def saveDexConfig (config : DexIntegrationConfig) : Module Unit :=
  persistently (TypedStore.set Held.dexConfig NftDataKey.admin.key config)

def isDexAdmin (address : Address) : Module Bool := do
  let admin ← inInstance (TypedStore.get Held.address NftDataKey.admin.key)
  pure (admin = some address)

def configureDex (admin dexContract tokenContract : Address) (feeBps : U32)
    (minPrice maxPrice : I128) : Module Unit := do
  let isAdmin ← isDexAdmin admin
  check (isAdmin = true) (.dex .notAuthorized)
  saveDexConfig ⟨dexContract, tokenContract, feeBps, minPrice, maxPrice, true⟩

def toggleDexIntegration (admin : Address) (enabled : Bool) : Module Unit := do
  let isAdmin ← isDexAdmin admin
  check (isAdmin = true) (.dex .notAuthorized)
  let config ← getDexConfig
  saveDexConfig { config with enabled := enabled }

def DexIntegrationConfig.Accepts (config : DexIntegrationConfig) (price : I128) : Prop :=
  config.minPrice ≤ price ∧ price ≤ config.maxPrice

instance (config : DexIntegrationConfig) (price : I128) : Decidable (config.Accepts price) :=
  inferInstanceAs (Decidable (_ ∧ _))

/-! ## Listings and market data -/

section Listings

variable (gaps : Gaps)

/-- The key of the listing and of the market data of a token. -/
def Gaps.listingKey (tokenId : U128) : StorageKey :=
  (NftDataKey.leaseInstance (gaps.listingPayload tokenId)).key

/-- The time to live is the time until the listing expires: past it, the subtraction traps. -/
def storeListing (env : Env) (tokenId : U128) (listing : NftListing) : Module Unit := do
  persistently (TypedStore.set Held.nftListing (gaps.listingKey tokenId) listing)
  match listing.expiresAt with
  | some expiresAt => do
      let _ttl ← checkedSub expiresAt env.timestamp
  | none => pure ()

def getListing (tokenId : U128) : Module NftListing :=
  getOr Held.nftListing (gaps.listingKey tokenId) (.dex .nftNotFound)

def removeListing (tokenId : U128) : Module Unit :=
  persistently (TypedStore.remove (gaps.listingKey tokenId))

def NftMarketData.fresh (tokenId : U128) (currentPrice lastSalePrice : I128)
    (lastSaleTimestamp : U64) : NftMarketData where
  tokenId := tokenId
  leaseId := 0
  currentPrice := currentPrice
  lastSalePrice := lastSalePrice
  lastSaleTimestamp := lastSaleTimestamp
  priceHistory := []
  yieldHistory := []
  totalVolume := 0
  saleCount := 0

def NftMarketData.withPoint (point : PricePoint) (marketData : NftMarketData) : NftMarketData :=
  { marketData with priceHistory := marketData.priceHistory ++ [point] }

/-- The market data of a token, the given ones where there are none, changed, with a price point
added to their history. -/
def updateMarketData (tokenId : U128) (initial : NftMarketData)
    (change : NftMarketData → Module NftMarketData) (point : PricePoint) : Module Unit := do
  let found ← persistently (TypedStore.get Held.nftMarketData (gaps.listingKey tokenId))
  let changed ← change (found.getD initial)
  persistently (TypedStore.set Held.nftMarketData (gaps.listingKey tokenId)
    (changed.withPoint point))

def updateMarketDataOnListing (env : Env) (tokenId : U128) (price : I128) : Module Unit :=
  updateMarketData gaps tokenId (.fresh tokenId price 0 0)
    (fun marketData => pure { marketData with currentPrice := price }) ⟨price, env.timestamp, 0⟩

def updateMarketDataOnSale (env : Env) (tokenId : U128) (price : I128) : Module Unit :=
  updateMarketData gaps tokenId (.fresh tokenId price price env.timestamp)
    (fun marketData => do
      let totalVolume ← checkedI128 (marketData.totalVolume + price)
      let saleCount ← checkedUpTo Access.u32Max (marketData.saleCount + 1)
      pure { marketData with
        lastSalePrice := price
        lastSaleTimestamp := env.timestamp
        totalVolume := totalVolume
        saleCount := saleCount })
    ⟨price, env.timestamp, price⟩

def updateMarketDataOnPriceUpdate (env : Env) (tokenId : U128) (newPrice : I128) : Module Unit :=
  updateMarketData gaps tokenId (.fresh tokenId newPrice 0 0)
    (fun marketData => pure { marketData with currentPrice := newPrice })
    ⟨newPrice, env.timestamp, 0⟩

def getMarketData (tokenId : U128) : Module NftMarketData :=
  getOr Held.nftMarketData (gaps.listingKey tokenId) (.dex .marketDataCorrupted)

/-! ## Queries that look at nothing -/

structure MarketStatistics where
  totalListings : U32
  activeListings : U32
  totalVolume24h : I128
  averagePrice : I128
  highestPrice : I128
  lowestPrice : I128
  totalYieldDistributed : I128
  lastUpdated : U64

def getActiveListings : Module (List NftListing) :=
  pure []

def getMarketStatistics (env : Env) : Module MarketStatistics :=
  pure ⟨0, 0, 0, 0, 0, i128Max, 0, env.timestamp⟩

/-! ## Operations -/

/-- The monthly rent, while at least a month of the lease remains. -/
def calculateYieldProjection (env : Env) (metadata : LessorRightsNftMetadata) : I128 :=
  let remainingMonths := if env.timestamp < metadata.leaseEnd then
    (metadata.leaseEnd - env.timestamp) / billingCycleDuration else 0
  if remainingMonths = 0 then 0 else metadata.monthlyRent

def listingExpiry (env : Env) : Option U32 → Module (Option U64)
  | some days => do
      let expiresAt ← checkedUpTo u64Max (env.timestamp + days * 24 * 60 * 60)
      pure (some expiresAt)
  | none => pure none

def listNftOnDex (env : Env) (tokenId : U128) (seller : Address) (price : I128)
    (durationDays : Option U32) : Module Unit := do
  let metadata ← orFail (.dex .nftNotFound) (getNftMetadata tokenId)
  check (metadata.currentHolder = seller) (.dex .notAuthorized)
  let config ← getDexConfig
  check (config.enabled = true) (.dex .dexNotEnabled)
  check (config.Accepts price) (.dex .invalidPrice)
  let locked ← isNftLocked metadata.leaseId
  check (locked = false) (.dex .notAuthorized)
  let expiresAt ← listingExpiry env durationDays
  storeListing gaps env tokenId {
    tokenId := tokenId
    seller := seller
    price := price
    listedAt := env.timestamp
    expiresAt := expiresAt
    leaseId := metadata.leaseId
    yieldProjection := calculateYieldProjection env metadata
    active := true }
  updateMarketDataOnListing gaps env tokenId price
  announce (.nftListed tokenId seller price metadata.leaseId env.timestamp)

def NftListing.Unexpired (listing : NftListing) (now : U64) : Prop :=
  ∀ expiresAt ∈ listing.expiresAt, now ≤ expiresAt

instance (listing : NftListing) (now : U64) : Decidable (listing.Unexpired now) :=
  decidable_of_iff (listing.expiresAt.all (decide <| now ≤ ·) = true) <| by
    simp [NftListing.Unexpired, Option.all_eq_true]

def buyNftFromDex (env : Env) (tokenId : U128) (buyer : Address) (maxPrice : I128) :
    Module Unit := do
  let listing ← getListing gaps tokenId
  check (listing.active = true) (.dex .listingExpired)
  check (listing.Unexpired env.timestamp) (.dex .listingExpired)
  check (listing.price ≤ maxPrice) (.dex .invalidPrice)
  let config ← getDexConfig
  check (config.enabled = true) (.dex .dexNotEnabled)
  let feeShare ← checkedI128 (listing.price * config.feeBps)
  let fees := feeShare.tdiv 10000
  let _sellerProceeds ← checkedI128 (listing.price - fees)
  transferNft gaps env tokenId listing.seller buyer
  orFail (.dex .transferFailed)
    (updatePaymentRoutingOnNftTransfer env listing.leaseId listing.seller buyer)
  updateMarketDataOnSale gaps env tokenId listing.price
  removeListing gaps tokenId
  announce (.nftSold tokenId listing.seller buyer listing.price fees listing.leaseId env.timestamp)

def delistNft (env : Env) (tokenId : U128) (seller : Address) : Module Unit := do
  let listing ← getListing gaps tokenId
  check (listing.seller = seller) (.dex .notAuthorized)
  removeListing gaps tokenId
  announce (.nftDelisted tokenId seller env.timestamp)

def updateListingPrice (env : Env) (tokenId : U128) (seller : Address) (newPrice : I128) :
    Module Unit := do
  let listing ← getListing gaps tokenId
  check (listing.seller = seller) (.dex .notAuthorized)
  let config ← getDexConfig
  check (config.Accepts newPrice) (.dex .invalidPrice)
  storeListing gaps env tokenId { listing with price := newPrice }
  updateMarketDataOnPriceUpdate gaps env tokenId newPrice
  announce (.marketDataUpdated tokenId listing.leaseId newPrice env.timestamp)

end Listings

/-! ## What the operations do -/

section Specifications

variable {gaps : Gaps} {env : Env} {before after : Storage} {tokenId : U128} {result : Unit}

theorem foreign_nftListing : Held.leaseInstance.Foreign Held.nftListing :=
  fun _ _ same => by cases same

theorem foreign_dexConfig : Held.leaseInstance.Foreign Held.dexConfig :=
  fun _ _ same => by cases same

theorem foreign_nftMarketData : Held.nftListing.Foreign Held.nftMarketData :=
  fun _ _ same => by cases same

theorem storeListing_commits {listing : NftListing}
    (run : Commits (storeListing gaps env tokenId listing) before result after) :
    after.persistent (gaps.listingKey tokenId) = some (Held.nftListing.store listing) := by
  simp only [storeListing, commits_bind, commits_persistently, TypedStore.commits_set] at run
  obtain ⟨_, middle, ⟨_, rfl, rfl⟩, lives⟩ := run
  suffices same : after.persistent = Function.update before.persistent (gaps.listingKey tokenId)
      (some (Held.nftListing.store listing)) by rw [same, Function.update_self]
  cases expires : listing.expiresAt with
  | some expiresAt =>
      simp only [expires, commits_bind, commits_checkedSub, commits_pure] at lives
      obtain ⟨_, _, ⟨_, rfl, rfl⟩, _, rfl⟩ := lives
      rfl
  | none =>
      simp only [expires, commits_pure] at lives
      rw [lives.2]

/-- The market data of a token are not updated where its listing lies. -/
theorem not_commits_updateMarketData {listing : NftListing} {initial : NftMarketData}
    {change : NftMarketData → Module NftMarketData} {point : PricePoint}
    (lies : before.persistent (gaps.listingKey tokenId) = some (Held.nftListing.store listing)) :
    ¬ Commits (updateMarketData gaps tokenId initial change point) before result after :=
  not_commits_read foreign_nftMarketData lies _ result

theorem not_commits_listNftOnDex {seller : Address} {price : I128} {durationDays : Option U32} :
    ¬ Commits (listNftOnDex gaps env tokenId seller price durationDays) before result after := by
  intro run
  simp only [listNftOnDex, commits_bind] at run
  obtain ⟨metadata, _, _, _, _, _, config, _, _, _, _, _, _, _, _, locked, _, _, _, _, _, expiresAt,
    _, _, _, _, stored, _, _, updated, _⟩ := run
  exact not_commits_updateMarketData (storeListing_commits stored) updated

theorem not_commits_buyNftFromDex {buyer : Address} {maxPrice : I128} :
    ¬ Commits (buyNftFromDex gaps env tokenId buyer maxPrice) before result after := by
  intro run
  simp only [buyNftFromDex, commits_bind, commits_orFail] at run
  obtain ⟨listing, _, _, _, _, _, _, _, _, _, _, _, config, _, _, _, _, _, share, _, _, _, _, _, _, _,
    transferred, _, _, routed, _⟩ := run
  exact not_commits_updatePaymentRoutingOnNftTransfer routed

theorem not_commits_updateListingPrice {seller : Address} {newPrice : I128} :
    ¬ Commits (updateListingPrice gaps env tokenId seller newPrice) before result after := by
  intro run
  simp only [updateListingPrice, commits_bind] at run
  obtain ⟨listing, _, _, _, _, _, config, _, _, _, _, _, _, _, stored, _, _, updated, _⟩ := run
  exact not_commits_updateMarketData (storeListing_commits stored) updated

/-- A listing is all that a delisting removes. -/
theorem delistNft_commits {seller : Address}
    (run : Commits (delistNft gaps env tokenId seller) before result after) :
    ∃ listing, before.persistent (gaps.listingKey tokenId) =
        some (Held.nftListing.store listing) ∧
      listing.seller = seller ∧
      after.persistent = Function.update before.persistent (gaps.listingKey tokenId) none := by
  simp only [delistNft, getListing, removeListing, commits_bind, commits_getOr, commits_check,
    commits_persistently, TypedStore.commits_remove, commits_announce] at run
  obtain ⟨listing, _, ⟨lies, rfl⟩, _, _, ⟨owned, rfl⟩, _, _, ⟨_, rfl, rfl⟩, rfl⟩ := run
  exact ⟨listing, lies, owned, rfl⟩

theorem leaves_isDexAdmin (address : Address) : LeavesEntries (isDexAdmin address) :=
  steady_bind (leaves_inInstance _) fun _ => steady_pure _

theorem saveDexConfig_commits {config : DexIntegrationConfig}
    (run : Commits (saveDexConfig config) before result after) :
    after.persistent = Function.update before.persistent NftDataKey.admin.key
      (some (Held.dexConfig.store config)) := by
  simp only [saveDexConfig, commits_persistently, TypedStore.commits_set] at run
  obtain ⟨_, rfl, rfl⟩ := run
  rfl

theorem configureDex_commits {admin dexContract tokenContract : Address} {feeBps : U32}
    {minPrice maxPrice : I128}
    (run : Commits (configureDex admin dexContract tokenContract feeBps minPrice maxPrice) before
      result after) :
    after.persistent = Function.update before.persistent NftDataKey.admin.key
      (some (Held.dexConfig.store
        ⟨dexContract, tokenContract, feeBps, minPrice, maxPrice, true⟩)) := by
  simp only [configureDex, commits_bind, commits_check] at run
  obtain ⟨_, _, asked, _, _, ⟨_, rfl⟩, saved⟩ := run
  rw [saveDexConfig_commits saved, (leaves_isDexAdmin admin).keeps asked]

theorem toggleDexIntegration_commits {admin : Address} {enabled : Bool}
    (run : Commits (toggleDexIntegration admin enabled) before result after) :
    ∃ config, after.persistent = Function.update before.persistent NftDataKey.admin.key
      (some (Held.dexConfig.store config)) := by
  simp only [toggleDexIntegration, commits_bind, commits_check] at run
  obtain ⟨_, _, asked, _, _, ⟨_, rfl⟩, config, _, read, saved⟩ := run
  refine ⟨{ config with enabled := enabled }, ?_⟩
  rw [saveDexConfig_commits saved, (leaves_getOr _ _ _).keeps read,
    (leaves_isDexAdmin admin).keeps asked]

end Specifications

end LeaseFlow.KeySpace
