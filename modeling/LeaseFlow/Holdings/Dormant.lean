import LeaseFlow.Holdings.LeaseLives

/-!
# What no lease ever has

Records have room for an NFT, an access token, a penalty for ending early, a real-world asset and
withheld rent, and many operations act on them.  Both creations leave all of it empty and no call
fills it in, so what those operations would do is never done.
-/

set_option autoImplicit false

namespace LeaseFlow

open Transaction

/-- The record holds no NFT and no access token, configures no penalty for ending the lease early,
names no asset, and has no rent withheld. -/
structure LeaseInstance.Plain (lease : LeaseInstance) : Prop where
  nftContract : lease.nftContract = none
  tokenId : lease.tokenId = none
  feeless : lease.Feeless
  asset : lease.asset = (none, none)
  withheldRent : lease.withheldRent = 0

/-- The symbol-keyed record holds no NFT. -/
structure Lease.Bare (lease : Lease) : Prop where
  nftContract : lease.nftContract = none
  tokenId : lease.tokenId = none

def World.SymbolsBare (world : World) : Prop :=
  ∀ symbol lease, world.symbols.lease symbol = some lease → lease.Bare

/-- All records, live and archived, are plain, and nothing was done that needs more: no NFT was
sent, no usage right granted and no access token burned. -/
structure World.Dormant (world : World) : Prop where
  stored : ∀ leaseId lease, world.leases.lookup leaseId = some lease → lease.Plain
  archived : ∀ leaseId entry, world.archive.historicalLease leaseId = some entry →
    entry.lease.Plain
  symbols : world.SymbolsBare
  usageRights : ∀ nft, world.symbols.usageRights nft = none
  nftTransfers : world.outbox.nftTransfers = []
  burnedAccessTokens : world.outbox.burnedAccessTokens = []

/-- The parts of the store that only leases with an NFT or a token would write. -/
@[simp] def errands : List Part :=
  [.usageRights, .nftTransfers, .burnedAccessTokens]

/-- The others. -/
@[simp] def chores : List Part :=
  [.leases, .deposits, .oracle, .velocity, .pendingSlash, .securityCouncil, .admin, .settings,
    .symbolLeases, .receipts, .authorizedPayers, .roommateBalances, .history, .activeLeasesIndex,
    .tenantFlags, .assetConditions, .frozenAssets, .yield, .billing, .reentrancyLock, .payments,
    .events]

section Dormant

variable {α : Type} {body : Contract α} {env : Env} {world after : World} {leaseId : LeaseId}
  {lease next : LeaseInstance} {call : Call} {part : Part}

theorem LeaseInstance.GoesOn.plain (goesOn : lease.GoesOn next) (plain : lease.Plain) :
    next.Plain where
  nftContract := by
    rw [goesOn.agreed]
    exact plain.nftContract
  tokenId := by
    rw [goesOn.agreed]
    exact plain.tokenId
  feeless := by
    rw [goesOn.agreed]
    exact ⟨plain.feeless.earlyTerminationFeeBps, plain.feeless.fixedPenalty⟩
  asset := by
    rw [goesOn.agreed]
    exact plain.asset
  withheldRent := goesOn.withheld plain.withheldRent

theorem Opening.plain (opening : Opening env world call leaseId lease) : lease.Plain := by
  cases opening <;> exact ⟨rfl, rfl, ⟨rfl, rfl⟩, rfl, rfl⟩

/-! ### Errands that are not run -/

theorem errand_idle (errand : part ∈ errands) {value : α} (run : Commits body world value after)
    (writes : Writes chores body) : part.read after = part.read world := by
  have apart : ∀ part ∈ errands, part ∉ chores := by decide
  exact writes.kept run (apart part errand)

theorem sendLeaseNft_plain {tokenId : Option U128} {recipient : Address} {result : Unit}
    (run : Commits (sendLeaseNft env none tokenId recipient) world result after) :
    after = world :=
  ((commits_pure _ _).mp run).2

theorem returnLeaseNft_plain {tokenId : Option U128} {recipient : Address} {result : Unit}
    (run : Commits (returnLeaseNft env none tokenId recipient) world result after) :
    after = world :=
  ((commits_pure _ _).mp run).2

theorem payRent_idle (errand : part ∈ errands) {symbol : Symbol} {paymentAmount : I128}
    {result : Symbol}
    (plain : ∀ lease, world.symbols.lease symbol = some lease → lease.nftContract = none)
    (run : Commits (payRent env symbol paymentAmount) world result after) :
    part.read after = part.read world := by
  simp only [payRent, loadLease, commits_bind, commits_inspect, commits_expect, commits_demand,
    commits_checkedI128, commits_pure] at run
  obtain ⟨lease, _, ⟨_, _, ⟨rfl, rfl⟩, found, rfl⟩, _, _, ⟨_, rfl⟩, _, w1, known, _, w2, stable,
    _, _, ⟨_, rfl, rfl⟩, _, w3, closing, _, rfl⟩ := run
  have start := (errand_idle errand stable (by simp)).trans (errand_idle errand known (by simp))
  refine Eq.trans ?_ start
  simp only [storePaidLease, commits_ite, plain lease found] at closing
  split at closing
  · obtain ⟨_, w4, sent, saved⟩ := (commits_bind _ _ _).mp closing
    obtain rfl := sendLeaseNft_plain sent
    exact errand_idle errand saved (by simp)
  · exact errand_idle errand closing (by simp)

theorem endLease_idle (errand : part ∈ errands) {symbol : Symbol} {caller : Address}
    {result : Symbol}
    (plain : ∀ lease, world.symbols.lease symbol = some lease → lease.nftContract = none)
    (run : Commits (endLease env symbol caller) world result after) :
    part.read after = part.read world := by
  simp only [endLease, loadLease, commits_bind, commits_inspect, commits_expect, commits_demand,
    commits_requireAuth, commits_checkedSubU64, commits_pure] at run
  obtain ⟨lease, _, ⟨_, _, ⟨rfl, rfl⟩, found, rfl⟩, _, _, ⟨_, rfl⟩, _, _, ⟨_, rfl⟩, _, w1,
    returned, _, w2, saved, _, _, ⟨_, rfl, rfl⟩, _, w3, published, _, rfl⟩ := run
  rw [plain lease found] at returned
  obtain rfl := returnLeaseNft_plain returned
  exact (errand_idle errand published (by simp)).trans (errand_idle errand saved (by simp))

theorem payLeaseInstanceRent_idle (errand : part ∈ errands) {payer : Address}
    {paymentAmount : I128} {result : Unit}
    (plain : ∀ lease, world.leases.lookup leaseId = some lease → lease.Plain)
    (run : Commits (payLeaseInstanceRent env leaseId payer paymentAmount) world result after) :
    part.read after = part.read world := by
  obtain ⟨lease, settled, found, _, collected, closing⟩ := payLeaseInstanceRent_steps run
  refine Eq.trans ?_ (errand_idle errand collected (by simp))
  simp only [storePaidInstance, completeBuyout, commits_ite, (plain lease found).nftContract]
    at closing
  split at closing
  · obtain ⟨_, w1, sent, archived⟩ := (commits_bind _ _ _).mp closing
    obtain rfl := sendLeaseNft_plain sent
    exact errand_idle errand archived (by simp)
  · exact errand_idle errand closing (by simp)

theorem mutualDepositRelease_idle (errand : part ∈ errands) {lesseePubkey lessorPubkey : Address}
    {returnAmount slashAmount : I128} {result : Unit}
    (plain : ∀ lease, world.leases.lookup leaseId = some lease → lease.Plain)
    (run : Commits (mutualDepositRelease env leaseId lesseePubkey lessorPubkey returnAmount
      slashAmount) world result after) : part.read after = part.read world := by
  simp only [mutualDepositRelease, commits_bind, commits_loadLeaseInstanceById, commits_require,
    commits_requireAuth, commits_requireReleaseMath] at run
  obtain ⟨lease, _, ⟨found, rfl⟩, _, _, ⟨_, rfl⟩, _, _, ⟨_, rfl⟩, _, _, ⟨_, rfl⟩, _, _,
    ⟨_, rfl⟩, _, _, ⟨_, _, _, _, rfl⟩, _, w1, paid, _, w2, returned, _, w3, saved,
    published⟩ := run
  rw [(plain lease found).nftContract] at returned
  obtain rfl := returnLeaseNft_plain returned
  exact (errand_idle errand published (by simp)).trans
    ((errand_idle errand saved (by simp)).trans (errand_idle errand paid (by simp)))

theorem reclaim_idle (errand : part ∈ errands) {caller : Address} {result : Unit}
    (plain : ∀ lease, world.leases.lookup leaseId = some lease → lease.Plain)
    (run : Commits (reclaim env leaseId caller) world result after) :
    part.read after = part.read world := by
  simp only [reclaim, commits_bind, commits_loadLeaseInstanceById, commits_isAdmin,
    commits_require, commits_requireAuth] at run
  obtain ⟨lease, _, ⟨found, rfl⟩, _, _, ⟨_, rfl⟩, _, _, ⟨_, rfl⟩, _, _, ⟨_, rfl⟩, _, _,
    ⟨_, rfl⟩, _, w1, returned, _, w2, saved, published⟩ := run
  rw [(plain lease found).nftContract] at returned
  obtain rfl := returnLeaseNft_plain returned
  exact (errand_idle errand published (by simp)).trans (errand_idle errand saved (by simp))

theorem terminateLease_idle (errand : part ∈ errands) {caller : Address} {result : Unit}
    (plain : ∀ lease, world.leases.lookup leaseId = some lease → lease.Plain)
    (run : Commits (terminateLease env leaseId caller) world result after) :
    part.read after = part.read world := by
  obtain ⟨lease, w1, w2, w3, w4, found, _, bounty, burned, thawed, archived, published⟩ :=
    terminateLease_steps run
  rw [(plain lease found).tokenId] at burned
  obtain ⟨_, rfl⟩ := (commits_pure _ _).mp burned
  exact (errand_idle errand published (by simp)).trans
    ((errand_idle errand archived (by simp)).trans
      ((errand_idle errand thawed (by simp)).trans (errand_idle errand bounty (by simp))))

theorem executeEarlyTermination_idle (errand : part ∈ errands) {caller : Address} {result : Unit}
    (plain : ∀ lease, world.leases.lookup leaseId = some lease → lease.Plain)
    (run : Commits (executeEarlyTermination env leaseId caller) world result after) :
    part.read after = part.read world := by
  simp only [executeEarlyTermination, closeEarlyTermination, commits_bind] at run
  obtain ⟨lease, w1, admitted, _, w2, paid, _, w3, sent, _, w4, recorded, _, w5, resized, _, w6,
    thawed, _, w7, archived, _, w8, read, _, w9, announced, published⟩ := run
  have found := (admitEarlyTermination_commits admitted).1
  rw [(plain lease found).nftContract] at sent
  obtain rfl := sendLeaseNft_plain sent
  have start := (errand_idle errand paid (by simp)).trans (errand_idle errand admitted (by simp))
  have closed := (errand_idle errand archived (by simp)).trans
    ((errand_idle errand thawed (by simp)).trans
      ((errand_idle errand resized (by simp)).trans (errand_idle errand recorded (by simp))))
  have finish := (errand_idle errand published (by simp)).trans
    ((errand_idle errand announced (by simp)).trans (errand_idle errand read (by simp)))
  exact finish.trans (closed.trans start)

theorem executeDepositSlash_idle (errand : part ∈ errands) {payload : OraclePayload}
    {result : Unit}
    (plain : ∀ lease, world.leases.lookup payload.leaseId = some lease → lease.Plain)
    (run : Commits (executeDepositSlash env payload) world result after) :
    part.read after = part.read world := by
  simp only [executeDepositSlash, commits_bind, commits_question] at run
  obtain ⟨_, w1, locked, outcome, w2, kept, _, w3, released, rfl, rfl⟩ := run
  rw [commits_resultOf_ok] at kept
  simp only [executeDepositSlashInner, settleSlash, commits_bind, commits_checkedI128,
    commits_inspect, commits_ite] at kept
  obtain ⟨lease, w4, admitted, _, _, ⟨_, rfl, rfl⟩, _, _, ⟨rfl, rfl⟩, closing⟩ := kept
  split at closing
  · exact (not_commits_queueSlash _ _ _ _ closing).elim
  obtain ⟨_, w5, flagged, _, w6, paid, _, w7, saved, _, w8, recorded, _, w9, resized, _, w10,
    returned, _, w11, read, published⟩ := closing
  have known : w1.leases = world.leases := part_kept .leases locked (by simp)
  have found := (admitSlash_commits admitted).1.found
  rw [known] at found
  rw [(plain lease found).nftContract] at returned
  obtain rfl := returnLeaseNft_plain returned
  have start := (errand_idle errand admitted (by simp)).trans (errand_idle errand locked (by simp))
  have settled := (errand_idle errand saved (by simp)).trans
    ((errand_idle errand paid (by simp)).trans (errand_idle errand flagged (by simp)))
  have counted := (errand_idle errand resized (by simp)).trans
    (errand_idle errand recorded (by simp))
  have finish := (errand_idle errand released (by simp)).trans
    ((errand_idle errand published (by simp)).trans (errand_idle errand read (by simp)))
  exact finish.trans (counted.trans (settled.trans start))

/-- A committed call in a dormant store sends no NFT, grants no usage right and burns no token. -/
theorem dispatch_idle (errand : part ∈ errands) (dormant : world.Dormant)
    (run : Commits (dispatch env call) world () after) : part.read after = part.read world := by
  have plain {leaseId : LeaseId} := dormant.stored leaseId
  have bare {symbol : Symbol} (lease : Lease) (found : world.symbols.lease symbol = some lease) :=
    (dormant.symbols symbol lease found).nftContract
  cases call with
  | payRent symbol paymentAmount =>
      obtain ⟨_, paid⟩ := (commits_dropResult _ _).mp run
      exact payRent_idle errand bare paid
  | endLease symbol caller =>
      obtain ⟨_, ended⟩ := (commits_dropResult _ _).mp run
      exact endLease_idle errand bare ended
  | payLeaseInstanceRent leaseId payer paymentAmount =>
      exact payLeaseInstanceRent_idle errand plain run
  | mutualDepositRelease leaseId lesseePubkey lessorPubkey returnAmount slashAmount =>
      exact mutualDepositRelease_idle errand plain run
  | reclaim leaseId caller => exact reclaim_idle errand plain run
  | terminateLease leaseId caller => exact terminateLease_idle errand plain run
  | executeEarlyTermination leaseId caller => exact executeEarlyTermination_idle errand plain run
  | executeDepositSlash payload => exact executeDepositSlash_idle errand plain run
  | updateAssetConditionMetadata payload assetRegistryAddress =>
      have apart : ∀ part ∈ errands, part ∉ [.oracle, .assetConditions, .events] := by decide
      exact updateAssetConditionMetadata_kept run (apart part errand)
  | _ => exact errand_idle errand run ((dispatch_writes env _).mono (by simp))

/-! ### Symbol-keyed leases -/

theorem World.SymbolsBare.kept {result : α} (bare : world.SymbolsBare)
    (run : Commits body world result after) (writes : Writes (besides .symbolLeases) body) :
    after.SymbolsBare := by
  have same : after.symbols.lease = world.symbols.lease := part_kept .symbolLeases run writes
  rw [World.SymbolsBare, same]
  exact bare

theorem World.SymbolsBare.saved {symbol : Symbol} {lease : Lease} {result : Unit}
    (bare : world.SymbolsBare) (run : Commits (saveLease symbol lease) world result after)
    (plain : lease.Bare) : after.SymbolsBare := by
  rw [World.SymbolsBare, saveLease_lease run]
  refine PartialMap.forall_update plain fun other stored _ found => ?_
  exact bare other stored found

theorem activateLease_bare {symbol : Symbol} {tenant : Address} {result : Symbol}
    (bare : world.SymbolsBare)
    (run : Commits (activateLease env symbol tenant) world result after) : after.SymbolsBare := by
  simp only [activateLease, loadLease, commits_bind, commits_inspect, commits_expect,
    commits_demand, commits_pure] at run
  obtain ⟨lease, _, ⟨_, _, ⟨rfl, rfl⟩, found, rfl⟩, _, _, ⟨_, rfl⟩, _, w1, saved, _, w2,
    published, _, rfl⟩ := run
  have plain := bare symbol lease found
  exact (bare.saved saved ⟨plain.nftContract, plain.tokenId⟩).kept published (by simp)

theorem payRent_bare {symbol : Symbol} {paymentAmount : I128} {result : Symbol}
    (bare : world.SymbolsBare)
    (run : Commits (payRent env symbol paymentAmount) world result after) : after.SymbolsBare := by
  simp only [payRent, loadLease, commits_bind, commits_inspect, commits_expect, commits_demand,
    commits_checkedI128, commits_pure] at run
  obtain ⟨lease, _, ⟨_, _, ⟨rfl, rfl⟩, found, rfl⟩, _, _, ⟨_, rfl⟩, _, w1, known, _, w2, stable,
    _, _, ⟨_, rfl, rfl⟩, _, w3, closing, _, rfl⟩ := run
  have plain := bare symbol lease found
  have start := (bare.kept known (by simp)).kept stable (by simp)
  simp only [storePaidLease, commits_ite] at closing
  split at closing
  · obtain ⟨_, w4, sent, saved⟩ := (commits_bind _ _ _).mp closing
    exact (start.kept sent (by simp)).saved saved ⟨plain.nftContract, plain.tokenId⟩
  · exact start.saved closing ⟨plain.nftContract, plain.tokenId⟩

theorem setBuyoutPrice_bare {symbol : Symbol} {landlord : Address} {buyoutPrice : I128}
    {result : Symbol} (bare : world.SymbolsBare)
    (run : Commits (setBuyoutPrice symbol landlord buyoutPrice) world result after) :
    after.SymbolsBare := by
  simp only [setBuyoutPrice, loadLease, commits_bind, commits_inspect, commits_expect,
    commits_demand, commits_pure] at run
  obtain ⟨lease, _, ⟨_, _, ⟨rfl, rfl⟩, found, rfl⟩, _, _, ⟨_, rfl⟩, _, w1, saved, _, rfl⟩ := run
  have plain := bare symbol lease found
  exact bare.saved saved ⟨plain.nftContract, plain.tokenId⟩

theorem endLease_bare {symbol : Symbol} {caller : Address} {result : Symbol}
    (bare : world.SymbolsBare)
    (run : Commits (endLease env symbol caller) world result after) : after.SymbolsBare := by
  simp only [endLease, loadLease, commits_bind, commits_inspect, commits_expect, commits_demand,
    commits_requireAuth, commits_checkedSubU64, commits_pure] at run
  obtain ⟨lease, _, ⟨_, _, ⟨rfl, rfl⟩, found, rfl⟩, _, _, ⟨_, rfl⟩, _, _, ⟨_, rfl⟩, _, w1,
    returned, _, w2, saved, _, _, ⟨_, rfl, rfl⟩, _, w3, published, _, rfl⟩ := run
  have plain := bare symbol lease found
  have start := bare.kept returned (by simp)
  exact (start.saved saved ⟨plain.nftContract, plain.tokenId⟩).kept published (by simp)

theorem dispatch_bare (bare : world.SymbolsBare)
    (run : Commits (dispatch env call) world () after) : after.SymbolsBare := by
  cases call with
  | initializeLease symbol landlord tenant depositAmount duration propertyUri paymentToken =>
      obtain ⟨_, created⟩ := (commits_dropResult _ _).mp run
      rw [World.SymbolsBare, initializeLease_lease created]
      exact PartialMap.forall_update ⟨rfl, rfl⟩ fun other stored _ found => bare other stored found
  | createLease landlord tenant paymentToken =>
      obtain ⟨_, created⟩ := (commits_dropResult _ _).mp run
      rw [World.SymbolsBare, createLease_lease created]
      exact PartialMap.forall_update ⟨rfl, rfl⟩ fun other stored _ found => bare other stored found
  | activateLease symbol tenant =>
      obtain ⟨_, activated⟩ := (commits_dropResult _ _).mp run
      exact activateLease_bare bare activated
  | payRent symbol paymentAmount =>
      obtain ⟨_, paid⟩ := (commits_dropResult _ _).mp run
      exact payRent_bare bare paid
  | setBuyoutPrice symbol landlord buyoutPrice =>
      obtain ⟨_, priced⟩ := (commits_dropResult _ _).mp run
      exact setBuyoutPrice_bare bare priced
  | endLease symbol caller =>
      obtain ⟨_, ended⟩ := (commits_dropResult _ _).mp run
      exact endLease_bare bare ended
  | _ => exact bare.kept run ((dispatch_writes env _).mono (by simp))

/-! ### Runs -/

theorem World.genesis_dormant (config : ConfigStore) (billing : BillingStore)
    (securityCouncil : Option SecurityCouncil) :
    (World.genesis config billing securityCouncil).Dormant where
  stored leaseId lease found := by simp [World.genesis] at found
  archived leaseId entry filed := by simp [World.genesis] at filed
  symbols symbol lease found := by simp [World.genesis] at found
  usageRights _ := rfl
  nftTransfers := rfl
  burnedAccessTokens := rfl

theorem World.Dormant.kept (dormant : world.Dormant)
    (run : Commits (dispatch env call) world () after) : after.Dormant where
  stored leaseId next stored := by
    by_cases creates : call.creates env = some leaseId
    · obtain ⟨lease, opening, moved⟩ := (dispatch_effect run).movement.opening creates
      obtain rfl := Option.some.inj (moved.lookup_self.symm.trans stored)
      exact opening.plain
    · obtain ⟨lease, found⟩ := dispatch_appears run stored creates
      exact (dispatch_goesOn run creates found stored).plain (dormant.stored leaseId lease found)
  archived leaseId entry filed := by
    rcases dispatch_files run leaseId with same | ⟨_, lease, closed, found, archived, goesOn, _⟩
    · exact dormant.archived leaseId entry (same.symm.trans filed)
    · obtain rfl := Option.some.inj (archived.symm.trans filed)
      exact goesOn.plain (dormant.stored leaseId lease found)
  symbols := dispatch_bare dormant.symbols run
  usageRights nft := by
    have idle : after.symbols.usageRights = world.symbols.usageRights :=
      @dispatch_idle _ _ _ _ .usageRights (by simp) dormant run
    rw [idle]
    exact dormant.usageRights nft
  nftTransfers := by
    have idle : after.outbox.nftTransfers = world.outbox.nftTransfers :=
      @dispatch_idle _ _ _ _ .nftTransfers (by simp) dormant run
    rw [idle]
    exact dormant.nftTransfers
  burnedAccessTokens := by
    have idle : after.outbox.burnedAccessTokens = world.outbox.burnedAccessTokens :=
      @dispatch_idle _ _ _ _ .burnedAccessTokens (by simp) dormant run
    rw [idle]
    exact dormant.burnedAccessTokens

end Dormant

/-- In every run the NFT, access-token, penalty, thaw and withholding paths of the contract stay
dormant: no record ever carries what they need, and nothing they would do is ever done. -/
theorem mechanisms_stay_dormant (config : ConfigStore) (billing : BillingStore)
    (securityCouncil : Option SecurityCouncil) (calls : List Invocation) :
    (Run.run step calls (World.genesis config billing securityCouncil)).Dormant := by
  refine Run.invariant (fun invocation world dormant => ?_) calls
    (World.genesis_dormant config billing securityCouncil)
  rcases step_cases invocation world with run | same
  · exact dormant.kept run
  · rw [same]
    exact dormant

end LeaseFlow
