import LeaseFlow.Holdings.Amendments
import LeaseFlow.Holdings.Books

/-!
# Frozen assets

A creation can freeze a real-world asset in its registry.  The record it stores does not name
the asset, so no closing path finds an asset to thaw, and the asset stays frozen.
-/

set_option autoImplicit false

namespace LeaseFlow

open Transaction

/-- The registry and the asset frozen for a lease. -/
abbrev FreezeKey := LeaseId × Address × U128

/-- The registry is asked to thaw the asset of a lease when a termination finds its records. -/
def World.asksThaw (world : World) (leaseId : LeaseId) : Option FreezeKey :=
  match (world.leases.lookup leaseId).map LeaseInstance.asset with
  | some (some registryAddress, some assetId) =>
      if world.assets.frozenAsset (leaseId, registryAddress, assetId) = true ∧
          world.assets.assetFreezeProof (leaseId, registryAddress, assetId) ≠ none then
        some (leaseId, registryAddress, assetId)
      else none
  | _ => none

/-! ## The book -/

/-- The assets the registries were asked to freeze and not asked to thaw since, and the asset
that the lease now stored under an id froze when it was created. -/
structure FreezeBook where
  outstanding : FreezeKey → Bool
  owned : LeaseId → Option (Address × U128)

/-- One asset, if there is one, is marked. -/
def mark (key : Option FreezeKey) (flag : Bool) (outstanding : FreezeKey → Bool) :
    FreezeKey → Bool :=
  match key with
  | some key => Function.update outstanding key flag
  | none => outstanding

def FreezeBook.thaw (key : Option FreezeKey) (book : FreezeBook) : FreezeBook :=
  { book with outstanding := mark key false book.outstanding }

def FreezeBook.freeze (leaseId : LeaseId) (asset : Option (Address × U128)) (book : FreezeBook) :
    FreezeBook where
  outstanding := mark (asset.map fun asset => (leaseId, asset)) true book.outstanding
  owned := Function.update book.owned leaseId asset

@[simp] theorem FreezeBook.freeze_owned (leaseId : LeaseId) (asset : Option (Address × U128))
    (book : FreezeBook) : (book.freeze leaseId asset).owned leaseId = asset :=
  Function.update_self ..

/-- The asset a proposal names. -/
def CreateLeaseParams.asset (params : CreateLeaseParams) : Option (Address × U128) :=
  match params.assetRegistryAddress, params.assetId with
  | some registryAddress, some assetId => some (registryAddress, assetId)
  | _, _ => none

theorem CreateLeaseParams.asset_eq_some {params : CreateLeaseParams} {asset : Address × U128} :
    params.asset = some asset ↔
      params.assetRegistryAddress = some asset.1 ∧ params.assetId = some asset.2 := by
  rcases asset with ⟨registryAddress, assetId⟩
  unfold CreateLeaseParams.asset
  cases params.assetRegistryAddress with
  | none => simp
  | some nft => cases params.assetId <;> simp

def bookFreeze (env : Env) (world : World) (call : Call) (book : FreezeBook) : FreezeBook :=
  match call with
  | .createLeaseInstance leaseId _ params => book.freeze leaseId params.asset
  | .createLeaseWithContinuousBilling _ => book.freeze (billingLeaseId env) none
  | .terminateLease leaseId _ => book.thaw (world.asksThaw leaseId)
  | .executeEarlyTermination leaseId _ => book.thaw (world.asksThaw leaseId)
  | _ => book

/-- No record of the freeze is left, and the registry was asked to thaw the asset. -/
structure World.Thawed (key : FreezeKey) (world : World) (book : FreezeBook) : Prop where
  frozenAsset : world.assets.frozenAsset key = false
  assetFreezeProof : world.assets.assetFreezeProof key = none
  asked : book.outstanding key = false

/-- Every asset that is not thawed belongs to a live lease that froze it and is not
terminated. -/
def World.FreezesReleased (world : World) (book : FreezeBook) : Prop :=
  ∀ leaseId registryAddress assetId, ¬ world.Thawed (leaseId, registryAddress, assetId) book →
    book.owned leaseId = some (registryAddress, assetId) ∧
      ∃ lease, world.leases.lookup leaseId = some lease ∧ lease.status ≠ .terminated

/-- The lease that a call ends if it goes through: it is terminated, removed, or replaced. -/
def Call.ends (env : Env) (world : World) : Call → Option LeaseId
  | .concludeLease leaseId _ _ => some leaseId
  | .resolveDispute leaseId _ _ => some leaseId
  | .mutualDepositRelease leaseId _ _ _ _ => some leaseId
  | .reclaim leaseId _ => some leaseId
  | .createLeaseWithContinuousBilling _ => some (billingLeaseId env)
  | call => call.removes world

/-- The call ends a lease while an asset is frozen for it. -/
def Call.LeavesFrozen (env : Env) (world : World) (call : Call) : Prop :=
  ∃ leaseId registryAddress assetId, call.ends env world = some leaseId ∧
    world.assets.frozenAsset (leaseId, registryAddress, assetId) = true

/-- The asset a call freezes if it goes through. -/
def Call.freezes : Call → Option FreezeKey
  | .createLeaseInstance leaseId _ params => params.asset.map fun asset => (leaseId, asset)
  | _ => none

/-- The freeze of one asset was recorded. -/
structure AssetStore.Froze (key : FreezeKey) (before after : AssetStore) : Prop where
  frozenAsset : after.frozenAsset = Function.update before.frozenAsset key true
  assetFreezeProof : ∃ proof,
    after.assetFreezeProof = Function.update before.assetFreezeProof key (some proof)

/-- The records of the freezes are as they were. -/
structure AssetStore.SameFreezes (before after : AssetStore) : Prop where
  frozenAsset : after.frozenAsset = before.frozenAsset
  assetFreezeProof : after.assetFreezeProof = before.assetFreezeProof

/-! ## What a call writes -/

section Steps

variable {env : Env} {world middle after : World} {leaseId : LeaseId} {lease next : LeaseInstance}
  {call : Call} {book : FreezeBook}

theorem sameFreezes {α : Type} {body : Contract α} {value : α}
    (run : Commits body world value after) (writes : Writes (besides .frozenAssets) body) :
    world.assets.SameFreezes after.assets := by
  have kept := part_kept .frozenAssets run writes
  exact ⟨congrArg Prod.snd kept, congrArg Prod.fst kept⟩

theorem AssetStore.SameFreezes.trans {first second third : AssetStore}
    (one : first.SameFreezes second) (two : second.SameFreezes third) :
    first.SameFreezes third :=
  ⟨two.frozenAsset.trans one.frozenAsset, two.assetFreezeProof.trans one.assetFreezeProof⟩

theorem AssetStore.SameFreezes.refl (assets : AssetStore) : assets.SameFreezes assets :=
  ⟨rfl, rfl⟩

theorem AssetStore.Froze.between {key : FreezeKey} {first second third fourth : AssetStore}
    (froze : second.Froze key third) (before : first.SameFreezes second)
    (later : third.SameFreezes fourth) : first.Froze key fourth := by
  obtain ⟨frozenAsset, proof, assetFreezeProof⟩ := froze
  refine ⟨?_, proof, ?_⟩
  · rw [later.frozenAsset, frozenAsset, before.frozenAsset]
  · rw [later.assetFreezeProof, assetFreezeProof, before.assetFreezeProof]

theorem verifyAssetOwnership_froze {landlord registryAddress : Address} {assetId : U128}
    {freezeProof : BytesN 32}
    (run : Commits (verifyAssetOwnership env leaseId landlord registryAddress assetId) world
      freezeProof after) :
    world.assets.Froze (leaseId, registryAddress, assetId) after.assets := by
  simp only [verifyAssetOwnership, updateAssets, commits_bind, commits_inspect, commits_require,
    commits_okOr, commits_modify, commits_pure] at run
  obtain ⟨_, _, ⟨rfl, rfl⟩, _, _, ⟨_, rfl⟩, _, _, ⟨_, rfl⟩, _, _, ⟨_, rfl⟩, _, _, ⟨_, rfl⟩, proof,
    before, ⟨_, rfl⟩, _, middle, frozen, _, _, published, _, rfl⟩ := run
  have froze : before.assets.Froze (leaseId, registryAddress, assetId) middle.assets := by
    rw [frozen]
    exact ⟨rfl, proof, rfl⟩
  exact froze.between (.refl _) (sameFreezes published (by simp))

theorem verifyLeaseAsset_froze {landlord : Address} {params : CreateLeaseParams}
    {proof : Option (BytesN 32)}
    (run : Commits (verifyLeaseAsset env leaseId landlord params) world proof after) :
    (params.asset = none → world.assets.SameFreezes after.assets) ∧
      ∀ asset, params.asset = some asset → world.assets.Froze (leaseId, asset) after.assets := by
  unfold verifyLeaseAsset at run
  split at run
  · next registryAddress assetId registered identified =>
      have named : params.asset = some (registryAddress, assetId) := by
        simp only [CreateLeaseParams.asset, registered, identified]
      simp only [commits_bind, commits_pure] at run
      obtain ⟨_, _, verified, _, rfl⟩ := run
      rw [named]
      constructor
      · intro absent
        cases absent
      · intro asset same
        obtain rfl := Option.some.inj same
        exact verifyAssetOwnership_froze verified
  · next unnamed =>
      obtain ⟨_, rfl⟩ := (commits_pure _ _).mp run
      refine ⟨fun _ => .refl _, ?_⟩
      intro asset named
      obtain ⟨registered, identified⟩ := CreateLeaseParams.asset_eq_some.mp named
      exact absurd identified (unnamed _ _ registered)

theorem createLeaseInstance_froze {landlord : Address} {params : CreateLeaseParams} {result : Unit}
    (run : Commits (createLeaseInstance env leaseId landlord params) world result after) :
    (params.asset = none → world.assets.SameFreezes after.assets) ∧
      ∀ asset, params.asset = some asset → world.assets.Froze (leaseId, asset) after.assets := by
  obtain ⟨_, locked, w1, w2, w3, w4, w5, w6, w7, w8, acquired, _, verified, swapped, opened,
    indexed, initialised, sized, released, published⟩ := createLeaseInstance_steps run
  have start := sameFreezes acquired (by simp)
  have finish := (sameFreezes swapped (by simp)).trans ((sameFreezes opened (by simp)).trans
    ((sameFreezes indexed (by simp)).trans ((sameFreezes initialised (by simp)).trans
      ((sameFreezes sized (by simp)).trans ((sameFreezes released (by simp)).trans
        (sameFreezes published (by simp)))))))
  obtain ⟨unnamed, named⟩ := verifyLeaseAsset_froze verified
  exact ⟨fun none => start.trans ((unnamed none).trans finish),
    fun asset some => (named asset some).between start finish⟩

theorem thawLeaseAsset_unnamed {result : Unit} (unnamed : lease.asset = (none, none))
    (run : Commits (thawLeaseAsset env leaseId lease) world result after) : after = world := by
  obtain ⟨registry, _⟩ := Prod.mk.inj unnamed
  rw [thawLeaseAsset, registry] at run
  exact ((commits_pure _ _).mp run).2

theorem terminateLease_sameFreezes {caller : Address} {result : Unit}
    (run : Commits (terminateLease env leaseId caller) world result after)
    (unnamed : ∀ lease, world.leases.lookup leaseId = some lease → lease.asset = (none, none)) :
    world.assets.SameFreezes after.assets := by
  obtain ⟨lease, w1, w2, w3, w4, found, _, bounty, burned, thawed, archived, published⟩ :=
    terminateLease_steps run
  obtain rfl := thawLeaseAsset_unnamed (unnamed lease found) thawed
  exact (sameFreezes bounty (by simp)).trans ((sameFreezes burned (by simp)).trans
    ((sameFreezes archived (by simp)).trans (sameFreezes published (by simp))))

theorem executeEarlyTermination_sameFreezes {caller : Address} {result : Unit}
    (run : Commits (executeEarlyTermination env leaseId caller) world result after)
    (unnamed : ∀ lease, world.leases.lookup leaseId = some lease → lease.asset = (none, none)) :
    world.assets.SameFreezes after.assets := by
  simp only [executeEarlyTermination, closeEarlyTermination, commits_bind] at run
  obtain ⟨lease, w1, admitted, _, w2, paid, _, w3, sent, _, w4, recorded, _, w5, resized, _, w6,
    thawed, _, w7, archived, _, w8, read, _, w9, announced, published⟩ := run
  have found := (admitEarlyTermination_commits admitted).1
  obtain rfl := thawLeaseAsset_unnamed (unnamed lease found) thawed
  have start := (sameFreezes admitted (by simp)).trans ((sameFreezes paid (by simp)).trans
    ((sameFreezes sent (by simp)).trans ((sameFreezes recorded (by simp)).trans
      (sameFreezes resized (by simp)))))
  have finish := (sameFreezes archived (by simp)).trans ((sameFreezes read (by simp)).trans
    ((sameFreezes announced (by simp)).trans (sameFreezes published (by simp))))
  exact start.trans finish

/-- No stored record names an asset. -/
def World.Unnamed (world : World) : Prop :=
  ∀ leaseId lease, world.leases.lookup leaseId = some lease → lease.asset = (none, none)

/-- A call records the freeze it makes and changes no other. -/
theorem dispatch_freezes (run : Commits (dispatch env call) world () after)
    (unnamed : world.Unnamed) :
    (call.freezes = none → world.assets.SameFreezes after.assets) ∧
      ∀ key, call.freezes = some key → world.assets.Froze key after.assets := by
  cases call with
  | createLeaseInstance leaseId landlord params =>
      obtain ⟨idle, froze⟩ := createLeaseInstance_froze run
      simp only [Call.freezes, Option.map_eq_none_iff, Option.map_eq_some_iff]
      refine ⟨idle, ?_⟩
      rintro _ ⟨asset, named, rfl⟩
      exact froze asset named
  | terminateLease leaseId caller =>
      exact ⟨fun _ => terminateLease_sameFreezes run (unnamed leaseId), by nofun⟩
  | executeEarlyTermination leaseId caller =>
      exact ⟨fun _ => executeEarlyTermination_sameFreezes run (unnamed leaseId), by nofun⟩
  | _ =>
      refine ⟨fun _ => sameFreezes run ?_, by nofun⟩
      exact (dispatch_writes env _).mono (by simp)

/-! ## Ends of a lease -/

theorem dispatch_runs (run : Commits (dispatch env call) world () after)
    (found : world.leases.lookup leaseId = some lease) (running : lease.status ≠ .terminated)
    (spared : call.ends env world ≠ some leaseId) :
    ∃ next, after.leases.lookup leaseId = some next ∧ next.status ≠ .terminated := by
  have movement := (dispatch_effect run).movement
  by_cases subject : call.subject env = some leaseId
  · cases movement with
    | still silent => cases silent.symm.trans subject
    | opened opening moved =>
        obtain rfl := Option.some.inj (opening.subject.symm.trans subject)
        cases opening with
        | proposed fresh => cases fresh.symm.trans found
        | billed => exact absurd rfl spared
    | changed held change moved =>
        obtain rfl := Option.some.inj (change.subject.symm.trans subject)
        obtain rfl := Option.some.inj (found.symm.trans held)
        cases change with
        | amended _ terms => exact ⟨_, moved.lookup_self, terms.status.symm ▸ running⟩
        | boughtOut =>
            have removes := (payLeaseInstanceRent_removes_iff run).mpr moved.lookup_self
            exact absurd (if_pos removes) spared
        | disputed | fallbackDisputed => exact ⟨_, moved.lookup_self, nofun⟩
        | settled | slashed | deployed | withdrawn => exact ⟨_, moved.lookup_self, running⟩
        | _ => exact absurd rfl spared
  · exact ⟨lease, (movement.frame subject).trans found, running⟩

/-- A lease that a call ends is terminated or gone, unless another lease takes its id. -/
theorem dispatch_ends (run : Commits (dispatch env call) world () after)
    (found : world.leases.lookup leaseId = some lease)
    (ends : call.ends env world = some leaseId) (keeps : call.creates env ≠ some leaseId)
    (stored : after.leases.lookup leaseId = some next) : next.status = .terminated := by
  have removed (removes : call.removes world = some leaseId) : next.status = .terminated := by
    cases stored.symm.trans ((dispatch_removes_iff run found).mpr removes)
  have movement := (dispatch_effect run).movement
  cases call with
  | createLeaseWithContinuousBilling => exact absurd ends keeps
  | concludeLease | resolveDispute | mutualDepositRelease | reclaim =>
      obtain rfl := Option.some.inj ends
      cases movement with
      | still silent => cases silent
      | opened opening => cases opening
      | changed held change moved =>
          cases change with
          | amended amends => cases amends
          | _ =>
              rw [moved.lookup_self] at stored
              cases stored
              rfl
  | _ => exact removed ends

/-! ## Released assets -/

/-- The records of the freezes and the book agree, and no stored record names an asset. -/
structure FreezeSound (world : World) (book : FreezeBook) : Prop where
  unnamed : world.Unnamed
  frozenAsset : ∀ key, world.assets.frozenAsset key = book.outstanding key
  assetFreezeProof : ∀ key, (world.assets.assetFreezeProof key).isSome = book.outstanding key

theorem World.asksThaw_of_unnamed (unnamed : world.Unnamed) : world.asksThaw leaseId = none := by
  cases found : world.leases.lookup leaseId with
  | none => simp [asksThaw, found]
  | some lease => simp [asksThaw, found, unnamed leaseId lease found]

/-- Where no record names an asset, the book gains the freeze of the call and loses none. -/
theorem bookFreeze_outstanding (unnamed : world.Unnamed) :
    (bookFreeze env world call book).outstanding = mark call.freezes true book.outstanding := by
  cases call with
  | terminateLease | executeEarlyTermination =>
      rw [bookFreeze, World.asksThaw_of_unnamed unnamed]
      rfl
  | _ => rfl

theorem FreezeSound.thawed_iff {key : FreezeKey} (sound : FreezeSound world book) :
    ¬ world.Thawed key book ↔ world.assets.frozenAsset key = true := by
  have proven := sound.assetFreezeProof key
  have recorded := sound.frozenAsset key
  constructor
  · intro kept
    by_contra thawed
    have thawed := Bool.eq_false_iff.mpr thawed
    have asked := recorded.symm.trans thawed
    exact kept ⟨thawed, Option.not_isSome_iff_eq_none.mp (by simp [proven, asked]), asked⟩
  · intro frozen thawed
    cases frozen.symm.trans thawed.frozenAsset

theorem FreezeSound.kept (sound : FreezeSound world book)
    (run : Commits (dispatch env call) world () after) :
    FreezeSound after (bookFreeze env world call book) := by
  have outstanding := @bookFreeze_outstanding env world call book sound.unnamed
  obtain ⟨idle, froze⟩ := dispatch_freezes run sound.unnamed
  refine ⟨fun leaseId next stored => ?_, fun key => ?_, fun key => ?_⟩
  · by_cases creates : call.creates env = some leaseId
    · obtain ⟨opened, found, _, unnamed, _⟩ := dispatch_opens run creates
      obtain rfl := Option.some.inj (stored.symm.trans found)
      exact unnamed
    · obtain ⟨lease, found⟩ := dispatch_appears run stored creates
      rw [(dispatch_rebooks run creates found stored).1]
      exact sound.unnamed leaseId lease found
  · rw [outstanding]
    cases freezes : call.freezes with
    | none => rw [(idle freezes).frozenAsset, sound.frozenAsset key, mark]
    | some frozen => rw [(froze frozen freezes).frozenAsset, funext sound.frozenAsset, mark]
  · rw [outstanding]
    cases freezes : call.freezes with
    | none => rw [(idle freezes).assetFreezeProof, sound.assetFreezeProof key, mark]
    | some frozen =>
        obtain ⟨proof, stored⟩ := (froze frozen freezes).assetFreezeProof
        rw [stored, mark]
        by_cases same : key = frozen
        · rw [same, Function.update_self, Function.update_self]
          rfl
        · rw [Function.update_of_ne same, Function.update_of_ne same]
          exact sound.assetFreezeProof key

theorem bookFreeze_owned (keeps : call.creates env ≠ some leaseId) :
    (bookFreeze env world call book).owned leaseId = book.owned leaseId := by
  cases call with
  | createLeaseInstance | createLeaseWithContinuousBilling =>
      exact Function.update_of_ne (fun same => keeps (congrArg some same.symm)) ..
  | _ => rfl

theorem FreezeSound.frozen_iff {key : FreezeKey} (sound : FreezeSound world book)
    (run : Commits (dispatch env call) world () after) :
    after.assets.frozenAsset key = true ↔
      call.freezes = some key ∨ world.assets.frozenAsset key = true := by
  obtain ⟨idle, froze⟩ := dispatch_freezes run sound.unnamed
  cases freezes : call.freezes with
  | none => simp [(idle freezes).frozenAsset]
  | some frozen =>
      rw [(froze frozen freezes).frozenAsset]
      by_cases same : key = frozen
      · simp [same]
      · simp [Function.update_of_ne same, Ne.symm same]

theorem released_of_freezes {registryAddress : Address} {assetId : U128}
    (run : Commits (dispatch env call) world () after)
    (freezes : call.freezes = some (leaseId, registryAddress, assetId)) :
    (bookFreeze env world call book).owned leaseId = some (registryAddress, assetId) ∧
      ∃ lease, after.leases.lookup leaseId = some lease ∧ lease.status ≠ .terminated := by
  cases call with
  | createLeaseInstance other landlord params =>
      obtain ⟨asset, named, same⟩ := Option.map_eq_some_iff.mp freezes
      cases same
      obtain ⟨next, stored, _, _, running⟩ := dispatch_opens run rfl
      refine ⟨?_, next, stored, running⟩
      rw [bookFreeze, FreezeBook.freeze_owned, named]
  | _ => cases freezes

/-- A committed call leaves the freezes released exactly when it ends no lease with a frozen
asset. -/
theorem dispatch_released_iff (run : Commits (dispatch env call) world () after)
    (sound : FreezeSound world book) (released : world.FreezesReleased book) :
    after.FreezesReleased (bookFreeze env world call book) ↔ ¬ call.LeavesFrozen env world := by
  have later := sound.kept run
  constructor
  · rintro held ⟨leaseId, registryAddress, assetId, ends, frozen⟩
    have before := released leaseId registryAddress assetId (sound.thawed_iff.mpr frozen)
    obtain ⟨_, lease, found, running⟩ := before
    have still := (sound.frozen_iff run).mpr (.inr frozen)
    obtain ⟨owned, next, stored, runs⟩ := held _ _ _ (later.thawed_iff.mpr still)
    by_cases creates : call.creates env = some leaseId
    · cases call with
      | createLeaseInstance => cases ends
      | createLeaseWithContinuousBilling =>
          obtain rfl := Option.some.inj creates
          rw [bookFreeze, FreezeBook.freeze_owned] at owned
          cases owned
      | _ => cases creates
    · exact runs (dispatch_ends run found ends creates stored)
  · intro spared leaseId registryAddress assetId kept
    have frozen := later.thawed_iff.mp kept
    rcases (sound.frozen_iff run).mp frozen with freezes | before
    · exact released_of_freezes run freezes
    · obtain ⟨owned, lease, found, running⟩ := released _ _ _ (sound.thawed_iff.mpr before)
      have aside : call.ends env world ≠ some leaseId :=
        fun ends => spared ⟨leaseId, registryAddress, assetId, ends, before⟩
      have keeps : call.creates env ≠ some leaseId := by
        intro creates
        cases call with
        | createLeaseInstance =>
            obtain rfl := Option.some.inj creates
            cases (createLeaseInstance_commits run).1.symm.trans found
        | createLeaseWithContinuousBilling => exact aside creates
        | _ => cases creates
      exact ⟨(bookFreeze_owned keeps).trans owned, dispatch_runs run found running aside⟩

end Steps

/-- Nothing is frozen. -/
def FreezeBook.empty : FreezeBook :=
  ⟨fun _ => false, fun _ => none⟩

/-- From a new deployment, every asset that is not thawed belongs to a running lease in every
state of a run exactly when no call of the run that goes through ends a lease with a frozen
asset. -/
theorem freezes_released_iff (config : ConfigStore) (billing : BillingStore)
    (securityCouncil : Option SecurityCouncil) (calls : List Invocation) :
    Run.MeetsAlong (bookedStep bookFreeze)
        (fun call state => (bookedStep bookFreeze call state).1.FreezesReleased
          (bookedStep bookFreeze call state).2) calls
        (World.genesis config billing securityCouncil, .empty) ↔
      Run.MeetsAlong step (fun invocation world => invocation.Committed world →
        ¬ invocation.call.LeavesFrozen invocation.env world) calls
        (World.genesis config billing securityCouncil) := by
  refine @booked_along_iff _ bookFreeze _ _ FreezeSound World.FreezesReleased
    (fun env world call => call.LeavesFrozen env world)
    (fun env call world after book run sound => sound.kept run)
    (fun env call world after book run sound => dispatch_released_iff run sound)
    calls ⟨?_, fun _ => rfl, fun _ => rfl⟩ ?_
  · intro leaseId lease found
    cases found
  · intro leaseId registryAddress assetId kept
    exact absurd ⟨rfl, rfl, rfl⟩ kept

/-! ## An asset that stays frozen -/

/-- A new deployment that trusts registry 6. -/
def registryWorld : World :=
  World.genesis { openSettings with whitelistedRegistry := fun _ => true } openBilling none

/-- Landlord 1 proposes lease 7 on asset 40 of registry 6. -/
def proposeAsset : Invocation :=
  callAt 0 (.createLeaseInstance 7 ⟨1⟩ { sampleProposal 200 50 with
    assetRegistryAddress := some ⟨6⟩
    assetId := some 40 })

/-- Neither the conclusion of the lease nor its early termination thaws the asset. -/
theorem terminated_asset_frozen :
    ¬ Run.MeetsAlong (bookedStep bookFreeze)
        (fun call state => (bookedStep bookFreeze call state).1.FreezesReleased
          (bookedStep bookFreeze call state).2)
        [proposeAsset, callAt 60 (.concludeLease 7 ⟨1⟩ 0)] (registryWorld, .empty) ∧
      ¬ Run.MeetsAlong (bookedStep bookFreeze)
        (fun call state => (bookedStep bookFreeze call state).1.FreezesReleased
          (bookedStep bookFreeze call state).2)
        [proposeAsset, callAt 100001 (.executeEarlyTermination 7 ⟨2⟩)] (registryWorld, .empty) := by
  refine ⟨?_, ?_⟩
  · rintro ⟨_, released, _⟩
    have frozen := released 7 ⟨6⟩ 40 fun thawed => absurd thawed.frozenAsset (by decide)
    obtain ⟨_, lease, stored, running⟩ := frozen
    cases stored
    exact running rfl
  · rintro ⟨_, released, _⟩
    have frozen := released 7 ⟨6⟩ 40 fun thawed => absurd thawed.frozenAsset (by decide)
    obtain ⟨_, lease, stored, _⟩ := frozen
    cases stored

end LeaseFlow
