import LeaseFlow.Access.DerivedTokens

/-!
# What the calls on derived tokens ask for and leave

A mint, a transfer and a change of zone each go through exactly where a condition on the store
holds, and each leaves one known store.
-/

set_option autoImplicit false

namespace LeaseFlow.Access

open Transaction Failure

/-! ## What lets a call through -/

/-- The token may be taken from the sublessee. -/
structure Transferable (env : Env) (fromSublessee : Address) (token : DerivedAccessToken) :
    Prop where
  transferable : token.transferable = true
  unrevoked : token.revoked = false
  unexpired : env.timestamp ≤ token.expirationTimestamp
  held : token.sublessee = fromSublessee
  counted : token.transferCount + 1 ≤ u32Max

/-- The token may go to the zone. -/
structure Rezonable (env : Env) (newZone : SpatialZone) (token : DerivedAccessToken) : Prop where
  unrevoked : token.revoked = false
  zone : newZone.isValid = true
  unexpired : env.timestamp ≤ token.expirationTimestamp

/-- The token that a mint stores. -/
def DerivedAccessToken.sublet (env : Env) (request : DerivedTokenRequest)
    (parentToken : LesseeAccessToken) (parent : DerivedAccessToken) : DerivedAccessToken :=
  .minted env request (generateUniqueDerivedTokenId env request.parentTokenId) parentToken.leaseId
    (min (request.expirationTimestamp.getD parentToken.expirationTimestamp)
      parentToken.expirationTimestamp) (parent.hierarchyDepth + 1)

/-- The store once a mint has stored its token. -/
def DerivedStore.sublet (env : Env) (request : DerivedTokenRequest)
    (parentToken : LesseeAccessToken) (parent : DerivedAccessToken) (store : DerivedStore) :
    DerivedStore :=
  store.record (generateUniqueDerivedTokenId env request.parentTokenId)
    (.sublet env request parentToken parent)

/-- A parent is stored again with its child. -/
def DerivedStore.adopt (parentTokenId childTokenId : U128) (parent : DerivedAccessToken)
    (store : DerivedStore) : DerivedStore :=
  { store.record parentTokenId
      { parent with childTokens := parent.childTokens ++ [childTokenId] } with
    parentToChildren := Listing.push parentTokenId childTokenId store.parentToChildren }

/-- The depths of the listed tokens that are stored, added up. -/
def DerivedStore.totalDepth (store : DerivedStore) (tokens : List U128) : Nat :=
  (tokens.map fun tokenId =>
    ((store.derivedToken.lookup tokenId).map DerivedAccessToken.hierarchyDepth).getD 0).sum

/-- A token may be minted below the parent, which lies in both registries.  The parent stored
again is read after the child was stored, in whose place it may lie. -/
structure Mintable (env : Env) (request : DerivedTokenRequest) (tenancy : Tenancy)
    (parentToken : LesseeAccessToken) (parent again : DerivedAccessToken) : Prop where
  found : tenancy.access.accessToken request.parentTokenId = some parentToken
  unrevoked : parentToken.revoked = false
  unexpired : env.timestamp ≤ parentToken.expirationTimestamp
  transferable : parentToken.transferable = true
  stored : tenancy.derived.derivedToken.lookup request.parentTokenId = some parent
  depth : parent.hierarchyDepth + 1 ≤ maxHierarchyDepth
  zone : request.spatialZone.isValid = true
  lasts : env.timestamp ≤
    (DerivedAccessToken.sublet env request parentToken parent).expirationTimestamp
  reread : (tenancy.derived.sublet env request parentToken parent).derivedToken.lookup
    request.parentTokenId = some again
  outlasts : env.timestamp ≤ again.expirationTimestamp
  counted : ((tenancy.derived.sublet env request parentToken parent).adopt request.parentTokenId
    (generateUniqueDerivedTokenId env request.parentTokenId) again).totalDepth
      (((tenancy.derived.sublet env request parentToken parent).adopt request.parentTokenId
        (generateUniqueDerivedTokenId env request.parentTokenId) again).leaseToDerivedTokens
          parentToken.leaseId) ≤ u32Max

section Effects

variable {env : Env} {before after : Tenancy} {store : DerivedStore} {tokenId : U128}
  {token next : DerivedAccessToken}

theorem DerivedStore.record_lookup_self :
    (store.record tokenId next).derivedToken.lookup tokenId = some next :=
  Table.lookup_set_self ..

theorem DerivedStore.record_lookup_ne {other : U128} (differs : other ≠ tokenId) :
    (store.record tokenId next).derivedToken.lookup other = store.derivedToken.lookup other :=
  Table.lookup_set_ne _ _ differs

/-! ## Transfers and zones -/

@[simp] theorem commits_storeDerivedToken (token : DerivedAccessToken) (result : Unit) :
    Commits (storeDerivedToken env tokenId token) before result after ↔
      env.timestamp ≤ token.expirationTimestamp ∧
        after = { before with derived := before.derived.record tokenId token } := by
  simp [storeDerivedToken]

theorem transferDerivedToken_commits {fromSublessee toSublessee : Address} {result : Unit}
    (run : Commits (transferDerivedToken env tokenId fromSublessee toSublessee) before result
      after) :
    ∃ token, before.derived.derivedToken.lookup tokenId = some token ∧
      Transferable env fromSublessee token ∧ after.access = before.access ∧
      after.derived =
        { before.derived.record tokenId
            { token with sublessee := toSublessee, transferCount := token.transferCount + 1 } with
          sublesseeToDerivedTokens := Listing.move tokenId fromSublessee toSublessee
            (Listing.push toSublessee tokenId before.derived.sublesseeToDerivedTokens) } := by
  simp only [transferDerivedToken, commits_bind, commits_getDerivedToken, commits_check,
    commits_checkedUpTo, commits_storeDerivedToken, commits_updateDerived, commits_announce] at run
  obtain ⟨token, _, ⟨found, rfl⟩, _, _, ⟨transferable, rfl⟩, _, _, ⟨unrevoked, rfl⟩, _, _,
    ⟨unexpired, rfl⟩, _, _, ⟨held, rfl⟩, _, _, ⟨counted, rfl, rfl⟩, _, _, ⟨_, rfl⟩, _, _, rfl,
    rfl⟩ := run
  exact ⟨token, found, ⟨transferable, unrevoked, unexpired, held, counted⟩, rfl, rfl⟩

theorem Transferable.goes {fromSublessee : Address}
    (admitted : Transferable env fromSublessee token)
    (found : before.derived.derivedToken.lookup tokenId = some token) (toSublessee : Address) :
    ∃ after,
      Commits (transferDerivedToken env tokenId fromSublessee toSublessee) before () after := by
  simp only [transferDerivedToken, commits_bind, commits_getDerivedToken, commits_check,
    commits_checkedUpTo, commits_storeDerivedToken, commits_updateDerived, commits_announce]
  exact ⟨_, token, _, ⟨found, rfl⟩, (), _, ⟨admitted.transferable, rfl⟩, (), _,
    ⟨admitted.unrevoked, rfl⟩, (), _, ⟨admitted.unexpired, rfl⟩, (), _, ⟨admitted.held, rfl⟩, _, _,
    ⟨admitted.counted, rfl, rfl⟩, (), _, ⟨admitted.unexpired, rfl⟩, (), _, rfl, rfl⟩

theorem updateSpatialZone_commits {newZone : SpatialZone} {result : Unit}
    (run : Commits (updateSpatialZone env tokenId newZone) before result after) :
    ∃ token, before.derived.derivedToken.lookup tokenId = some token ∧
      Rezonable env newZone token ∧ after.access = before.access ∧
      after.derived =
        { before.derived.record tokenId { token with spatialZone := newZone } with
          spatialZoneTokens := Listing.move tokenId (token.spatialZone.key, token.rootLeaseId)
            (newZone.key, token.rootLeaseId)
            (Listing.push (newZone.key, token.rootLeaseId) tokenId
              before.derived.spatialZoneTokens) } := by
  simp only [updateSpatialZone, validateSpatialZone, commits_bind, commits_getDerivedToken,
    commits_check, commits_storeDerivedToken, commits_updateDerived, commits_announce] at run
  obtain ⟨token, _, ⟨found, rfl⟩, _, _, ⟨unrevoked, rfl⟩, _, _, ⟨zone, rfl⟩, _, _,
    ⟨unexpired, rfl⟩, stored, _, ⟨reread, rfl⟩, _, _, rfl, rfl⟩ := run
  rw [DerivedStore.record_lookup_self] at reread
  cases reread
  exact ⟨token, found, ⟨unrevoked, zone, unexpired⟩, rfl, rfl⟩

theorem Rezonable.goes {newZone : SpatialZone} (admitted : Rezonable env newZone token)
    (found : before.derived.derivedToken.lookup tokenId = some token) :
    ∃ after, Commits (updateSpatialZone env tokenId newZone) before () after := by
  simp only [updateSpatialZone, validateSpatialZone, commits_bind, commits_getDerivedToken,
    commits_check, commits_storeDerivedToken, commits_updateDerived, commits_announce]
  exact ⟨_, token, _, ⟨found, rfl⟩, (), _, ⟨admitted.unrevoked, rfl⟩, (), _, ⟨admitted.zone, rfl⟩,
    (), _, ⟨admitted.unexpired, rfl⟩, _, _, ⟨DerivedStore.record_lookup_self, rfl⟩, (), _, rfl, rfl⟩

theorem transferDerivedToken_found {fromSublessee toSublessee : Address} {result : Unit}
    (run : Commits (transferDerivedToken env tokenId fromSublessee toSublessee) before result
      after) : before.derived.derivedToken.lookup tokenId ≠ none := by
  obtain ⟨token, found, _⟩ := transferDerivedToken_commits run
  rw [found]
  exact Option.some_ne_none _

theorem updateSpatialZone_found {newZone : SpatialZone} {result : Unit}
    (run : Commits (updateSpatialZone env tokenId newZone) before result after) :
    before.derived.derivedToken.lookup tokenId ≠ none := by
  obtain ⟨token, found, _⟩ := updateSpatialZone_commits run
  rw [found]
  exact Option.some_ne_none _

/-! ## Mints -/

theorem sumDepths_commits_iff {tokens : List U128} {totals : U32 × U32}
    (within : totals.2 ≤ u32Max) :
    (∃ result, Commits (sumDepths store tokens totals) before result after) ↔
      totals.2 + store.totalDepth tokens ≤ u32Max ∧ after = before := by
  obtain ⟨maxDepth, sum⟩ := totals
  induction tokens generalizing maxDepth sum with
  | nil =>
      simp only [sumDepths, List.foldlM_nil, commits_pure, DerivedStore.totalDepth, List.map_nil,
        List.sum_nil, Nat.add_zero]
      exact ⟨fun run => ⟨within, run.choose_spec.2⟩, fun same => ⟨_, rfl, same.2⟩⟩
  | cons tokenId rest ih =>
      have split : store.totalDepth (tokenId :: rest) =
          ((store.derivedToken.lookup tokenId).map DerivedAccessToken.hierarchyDepth).getD 0 +
            store.totalDepth rest := rfl
      rw [split]
      cases found : store.derivedToken.lookup tokenId with
      | none =>
          have skipped : sumDepths store (tokenId :: rest) (maxDepth, sum) =
              sumDepths store rest (maxDepth, sum) := by
            simp [sumDepths, found]
          rw [skipped, ih _ _ within]
          simp
      | some token =>
          have added : sumDepths store (tokenId :: rest) (maxDepth, sum) =
              checkedUpTo u32Max (sum + token.hierarchyDepth) >>= fun total =>
                sumDepths store rest (max maxDepth token.hierarchyDepth, total) := by
            simp [sumDepths, found]
          simp only [added, commits_bind, commits_checkedUpTo, Option.map_some, Option.getD_some]
          constructor
          · rintro ⟨result, _, _, ⟨fits, rfl, rfl⟩, run⟩
            have counted := (ih _ _ fits).mp ⟨result, run⟩
            rwa [Nat.add_assoc] at counted
          · rintro ⟨counted, rfl⟩
            have fits : sum + token.hierarchyDepth ≤ u32Max := by
              exact (Nat.add_le_add_left (Nat.le_add_right ..) sum).trans counted
            rw [← Nat.add_assoc] at counted
            obtain ⟨result, run⟩ :=
              (ih (max maxDepth token.hierarchyDepth) _ fits).mpr ⟨counted, rfl⟩
            exact ⟨result, _, _, ⟨fits, rfl, rfl⟩, run⟩

theorem updateHierarchyMetrics_commits {leaseId : LeaseId} {result : Unit}
    (run : Commits (updateHierarchyMetrics env leaseId) before result after) :
    before.derived.totalDepth (before.derived.leaseToDerivedTokens leaseId) ≤ u32Max ∧
      ∃ metrics, after = { before with
        derived := { before.derived with hierarchyMetrics := metrics } } := by
  simp only [updateHierarchyMetrics, commits_bind, commits_inspect, commits_updateDerived] at run
  obtain ⟨_, _, ⟨rfl, rfl⟩, counts, _, summed, rfl⟩ := run
  obtain ⟨counted, rfl⟩ := (sumDepths_commits_iff (Nat.zero_le _)).mp ⟨counts, summed⟩
  rw [Nat.zero_add] at counted
  exact ⟨counted, _, rfl⟩

theorem updateHierarchyMetrics_goes {leaseId : LeaseId}
    (counted : before.derived.totalDepth (before.derived.leaseToDerivedTokens leaseId) ≤ u32Max) :
    ∃ after, Commits (updateHierarchyMetrics env leaseId) before () after := by
  obtain ⟨counts, summed⟩ := (@sumDepths_commits_iff before before before.derived
    (before.derived.leaseToDerivedTokens leaseId) (0, 0) (Nat.zero_le _)).mpr
      ⟨(Nat.zero_add _).trans_le counted, rfl⟩
  simp only [updateHierarchyMetrics, commits_bind, commits_inspect, commits_updateDerived]
  exact ⟨_, _, _, ⟨rfl, rfl⟩, counts, _, summed, rfl⟩

theorem commits_addChildToParent_of_found {parentTokenId : U128} {result : Unit}
    (found : before.derived.derivedToken.lookup parentTokenId = some token) :
    Commits (addChildToParent env parentTokenId tokenId) before result after ↔
      env.timestamp ≤ token.expirationTimestamp ∧
        after = { before with derived := before.derived.adopt parentTokenId tokenId token } := by
  simp only [addChildToParent, commits_bind, commits_inspect]
  constructor
  · rintro ⟨_, _, ⟨rfl, rfl⟩, run⟩
    simp only [found, commits_bind, commits_storeDerivedToken, commits_updateDerived] at run
    obtain ⟨_, _, ⟨outlasts, rfl⟩, rfl⟩ := run
    exact ⟨outlasts, rfl⟩
  · rintro ⟨outlasts, rfl⟩
    refine ⟨_, _, ⟨rfl, rfl⟩, ?_⟩
    simp only [found, commits_bind, commits_storeDerivedToken, commits_updateDerived]
    exact ⟨(), _, ⟨outlasts, rfl⟩, rfl⟩

theorem DerivedStore.sublet_lookup {request : DerivedTokenRequest} {parentToken : LesseeAccessToken}
    {parent : DerivedAccessToken}
    (found : store.derivedToken.lookup request.parentTokenId = some parent) :
    ∃ again, (store.sublet env request parentToken parent).derivedToken.lookup
      request.parentTokenId = some again := by
  by_cases same : request.parentTokenId = generateUniqueDerivedTokenId env request.parentTokenId
  · exact ⟨_, by rw [DerivedStore.sublet, ← same, DerivedStore.record_lookup_self]⟩
  · exact ⟨parent, by rw [DerivedStore.sublet, DerivedStore.record_lookup_ne same, found]⟩

theorem mintDerivedAccessToken_commits {request : DerivedTokenRequest} {minted : U128}
    (run : Commits (mintDerivedAccessToken env request) before minted after) :
    ∃ parentToken parent again, Mintable env request before parentToken parent again ∧
      minted = generateUniqueDerivedTokenId env request.parentTokenId ∧
      after.access = before.access ∧ ∃ metrics, after.derived =
        { (before.derived.sublet env request parentToken parent).adopt request.parentTokenId
            (generateUniqueDerivedTokenId env request.parentTokenId) again with
          hierarchyMetrics := metrics } := by
  simp only [mintDerivedAccessToken, getTokenHierarchyDepth, getRootLeaseId, validateSpatialZone,
    commits_bind, commits_getParentToken, commits_check, commits_getDerivedToken,
    commits_checkedUpTo, commits_pure, commits_storeDerivedToken, commits_announce] at run
  obtain ⟨parentToken, _, ⟨found, rfl⟩, _, _, ⟨unrevoked, rfl⟩, _, _, ⟨unexpired, rfl⟩, _, _,
    ⟨transferable, rfl⟩, run⟩ := run
  obtain ⟨_, _, ⟨parent, _, ⟨stored, rfl⟩, rfl, rfl⟩, _, _, ⟨_, rfl, rfl⟩, _, _, ⟨depth, rfl⟩, _, _,
    ⟨_, rfl⟩, _, _, ⟨zone, rfl⟩, run⟩ := run
  -- The store with the child is put in once the rest of the run is taken apart.
  obtain ⟨_, _, ⟨root, _, ⟨same, rfl⟩, rfl, rfl⟩, _, _, ⟨lasts, recorded⟩, run⟩ := run
  obtain ⟨_, middle, adopted, _, _, counts, _, _, rfl, rfl, rfl⟩ := run
  subst recorded
  obtain rfl := Option.some.inj (found.symm.trans same)
  obtain ⟨again, reread⟩ := @DerivedStore.sublet_lookup env _ request parentToken parent stored
  obtain ⟨outlasts, rfl⟩ := (commits_addChildToParent_of_found reread).mp adopted
  obtain ⟨counted, metrics, rfl⟩ := updateHierarchyMetrics_commits counts
  exact ⟨parentToken, parent, again, ⟨found, unrevoked, unexpired, transferable, stored, depth,
    zone, lasts, reread, outlasts, counted⟩, rfl, rfl, metrics, rfl⟩

theorem Mintable.goes {request : DerivedTokenRequest} {parentToken : LesseeAccessToken}
    {parent again : DerivedAccessToken}
    (admitted : Mintable env request before parentToken parent again) :
    ∃ minted after, Commits (mintDerivedAccessToken env request) before minted after := by
  have small : parent.hierarchyDepth + 1 ≤ u32Max := admitted.depth.trans (by decide)
  have adopts (result : Unit) (after : Tenancy) :=
    @commits_addChildToParent_of_found env { before with
      derived := before.derived.sublet env request parentToken parent } after
      (generateUniqueDerivedTokenId env request.parentTokenId) again request.parentTokenId result
      admitted.reread
  obtain ⟨after, counts⟩ := @updateHierarchyMetrics_goes env { before with
    derived := (before.derived.sublet env request parentToken parent).adopt request.parentTokenId
      (generateUniqueDerivedTokenId env request.parentTokenId) again } parentToken.leaseId
      admitted.counted
  simp only [mintDerivedAccessToken, getTokenHierarchyDepth, getRootLeaseId, validateSpatialZone,
    commits_bind, commits_getParentToken, commits_check, commits_getDerivedToken,
    commits_checkedUpTo, commits_pure, commits_storeDerivedToken, commits_announce]
  exact ⟨_, _, parentToken, _, ⟨admitted.found, rfl⟩, (), _, ⟨admitted.unrevoked, rfl⟩, (), _,
    ⟨admitted.unexpired, rfl⟩, (), _, ⟨admitted.transferable, rfl⟩, _, _,
    ⟨parent, _, ⟨admitted.stored, rfl⟩, rfl, rfl⟩, _, _, ⟨small, rfl, rfl⟩, (), _,
    ⟨admitted.depth, rfl⟩, (), _, ⟨Nat.min_le_right .., rfl⟩, (), _, ⟨admitted.zone, rfl⟩, _, _,
    ⟨parentToken, _, ⟨admitted.found, rfl⟩, rfl, rfl⟩, (), _, ⟨admitted.lasts, rfl⟩, (), _,
    (adopts () _).mpr ⟨admitted.outlasts, rfl⟩, (), after, counts, (), _, rfl, rfl, rfl⟩

/-- A mint has to find its parent among the derived tokens. -/
theorem mintDerivedAccessToken_found {request : DerivedTokenRequest}
    (run : Commits (mintDerivedAccessToken env request) before tokenId after) :
    before.derived.derivedToken.lookup request.parentTokenId ≠ none := by
  obtain ⟨_, parent, _, admitted, _⟩ := mintDerivedAccessToken_commits run
  rw [admitted.stored]
  exact Option.some_ne_none _

end Effects

end LeaseFlow.Access
