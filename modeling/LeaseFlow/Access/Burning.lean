import LeaseFlow.Access.Exposure

/-!
# Burning a hierarchy

A burn walks the hierarchy below a token and revokes every token it meets.  It goes through
exactly when the walk ends at stored tokens only and the number of its visits fits the counter.
-/

set_option autoImplicit false

namespace LeaseFlow.Access

open Transaction Failure

/-- The ids listed below a token, if it is stored. -/
def DerivedStore.children (store : DerivedStore) (tokenId : U128) : Option (List U128) :=
  (store.derivedToken.lookup tokenId).map DerivedAccessToken.childTokens

/-- The visits a walk down from a token makes: none if it meets a token that is not stored, or
does not end within the levels. -/
def hierarchyVisits (children : U128 → Option (List U128)) : Nat → U128 → Option Nat
  | 0, _ => none
  | levels + 1, tokenId => do
      let childIds ← children tokenId
      let visits ← childIds.mapM (hierarchyVisits children levels)
      pure (visits.sum + 1)

/-- The tokens a burn would revoke. -/
def DerivedStore.hierarchySize (store : DerivedStore) (rootTokenId : U128) : Option Nat :=
  hierarchyVisits store.children (store.derivedToken.entries.length + 1) rootTokenId

section Burning

variable {env : Env} {reason : RevocationReason} {before after : Tenancy} {tokenId : U128}
  {token : DerivedAccessToken} {levels : Nat} {counts burned : U32 × U32}

theorem DerivedStore.put_children {store : DerivedStore} {next : DerivedAccessToken}
    (stored : store.derivedToken.lookup tokenId = some token)
    (same : next.childTokens = token.childTokens) :
    (store.put tokenId next).children = store.children := by
  funext other
  by_cases here : other = tokenId
  · subst here
    simp [children, put, stored, same]
  · simp [children, put, Table.lookup_set_ne _ _ here]

theorem recursiveBurnInternal_commits_iff :
    Commits (recursiveBurnInternal env reason (levels + 1) tokenId counts) before burned after ↔
      ∃ token below middle, before.derived.derivedToken.lookup tokenId = some token ∧
        Commits (token.childTokens.foldlM
          (fun counts childId => recursiveBurnInternal env reason levels childId counts)
          (counts.1, max counts.2 token.hierarchyDepth)) before below middle ∧
        below.1 + 1 ≤ u32Max ∧ burned = (below.1 + 1, below.2) ∧
        after = { middle with
          derived := middle.derived.put tokenId (token.burned reason env.timestamp) } := by
  obtain ⟨first, second⟩ := counts
  simp only [recursiveBurnInternal, commits_bind, commits_getDerivedToken, commits_updateDerived,
    commits_checkedUpTo, commits_pure, Prod.exists]
  constructor
  · rintro ⟨token, _, ⟨stored, rfl⟩, visited, deepest, middle, below, _, _, rfl, _, _,
      ⟨counted, rfl, rfl⟩, rfl, rfl⟩
    exact ⟨token, visited, deepest, middle, stored, below, counted, rfl, rfl⟩
  · rintro ⟨token, visited, deepest, middle, stored, below, counted, rfl, rfl⟩
    exact ⟨token, _, ⟨stored, rfl⟩, visited, deepest, middle, below, (), _, rfl, _, _,
      ⟨counted, rfl, rfl⟩, rfl, rfl⟩

/-- What a visit of the given token counts and keeps. -/
def Counts (levels : Nat) (tokenId : U128) (counts burned : U32 × U32) (before after : Tenancy) :
    Prop :=
  ∃ visits, hierarchyVisits before.derived.children levels tokenId = some visits ∧
    burned.1 = counts.1 + visits ∧ after.derived.children = before.derived.children

theorem foldlM_visits {childIds : List U128}
    (each : ∀ childId counts before burned after,
      Commits (recursiveBurnInternal env reason levels childId counts) before burned after →
      Counts levels childId counts burned before after)
    (run : Commits (childIds.foldlM
      (fun counts childId => recursiveBurnInternal env reason levels childId counts) counts)
      before burned after) :
    ∃ visits, childIds.mapM (hierarchyVisits before.derived.children levels) = some visits ∧
      burned.1 = counts.1 + visits.sum ∧
      after.derived.children = before.derived.children := by
  induction childIds generalizing counts before with
  | nil =>
      obtain ⟨rfl, rfl⟩ := (commits_pure _ _).mp run
      exact ⟨[], rfl, rfl, rfl⟩
  | cons childId rest ih =>
      rw [List.foldlM_cons, commits_bind] at run
      obtain ⟨one, middle, first, later⟩ := run
      obtain ⟨visits, walked, counted, same⟩ := each childId counts before one middle first
      obtain ⟨others, walkedRest, countedRest, sameRest⟩ := ih later
      rw [same] at walkedRest sameRest
      refine ⟨visits :: others, ?_, ?_, sameRest⟩
      · rw [List.mapM_cons, walked, walkedRest]
        rfl
      · rw [countedRest, counted, List.sum_cons, Nat.add_assoc]

/-- A visit that goes through counts the visits of its hierarchy, whose lists stay as they are. -/
theorem recursiveBurnInternal_visits
    (run : Commits (recursiveBurnInternal env reason levels tokenId counts) before burned after) :
    Counts levels tokenId counts burned before after := by
  induction levels generalizing tokenId counts before burned after with
  | zero => exact absurd run (commits_throw _ _)
  | succ levels ih =>
      obtain ⟨token, below, middle, stored, walk, counted, rfl, rfl⟩ :=
        recursiveBurnInternal_commits_iff.mp run
      obtain ⟨visits, walked, total, same⟩ := foldlM_visits (fun _ _ _ _ _ => ih) walk
      have listed : before.derived.children tokenId = some token.childTokens := by
        rw [DerivedStore.children, stored]
        rfl
      have kept : middle.derived.children tokenId = some token.childTokens := by
        rw [same, listed]
      refine ⟨visits.sum + 1, ?_, ?_, ?_⟩
      · rw [hierarchyVisits, listed]
        simp only [Option.bind_eq_bind, Option.bind_some, walked]
        rfl
      · rw [total, Nat.add_assoc]
      · obtain ⟨current, present, same'⟩ := Option.map_eq_some_iff.mp kept
        have kept : (middle.derived.put tokenId (token.burned reason env.timestamp)).children =
            middle.derived.children := DerivedStore.put_children present same'.symm
        exact kept.trans same

theorem foldlM_goes {childIds : List U128} {visits : List Nat}
    (each : ∀ childId counts before visits,
      hierarchyVisits before.derived.children levels childId = some visits →
      counts.1 + visits ≤ u32Max → ∃ burned after,
        Commits (recursiveBurnInternal env reason levels childId counts) before burned after)
    (walked : childIds.mapM (hierarchyVisits before.derived.children levels) = some visits)
    (counted : counts.1 + visits.sum ≤ u32Max) :
    ∃ burned after, Commits (childIds.foldlM
      (fun counts childId => recursiveBurnInternal env reason levels childId counts) counts)
      before burned after := by
  induction childIds generalizing counts before visits with
  | nil => exact ⟨counts, before, (commits_pure _ _).mpr ⟨rfl, rfl⟩⟩
  | cons childId rest ih =>
      simp only [List.mapM_cons, Option.bind_eq_bind, Option.bind_eq_some_iff, Option.pure_def,
        Option.some.injEq] at walked
      obtain ⟨one, first, others, later, rfl⟩ := walked
      rw [List.sum_cons] at counted
      have fits : counts.1 + one ≤ u32Max :=
        Nat.le_trans (Nat.add_le_add_left (Nat.le_add_right one _) _) counted
      obtain ⟨burned, middle, run⟩ := each childId counts before one first fits
      obtain ⟨again, same, total, kept⟩ := recursiveBurnInternal_visits run
      obtain rfl := Option.some.inj (first.symm.trans same)
      rw [← kept] at later
      rw [← Nat.add_assoc, ← total] at counted
      obtain ⟨all, after, rest⟩ := ih later counted
      refine ⟨all, after, ?_⟩
      rw [List.foldlM_cons, commits_bind]
      exact ⟨burned, middle, run, rest⟩

theorem recursiveBurnInternal_goes {visits : Nat}
    (walked : hierarchyVisits before.derived.children levels tokenId = some visits)
    (counted : counts.1 + visits ≤ u32Max) :
    ∃ burned after, Commits (recursiveBurnInternal env reason levels tokenId counts) before burned
      after := by
  induction levels generalizing tokenId counts before visits with
  | zero => cases walked
  | succ levels ih =>
      simp only [hierarchyVisits, Option.bind_eq_bind, Option.bind_eq_some_iff, Option.pure_def,
        Option.some.injEq] at walked
      obtain ⟨childIds, listed, others, below, rfl⟩ := walked
      obtain ⟨token, stored, rfl⟩ := Option.map_eq_some_iff.mp listed
      obtain ⟨burned, middle, walk⟩ := @foldlM_goes env reason before levels
        (counts.1, max counts.2 token.hierarchyDepth) token.childTokens others
        (fun _ _ _ _ => ih) below (Nat.le_of_succ_le counted)
      obtain ⟨again, same, total, _⟩ :=
        foldlM_visits (fun _ _ _ _ _ => recursiveBurnInternal_visits) walk
      obtain rfl := Option.some.inj (below.symm.trans same)
      refine ⟨_, _, recursiveBurnInternal_commits_iff.mpr ⟨token, burned, middle, stored, walk,
        ?_, rfl, rfl⟩⟩
      rw [total, Nat.add_assoc]
      exact counted

/-! ## Burns -/

theorem recursiveBurnHierarchy_commits_iff {rootTokenId : U128} {result : U32} :
    Commits (recursiveBurnHierarchy env rootTokenId reason) before result after ↔
      ∃ root burned middle, before.derived.derivedToken.lookup rootTokenId = some root ∧
        Commits (recursiveBurnInternal env reason
          (before.derived.derivedToken.entries.length + 1) rootTokenId (0, 0)) before burned
          middle ∧
        result = burned.1 ∧ after = { middle with
          notices := .derivedHierarchyBurned rootTokenId root.rootLeaseId reason burned.1 burned.2
            env.timestamp :: middle.notices } := by
  simp only [recursiveBurnHierarchy, commits_bind, commits_getDerivedToken, commits_inspect,
    commits_announce, commits_pure, Prod.exists]
  constructor
  · rintro ⟨root, _, ⟨stored, rfl⟩, _, _, ⟨rfl, rfl⟩, visits, deepest, middle, run, _, _, rfl,
      same, rfl⟩
    exact ⟨root, visits, deepest, middle, stored, run, same, rfl⟩
  · rintro ⟨root, visits, deepest, middle, stored, run, same, rfl⟩
    exact ⟨root, _, ⟨stored, rfl⟩, _, _, ⟨rfl, rfl⟩, visits, deepest, middle, run, (), _, rfl,
      same, rfl⟩

theorem recursiveBurnInternal_revokes
    (run : Commits (recursiveBurnInternal env reason levels tokenId counts) before burned after) :
    (after.derived.derivedToken.lookup tokenId).map DerivedAccessToken.revokedAt =
      some (some env.timestamp) := by
  cases levels with
  | zero => exact absurd run (commits_throw _ _)
  | succ levels =>
      obtain ⟨token, below, middle, _, _, _, _, rfl⟩ := recursiveBurnInternal_commits_iff.mp run
      simp [DerivedStore.put, DerivedAccessToken.burned]

theorem exposed_burn_iff {rootTokenId : U128} :
    before.Exposed (.burnDerivedTokenHierarchy rootTokenId) ↔
      ∃ env result after, Commits (recursiveBurnHierarchy env rootTokenId .leaseTerminated) before
        result after ∧ before.Alters after := by
  simp only [Tenancy.Exposed, Operation.body, commits_raising, commits_forget]
  constructor
  · rintro ⟨env, after, ⟨result, run⟩, alters⟩
    exact ⟨env, result, after, run, alters⟩
  · rintro ⟨env, result, after, run, alters⟩
    exact ⟨env, after, ⟨result, run⟩, alters⟩

/-- A burn changes something exactly when the tokens of the hierarchy can be visited and
counted. -/
theorem burn_exposed_iff {rootTokenId : U128} :
    before.Exposed (.burnDerivedTokenHierarchy rootTokenId) ↔
      ∃ visits, before.derived.hierarchySize rootTokenId = some visits ∧ visits ≤ u32Max := by
  rw [exposed_burn_iff]
  constructor
  · rintro ⟨env, result, after, run, _⟩
    obtain ⟨root, burned, middle, _, walk, _⟩ := recursiveBurnHierarchy_commits_iff.mp run
    obtain ⟨visits, walked, total, _⟩ := recursiveBurnInternal_visits walk
    obtain ⟨_, below, _, _, _, counted, rfl, _⟩ := recursiveBurnInternal_commits_iff.mp walk
    refine ⟨visits, walked, ?_⟩
    rw [← Nat.zero_add visits, ← total]
    exact counted
  · rintro ⟨visits, walked, counted⟩
    -- a revocation is stamped with the ledger time, so some ledger stores another one
    let timestamp := (((before.derived.derivedToken.lookup rootTokenId).bind
      DerivedAccessToken.revokedAt).map (· + 1)).getD 0
    obtain ⟨burned, middle, walk⟩ := @recursiveBurnInternal_goes (unsignedLedger timestamp)
      .leaseTerminated before rootTokenId _ (0, 0) visits walked (by rwa [Nat.zero_add])
    have revoked := recursiveBurnInternal_revokes walk
    obtain ⟨root, _, _, stored, _⟩ := recursiveBurnInternal_commits_iff.mp walk
    refine ⟨_, _, _, recursiveBurnHierarchy_commits_iff.mpr
      ⟨root, burned, middle, stored, walk, rfl, rfl⟩, .inr (.inr ⟨rootTokenId, fun same => ?_⟩)⟩
    change middle.derived.derivedToken.lookup rootTokenId = _ at same
    rw [same, stored, Option.map_some, Option.some.injEq] at revoked
    cases previous : root.revokedAt with
    | none =>
        rw [previous] at revoked
        cases revoked
    | some earlier =>
        have later : timestamp = earlier + 1 := by simp [timestamp, stored, previous]
        rw [previous] at revoked
        have again : earlier = timestamp := Option.some.inj revoked
        exact Nat.succ_ne_self earlier (later.symm.trans again.symm)

end Burning

end LeaseFlow.Access
