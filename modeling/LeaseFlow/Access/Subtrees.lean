import LeaseFlow.Access.Cascade
import LeaseFlow.Foundations.Descent
import Mathlib.Data.Finset.Card

/-!
# Burning a subtree

Where the lists of children make a forest, the walk of a burn meets every token of the subtree of
its root once and no other, and has enough levels for it.
-/

set_option autoImplicit false

namespace LeaseFlow.Access

open Transaction Failure Descent

/-! ## Walks and visits -/

section Walks

variable {children : U128 → Option (List U128)} {levels : Nat} {tokenId : U128}
  {nodes : List U128}

theorem mapM_visits {childIds : List U128} {walks : List (List U128)}
    (each : ∀ childId nodes, walk children levels childId = some nodes →
      hierarchyVisits children levels childId = some nodes.length)
    (walked : childIds.mapM (walk children levels) = some walks) :
    childIds.mapM (hierarchyVisits children levels) = some (walks.map List.length) := by
  induction childIds generalizing walks with
  | nil =>
      rw [mapM_nil_eq_some.mp walked]
      rfl
  | cons childId rest ih =>
      obtain ⟨first, later, one, others, rfl⟩ := mapM_cons_eq_some.mp walked
      rw [List.mapM_cons, each childId first one, ih others]
      rfl

theorem visits_of_walk (walked : walk children levels tokenId = some nodes) :
    hierarchyVisits children levels tokenId = some nodes.length := by
  induction levels generalizing tokenId nodes with
  | zero => cases walked
  | succ levels ih =>
      obtain ⟨below, walks, listed, each, rfl⟩ := walk_succ_eq_some.mp walked
      rw [hierarchyVisits, listed, Option.bind_eq_bind, Option.bind_some,
        mapM_visits (fun childId nodes one => ih one) each, List.length_append,
        List.length_flatten]
      rfl

end Walks

/-! ## Burns of a forest -/

/-- The indexes of the derived tokens. -/
def Tenancy.derivedIndexes (tenancy : Tenancy) : DerivedStore :=
  { tenancy.derived with derivedToken := ∅ }

/-- The given tokens are burned, and neither another token nor an index nor anything beside the
derived tokens is changed. -/
structure Tenancy.BurnsOnly (reason : RevocationReason) (now : U64) (among : U128 → Prop)
    (before after : Tenancy) : Prop where
  tokens : DerivedStore.Burns reason now among before.derived after.derived
  indexes : after.derivedIndexes = before.derivedIndexes
  registered : after.registered = before.registered

section Forests

variable {env : Env} {reason : RevocationReason} {before after : Tenancy} {rootTokenId : U128}

theorem steady_derivedIndexes :
    Steady Tenancy.derivedIndexes (recursiveBurnHierarchy env rootTokenId reason) :=
  steady_recursiveBurnHierarchy_of (fun _ _ _ => rfl) (fun _ _ => rfl) rootTokenId reason

/-- There are enough levels for a walk through all stored tokens. -/
theorem DerivedStore.walk_stored {store : DerivedStore} (forest : Forest store.children)
    (stored : store.derivedToken.lookup rootTokenId ≠ none) :
    ∃ nodes, walk store.children (store.derivedToken.entries.length + 1) rootTokenId =
      some nodes := by
  apply @Forest.walk_goes _ _ rootTokenId _ forest store.derivedToken.keys []
  · intro tokenId present
    have found : store.derivedToken.lookup tokenId ≠ none :=
      fun missing => present (DerivedStore.children_eq_none_iff.mpr missing)
    exact AList.lookup_isSome.mp (Option.isSome_iff_ne_none.mpr found)
  · exact List.nodup_nil
  · exact List.forall_mem_nil _
  · have length : store.derivedToken.keys.length = store.derivedToken.entries.length :=
      List.length_map _
    rw [length, List.length_nil, Nat.zero_add]
    exact Nat.lt_succ_self _
  · exact fun missing => stored (DerivedStore.children_eq_none_iff.mp missing)

/-- The burn of a stored root whose subtree can be counted goes through, returns the number of
its tokens and burns exactly these. -/
theorem recursiveBurnHierarchy_exact (forest : Forest before.derived.children)
    (stored : before.derived.derivedToken.lookup rootTokenId ≠ none) :
    ∃ subtree : Finset U128,
      (∀ tokenId, tokenId ∈ subtree ↔ Subtree before.derived.children rootTokenId tokenId) ∧
      (subtree.card ≤ u32Max →
        ∃ after, Commits (recursiveBurnHierarchy env rootTokenId reason) before subtree.card after ∧
          before.BurnsOnly reason env.timestamp (· ∈ subtree) after) := by
  obtain ⟨nodes, walked⟩ := DerivedStore.walk_stored forest stored
  have once := forest.nodup_walk walked
  have whole := whole_of_walk walked
  refine ⟨⟨nodes, Multiset.coe_nodup.mpr once⟩, fun tokenId => mem_walk_iff walked, ?_⟩
  intro counted
  have visits := visits_of_walk walked
  have fits : ((0, 0) : U32 × U32).1 + nodes.length ≤ u32Max := by
    rw [Nat.zero_add]
    exact counted
  obtain ⟨burned, middle, run⟩ := @recursiveBurnInternal_goes env reason before rootTokenId _
    (0, 0) nodes.length visits fits
  obtain ⟨again, same, total, _⟩ := recursiveBurnInternal_visits run
  have all : burned.1 = nodes.length := by
    rw [visits] at same
    rw [total, ← Option.some.inj same, Nat.zero_add]
  obtain ⟨root, found⟩ := Option.ne_none_iff_exists'.mp stored
  have ran := recursiveBurnHierarchy_commits_iff.mpr ⟨root, burned, middle, found, run, rfl, rfl⟩
  have burns := (@recursiveBurnHierarchy_burns _ _ _ _ true _ ⟨_, ran⟩).2
  rw [all] at ran
  refine ⟨_, ran, ?_⟩
  constructor
  · rw [← all]
    apply burns.congr
    intro tokenId
    exact whole.visits_iff_subtree.trans (mem_walk_iff walked).symm
  · exact steady_derivedIndexes.keeps ran
  · exact (steady_recursiveBurnHierarchy rootTokenId reason).keeps ran

end Forests

/-! ## A token with one below it -/

theorem twinStore_children {tokenId : U128} {below : List U128}
    (listed : twinStore.children tokenId = some below) :
    (tokenId = letTokenId ∧ below = [90]) ∨ (tokenId = 90 ∧ below = []) := by
  obtain ⟨token, stored, rfl⟩ := Option.map_eq_some_iff.mp listed
  rcases twinStore_lookup.mp stored with ⟨rfl, rfl⟩ | ⟨rfl, rfl⟩
  · exact .inl ⟨rfl, rfl⟩
  · exact .inr ⟨rfl, rfl⟩

theorem twinStore_lists {tokenId childId : U128} (lists : Lists twinStore.children tokenId childId) :
    tokenId = letTokenId ∧ childId = 90 := by
  obtain ⟨below, listed, within⟩ := lists
  rcases twinStore_children listed with ⟨rfl, rfl⟩ | ⟨_, rfl⟩
  · exact ⟨rfl, List.mem_singleton.mp within⟩
  · exact absurd within List.not_mem_nil

theorem twinStore_forest : Forest twinStore.children where
  closed := twinStore_linked.closed
  once tokenId below listed := by
    rcases twinStore_children listed with ⟨_, rfl⟩ | ⟨_, rfl⟩ <;> decide
  apart first second child one two :=
    (twinStore_lists one).1.trans (twinStore_lists two).1.symm
  acyclic := by
    apply acyclic_of_rank fun tokenId => if tokenId = letTokenId then 0 else 1
    intro tokenId childId lists
    obtain ⟨rfl, rfl⟩ := twinStore_lists lists
    decide

/-- Burning the token at the lease's id burns the bedroom below it. -/
theorem twin_burn_exact : ∃ subtree : Finset U128,
    (∀ tokenId, tokenId ∈ subtree ↔ Subtree twinStore.children letTokenId tokenId) ∧
    (subtree.card ≤ u32Max →
      ∃ after, Commits (recursiveBurnHierarchy (openLedger 65 0) letTokenId .courtOrder)
          (settledWith twinStore) subtree.card after ∧
        (settledWith twinStore).BurnsOnly .courtOrder (openLedger 65 0).timestamp (· ∈ subtree)
          after) := by
  have stored : (settledWith twinStore).derived.derivedToken.lookup letTokenId ≠ none := by
    have found := twinStore_lookup.mpr (.inl ⟨rfl, rfl⟩)
    exact Option.ne_none_iff_exists'.mpr ⟨twin, found⟩
  exact recursiveBurnHierarchy_exact twinStore_forest stored

end LeaseFlow.Access
