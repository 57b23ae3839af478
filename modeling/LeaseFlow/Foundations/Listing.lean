import Mathlib.Data.List.Count
import Mathlib.Logic.Function.Basic

/-!
# Lists kept under keys

An inverted index holds a list of items under every key.  An item is indexed when it stands once
under its own key and under no other.
-/

set_option autoImplicit false

namespace Listing

variable {κ ι : Type} [DecidableEq κ]

/-- Append an item to the list under a key. -/
def push (key : κ) (item : ι) (lists : κ → List ι) : κ → List ι :=
  Function.update lists key (lists key ++ [item])

@[simp] theorem push_self {lists : κ → List ι} {key : κ} {item : ι} :
    push key item lists key = lists key ++ [item] :=
  Function.update_self ..

@[simp] theorem push_ne {lists : κ → List ι} {key other : κ} {item : ι} (differs : other ≠ key) :
    push key item lists other = lists other :=
  Function.update_of_ne differs _ _

theorem mem_push_iff {lists : κ → List ι} {key other : κ} {item kept : ι} :
    kept ∈ push key item lists other ↔ kept ∈ lists other ∨ (other = key ∧ kept = item) := by
  by_cases same : other = key
  · subst same
    simp
  · simp [same]

variable [DecidableEq ι]

/-- The item leaves the list under one key and goes on the list under another. -/
def move (item : ι) (source target : κ) (lists : κ → List ι) : κ → List ι :=
  push target item (Function.update lists source ((lists source).filter (· ≠ item)))

/-- The item stands once under the key and under no other key. -/
structure Indexed (lists : κ → List ι) (key : κ) (item : ι) : Prop where
  once : (lists key).count item = 1
  aside : ∀ other, other ≠ key → item ∉ lists other

section Rules

variable {lists : κ → List ι} {key other : κ} {item kept : ι}

theorem mem_move {source target : κ} (listed : kept ∈ move item source target lists other) :
    kept ∈ lists other ∨ kept = item := by
  rcases mem_push_iff.mp listed with earlier | ⟨_, same⟩
  · by_cases here : other = source
    · subst here
      rw [Function.update_self] at earlier
      exact .inl (List.mem_filter.mp earlier).1
    · rw [Function.update_of_ne here] at earlier
      exact .inl earlier
  · exact .inr same

/-- Pushing an item leaves the counts of the others as they were. -/
theorem count_push_ne (differs : kept ≠ item) :
    (push key item lists other).count kept = (lists other).count kept := by
  by_cases same : other = key
  · subst same
    simp [List.count_append, Ne.symm differs]
  · rw [push_ne same]

theorem count_push_self : (push key item lists key).count item = (lists key).count item + 1 := by
  simp [List.count_append]

/-- An item that was nowhere is indexed by pushing it once. -/
theorem indexed_push (new : ∀ other, item ∉ lists other) :
    Indexed (push key item lists) key item := by
  refine ⟨?_, fun other differs listed => ?_⟩
  · rw [count_push_self, List.count_eq_zero.mpr (new key)]
  · rw [push_ne differs] at listed
    exact new other listed

/-- Pushing an item leaves the others indexed. -/
theorem Indexed.push_other (indexed : Indexed lists key kept) (differs : kept ≠ item) :
    Indexed (push other item lists) key kept := by
  refine ⟨?_, fun another apart listed => ?_⟩
  · rw [count_push_ne differs]
    exact indexed.once
  · rcases mem_push_iff.mp listed with earlier | ⟨_, same⟩
    · exact indexed.aside another apart earlier
    · exact differs same

theorem count_move_ne {source target : κ} (differs : kept ≠ item) :
    (move item source target lists other).count kept = (lists other).count kept := by
  rw [move, count_push_ne differs]
  by_cases here : other = source
  · subst here
    rw [Function.update_self, List.count_filter (by simpa using differs)]
  · rw [Function.update_of_ne here]

/-- Moving an item leaves the others indexed. -/
theorem Indexed.move_other {source target : κ} (indexed : Indexed lists key kept)
    (differs : kept ≠ item) : Indexed (move item source target lists) key kept where
  once := by
    rw [count_move_ne differs]
    exact indexed.once
  aside other apart := by
    rw [← List.count_eq_zero, count_move_ne differs, List.count_eq_zero]
    exact indexed.aside other apart

/-- An indexed item that is moved from its key is indexed under the target, which may be the
same key. -/
theorem Indexed.move_self {target : κ} (indexed : Indexed lists key item) :
    Indexed (move item key target lists) target item := by
  refine indexed_push fun other => ?_
  by_cases same : other = key
  · subst same
    rw [Function.update_self]
    simp
  · rw [Function.update_of_ne same]
    exact indexed.aside other same

/-- An item that stands under the key stands there twice once it is pushed again. -/
theorem count_push_ne_one (listed : item ∈ lists key) :
    (push key item lists key).count item ≠ 1 := by
  have before : 0 < (lists key).count item := List.count_pos_iff.mpr listed
  rw [count_push_self]
  omega

end Rules

end Listing
