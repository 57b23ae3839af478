import Mathlib.Data.Set.Card
import Mathlib.Logic.Function.Basic
import Mathlib.Tactic.Common

/-!
# Partial maps under writes

A store as a partial map, and what a single write can do to it: keep every stored entry,
or keep them all and add one.
-/

set_option autoImplicit false

namespace PartialMap

variable {κ ν : Type}

/-- Every stored entry keeps its value. -/
def Preserved (before after : κ → Option ν) : Prop :=
  ∀ key value, before key = some value → after key = some value

/-- Every stored entry keeps its value, and exactly one key is stored in addition. -/
structure AddsOne (before after : κ → Option ν) : Prop where
  preserved : Preserved before after
  added : ∃! key, before key = none ∧ after key ≠ none

/-- The keys under which something is stored. -/
def stored (map : κ → Option ν) : Set κ :=
  { key | map key ≠ none }

/-- The map stores so many entries. -/
structure Counts (map : κ → Option ν) (number : Nat) : Prop where
  finite : (stored map).Finite
  counted : (stored map).ncard = number

theorem counts_of_empty {map : κ → Option ν} (empty : ∀ key, map key = none) : Counts map 0 := by
  have none : stored map = ∅ := Set.eq_empty_of_forall_notMem fun key found => found (empty key)
  exact ⟨none ▸ Set.finite_empty, none ▸ Set.ncard_empty κ⟩

theorem Counts.pos {map : κ → Option ν} {number : Nat} {key : κ} {value : ν}
    (counts : Counts map number) (found : map key = some value) : 0 < number := by
  have present : key ∈ stored map := fun absent => by cases found.symm.trans absent
  rw [← counts.counted, Set.ncard_pos counts.finite]
  exact ⟨key, present⟩

theorem preserved_refl (map : κ → Option ν) : Preserved map map :=
  fun _ _ stored => stored

theorem Preserved.trans {first second third : κ → Option ν} (one : Preserved first second)
    (two : Preserved second third) : Preserved first third :=
  fun key value stored => two key value (one key value stored)

variable [DecidableEq κ] {map : κ → Option ν} {key : κ} {value : ν}

/-- What holds of the new entry and of those under other keys holds of all after a write. -/
theorem forall_update {P : κ → ν → Prop} (new : P key value)
    (others : ∀ other stored, other ≠ key → map other = some stored → P other stored) :
    ∀ other stored, Function.update map key (some value) other = some stored → P other stored := by
  intro other stored found
  by_cases written : other = key
  · subst written
    rw [Function.update_self] at found
    exact Option.some.inj found ▸ new
  · rw [Function.update_of_ne written] at found
    exact others other stored written found

/-- A write keeps the stored entries where it meets none, or one of the same value. -/
theorem preserved_update_iff :
    Preserved map (Function.update map key (some value)) ↔
      ∀ stored, map key = some stored → stored = value := by
  constructor
  · intro preserved stored found
    have kept := preserved key stored found
    rw [Function.update_self] at kept
    exact (Option.some.inj kept).symm
  · intro same other stored found
    by_cases written : other = key
    · subst written
      rw [Function.update_self, same stored found]
    · rwa [Function.update_of_ne written]

/-- A write adds an entry exactly when its key was free. -/
theorem addsOne_update_iff :
    AddsOne map (Function.update map key (some value)) ↔ map key = none := by
  constructor
  · rintro ⟨_, other, ⟨absent, stored⟩, _⟩
    by_cases written : other = key
    · exact written ▸ absent
    · rw [Function.update_of_ne written] at stored
      exact absurd absent stored
  · intro free
    refine ⟨preserved_update_iff.mpr fun stored found => ?_, key, ⟨free, by simp⟩, ?_⟩
    · cases free.symm.trans found
    · rintro other ⟨absent, stored⟩
      by_contra written
      rw [Function.update_of_ne written] at stored
      exact stored absent

/-! ## Counting entries -/

theorem stored_update_some : stored (Function.update map key (some value)) =
    insert key (stored map) := by
  ext other
  by_cases written : other = key
  · subst written
    simp [stored]
  · simp [stored, written]

theorem stored_update_none : stored (Function.update map key none) = stored map \ {key} := by
  ext other
  by_cases written : other = key
  · subst written
    simp [stored]
  · simp [stored, written]

theorem Counts.insert {number : Nat} (counts : Counts map number) (free : map key = none) :
    Counts (Function.update map key (some value)) (number + 1) := by
  have absent : key ∉ stored map := fun found => found free
  constructor
  · rw [stored_update_some]
    exact counts.finite.insert key
  · rw [stored_update_some, Set.ncard_insert_of_notMem absent counts.finite, counts.counted]

theorem Counts.update {number : Nat} {stored : ν} (counts : Counts map number)
    (found : map key = some stored) : Counts (Function.update map key (some value)) number := by
  have present : key ∈ PartialMap.stored map := fun absent => by cases found.symm.trans absent
  constructor
  · rw [stored_update_some]
    exact counts.finite.insert key
  · rw [stored_update_some, Set.insert_eq_of_mem present, counts.counted]

theorem Counts.remove {number : Nat} (counts : Counts map number) (found : map key = some value) :
    Counts (Function.update map key none) (number - 1) := by
  have present : key ∈ stored map := fun absent => by cases found.symm.trans absent
  constructor
  · rw [stored_update_none]
    exact counts.finite.subset Set.sdiff_subset
  · rw [stored_update_none, Set.ncard_sdiff_singleton_of_mem present, counts.counted]

end PartialMap
