import Mathlib.Data.List.AList
import Mathlib.Algebra.Ring.Int.Defs
import Mathlib.Algebra.BigOperators.Group.List.Basic
import Mathlib.Algebra.Order.BigOperators.Group.List
import Mathlib.Tactic.Linarith

/-!
# Finite tables

Finite maps with a single write, `set`, that stores or removes an entry, and the
total of a weight over all entries.
-/

set_option autoImplicit false

abbrev Table (κ ν : Type) := AList (fun _ : κ => ν)

namespace Table

variable {κ ν : Type} [DecidableEq κ]

/-- Store a value at a key, or remove the key. -/
def set (table : Table κ ν) (key : κ) : Option ν → Table κ ν
  | some value => table.insert key value
  | none => table.erase key

theorem lookup_set (table : Table κ ν) (key other : κ) (value : Option ν) :
    (table.set key value).lookup other = if other = key then value else table.lookup other := by
  by_cases same : other = key
  · subst same
    cases value with
    | none => simp [set]
    | some stored => simp [set]
  · cases value with
    | none => rw [set, AList.lookup_erase_ne same, if_neg same]
    | some stored => rw [set, AList.lookup_insert_ne same, if_neg same]

@[simp] theorem lookup_set_self (table : Table κ ν) (key : κ) (value : Option ν) :
    (table.set key value).lookup key = value := by
  rw [lookup_set, if_pos rfl]

theorem lookup_set_ne (table : Table κ ν) {key other : κ} (value : Option ν)
    (distinct : other ≠ key) : (table.set key value).lookup other = table.lookup other := by
  rw [lookup_set, if_neg distinct]

/-- The map that a table is read as is updated by a write. -/
theorem lookup_set_eq_update (table : Table κ ν) (key : κ) (value : Option ν) :
    (fun other => (table.set key value).lookup other) =
      Function.update (fun other => table.lookup other) key value := by
  funext other
  rw [lookup_set, Function.update_apply]

theorem map_lookup_set {μ : Type} (view : ν → μ) (table : Table κ ν) (key : κ) (value : ν) :
    (fun other => ((table.set key (some value)).lookup other).map view) =
      Function.update (fun other => (table.lookup other).map view) key (some (view value)) := by
  funext other
  rw [lookup_set, Function.update_apply]
  split
  · rfl
  · rfl

/-- A property of all entries survives a write of an entry that has it. -/
theorem forall_set {table : Table κ ν} {P : κ → ν → Prop} {key : κ} {value : Option ν}
    (all : ∀ other stored, table.lookup other = some stored → P other stored)
    (written : ∀ stored, value = some stored → P key stored) :
    ∀ other stored, (table.set key value).lookup other = some stored → P other stored := by
  intro other stored found
  rw [lookup_set] at found
  split at found
  · next same =>
      subst same
      exact written stored found
  · exact all other stored found

/-- A property of the written entry and of all others is one of all entries after the write. -/
theorem forall_set_ne {table : Table κ ν} {P : κ → ν → Prop} {key : κ} {value : ν}
    (others : ∀ other stored, other ≠ key → table.lookup other = some stored → P other stored)
    (written : P key value) :
    ∀ other stored, (table.set key (some value)).lookup other = some stored → P other stored := by
  intro other stored found
  rw [lookup_set] at found
  by_cases same : other = key
  · subst same
    rw [if_pos rfl] at found
    cases found
    exact written
  · rw [if_neg same] at found
    exact others other stored same found

/-! ## Totals -/

def total (weight : ν → Int) (table : Table κ ν) : Int :=
  (table.entries.map fun entry => weight entry.2).sum

/-- Writing an entry changes the total by the new weight less the replaced one. -/
theorem total_set (weight : ν → Int) (table : Table κ ν) (key : κ) (value : Option ν) :
    (table.set key value).total weight + (table.lookup key).elim 0 weight =
      table.total weight + value.elim 0 weight := by
  have erased : ((table.entries.kerase key).map fun entry => weight entry.2).sum +
      (table.entries.dlookup key).elim 0 weight =
      (table.entries.map fun entry => weight entry.2).sum := by
    induction table.entries with
    | nil => rfl
    | cons entry rest ih =>
        by_cases same : key = entry.1
        · subst same
          rw [List.kerase_cons_eq rfl, ← Sigma.eta entry, List.dlookup_cons_eq]
          exact add_comm _ _
        · rw [List.kerase_cons_ne same, List.dlookup_cons_ne rest entry same, List.map_cons,
            List.map_cons, List.sum_cons, List.sum_cons, add_assoc, ih]
  cases value with
  | none => exact erased.trans (add_zero _).symm
  | some stored =>
      have inserted : (table.set key (some stored)).total weight =
          weight stored + ((table.entries.kerase key).map fun entry => weight entry.2).sum := rfl
      rw [inserted, add_assoc, add_comm]
      exact congrArg (· + weight stored) erased

theorem total_nonneg {weight : ν → Int} {table : Table κ ν}
    (all : ∀ key value, table.lookup key = some value → 0 ≤ weight value) :
    0 ≤ table.total weight := by
  refine List.sum_nonneg fun amount listed => ?_
  obtain ⟨entry, stored, rfl⟩ := List.mem_map.mp listed
  exact all entry.1 entry.2 (AList.mem_lookup_iff.mpr stored)

/-- No single entry of a table of nonnegative weights exceeds the total. -/
theorem le_total {weight : ν → Int} {table : Table κ ν}
    (all : ∀ key value, table.lookup key = some value → 0 ≤ weight value)
    {key : κ} {value : ν} (stored : table.lookup key = some value) :
    weight value ≤ table.total weight := by
  have split := total_set weight table key none
  have rest : 0 ≤ (table.set key none).total weight :=
    total_nonneg (forall_set all fun _ absent => by cases absent)
  rw [stored] at split
  simp only [Option.elim] at split
  omega

/-- Weights that agree on all entries have the same total. -/
theorem total_congr {first second : ν → Int} {table : Table κ ν}
    (agree : ∀ key value, table.lookup key = some value → first value = second value) :
    table.total first = table.total second := by
  apply congrArg List.sum
  apply List.map_congr_left
  intro entry listed
  exact agree entry.1 entry.2 (AList.mem_lookup_iff.mpr listed)

/-- Writing an entry while the weights of the other entries stay as they were. -/
theorem total_set_of_agree {before after : ν → Int} {table : Table κ ν} {key : κ}
    (agree : ∀ other value, other ≠ key → table.lookup other = some value →
      after value = before value) (value : ν) :
    (table.set key (some value)).total after + (table.lookup key).elim 0 before =
      table.total before + after value := by
  have others : (table.set key none).total after = (table.set key none).total before := by
    apply total_congr
    intro other stored found
    rw [lookup_set] at found
    by_cases same : other = key
    · rw [if_pos same] at found
      cases found
    · rw [if_neg same] at found
      exact agree other stored same found
  have removed := total_set before table key none
  have removedAfter := total_set after table key none
  have written := total_set after table key (some value)
  simp only [Option.elim_none, Option.elim_some, add_zero] at removed removedAfter written
  linarith

omit [DecidableEq κ] in
theorem total_add (first second : ν → Int) (table : Table κ ν) :
    table.total (fun value => first value + second value) =
      table.total first + table.total second :=
  List.sum_map_add

theorem total_nonpos {weight : ν → Int} {table : Table κ ν}
    (all : ∀ key value, table.lookup key = some value → weight value ≤ 0) :
    table.total weight ≤ 0 := by
  have each : ∀ amount ∈ table.entries.map (fun entry => weight entry.2), amount ≤ 0 := by
    intro amount listed
    obtain ⟨entry, stored, rfl⟩ := List.mem_map.mp listed
    exact all entry.1 entry.2 (AList.mem_lookup_iff.mpr stored)
  simpa [total] using List.sum_le_card_nsmul _ 0 each

/-! ## Counts -/

/-- How many entries have the property. -/
def count (counted : ν → Bool) (table : Table κ ν) : Nat :=
  table.entries.countP fun entry => counted entry.2

omit [DecidableEq κ] in
theorem count_eq_total (counted : ν → Bool) (table : Table κ ν) :
    (table.count counted : Int) = table.total fun value => ((counted value).toNat : Int) := by
  unfold count total
  induction table.entries with
  | nil => rfl
  | cons entry rest ih =>
      rw [List.countP_cons, List.map_cons, List.sum_cons, ← ih]
      cases counts : counted entry.2 <;> simp [counts, add_comm]

omit [DecidableEq κ] in
/-- Every entry counts. -/
theorem count_true (table : Table κ ν) : (table.count fun _ => true) = table.entries.length := by
  rw [count, List.countP_true]

/-- Writing an entry counts it and discounts the replaced one. -/
theorem count_set (counted : ν → Bool) (table : Table κ ν) (key : κ) (value : Option ν) :
    (table.set key value).count counted + ((table.lookup key).any counted).toNat =
      table.count counted + (value.any counted).toNat := by
  have weighed (stored : Option ν) : ((stored.any counted).toNat : Int) =
      stored.elim 0 fun value => ((counted value).toNat : Int) := by
    cases stored <;> rfl
  have totals := total_set (fun value => ((counted value).toNat : Int)) table key value
  rw [← count_eq_total, ← count_eq_total, ← weighed, ← weighed] at totals
  exact_mod_cast totals

end Table
