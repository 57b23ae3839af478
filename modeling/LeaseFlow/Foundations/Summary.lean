import LeaseFlow.Foundations.Table
import Mathlib.Data.List.Nodup

/-!
# Summaries of a table

A summary of the chosen entries of a table: their keys without repetition, how many there
are, and the total of a weight over them.  It follows the table through writes of entries
that were not chosen before.
-/

set_option autoImplicit false

namespace Table

variable {κ ν : Type} [DecidableEq κ]

/-- The keys list the chosen entries, the number counts them and the sum totals them. -/
structure Summary (chosen : ν → Bool) (weight : ν → Int) (table : Table κ ν) (keys : List κ)
    (number : Nat) (sum : Int) : Prop where
  nodup : keys.Nodup
  listed : ∀ key, key ∈ keys ↔ ∃ value, table.lookup key = some value ∧ chosen value = true
  counted : number = table.count chosen
  totalled : sum = table.total fun value => if chosen value = true then weight value else 0

variable {chosen : ν → Bool} {weight : ν → Int} {table : Table κ ν} {keys : List κ}
  {number : Nat} {sum : Int} {key : κ} {value : ν}

theorem summary_empty : Summary chosen weight (∅ : Table κ ν) [] 0 0 where
  nodup := List.nodup_nil
  listed key := by simp
  counted := rfl
  totalled := rfl

theorem any_of_unchosen {found : Option ν}
    (before : ∀ stored, found = some stored → chosen stored = false) :
    found.any chosen = false := by
  cases found with
  | none => rfl
  | some stored => exact before stored rfl

theorem elim_of_unchosen {found : Option ν}
    (before : ∀ stored, found = some stored → chosen stored = false) :
    found.elim 0 (fun value => if chosen value = true then weight value else 0) = 0 := by
  cases found with
  | none => rfl
  | some stored => exact if_neg (by simp [before stored rfl])

/-- The write of an entry that is not chosen, where none was, changes nothing. -/
theorem Summary.set_unchosen (summary : Summary chosen weight table keys number sum)
    (before : ∀ stored, table.lookup key = some stored → chosen stored = false)
    (now : chosen value = false) :
    Summary chosen weight (table.set key (some value)) keys number sum where
  nodup := summary.nodup
  listed other := by
    rw [summary.listed, lookup_set]
    by_cases same : other = key
    · subst same
      rw [if_pos rfl]
      constructor
      · rintro ⟨stored, found, counts⟩
        cases (before stored found).symm.trans counts
      · rintro ⟨stored, found, counts⟩
        cases found
        cases now.symm.trans counts
    · rw [if_neg same]
  counted := by
    have change := count_set chosen table key (some value)
    have none_now : (some value).any chosen = false := now
    rw [any_of_unchosen before, none_now] at change
    exact summary.counted.trans (Nat.add_right_cancel change).symm
  totalled := by
    have change := total_set (fun value => if chosen value = true then weight value else 0) table
      key (some value)
    rw [elim_of_unchosen before, Option.elim, now] at change
    exact summary.totalled.trans (add_right_cancel change).symm

/-- The write of a chosen entry, where none was, adds its key, its count and its weight. -/
theorem Summary.set_chosen (summary : Summary chosen weight table keys number sum)
    (before : ∀ stored, table.lookup key = some stored → chosen stored = false)
    (now : chosen value = true) :
    Summary chosen weight (table.set key (some value)) (keys ++ [key]) (number + 1)
      (sum + weight value) where
  nodup := by
    refine List.nodup_append.mpr ⟨summary.nodup, List.nodup_singleton key, ?_⟩
    intro other listed last single same
    obtain ⟨stored, found, counts⟩ := (summary.listed other).mp listed
    rw [same, List.mem_singleton.mp single] at found
    cases (before stored found).symm.trans counts
  listed other := by
    rw [List.mem_append, List.mem_singleton, summary.listed, lookup_set]
    by_cases same : other = key
    · subst same
      rw [if_pos rfl]
      exact iff_of_true (.inr rfl) ⟨value, rfl, now⟩
    · rw [if_neg same, or_iff_left same]
  counted := by
    have change := count_set chosen table key (some value)
    have one_now : (some value).any chosen = true := now
    rw [any_of_unchosen before, one_now] at change
    exact (congrArg (· + 1) summary.counted).trans change.symm
  totalled := by
    have change := total_set (fun value => if chosen value = true then weight value else 0) table
      key (some value)
    rw [elim_of_unchosen before, Option.elim, if_pos now, add_zero] at change
    rw [change, summary.totalled]

/-- The keys are empty exactly where nothing is chosen. -/
theorem Summary.keys_eq_nil_iff (summary : Summary chosen weight table keys number sum) :
    keys = [] ↔ ¬ ∃ key value, table.lookup key = some value ∧ chosen value = true := by
  rw [List.eq_nil_iff_forall_not_mem]
  simp only [summary.listed, not_exists]

end Table
