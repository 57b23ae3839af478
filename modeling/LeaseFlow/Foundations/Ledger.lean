import Mathlib.Algebra.BigOperators.Finprod

/-!
# Ledgers

A ledger holds an amount for every key, and all but finitely many of them are zero.  The total
is the sum over all keys; a credit raises one amount and the total with it.
-/

set_option autoImplicit false

namespace Ledger

variable {κ : Type} [DecidableEq κ]

/-- The amount of one key is raised. -/
def credit (key : κ) (amount : Int) (ledger : κ → Int) : κ → Int :=
  Function.update ledger key (ledger key + amount)

noncomputable def total (ledger : κ → Int) : Int :=
  finsum ledger

variable {ledger : κ → Int} {key : κ} {amount : Int}

@[simp] theorem credit_self : credit key amount ledger key = ledger key + amount :=
  Function.update_self ..

theorem credit_of_ne {other : κ} (differs : other ≠ key) :
    credit key amount ledger other = ledger other :=
  Function.update_of_ne differs ..

@[simp] theorem credit_zero : credit key 0 ledger = ledger := by
  rw [credit, add_zero, Function.update_eq_self]

theorem credit_eq_add_single : credit key amount ledger = ledger + Pi.single key amount := by
  funext other
  by_cases same : other = key
  · subst same
    simp
  · simp [credit_of_ne same, Pi.single_eq_of_ne same]

omit [DecidableEq κ] in
@[simp] theorem total_zero : total (fun _ : κ => 0) = 0 :=
  finsum_zero

theorem finite_single : (Pi.single key amount : κ → Int).HasFiniteSupport :=
  (Set.finite_singleton key).subset Pi.support_single_subset

theorem finite_credit (finite : ledger.HasFiniteSupport) :
    (credit key amount ledger).HasFiniteSupport := by
  rw [credit_eq_add_single]
  exact finite.add finite_single

/-- A credit raises the total by its amount. -/
theorem total_credit (finite : ledger.HasFiniteSupport) :
    total (credit key amount ledger) = total ledger + amount := by
  have single : finsum (Pi.single key amount : κ → Int) = amount := by
    rw [finsum_eq_single _ key fun other differs => ?_, Pi.single_eq_same]
    rw [Pi.single_eq_of_ne differs]
  rw [credit_eq_add_single, total, total]
  exact (finsum_add_distrib finite finite_single).trans (by rw [single])

end Ledger
