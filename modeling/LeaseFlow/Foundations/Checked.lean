import Mathlib.Data.Option.Basic
import Mathlib.Order.Basic

/-!
# Checked arithmetic

Pure computations that abort, with `none`, when an arithmetic result leaves its type.
-/

set_option autoImplicit false

abbrev Checked (α : Type) := Option α

namespace Checked

/-- An unsigned result, unless it exceeds the bound of its type. -/
def upTo (bound value : Nat) : Checked Nat :=
  if value ≤ bound then some value else none

/-- An unsigned difference, unless it would be negative. -/
def difference (left right : Nat) : Checked Nat :=
  if right ≤ left then some (left - right) else none

/-- A signed result, unless it leaves the range of its type. -/
def within (low high value : Int) : Checked Int :=
  if low ≤ value ∧ value ≤ high then some value else none

theorem bind_of_eq {α β : Type} {computation : Checked α} {value : α}
    (computed : computation = some value) (rest : α → Checked β) :
    computation >>= rest = rest value := by
  rw [computed]
  exact Option.bind_some value rest

theorem upTo_eq_some {bound value result : Nat} :
    upTo bound value = some result ↔ value ≤ bound ∧ value = result := by
  unfold upTo
  split <;> simp_all

theorem difference_eq_some {left right result : Nat} :
    difference left right = some result ↔ right ≤ left ∧ left - right = result := by
  unfold difference
  split <;> simp_all

theorem within_eq_some {low high value result : Int} :
    within low high value = some result ↔ (low ≤ value ∧ value ≤ high) ∧ value = result := by
  unfold within
  split <;> simp_all

theorem upTo_of_le {bound value : Nat} (le : value ≤ bound) : upTo bound value = some value :=
  if_pos le

theorem difference_of_le {left right : Nat} (le : right ≤ left) :
    difference left right = some (left - right) :=
  if_pos le

end Checked
