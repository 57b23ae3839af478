import Mathlib.Logic.Function.Basic
import Mathlib.Order.Lattice
import Mathlib.Order.Defs.LinearOrder

/-!
# Wards and guardians

Two registries of tenures that can be revoked and that expire: roots stand alone, and a ward names
a guardian, which may be a root, another ward, or both under one id.  The wards are covered when
each running one has a running guardian.
-/

set_option autoImplicit false

structure Tenure where
  revoked : Bool
  expiry : Nat
  deriving DecidableEq

structure Ward (κ : Type) extends Tenure where
  guardian : κ
  deriving DecidableEq

def Tenure.Runs (tenure : Tenure) (now : Nat) : Prop :=
  tenure.revoked = false ∧ now ≤ tenure.expiry

structure Guardianship (κ : Type) where
  roots : κ → Option Tenure
  wards : κ → Option (Ward κ)

namespace Guardianship

variable {κ : Type}

def RootRuns (registry : Guardianship κ) (now : Nat) (id : κ) : Prop :=
  ∃ tenure, registry.roots id = some tenure ∧ tenure.Runs now

def WardRuns (registry : Guardianship κ) (now : Nat) (id : κ) : Prop :=
  ∃ ward, registry.wards id = some ward ∧ ward.Runs now

def Guards (registry : Guardianship κ) (now : Nat) (id : κ) : Prop :=
  registry.RootRuns now id ∨ registry.WardRuns now id

/-- Every running ward has a running guardian. -/
def Covered (registry : Guardianship κ) (now : Nat) : Prop :=
  ∀ id ward, registry.wards id = some ward → ward.Runs now → registry.Guards now ward.guardian

section Writes

variable [DecidableEq κ]

def putRoot (id : κ) (tenure : Tenure) (registry : Guardianship κ) : Guardianship κ :=
  { registry with roots := Function.update registry.roots id (some tenure) }

def putWard (id : κ) (ward : Ward κ) (registry : Guardianship κ) : Guardianship κ :=
  { registry with wards := Function.update registry.wards id (some ward) }

variable {registry after : Guardianship κ} {now : Nat} {id : κ}

@[simp] theorem putRoot_self {tenure : Tenure} :
    (registry.putRoot id tenure).roots id = some tenure :=
  Function.update_self ..

theorem putRoot_ne {tenure : Tenure} {other : κ} (differs : other ≠ id) :
    (registry.putRoot id tenure).roots other = registry.roots other :=
  Function.update_of_ne differs _ _

@[simp] theorem putWard_self {ward : Ward κ} :
    (registry.putWard id ward).wards id = some ward :=
  Function.update_self ..

theorem putWard_ne {ward : Ward κ} {other : κ} (differs : other ≠ id) :
    (registry.putWard id ward).wards other = registry.wards other :=
  Function.update_of_ne differs _ _

theorem putRoot_eq_self {tenure : Tenure} (found : registry.roots id = some tenure) :
    registry.putRoot id tenure = registry := by
  rw [putRoot, ← found, Function.update_eq_self]

theorem putWard_eq_self {ward : Ward κ} (found : registry.wards id = some ward) :
    registry.putWard id ward = registry := by
  rw [putWard, ← found, Function.update_eq_self]

theorem rootRuns_putRoot {tenure : Tenure} {other : κ} :
    (registry.putRoot id tenure).RootRuns now other ↔
      (other = id ∧ tenure.Runs now) ∨ (other ≠ id ∧ registry.RootRuns now other) := by
  unfold RootRuns
  by_cases same : other = id
  · subst same
    simp
  · simp [putRoot_ne same, same]

/-- A running root takes no guardian away. -/
theorem Covered.putRoot {tenure : Tenure} (covered : registry.Covered now)
    (runs : tenure.Runs now) : (registry.putRoot id tenure).Covered now := by
  intro other ward found running
  refine (covered other ward found running).imp (fun root => rootRuns_putRoot.mpr ?_) fun ward => ward
  by_cases same : ward.guardian = id
  · exact .inl ⟨same, runs⟩
  · exact .inr ⟨same, root⟩

/-- A root that ends takes the guardian of its running wards away, unless there is a running ward
under the same id. -/
theorem Covered.putRoot_iff {tenure : Tenure} (covered : registry.Covered now)
    (ended : ¬ tenure.Runs now) :
    (registry.putRoot id tenure).Covered now ↔
      ∀ other ward, registry.wards other = some ward → ward.Runs now → ward.guardian = id →
        registry.WardRuns now id := by
  constructor
  · rintro kept other ward found running rfl
    refine (kept other ward found running).resolve_left fun root => ?_
    rcases rootRuns_putRoot.mp root with ⟨_, runs⟩ | ⟨differs, _⟩
    · exact ended runs
    · exact differs rfl
  · intro wards other ward found running
    by_cases same : ward.guardian = id
    · exact .inr (same ▸ wards other ward found running same)
    · refine (covered other ward found running).imp_left fun root => ?_
      exact rootRuns_putRoot.mpr (.inr ⟨same, root⟩)

theorem wardRuns_putWard {ward : Ward κ} {other : κ} (runs : ward.Runs now)
    (running : registry.WardRuns now other) : (registry.putWard id ward).WardRuns now other := by
  by_cases same : other = id
  · subst same
    exact ⟨ward, putWard_self, runs⟩
  · obtain ⟨kept, found, running⟩ := running
    exact ⟨kept, (putWard_ne same).trans found, running⟩

/-- A running ward with a running guardian may be entered, also in place of another ward. -/
theorem Covered.putWard {ward : Ward κ} (covered : registry.Covered now) (runs : ward.Runs now)
    (guarded : registry.Guards now ward.guardian) : (registry.putWard id ward).Covered now := by
  intro other kept found running
  by_cases same : other = id
  · subst same
    obtain rfl := Option.some.inj (putWard_self.symm.trans found)
    exact guarded.imp_right (wardRuns_putWard runs)
  · have stored := (putWard_ne same).symm.trans found
    exact (covered other kept stored running).imp_right (wardRuns_putWard runs)

end Writes

/-- The given wards run no longer, and nothing else is changed. -/
structure Ends (among : κ → Prop) (now : Nat) (registry after : Guardianship κ) : Prop where
  roots : after.roots = registry.roots
  ended : ∀ id, among id → ¬ after.WardRuns now id
  others : ∀ id, ¬ among id → after.wards id = registry.wards id

/-- Ending some wards leaves the others covered exactly if none of these has its only running
guardian among them. -/
theorem Ends.covered_iff {registry after : Guardianship κ} {now : Nat} {among : κ → Prop}
    (ends : Ends among now registry after) (covered : registry.Covered now) :
    after.Covered now ↔
      ∀ id ward, registry.wards id = some ward → ward.Runs now → ¬ among id →
        among ward.guardian → registry.RootRuns now ward.guardian := by
  have root {id : κ} : after.RootRuns now id ↔ registry.RootRuns now id := by
    rw [RootRuns, ends.roots, RootRuns]
  constructor
  · intro kept id ward found running spared within
    have guarded := kept id ward ((ends.others id spared).trans found) running
    exact root.mp (guarded.resolve_right (ends.ended _ within))
  · intro roots id ward found running
    have spared : ¬ among id := fun within => ends.ended id within ⟨ward, found, running⟩
    have stored := (ends.others id spared).symm.trans found
    by_cases within : among ward.guardian
    · exact .inl (root.mpr (roots id ward stored running spared within))
    · refine (covered id ward stored running).imp root.mpr fun ⟨guardian, kept, runs⟩ => ?_
      exact ⟨guardian, (ends.others _ within).trans kept, runs⟩

/-- Waiting keeps the wards covered exactly if they are covered once a later time has come. -/
theorem Covered.max_iff {registry : Guardianship κ} {now time : Nat}
    (covered : registry.Covered now) :
    registry.Covered (max now time) ↔ (now < time → registry.Covered time) := by
  rcases lt_or_ge now time with later | passed
  · rw [max_eq_right later.le]
    exact ⟨fun kept _ => kept, fun kept => kept later⟩
  · rw [max_eq_left passed]
    exact iff_of_true covered fun later => absurd later (not_lt_of_ge passed)

end Guardianship
