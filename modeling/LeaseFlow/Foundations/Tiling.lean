import Mathlib.Order.Interval.Finset.Nat
import Mathlib.Tactic.Linarith

/-!
# Tilings of an interval of time

Parts of time, newest first, and what they cover.  A part that ends no earlier than what is
covered tiles on, without gap or overlap, exactly when it starts where the cover ends.
-/

set_option autoImplicit false

namespace Tiling

/-- What the parts cover together. -/
def covered : List (Finset Nat) → Finset Nat
  | [] => ∅
  | part :: rest => part ∪ covered rest

variable {parts : List (Finset Nat)} {part : Finset Nat}

/-- A part meets none of the others exactly when it does not meet their cover. -/
theorem disjoint_covered_iff :
    Disjoint part (covered parts) ↔ ∀ other ∈ parts, Disjoint part other := by
  induction parts with
  | nil => simp [covered]
  | cons first rest ih => rw [covered, Finset.disjoint_union_right, ih, List.forall_mem_cons]

variable {start finish left right : Nat}

/-- The next part neither overlaps the cover nor leaves a gap before it exactly when it starts
where the cover ends. -/
theorem follows_iff (covers : start ≤ finish) (from' : start ≤ left) (proper : left ≤ right)
    (later : finish ≤ right) :
    (Disjoint (Finset.Ico left right) (Finset.Ico start finish) ∧
        ∀ second, start ≤ second → second < left →
          second ∈ Finset.Ico left right ∪ Finset.Ico start finish) ↔ left = finish := by
  constructor
  · intro tiles
    obtain ⟨apart, gapless⟩ := tiles
    rcases lt_trichotomy left finish with overlap | same | gap
    · have inNext : left ∈ Finset.Ico left right := Finset.mem_Ico.mpr ⟨le_rfl, by omega⟩
      have inCover : left ∈ Finset.Ico start finish := Finset.mem_Ico.mpr ⟨from', overlap⟩
      exact absurd inCover (Finset.disjoint_left.mp apart inNext)
    · exact same
    · have missed := gapless finish covers gap
      simp only [Finset.mem_union, Finset.mem_Ico] at missed
      omega
  · intro same
    subst same
    constructor
    · rw [disjoint_comm]
      exact Finset.Ico_disjoint_Ico_consecutive start left right
    · intro second after before
      exact Finset.mem_union_right _ (Finset.mem_Ico.mpr ⟨after, before⟩)

/-- A part that follows extends the cover. -/
theorem follows_covered (covers : start ≤ finish) (proper : finish ≤ right) :
    Finset.Ico finish right ∪ Finset.Ico start finish = Finset.Ico start right := by
  rw [Finset.union_comm]
  exact Finset.Ico_union_Ico_eq_Ico covers proper

end Tiling
