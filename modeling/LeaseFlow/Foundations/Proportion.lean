import Mathlib.Algebra.Order.BigOperators.Group.List
import Mathlib.Algebra.Order.Ring.Int
import Mathlib.Tactic.Linarith

/-!
# Proportional shares

Every part of a whole gets an amount of at most the same ratio of it.  The amounts make up what
the ratio gives of the whole exactly when each is the ratio of its part, and for shares rounded
down exactly when no part is rounded.
-/

set_option autoImplicit false

namespace Proportion

/-- A part times a ratio of the given scale, rounded down. -/
def share (scale ratio part : Int) : Int :=
  part * ratio / scale

/-- Quotients rounded down are ordered as the fractions are. -/
theorem ediv_le_ediv_of_cross {small smallScale large largeScale : Int}
    (smallScale_pos : 0 < smallScale) (largeScale_pos : 0 < largeScale)
    (ordered : small * largeScale ≤ large * smallScale) :
    small / smallScale ≤ large / largeScale := by
  rw [Int.le_ediv_iff_mul_le largeScale_pos]
  have divided := Int.ediv_mul_le small smallScale_pos.ne'
  refine le_of_mul_le_mul_right ?_ smallScale_pos
  calc small / smallScale * largeScale * smallScale
      = small / smallScale * smallScale * largeScale := mul_right_comm ..
    _ ≤ small * largeScale := mul_le_mul_of_nonneg_right divided largeScale_pos.le
    _ ≤ large * smallScale := ordered

variable {scale ratio whole : Int} {parts : List Int}

theorem share_nonneg {part : Int} (scale_pos : 0 < scale) (ratio_nonneg : 0 ≤ ratio)
    (part_nonneg : 0 ≤ part) : 0 ≤ share scale ratio part :=
  Int.ediv_nonneg (mul_nonneg part_nonneg ratio_nonneg) scale_pos.le

/-- A ratio of at most the scale takes at most the part. -/
theorem share_le {part : Int} (scale_pos : 0 < scale) (ratio_le : ratio ≤ scale)
    (part_nonneg : 0 ≤ part) : share scale ratio part ≤ part :=
  Int.ediv_le_of_le_mul scale_pos (mul_le_mul_of_nonneg_left ratio_le part_nonneg)

/-! ## Amounts of at most their shares -/

section Amounts

variable {amount : Int → Int}

theorem sum_amounts_mul_le (below : ∀ part ∈ parts, amount part * scale ≤ part * ratio) :
    (parts.map amount).sum * scale ≤ parts.sum * ratio := by
  induction parts with
  | nil => simp
  | cons part rest ih =>
      obtain ⟨first, others⟩ := List.forall_mem_cons.mp below
      simp only [List.map_cons, List.sum_cons, add_mul]
      exact add_le_add first (ih others)

theorem sum_amounts_mul_eq_iff (below : ∀ part ∈ parts, amount part * scale ≤ part * ratio) :
    (parts.map amount).sum * scale = parts.sum * ratio ↔
      ∀ part ∈ parts, amount part * scale = part * ratio := by
  induction parts with
  | nil => simp
  | cons part rest ih =>
      obtain ⟨first, others⟩ := List.forall_mem_cons.mp below
      simp only [List.map_cons, List.sum_cons, add_mul, List.forall_mem_cons]
      rw [← ih others]
      exact add_eq_add_iff_eq_and_eq first (sum_amounts_mul_le others)

/-- Amounts that do not exceed the ratio of their parts do not exceed a whole that bears the
ratio of the sum. -/
theorem sum_amounts_le (scale_pos : 0 < scale)
    (below : ∀ part ∈ parts, amount part * scale ≤ part * ratio)
    (bears : parts.sum * ratio ≤ whole * scale) : (parts.map amount).sum ≤ whole :=
  le_of_mul_le_mul_right ((sum_amounts_mul_le below).trans bears) scale_pos

/-- They make up the whole exactly when each of them is the ratio of its part. -/
theorem sum_amounts_eq_iff (scale_pos : 0 < scale)
    (below : ∀ part ∈ parts, amount part * scale ≤ part * ratio)
    (bears : parts.sum * ratio ≤ whole * scale) :
    (parts.map amount).sum = whole ↔
      parts.sum * ratio = whole * scale ∧ ∀ part ∈ parts, amount part * scale = part * ratio := by
  rw [← sum_amounts_mul_eq_iff below]
  have bounded := sum_amounts_mul_le below
  constructor
  · intro same
    rw [same] at bounded ⊢
    have borne := le_antisymm bears bounded
    exact ⟨borne, borne.symm⟩
  · rintro ⟨borne, exact'⟩
    exact mul_right_cancel₀ scale_pos.ne' (exact'.trans borne)

end Amounts

/-! ## Shares rounded down -/

theorem share_mul_le (scale_pos : 0 < scale) (part : Int) :
    share scale ratio part * scale ≤ part * ratio :=
  Int.ediv_mul_le _ scale_pos.ne'

/-- The shares of the parts do not exceed a whole that bears the ratio of their sum. -/
theorem sum_shares_le (scale_pos : 0 < scale) (bears : parts.sum * ratio ≤ whole * scale) :
    (parts.map (share scale ratio)).sum ≤ whole :=
  sum_amounts_le scale_pos (fun part _ => share_mul_le scale_pos part) bears

/-- The shares make up the whole exactly when nothing is rounded. -/
theorem sum_shares_eq_iff (scale_pos : 0 < scale) (bears : parts.sum * ratio ≤ whole * scale) :
    (parts.map (share scale ratio)).sum = whole ↔
      parts.sum * ratio = whole * scale ∧ ∀ part ∈ parts, scale ∣ part * ratio := by
  rw [sum_amounts_eq_iff scale_pos (fun part _ => share_mul_le scale_pos part) bears]
  refine and_congr_right fun _ => forall₂_congr fun part _ => ?_
  exact ⟨fun exact' => Dvd.intro_left _ exact', Int.ediv_mul_cancel⟩

/-! ## What the shares leave -/

/-- The shares make up the ratio of the parts less what rounding takes off each. -/
theorem sum_shares_mul (parts : List Int) :
    (parts.map (share scale ratio)).sum * scale =
      parts.sum * ratio - (parts.map fun part => part * ratio % scale).sum := by
  induction parts with
  | nil => simp
  | cons part rest ih =>
      have divided := Int.emod_add_ediv_mul (part * ratio) scale
      simp only [List.map_cons, List.sum_cons, add_mul, ih, share]
      omega

/-- Each share loses less than one unit. -/
theorem sum_mul_le_sum_shares (scale_pos : 0 < scale) (parts : List Int) :
    parts.sum * ratio ≤
      (parts.map (share scale ratio)).sum * scale + (scale - 1) * parts.length := by
  induction parts with
  | nil => simp
  | cons part rest ih =>
      have lost : part * ratio ≤ share scale ratio part * scale + (scale - 1) := by
        have divided := Int.emod_add_mul_ediv (part * ratio) scale
        have remainder := Int.emod_lt_of_pos (part * ratio) scale_pos
        rw [share, mul_comm (part * ratio / scale)]
        omega
      simp only [List.map_cons, List.sum_cons, List.length_cons, Nat.cast_add, Nat.cast_one,
        add_mul, mul_add]
      linarith

/-- Where the parts and a last one bear the whole, the shares of the parts leave the last its
share and less than a unit for each of them. -/
theorem left_of_shares {last : Int} (scale_pos : 0 < scale)
    (bears : (parts.sum + last) * ratio = whole * scale) :
    share scale ratio last ≤ whole - (parts.map (share scale ratio)).sum ∧
      whole - (parts.map (share scale ratio)).sum ≤ share scale ratio last + parts.length := by
  have upper := sum_amounts_mul_le fun part (_ : part ∈ parts) =>
    @share_mul_le scale ratio scale_pos part
  have lower := @sum_mul_le_sum_shares scale ratio scale_pos parts
  have own := @share_mul_le scale ratio scale_pos last
  have next : last * ratio < (share scale ratio last + 1) * scale :=
    Int.lt_ediv_add_one_mul_self _ scale_pos
  rw [add_mul] at bears
  constructor
  · apply le_of_mul_le_mul_right _ scale_pos
    rw [sub_mul]
    linarith
  · apply Int.lt_add_one_iff.mp
    apply lt_of_mul_lt_mul_right _ scale_pos.le
    have parts_nonneg : 0 ≤ (parts.length : Int) := Int.natCast_nonneg _
    rw [sub_mul, add_mul, add_mul, one_mul]
    rw [add_mul, one_mul] at next
    linarith

end Proportion
