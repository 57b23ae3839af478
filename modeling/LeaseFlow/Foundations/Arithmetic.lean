import Mathlib.Algebra.Order.Ring.Int
import Mathlib.Tactic.Linarith
import Mathlib.Tactic.Positivity

/-!
# Bounded integer arithmetic

Saturation to the bounds of a machine type, and the share of an amount that a
rate below its scale cuts off when the product saturates and the division
truncates toward zero.
-/

set_option autoImplicit false

namespace BoundedArithmetic

def saturate (low high value : Int) : Int :=
  max low (min value high)

variable {low high value : Int}

theorem saturate_of_range (low_le : low ≤ value) (le_high : value ≤ high) :
    saturate low high value = value := by
  unfold saturate
  omega

theorem saturate_nonneg (value_nonneg : 0 ≤ value) (high_nonneg : 0 ≤ high) :
    0 ≤ saturate low high value := by
  unfold saturate
  omega

theorem saturate_le (value_nonneg : 0 ≤ value) (low_nonpos : low ≤ 0) :
    saturate low high value ≤ value := by
  unfold saturate
  omega

theorem saturate_nonpos (value_nonpos : value ≤ 0) (low_nonpos : low ≤ 0) :
    saturate low high value ≤ 0 := by
  unfold saturate
  omega

theorem le_saturate (value_nonpos : value ≤ 0) (high_nonneg : 0 ≤ high) :
    value ≤ saturate low high value := by
  unfold saturate
  omega

/-- A number below a power of the base is determined by its digits. -/
theorem eq_of_digits {base places left right : Nat}
    (leftRange : left < base ^ places) (rightRange : right < base ^ places)
    (digits : ∀ place < places, left / base ^ place % base = right / base ^ place % base) :
    left = right := by
  induction places generalizing left right with
  | zero =>
      rw [Nat.pow_zero] at leftRange rightRange
      omega
  | succ places ih =>
      have last : left % base = right % base := by simpa using digits 0 places.succ_pos
      have rest : left / base = right / base := by
        refine ih ?_ ?_ fun place within => ?_
        · exact Nat.div_lt_of_lt_mul (by rwa [Nat.pow_succ'] at leftRange)
        · exact Nat.div_lt_of_lt_mul (by rwa [Nat.pow_succ'] at rightRange)
        · have digit := digits (place + 1) (Nat.succ_lt_succ within)
          rwa [Nat.pow_succ', ← Nat.div_div_eq_div_mul, ← Nat.div_div_eq_div_mul] at digit
      rw [← Nat.div_add_mod left base, ← Nat.div_add_mod right base, rest, last]

/-- Two words packed into one determine the low word, and of the high word what is left of it. -/
theorem packed_eq_iff {width high low high' low' : Nat} (within : low < 2 ^ width)
    (within' : low' < 2 ^ width) :
    high <<< width % 2 ^ (width + width) ||| low = high' <<< width % 2 ^ (width + width) ||| low' ↔
      high % 2 ^ width = high' % 2 ^ width ∧ low = low' := by
  have shifted (word : Nat) :
      word <<< width % 2 ^ (width + width) = (word % 2 ^ width) <<< width := by
    rw [Nat.shiftLeft_eq, Nat.shiftLeft_eq, Nat.pow_add, Nat.mul_mod_mul_right]
  have quotient (word : Nat) {digit : Nat} (small : digit < 2 ^ width) :
      (word * 2 ^ width + digit) / 2 ^ width = word := by
    rw [Nat.mul_comm, Nat.mul_add_div (Nat.two_pow_pos width), Nat.div_eq_of_lt small,
      Nat.add_zero]
  rw [shifted, shifted, ← Nat.shiftLeft_add_eq_or_of_lt within,
    ← Nat.shiftLeft_add_eq_or_of_lt within', Nat.shiftLeft_eq, Nat.shiftLeft_eq]
  constructor
  · intro same
    have kept : high % 2 ^ width = high' % 2 ^ width := by
      rw [← quotient (high % 2 ^ width) within, same, quotient _ within']
    rw [kept] at same
    exact ⟨kept, Nat.add_left_cancel same⟩
  · intro same
    rw [same.1, same.2]

/-! ## The share of an amount -/

section Share

variable {amount rate scale : Int}

/-- A product of an amount and a rate within the scale divides to at most the amount. -/
theorem tdiv_le_of_le_mul {product : Int} (product_nonneg : 0 ≤ product)
    (within : product ≤ amount * scale) (scale_pos : 0 < scale) :
    product.tdiv scale ≤ amount := by
  rw [Int.tdiv_eq_ediv_of_nonneg product_nonneg]
  have bound : product / scale ≤ amount * scale / scale := Int.ediv_le_ediv scale_pos within
  rwa [Int.mul_ediv_cancel _ scale_pos.ne'] at bound

theorem share_nonneg (amount_nonneg : 0 ≤ amount) (rate_nonneg : 0 ≤ rate)
    (scale_pos : 0 < scale) (high_nonneg : 0 ≤ high) :
    0 ≤ (saturate low high (amount * rate)).tdiv scale :=
  Int.tdiv_nonneg (saturate_nonneg (mul_nonneg amount_nonneg rate_nonneg) high_nonneg)
    scale_pos.le

theorem share_le (amount_nonneg : 0 ≤ amount) (rate_nonneg : 0 ≤ rate) (rate_le : rate ≤ scale)
    (scale_pos : 0 < scale) (low_nonpos : low ≤ 0) (high_nonneg : 0 ≤ high) :
    (saturate low high (amount * rate)).tdiv scale ≤ amount := by
  have product_nonneg : 0 ≤ amount * rate := mul_nonneg amount_nonneg rate_nonneg
  have within : amount * rate ≤ amount * scale := mul_le_mul_of_nonneg_left rate_le amount_nonneg
  exact tdiv_le_of_le_mul (saturate_nonneg product_nonneg high_nonneg)
    ((saturate_le product_nonneg low_nonpos).trans within) scale_pos

theorem share_nonpos (amount_nonpos : amount ≤ 0) (rate_nonneg : 0 ≤ rate)
    (scale_pos : 0 < scale) (low_nonpos : low ≤ 0) :
    (saturate low high (amount * rate)).tdiv scale ≤ 0 := by
  have product_nonpos : amount * rate ≤ 0 := mul_nonpos_of_nonpos_of_nonneg amount_nonpos rate_nonneg
  have product_saturates : saturate low high (amount * rate) ≤ 0 :=
    saturate_nonpos product_nonpos low_nonpos
  have flipped : 0 ≤ (-saturate low high (amount * rate)).tdiv scale :=
    Int.tdiv_nonneg (by omega) scale_pos.le
  rw [Int.neg_tdiv] at flipped
  omega

theorem le_share (amount_nonpos : amount ≤ 0) (rate_nonneg : 0 ≤ rate) (rate_le : rate ≤ scale)
    (scale_pos : 0 < scale) (low_nonpos : low ≤ 0) (high_nonneg : 0 ≤ high) :
    amount ≤ (saturate low high (amount * rate)).tdiv scale := by
  have product_nonpos : amount * rate ≤ 0 := mul_nonpos_of_nonpos_of_nonneg amount_nonpos rate_nonneg
  have within : -amount * rate ≤ -amount * scale :=
    mul_le_mul_of_nonneg_left rate_le (by omega)
  have flipped : (-saturate low high (amount * rate)).tdiv scale ≤ -amount := by
    refine tdiv_le_of_le_mul ?_ ?_ scale_pos
    · have upper : saturate low high (amount * rate) ≤ 0 := saturate_nonpos product_nonpos low_nonpos
      omega
    · have lower : amount * rate ≤ saturate low high (amount * rate) :=
        le_saturate product_nonpos high_nonneg
      linarith
  rw [Int.neg_tdiv] at flipped
  omega

end Share

end BoundedArithmetic
