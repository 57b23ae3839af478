import LeaseFlow.Foundations.Proportion

/-!
# Amounts credited between readings

A meter is read at times in order.  Each reading credits what a rate gives of the time since the
reading before, rounded down, and starts the time anew.
-/

set_option autoImplicit false

namespace Accrual

open Proportion

/-- The times between the readings, nothing for a reading before the start. -/
def elapsed (start : Nat) : List Nat → List Int
  | [] => []
  | time :: rest => ((time - start : Nat) : Int) :: elapsed time rest

/-- The amounts that the readings credit. -/
def credited (scale rate : Int) (start : Nat) (times : List Nat) : List Int :=
  (elapsed start times).map (share scale rate)

/-- What rounding takes off the amounts, in parts of the scale. -/
def rounded (scale rate : Int) (start : Nat) (times : List Nat) : Int :=
  ((elapsed start times).map fun time => time * rate % scale).sum

variable {scale rate whole : Int} {start time : Nat} {times : List Nat}

@[simp] theorem length_elapsed : (elapsed start times).length = times.length := by
  induction times generalizing start with
  | nil => rfl
  | cons time rest ih => rw [elapsed, List.length_cons, List.length_cons, ih]

theorem elapsed_nonneg : ∀ time ∈ elapsed start times, 0 ≤ time := by
  induction times generalizing start with
  | nil => nofun
  | cons first rest ih =>
      intro time within
      rcases List.mem_cons.mp within with rfl | later
      · exact Int.natCast_nonneg _
      · exact ih time later

/-- One more reading counts from the last one before it. -/
theorem elapsed_append :
    elapsed start (times ++ [time]) =
      elapsed start times ++ [((time - times.getLastD start : Nat) : Int)] := by
  induction times generalizing start with
  | nil => rfl
  | cons first rest ih =>
      rw [List.cons_append, elapsed, elapsed, ih, List.cons_append, List.getLastD_cons]

theorem le_getLastD (ordered : (time :: times).Pairwise (· ≤ ·)) : time ≤ times.getLastD time := by
  have member : times.getLastD time ∈ time :: times := List.getLastD_mem_cons
  rcases List.mem_cons.mp member with same | within
  · exact same.ge
  · exact List.rel_of_pairwise_cons ordered within

/-- Readings in order measure the time up to the last one since the start, or since the first of
them where it lies before the start. -/
theorem sum_elapsed (ordered : (time :: times).Pairwise (· ≤ ·)) :
    (elapsed start (time :: times)).sum =
      ((times.getLastD time - min start time : Nat) : Int) := by
  induction times generalizing start time with
  | nil =>
      rw [elapsed, elapsed, List.sum_cons, List.sum_nil, List.getLastD_nil]
      omega
  | cons next rest ih =>
      have later : time ≤ next := List.rel_of_pairwise_cons ordered (List.mem_cons_self ..)
      have last := le_getLastD ordered.of_cons
      rw [elapsed, List.sum_cons, ih ordered.of_cons, List.getLastD_cons]
      omega

/-- The amounts fall short of the rate of a whole, which is no more than the time measured, by
less than a unit for each reading, and they stay within it exactly where rounding takes off what
is measured beyond the whole. -/
theorem credited_adds_up_iff (scale_pos : 0 < scale) (rate_nonneg : 0 ≤ rate)
    (nonempty : times ≠ []) (bounded : whole ≤ (elapsed start times).sum) :
    (whole * rate - times.length * scale < (credited scale rate start times).sum * scale ∧
      (credited scale rate start times).sum * scale ≤ whole * rate) ↔
      ((elapsed start times).sum - whole) * rate ≤ rounded scale rate start times := by
  have exact' := @sum_shares_mul scale rate (elapsed start times)
  have lost := @sum_mul_le_sum_shares scale rate scale_pos (elapsed start times)
  have more : whole * rate ≤ (elapsed start times).sum * rate :=
    mul_le_mul_of_nonneg_right bounded rate_nonneg
  have counted : (0 : Int) < times.length := by
    exact_mod_cast List.length_pos_iff.mpr nonempty
  rw [length_elapsed, sub_mul, one_mul, mul_comm scale] at lost
  rw [sub_mul, credited, rounded, exact', sub_le_comm]
  exact and_iff_right (by linarith)

end Accrual
