import LeaseFlow.Foundations.Run
import Mathlib.Data.List.Basic
import Mathlib.Algebra.Order.Ring.Nat
import Mathlib.Tactic.Linarith

/-!
# A rate limit over a shrinking stock

A meter holds a stock and the times at which items were closed.  A closing is allowed
while the recent closings are at most a fraction of the stock, and it takes its item out
of the stock.  Over any stretch of one window the closings are then at most one more than
that fraction of the items there were.
-/

set_option autoImplicit false

namespace RateLimit

/-- At most `threshold` of `scale` parts of the stock within a window. -/
structure Limit where
  window : Nat
  threshold : Nat
  scale : Nat

structure Meter where
  total : Nat
  times : List Nat

inductive Event where
  | quiet
  | opened
  | closed (now : Nat)

def Event.opens : Event → Bool
  | .opened => true
  | _ => false

def Event.closes : Event → Bool
  | .closed _ => true
  | _ => false

variable (limit : Limit)

def Meter.recent (meter : Meter) (now : Nat) : Nat :=
  (meter.times.filter fun time => decide (now - limit.window ≤ time)).length

/-- What the limiter does on an event.  An item that is opened may miss the stock. -/
inductive Next : Meter → Event → Meter → Prop where
  | quiet (meter : Meter) : Next meter .quiet meter
  | opened {before after : Meter} (grown : after.total ≤ before.total + 1)
      (times : after.times = before.times) : Next before .opened after
  | closed {meter : Meter} {now : Nat} (stocked : 0 < meter.total)
      (allowed : meter.recent limit now * limit.scale / meter.total ≤ limit.threshold) :
      Next meter (.closed now) ⟨meter.total - 1, meter.times ++ [now]⟩

/-- The threshold is coarse enough for the closings to outweigh the rounding. -/
structure Limit.Coarse (limit : Limit) : Prop where
  scaled : 0 < limit.scale
  coarse : limit.scale ≤ limit.threshold * (limit.threshold + 1)

/-- What the limiter has seen since the start of a stretch that began with the stock. -/
structure Meter.Since (start stock opened closed : Nat) (meter : Meter) : Prop where
  recorded : closed ≤ (meter.times.filter fun time => decide (start ≤ time)).length
  drained : meter.total + closed ≤ stock + opened
  bounded : closed ≤ 1 + (stock + opened) * limit.threshold / limit.scale

variable {limit}

/-- The closings before an allowed one are within the fraction of everything there was. -/
theorem closed_le_of_allowed (coarse : limit.Coarse) {closed total stock : Nat}
    (stocked : 0 < total) (allowed : closed * limit.scale / total ≤ limit.threshold)
    (drained : total + closed ≤ stock) : closed ≤ stock * limit.threshold / limit.scale := by
  rw [Nat.le_div_iff_mul_le coarse.scaled]
  have below : closed * limit.scale < (limit.threshold + 1) * total :=
    (Nat.div_lt_iff_lt_mul stocked).mp (Nat.lt_succ_of_le allowed)
  by_contra exceeds
  have spent : (total + closed) * limit.threshold ≤ stock * limit.threshold :=
    Nat.mul_le_mul_right _ drained
  have rest : closed * limit.threshold < total := by nlinarith
  have rounded : closed * limit.scale ≤ closed * (limit.threshold * (limit.threshold + 1)) :=
    Nat.mul_le_mul_left _ coarse.coarse
  have grown : closed * limit.threshold * limit.threshold ≤ total * limit.threshold :=
    Nat.mul_le_mul_right _ rest.le
  nlinarith

section Since

variable {start stock opened closed : Nat} {before after : Meter}

theorem Meter.Since.afterOpening (since : before.Since limit start stock opened closed)
    (grown : after.total ≤ before.total + 1) (times : after.times = before.times) :
    after.Since limit start stock (opened + 1) closed := by
  refine ⟨times ▸ since.recorded, ?_, since.bounded.trans ?_⟩
  · have drained := since.drained
    omega
  · have more : (stock + opened) * limit.threshold ≤ (stock + (opened + 1)) * limit.threshold :=
      Nat.mul_le_mul_right _ (by omega)
    exact Nat.add_le_add_left (Nat.div_le_div_right more) 1

/-- The closings of the stretch are all recent when the next one is checked. -/
theorem Meter.Since.afterClosing (coarse : limit.Coarse) {now : Nat}
    (since : before.Since limit start stock opened closed) (late : start ≤ now)
    (soon : now ≤ start + limit.window) (stocked : 0 < before.total)
    (allowed : before.recent limit now * limit.scale / before.total ≤ limit.threshold) :
    Meter.Since limit start stock opened (closed + 1)
      ⟨before.total - 1, before.times ++ [now]⟩ := by
  have seen : closed ≤ before.recent limit now := by
    refine since.recorded.trans (List.Sublist.length_le ?_)
    refine List.monotone_filter_right _ fun time after => ?_
    rw [decide_eq_true_eq] at after ⊢
    omega
  have fewer : closed * limit.scale / before.total ≤ limit.threshold :=
    (Nat.div_le_div_right (Nat.mul_le_mul_right _ seen)).trans allowed
  have within := closed_le_of_allowed coarse stocked fewer since.drained
  refine ⟨?_, ?_, ?_⟩
  · have recorded := since.recorded
    rw [List.filter_append, List.length_append]
    simp only [List.filter_cons, decide_eq_true late, if_true, List.filter_nil,
      List.length_singleton]
    omega
  · have drained := since.drained
    show before.total - 1 + (closed + 1) ≤ stock + opened
    omega
  · omega

end Since

/-! ## Runs -/

section Runs

variable {σ ι : Type} {step : ι → σ → σ} {meter : σ → Meter} {event : ι → σ → Event}

/-- The step follows the limiter, and what it closes it closes within the window. -/
def Follows (limit : Limit) (step : ι → σ → σ) (meter : σ → Meter) (event : ι → σ → Event)
    (start : Nat) (call : ι) (state : σ) : Prop :=
  Next limit (meter state) (event call state) (meter (step call state)) ∧
    ∀ now, event call state = .closed now → start ≤ now ∧ now ≤ start + limit.window

theorem since_run (coarse : limit.Coarse) {start stock opened closed : Nat} {calls : List ι}
    {state : σ} (follows : Run.MeetsAlong step (Follows limit step meter event start) calls state)
    (since : (meter state).Since limit start stock opened closed) :
    (meter (Run.run step calls state)).Since limit start stock
      (opened + Run.count step (fun call state => (event call state).opens) calls state)
      (closed + Run.count step (fun call state => (event call state).closes) calls state) := by
  induction calls generalizing opened closed state with
  | nil => exact since
  | cons call rest ih =>
      obtain ⟨⟨next, timely⟩, later⟩ := follows
      simp only [Run.run, Run.count]
      rw [← Nat.add_assoc, ← Nat.add_assoc]
      refine ih later ?_
      generalize emitted : event call state = emission at next timely
      generalize meter (step call state) = after at next
      cases next with
      | quiet => exact since
      | opened grown times => exact since.afterOpening grown times
      | closed stocked allowed =>
          obtain ⟨late, soon⟩ := timely _ rfl
          exact since.afterClosing coarse late soon stocked allowed

/-- The closings of a run within one window are at most one more than the fraction of the
stock it starts with and the items it opens. -/
theorem closings_le (coarse : limit.Coarse) {start : Nat} {calls : List ι} {state : σ}
    (follows : Run.MeetsAlong step (Follows limit step meter event start) calls state) :
    Run.count step (fun call state => (event call state).closes) calls state ≤
      1 + ((meter state).total +
          Run.count step (fun call state => (event call state).opens) calls state) *
        limit.threshold / limit.scale := by
  have since := since_run coarse follows
    (⟨Nat.zero_le _, Nat.le_refl _, Nat.zero_le _⟩ : (meter state).Since limit start
      (meter state).total 0 0)
  simpa using since.bounded

end Runs

end RateLimit
