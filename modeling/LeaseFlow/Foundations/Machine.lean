import LeaseFlow.Foundations.Run
import LeaseFlow.Foundations.Transaction

/-!
# Machines of transactions

The state machine of a family of bodies: a call that goes through is a step to the state its
body leaves, and a call that faults is a step that changes nothing.  Where the calls see the time,
an event is a call at the time that a clock shows, or the clock going on to a later time.
-/

set_option autoImplicit false

namespace Machine

open Transaction

variable {σ ε ι : Type} (body : ι → Transaction σ ε Unit)

def step (call : ι) (state : σ) : σ :=
  (body call).attempt state

/-- The call goes through. -/
def Goes (call : ι) (state : σ) : Prop :=
  (body call).succeeds state = true

instance (call : ι) (state : σ) : Decidable (Goes body call state) :=
  inferInstanceAs (Decidable (_ = true))

variable {body} {call : ι} {state after : σ}

theorem Goes.commits (goes : Goes body call state) :
    Commits (body call) state () (step body call state) :=
  commits_attempt goes

theorem step_of_commits (run : Commits (body call) state () after) :
    step body call state = after :=
  attempt_of_commits run

theorem step_of_not_goes (refused : ¬ Goes body call state) : step body call state = state :=
  attempt_of_not_succeeds (Bool.eq_false_iff.mpr refused)

/-- What a call that goes through keeps, given its condition, a step keeps. -/
theorem step_keeps {inv : σ → Prop} {condition : Prop}
    (kept : ∀ next, Commits (body call) state () next → condition → inv state → inv next)
    (admitted : Goes body call state → condition) (holds : inv state) :
    inv (step body call state) := by
  by_cases goes : Goes body call state
  · exact kept _ goes.commits (admitted goes) holds
  · rwa [step_of_not_goes goes]

/-- A step keeps what holds exactly if the call does where it goes through. -/
theorem step_keeps_iff {inv : σ → Prop} {condition : Prop} (holds : inv state)
    (decided : ∀ next, Commits (body call) state () next → (inv next ↔ condition)) :
    inv (step body call state) ↔ (Goes body call state → condition) := by
  by_cases goes : Goes body call state
  · rw [decided _ goes.commits]
    exact ⟨fun holds _ => holds, fun given => given goes⟩
  · rw [step_of_not_goes goes]
    exact iff_of_true holds fun went => absurd went goes

/-- An invariant of the calls that go through and meet a condition holds along every run all of
whose calls meet it. -/
theorem invariant_along {inv : σ → Prop} {condition : ι → σ → Prop}
    (kept : ∀ call before next, Commits (body call) before () next → condition call before →
      inv before → inv next)
    {calls : List ι}
    (meets : Run.MeetsAlong (step body) (fun call before =>
      Goes body call before → condition call before) calls state)
    (holds : inv state) : inv (Run.run (step body) calls state) :=
  Run.invariant_along (fun call before => step_keeps (kept call before)) meets holds

theorem invariant_of_reaches {inv : σ → Prop} {start : σ}
    (kept : ∀ call before next, Commits (body call) before () next → inv before → inv next)
    (reached : Run.Reaches (step body) start state) (initially : inv start) : inv state := by
  refine reached.invariant (fun call before holds => ?_) initially
  exact step_keeps (fun next run _ => kept call before next run) (fun _ => trivial) holds

/-! ## The log of a run -/

section Log

variable {ν : Type} (body) (entry : ι → σ → Option ν)

/-- What a call that goes through enters, by the state it is made in. -/
def accepted (call : ι) (state : σ) : Option ν :=
  if (body call).succeeds state then entry call state else none

/-- The entries of the calls that go through, oldest first. -/
def log (calls : List ι) (state : σ) : List ν :=
  Run.emissions (step body) (accepted body entry) calls state

variable {body} {entry}

theorem accepted_of_goes (goes : Goes body call state) :
    accepted body entry call state = entry call state :=
  if_pos goes

theorem accepted_of_not_goes (refused : ¬ Goes body call state) :
    accepted body entry call state = none :=
  if_neg refused

/-- What every call that goes through keeps of the state and the log holds along a run. -/
theorem invariant_log {inv : σ → List ν → Prop}
    (kept : ∀ call before after entries, Commits (body call) before () after →
      inv before entries → inv after (entries ++ (entry call before).toList))
    (calls : List ι) {start : σ} (initially : inv start []) :
    inv (Run.run (step body) calls start) (log body entry calls start) := by
  refine Run.invariant_emissions (fun call state entries holds => ?_) calls initially
  by_cases goes : Goes body call state
  · rw [accepted_of_goes goes]
    exact kept call state _ entries goes.commits holds
  · rw [accepted_of_not_goes goes, step_of_not_goes goes, Option.toList_none, List.append_nil]
    exact holds

end Log

end Machine

/-! ## Machines under a clock -/

structure Clocked (σ : Type) where
  state : σ
  now : Nat

namespace Clocked

open Transaction

variable {σ ε ι : Type}

inductive Event (ι : Type) where
  | call (call : ι)
  | wait (time : Nat)

variable (body : Nat → ι → Transaction σ ε Unit)

/-- A time that has passed leaves the clock where it is. -/
def step : Event ι → Clocked σ → Clocked σ
  | .call call, clocked =>
      { clocked with state := Machine.step (body clocked.now) call clocked.state }
  | .wait time, clocked => { clocked with now := max clocked.now time }

variable {body} {clocked : Clocked σ} {call : ι}

/-- What every call that goes through keeps of the state, every event keeps. -/
theorem step_keeps {inv : σ → Prop}
    (kept : ∀ now call before after, Commits (body now call) before () after → inv before →
      inv after) (event : Event ι) (holds : inv clocked.state) :
    inv (step body event clocked).state := by
  cases event with
  | call call =>
      exact Machine.step_keeps (fun next run _ => kept _ call _ next run) (fun _ => trivial) holds
  | wait time => exact holds

/-- A call keeps what holds exactly if it does where it goes through. -/
theorem call_keeps_iff {inv : Clocked σ → Prop} {condition : Prop} (holds : inv clocked)
    (decided : ∀ after, Commits (body clocked.now call) clocked.state () after →
      (inv ⟨after, clocked.now⟩ ↔ condition)) :
    inv (step body (.call call) clocked) ↔
      (Machine.Goes (body clocked.now) call clocked.state → condition) :=
  @Machine.step_keeps_iff _ _ _ _ _ _ (fun state => inv ⟨state, clocked.now⟩) condition holds decided

end Clocked
