import LeaseFlow.Contract.Dispatch

/-!
# Books kept beside the store

What the contract holds of a lease (LP tokens, rent, frozen assets) is known from the run, not
from the store alone.  A book records it: a call that goes through makes its entry in the state
it is made in, and a call that fails makes none.
-/

set_option autoImplicit false

namespace LeaseFlow

open Transaction

section Books

variable {γ : Type} (entry : Env → World → Call → γ → γ)

/-- The book after a call. -/
def Invocation.enter (invocation : Invocation) (world : World) (book : γ) : γ :=
  if invocation.body.succeeds world = true then
    entry invocation.env world invocation.call book
  else book

/-- A top-level call, with a book beside the store. -/
def bookedStep : Invocation → World × γ → World × γ :=
  Run.annotate step (Invocation.enter entry)

variable {entry} {world : World} {book : γ} {invocation : Invocation}

theorem enter_of_committed (committed : invocation.Committed world) :
    invocation.enter entry world book = entry invocation.env world invocation.call book :=
  if_pos committed

theorem enter_of_refused (refused : ¬ invocation.Committed world) :
    invocation.enter entry world book = book :=
  if_neg refused

theorem run_bookedStep_fst (calls : List Invocation) (world : World) (book : γ) :
    (Run.run (bookedStep entry) calls (world, book)).1 = Run.run step calls world :=
  Run.run_annotate_fst calls (world, book)

/-- Where committed calls keep an invariant of store and book exactly when they do not spoil
it, a run keeps it in every state exactly when none of its committed calls spoils it. -/
theorem booked_along_iff {base inv : World → γ → Prop} {spoils : Env → World → Call → Prop}
    (kept : ∀ env call world after book, Commits (dispatch env call) world () after →
      base world book → base after (entry env world call book))
    (decided : ∀ env call world after book, Commits (dispatch env call) world () after →
      base world book → inv world book → (inv after (entry env world call book) ↔
        ¬ spoils env world call))
    (calls : List Invocation) (based : base world book) (holds : inv world book) :
    Run.MeetsAlong (bookedStep entry)
        (fun call state => inv (bookedStep entry call state).1 (bookedStep entry call state).2)
        calls (world, book) ↔
      Run.MeetsAlong step (fun invocation world => invocation.Committed world →
        ¬ spoils invocation.env world invocation.call) calls world := by
  have keeps (invocation : Invocation) (state : World × γ) (based : base state.1 state.2) :
      base (step invocation state.1) (invocation.enter entry state.1 state.2) := by
    by_cases committed : invocation.Committed state.1
    · rw [enter_of_committed committed]
      exact kept invocation.env invocation.call _ _ _ committed.commits based
    · rwa [enter_of_refused committed, step_of_not_committed committed]
  have agree (invocation : Invocation) (state : World × γ) (based : base state.1 state.2)
      (holds : inv state.1 state.2) :
      inv (step invocation state.1) (invocation.enter entry state.1 state.2) ↔
        (invocation.Committed state.1 → ¬ spoils invocation.env state.1 invocation.call) := by
    by_cases committed : invocation.Committed state.1
    · rw [enter_of_committed committed, imp_iff_right committed]
      exact decided invocation.env invocation.call _ _ _ committed.commits based holds
    · rw [enter_of_refused committed, step_of_not_committed committed]
      exact iff_of_true holds fun goes => absurd goes committed
  refine (@Run.invariant_along_iff _ _ (bookedStep entry) (fun state => base state.1 state.2)
    (fun state => inv state.1 state.2) _ keeps agree calls (world, book) based holds).trans ?_
  exact @Run.meetsAlong_annotate _ _ step _ _ (fun invocation world =>
    invocation.Committed world → ¬ spoils invocation.env world invocation.call) calls (world, book)

end Books

end LeaseFlow
