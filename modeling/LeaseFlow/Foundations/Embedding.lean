import LeaseFlow.Foundations.Transaction

/-!
# Transactions on a part of a state

A body that computes on a part of a larger state is executed where the part lies; its faults
are renamed to those of the caller, or dropped where the caller ignores the result.
-/

set_option autoImplicit false

namespace Transaction

variable {σ τ ε δ α : Type}

/-- Execute a body on a part of the state. -/
def within (view : σ → τ) (replace : τ → σ → σ) (body : Transaction τ ε α) :
    Transaction σ ε α :=
  ExceptT.mk fun before =>
    let outcome := body.execute (view before)
    (outcome.1, replace outcome.2 before)

/-- Raise the faults of a body as those of its caller. -/
def raising (raise : ε → δ) (body : Transaction σ ε α) : Transaction σ δ α :=
  ExceptT.mk fun before =>
    let outcome := body.execute before
    (outcome.1.mapError raise, outcome.2)

/-- `let _ = f(..)`: the value of a body and its recoverable faults are dropped, and what it
wrote before such a fault stays; a fatal fault is raised. -/
def dropping (fatal : ε → Option δ) (body : Transaction σ ε α) : Transaction σ δ Unit :=
  ExceptT.mk fun before =>
    match body.execute before with
    | (.ok _, after) => (.ok (), after)
    | (.error fault, after) =>
        match fatal fault with
        | some raised => (.error raised, after)
        | none => (.ok (), after)

section Rules

variable {before after : σ} {view : σ → τ} {replace : τ → σ → σ}

theorem execute_within (body : Transaction τ ε α) :
    (within view replace body).execute before =
      ((body.execute (view before)).1, replace (body.execute (view before)).2 before) :=
  rfl

@[simp] theorem commits_within (body : Transaction τ ε α) (result : α) :
    Commits (within view replace body) before result after ↔
      ∃ part, Commits body (view before) result part ∧ after = replace part before := by
  unfold Commits
  rw [execute_within]
  rcases body.execute (view before) with ⟨outcome, left⟩
  simp only [Prod.mk.injEq]
  constructor
  · rintro ⟨rfl, rfl⟩
    exact ⟨left, ⟨rfl, rfl⟩, rfl⟩
  · rintro ⟨part, ⟨rfl, rfl⟩, rfl⟩
    exact ⟨rfl, rfl⟩

theorem faults_within {body : Transaction τ ε α} {fault : ε} {part : τ}
    (faults : Faults body (view before) fault part) :
    Faults (within view replace body) before fault (replace part before) := by
  unfold Faults at faults ⊢
  rw [execute_within, faults]

theorem execute_raising (raise : ε → δ) (body : Transaction σ ε α) :
    (raising raise body).execute before =
      ((body.execute before).1.mapError raise, (body.execute before).2) :=
  rfl

@[simp] theorem commits_raising (raise : ε → δ) (body : Transaction σ ε α) (result : α) :
    Commits (raising raise body) before result after ↔ Commits body before result after := by
  unfold Commits
  rw [execute_raising]
  rcases body.execute before with ⟨outcome, left⟩
  cases outcome <;> simp [Except.mapError]

theorem execute_dropping (fatal : ε → Option δ) (body : Transaction σ ε α) :
    (dropping fatal body).execute before =
      match body.execute before with
      | (.ok _, after) => (.ok (), after)
      | (.error fault, after) =>
          match fatal fault with
          | some raised => (.error raised, after)
          | none => (.ok (), after) :=
  rfl

/-- A body whose result is ignored goes on when it returns or faults recoverably. -/
theorem commits_dropping (fatal : ε → Option δ) (body : Transaction σ ε α) (result : Unit) :
    Commits (dropping fatal body) before result after ↔
      (∃ value, Commits body before value after) ∨
        ∃ fault, Faults body before fault after ∧ fatal fault = none := by
  unfold Commits Faults
  rw [execute_dropping]
  rcases body.execute before with ⟨outcome, left⟩
  cases outcome with
  | ok value => simp
  | error fault =>
      cases raises : fatal fault with
      | some raised =>
          refine iff_of_false (by simp [raises]) ?_
          rintro (⟨_, run⟩ | ⟨other, same, dropped⟩)
          · cases run
          · cases same
            cases raises.symm.trans dropped
      | none =>
          simp only [raises]
          constructor
          · intro run
            cases run
            exact .inr ⟨fault, rfl, raises⟩
          · rintro (⟨_, run⟩ | ⟨other, same, _⟩)
            · cases run
            · cases same
              rfl

theorem faults_bind {β : Type} (first : Transaction σ ε α) (next : α → Transaction σ ε β)
    (fault : ε) :
    Faults (first >>= next) before fault after ↔
      Faults first before fault after ∨
        ∃ value middle, Commits first before value middle ∧
          Faults (next value) middle fault after := by
  unfold Faults Commits
  rw [execute_bind]
  rcases first.execute before with ⟨outcome, middle⟩
  cases outcome with
  | ok value =>
      simp only [Prod.mk.injEq, reduceCtorEq, false_and, false_or]
      constructor
      · intro faulted
        exact ⟨value, middle, ⟨rfl, rfl⟩, faulted⟩
      · rintro ⟨_, _, ⟨same, rfl⟩, faulted⟩
        cases same
        exact faulted
  | error raised => simp

/-- A sequence faults where its second part does, after the first has gone through. -/
theorem faults_of_commits {β : Type} {first : Transaction σ ε α} {next : α → Transaction σ ε β}
    {value : α} {middle : σ} {fault : ε} (run : Commits first before value middle)
    (faults : Faults (next value) middle fault after) :
    Faults (first >>= next) before fault after :=
  (faults_bind first next fault).mpr (.inr ⟨value, middle, run, faults⟩)

theorem faults_ensure {condition : Prop} [Decidable condition] {raised fault : ε} :
    Faults (ensure condition raised) before fault after ↔
      ¬ condition ∧ fault = raised ∧ after = before := by
  unfold ensure
  split
  · next holds =>
      refine iff_of_false (fun faulted => ?_) (fun fails => fails.1 holds)
      cases faulted
  · next fails =>
      constructor
      · intro faulted
        cases faulted
        exact ⟨fails, rfl, rfl⟩
      · rintro ⟨_, rfl, rfl⟩
        rfl

theorem faults_fetch {found : Option α} {raised fault : ε} :
    Faults (fetch found raised) before fault after ↔
      found = none ∧ fault = raised ∧ after = before := by
  cases found with
  | none =>
      constructor
      · intro faulted
        cases faulted
        exact ⟨rfl, rfl, rfl⟩
      · rintro ⟨_, rfl, rfl⟩
        rfl
  | some value =>
      refine iff_of_false (fun faulted => ?_) (by rintro ⟨⟨⟩, _⟩)
      cases faulted

theorem not_faults_modify {f : σ → σ} {fault : ε} :
    ¬ Faults (modify f : Transaction σ ε Unit) before fault after := by
  intro faulted
  cases faulted

theorem not_faults_inspect {read : σ → α} {fault : ε} :
    ¬ Faults (inspect read : Transaction σ ε α) before fault after := by
  intro faulted
  cases faulted

theorem not_faults_pure {value : α} {fault : ε} :
    ¬ Faults (pure value : Transaction σ ε α) before fault after := by
  intro faulted
  cases faulted

end Rules

theorem steady_raising {ν : Type} {kept : σ → ν} {body : Transaction σ ε α} (raise : ε → δ)
    (steady : Steady kept body) : Steady kept (raising raise body) :=
  steady

end Transaction
