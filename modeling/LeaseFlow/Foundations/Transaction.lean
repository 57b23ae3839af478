import Mathlib.Control.Monad.Basic

/-!
# Transactions over a state

A body computes on a state and either returns or faults.  A fault inside a body
keeps the writes made before it, so that the branches which write and then fail
stay visible; only `attempt`, the top-level call, restores the state it started
from.  The rules below read the successful executions of a body off its shape,
one lemma for each way of building a body.
-/

set_option autoImplicit false

abbrev Transaction (σ ε α : Type) := ExceptT ε (StateM σ) α

namespace Transaction

variable {σ ε δ α β : Type}

/-- The outcome of a body and the state it leaves behind, faulty or not. -/
def execute (body : Transaction σ ε α) (before : σ) : Except ε α × σ :=
  StateT.run (ExceptT.run body) before

def Commits (body : Transaction σ ε α) (before : σ) (value : α) (after : σ) : Prop :=
  body.execute before = (Except.ok value, after)

def Faults (body : Transaction σ ε α) (before : σ) (fault : ε) (after : σ) : Prop :=
  body.execute before = (Except.error fault, after)

/-- A top-level call: the writes of a body that faults are rolled back. -/
def attempt (body : Transaction σ ε α) (before : σ) : σ :=
  match body.execute before with
  | (.ok _, after) => after
  | (.error _, _) => before

/-- Whether a top-level call goes through. -/
def succeeds (body : Transaction σ ε α) (before : σ) : Bool :=
  match body.execute before with
  | (.ok _, _) => true
  | (.error _, _) => false

/-! ## Building blocks -/

def ensure (condition : Prop) [Decidable condition] (fault : ε) : Transaction σ ε Unit :=
  if condition then pure () else throw fault

/-- Read a part of the state. -/
def inspect (view : σ → α) : Transaction σ ε α := do
  let state ← get
  pure (view state)

def fetch (found : Option α) (fault : ε) : Transaction σ ε α :=
  match found with
  | some value => pure value
  | none => throw fault

/-- Keep a recoverable fault as a value; any other fault still ends the body. -/
def capture (recover : ε → Option δ) (body : Transaction σ ε α) :
    Transaction σ ε (Except δ α) :=
  ExceptT.mk fun before =>
    match body.execute before with
    | (.ok value, after) => (.ok (.ok value), after)
    | (.error fault, after) =>
        match recover fault with
        | some caught => (.ok (.error caught), after)
        | none => (.error fault, after)

/-- Raise a captured fault again. -/
def propagate (raise : δ → ε) (outcome : Except δ α) : Transaction σ ε α :=
  match outcome with
  | .ok value => pure value
  | .error caught => throw (raise caught)

/-! ## Executing a sequence -/

theorem execute_bind (first : Transaction σ ε α) (next : α → Transaction σ ε β) (before : σ) :
    (first >>= next).execute before =
      match first.execute before with
      | (.ok value, middle) => (next value).execute middle
      | (.error fault, middle) => (.error fault, middle) := by
  show (match first.execute before with
    | (outcome, middle) => StateT.run (ExceptT.bindCont next outcome) middle) = _
  rcases first.execute before with ⟨outcome, middle⟩
  cases outcome <;> rfl

theorem execute_capture (recover : ε → Option δ) (body : Transaction σ ε α) (before : σ) :
    (capture recover body).execute before =
      match body.execute before with
      | (.ok value, after) => (.ok (.ok value), after)
      | (.error fault, after) =>
          match recover fault with
          | some caught => (.ok (.error caught), after)
          | none => (.error fault, after) :=
  rfl

section Commits

variable {before after : σ}

@[simp] theorem commits_pure (value result : α) :
    Commits (pure value : Transaction σ ε α) before result after ↔
      result = value ∧ after = before := by
  constructor
  · intro run
    cases run
    exact ⟨rfl, rfl⟩
  · rintro ⟨rfl, rfl⟩
    rfl

@[simp] theorem commits_bind (first : Transaction σ ε α) (next : α → Transaction σ ε β)
    (result : β) :
    Commits (first >>= next) before result after ↔
      ∃ value middle, Commits first before value middle ∧
        Commits (next value) middle result after := by
  unfold Commits
  rw [execute_bind]
  rcases first.execute before with ⟨outcome, middle⟩
  cases outcome with
  | ok value =>
      constructor
      · intro rest
        exact ⟨value, middle, rfl, rest⟩
      · rintro ⟨_, _, same, rest⟩
        cases same
        exact rest
  | error fault =>
      constructor
      · intro rest
        cases rest
      · rintro ⟨_, _, same, _⟩
        cases same

@[simp] theorem commits_map (f : α → β) (body : Transaction σ ε α) (result : β) :
    Commits (f <$> body) before result after ↔
      ∃ value, Commits body before value after ∧ result = f value := by
  rw [← bind_pure_comp, commits_bind]
  constructor
  · rintro ⟨value, middle, run, finish⟩
    obtain ⟨rfl, rfl⟩ := (commits_pure (f value) result).mp finish
    exact ⟨value, run, rfl⟩
  · rintro ⟨value, run, rfl⟩
    exact ⟨value, after, run, rfl⟩

@[simp] theorem commits_throw (fault : ε) (value : α) :
    ¬ Commits (throw fault : Transaction σ ε α) before value after := by
  intro run
  cases run

@[simp] theorem commits_get (result : σ) :
    Commits (get : Transaction σ ε σ) before result after ↔
      result = before ∧ after = before := by
  constructor
  · intro run
    cases run
    exact ⟨rfl, rfl⟩
  · rintro ⟨rfl, rfl⟩
    rfl

@[simp] theorem commits_modify (f : σ → σ) (result : Unit) :
    Commits (modify f : Transaction σ ε Unit) before result after ↔ after = f before := by
  constructor
  · intro run
    cases run
    rfl
  · rintro rfl
    rfl

@[simp] theorem commits_ite (condition : Prop) [Decidable condition]
    (yes no : Transaction σ ε α) (result : α) :
    Commits (if condition then yes else no) before result after ↔
      if condition then Commits yes before result after else Commits no before result after := by
  split <;> rfl

@[simp] theorem commits_ensure (condition : Prop) [Decidable condition] (fault : ε)
    (result : Unit) :
    Commits (ensure condition fault) before result after ↔ condition ∧ after = before := by
  unfold ensure
  by_cases holds : condition <;> simp [holds]

@[simp] theorem commits_inspect (view : σ → α) (result : α) :
    Commits (inspect view : Transaction σ ε α) before result after ↔
      result = view before ∧ after = before := by
  simp only [inspect, commits_bind, commits_get, commits_pure]
  constructor
  · rintro ⟨_, _, ⟨rfl, rfl⟩, read⟩
    exact read
  · rintro ⟨rfl, rfl⟩
    exact ⟨after, after, ⟨rfl, rfl⟩, rfl, rfl⟩

@[simp] theorem commits_fetch (found : Option α) (fault : ε) (result : α) :
    Commits (fetch found fault) before result after ↔ found = some result ∧ after = before := by
  cases found with
  | none => simp [fetch]
  | some value => simp [fetch, eq_comm]

@[simp] theorem commits_propagate (raise : δ → ε) (outcome : Except δ α) (result : α) :
    Commits (propagate raise outcome) before result after ↔
      outcome = .ok result ∧ after = before := by
  cases outcome with
  | ok value => simp [propagate, eq_comm]
  | error caught => simp [propagate]

@[simp] theorem commits_capture_ok (recover : ε → Option δ) (body : Transaction σ ε α)
    (value : α) :
    Commits (capture recover body) before (.ok value) after ↔
      Commits body before value after := by
  unfold Commits
  rw [execute_capture]
  rcases body.execute before with ⟨outcome, left⟩
  cases outcome with
  | ok kept => simp
  | error fault => cases caught : recover fault <;> simp [caught]

end Commits

/-! ## Executing step by step -/

section Execute

variable {before : σ}

theorem execute_get_bind (next : σ → Transaction σ ε β) :
    ((get : Transaction σ ε σ) >>= next).execute before = (next before).execute before :=
  rfl

theorem execute_inspect_bind (view : σ → α) (next : α → Transaction σ ε β) :
    (inspect view >>= next).execute before = (next (view before)).execute before :=
  rfl

theorem execute_modify_bind (f : σ → σ) (next : Unit → Transaction σ ε β) :
    ((modify f : Transaction σ ε Unit) >>= next).execute before = (next ()).execute (f before) :=
  rfl

theorem execute_ensure_bind {condition : Prop} [Decidable condition] (holds : condition)
    (raised : ε) (next : Unit → Transaction σ ε β) :
    (ensure condition raised >>= next).execute before = (next ()).execute before := by
  rw [ensure, if_pos holds]
  rfl

theorem execute_ensure_bind_of_not {condition : Prop} [Decidable condition]
    (fails : ¬ condition) (raised : ε) (next : Unit → Transaction σ ε β) :
    (ensure condition raised >>= next).execute before = (.error raised, before) := by
  rw [ensure, if_neg fails]
  rfl

theorem execute_fetch_bind {found : Option α} {value : α} (stored : found = some value)
    (raised : ε) (next : α → Transaction σ ε β) :
    (fetch found raised >>= next).execute before = (next value).execute before := by
  rw [stored]
  rfl

theorem execute_fetch_bind_of_none {found : Option α} (missing : found = none)
    (raised : ε) (next : α → Transaction σ ε β) :
    (fetch found raised >>= next).execute before = (.error raised, before) := by
  rw [missing]
  rfl

end Execute

/-! ## Top-level calls -/

section TopLevel

variable {body : Transaction σ ε α} {before after : σ}

@[simp] theorem attempt_of_commits {value : α} (run : Commits body before value after) :
    body.attempt before = after := by
  rw [attempt, run]

theorem succeeds_iff : body.succeeds before = true ↔ ∃ value after, Commits body before value after := by
  unfold succeeds Commits
  rcases body.execute before with ⟨outcome, left⟩
  cases outcome <;> simp

/-- A closed run is checked by evaluating `succeeds`; this gives back its commit. -/
theorem commits_attempt {body : Transaction σ ε Unit} {before : σ}
    (ok : body.succeeds before = true) : Commits body before () (body.attempt before) := by
  obtain ⟨value, after, run⟩ := succeeds_iff.mp ok
  rw [attempt_of_commits run]
  exact run

theorem attempt_of_not_succeeds (failed : body.succeeds before = false) :
    body.attempt before = before := by
  unfold succeeds at failed
  unfold attempt
  split at failed
  · cases failed
  · rfl

/-- A top-level call either commits or leaves the state as it was. -/
theorem attempt_cases (body : Transaction σ ε α) (before : σ) :
    (∃ value, Commits body before value (body.attempt before)) ∨
      body.attempt before = before := by
  by_cases ok : body.succeeds before = true
  · obtain ⟨value, after, run⟩ := succeeds_iff.mp ok
    exact .inl ⟨value, by rwa [attempt_of_commits run]⟩
  · exact .inr (attempt_of_not_succeeds (by simpa using ok))

end TopLevel

/-! ## Bodies that keep a view of the state -/

/-- Every successful execution leaves the view as it found it. -/
def Keeps {ν : Type} (view : σ → ν) (body : Transaction σ ε α) : Prop :=
  ∀ ⦃before value after⦄, Commits body before value after → view after = view before

/-- Every execution, faulty or not, leaves the view as it found it. -/
def Steady {ν : Type} (view : σ → ν) (body : Transaction σ ε α) : Prop :=
  ∀ before, view (body.execute before).2 = view before

section Steady

variable {ν : Type} {view : σ → ν}

theorem Steady.keeps {body : Transaction σ ε α} (steady : Steady view body) : Keeps view body := by
  intro before value after run
  have kept := steady before
  rwa [run] at kept

theorem steady_pure (value : α) : Steady view (pure value : Transaction σ ε α) :=
  fun _ => rfl

theorem steady_throw (fault : ε) : Steady view (throw fault : Transaction σ ε α) :=
  fun _ => rfl

theorem steady_get : Steady view (get : Transaction σ ε σ) :=
  fun _ => rfl

theorem steady_modify {f : σ → σ} (same : ∀ state, view (f state) = view state) :
    Steady view (modify f : Transaction σ ε Unit) :=
  same

theorem steady_bind {first : Transaction σ ε α} {next : α → Transaction σ ε β}
    (kept : Steady view first) (rest : ∀ value, Steady view (next value)) :
    Steady view (first >>= next) := by
  intro before
  have start := kept before
  rw [execute_bind]
  split
  · next value middle ran =>
      rw [ran] at start
      exact (rest value middle).trans start
  · next fault middle ran =>
      rw [ran] at start
      exact start

theorem steady_map (f : α → β) {body : Transaction σ ε α} (kept : Steady view body) :
    Steady view (f <$> body) := by
  rw [← bind_pure_comp]
  exact steady_bind kept fun value => steady_pure (f value)

theorem steady_ite (condition : Prop) [Decidable condition] {yes no : Transaction σ ε α}
    (left : Steady view yes) (right : Steady view no) :
    Steady view (if condition then yes else no) := by
  split
  · exact left
  · exact right

theorem steady_inspect (read : σ → α) : Steady view (inspect read : Transaction σ ε α) :=
  steady_bind steady_get fun state => steady_pure (read state)

theorem steady_ensure (condition : Prop) [Decidable condition] (fault : ε) :
    Steady view (ensure condition fault : Transaction σ ε Unit) :=
  steady_ite condition (steady_pure ()) (steady_throw fault)

theorem steady_fetch (found : Option α) (fault : ε) :
    Steady view (fetch found fault : Transaction σ ε α) := by
  cases found with
  | none => exact steady_throw fault
  | some value => exact steady_pure value

theorem steady_propagate (raise : δ → ε) (outcome : Except δ α) :
    Steady view (propagate raise outcome : Transaction σ ε α) := by
  cases outcome with
  | ok value => exact steady_pure value
  | error caught => exact steady_throw (raise caught)

theorem steady_foldlM {body : β → α → Transaction σ ε β}
    (kept : ∀ total item, Steady view (body total item)) (items : List α) (total : β) :
    Steady view (items.foldlM body total) := by
  induction items generalizing total with
  | nil => exact steady_pure total
  | cons item rest ih =>
      rw [List.foldlM_cons]
      exact steady_bind (kept total item) fun next => ih next

theorem steady_capture (recover : ε → Option δ) {body : Transaction σ ε α}
    (kept : Steady view body) : Steady view (capture recover body) := by
  intro before
  have same := kept before
  rw [execute_capture]
  split
  · next value left ran =>
      rw [ran] at same
      exact same
  · next fault left ran =>
      rw [ran] at same
      split <;> exact same

end Steady

/-! ## Faults that an execution cannot end in -/

/-- Executed from the state, the body does not end in a fault of the given kind. -/
def Avoids (bad : ε → Prop) (body : Transaction σ ε α) (before : σ) : Prop :=
  ∀ fault after, Faults body before fault after → ¬ bad fault

section Avoids

variable {bad : ε → Prop} {before : σ}

/-- What follows a step is only executed where the step commits. -/
theorem avoids_bind {first : Transaction σ ε α} {next : α → Transaction σ ε β}
    (start : Avoids bad first before)
    (rest : ∀ value middle, Commits first before value middle → Avoids bad (next value) middle) :
    Avoids bad (first >>= next) before := by
  intro fault after faulted
  unfold Faults at faulted
  rw [execute_bind] at faulted
  split at faulted
  · next value middle ran => exact rest value middle ran fault after faulted
  · next caught middle ran =>
      cases faulted
      exact start fault after ran

theorem avoids_pure (value : α) : Avoids bad (pure value : Transaction σ ε α) before := by
  intro fault after faulted
  cases faulted

theorem avoids_modify (f : σ → σ) : Avoids bad (modify f : Transaction σ ε Unit) before := by
  intro fault after faulted
  cases faulted

theorem avoids_inspect (view : σ → α) :
    Avoids bad (inspect view : Transaction σ ε α) before := by
  intro fault after faulted
  cases faulted

theorem avoids_ensure {condition : Prop} [Decidable condition] {fault : ε}
    (fine : condition ∨ ¬ bad fault) :
    Avoids bad (ensure condition fault : Transaction σ ε Unit) before := by
  intro raised after faulted
  unfold ensure at faulted
  split at faulted
  · cases faulted
  · next fails =>
      cases faulted
      exact fine.resolve_left fails

theorem avoids_fetch (found : Option α) {fault : ε} (fine : ¬ bad fault) :
    Avoids bad (fetch found fault : Transaction σ ε α) before := by
  intro raised after faulted
  cases found with
  | none =>
      cases faulted
      exact fine
  | some value => cases faulted

theorem avoids_propagate {raise : δ → ε} {outcome : Except δ α}
    (fine : ∀ caught, outcome = .error caught → ¬ bad (raise caught)) :
    Avoids bad (propagate raise outcome : Transaction σ ε α) before := by
  intro raised after faulted
  cases outcome with
  | ok value => cases faulted
  | error caught =>
      cases faulted
      exact fine caught rfl

theorem avoids_ite {condition : Prop} [Decidable condition] {yes no : Transaction σ ε α}
    (left : condition → Avoids bad yes before) (right : ¬ condition → Avoids bad no before) :
    Avoids bad (if condition then yes else no) before := by
  split
  · next holds => exact left holds
  · next fails => exact right fails

end Avoids

end Transaction
