import LeaseFlow.Foundations.Embedding

/-!
# Errors and traps

A body ends early with an error of its module, which a caller may handle, or with a trap, which
ends the whole call.
-/

set_option autoImplicit false

inductive Failure (ε : Type) where
  | err (error : ε)
  | trap (message : String)
  deriving DecidableEq, Repr

namespace Failure

open Transaction

variable {σ ε δ α : Type}

/-- `map_err`: a trap stays a trap. -/
def mapErr (f : ε → δ) : Failure ε → Failure δ
  | .err error => .err (f error)
  | .trap message => .trap message

/-- `return Err(..)` unless the condition holds. -/
def check (condition : Prop) [Decidable condition] (error : ε) :
    Transaction σ (Failure ε) Unit :=
  ensure condition (.err error)

def orErr (found : Option α) (error : ε) : Transaction σ (Failure ε) α :=
  fetch found (.err error)

/-- Trap unless the condition holds. -/
def orTrap (condition : Prop) [Decidable condition] (message : String) :
    Transaction σ (Failure ε) Unit :=
  ensure condition (.trap message)

/-- An unsigned result, unless it exceeds the bound of its type. -/
def checkedUpTo (bound value : Nat) : Transaction σ (Failure ε) Nat := do
  orTrap (value ≤ bound) "attempt to perform arithmetic with overflow"
  pure value

/-- An unsigned difference, unless it would be negative. -/
def checkedSub (left right : Nat) : Transaction σ (Failure ε) Nat := do
  orTrap (right ≤ left) "attempt to subtract with overflow"
  pure (left - right)

section Rules

variable {before after : σ}

@[simp] theorem commits_check (condition : Prop) [Decidable condition] (error : ε)
    (result : Unit) :
    Commits (check condition error) before result after ↔ condition ∧ after = before :=
  commits_ensure condition (Failure.err error) result

@[simp] theorem commits_orErr (found : Option α) (error : ε) (result : α) :
    Commits (orErr found error) before result after ↔ found = some result ∧ after = before :=
  commits_fetch found (Failure.err error) result

theorem faults_orErr {found : Option α} {error : ε} {fault : Failure ε} :
    Faults (orErr found error) before fault after ↔
      found = none ∧ fault = .err error ∧ after = before :=
  faults_fetch

@[simp] theorem commits_orTrap (condition : Prop) [Decidable condition] (message : String)
    (result : Unit) :
    Commits (orTrap condition message : Transaction σ (Failure ε) Unit) before result after ↔
      condition ∧ after = before :=
  commits_ensure condition (Failure.trap message) result

@[simp] theorem commits_checkedUpTo (bound value result : Nat) :
    Commits (checkedUpTo bound value : Transaction σ (Failure ε) Nat) before result after ↔
      value ≤ bound ∧ result = value ∧ after = before := by
  simp [checkedUpTo, and_assoc, and_left_comm, and_comm]

@[simp] theorem commits_checkedSub (left right result : Nat) :
    Commits (checkedSub left right : Transaction σ (Failure ε) Nat) before result after ↔
      right ≤ left ∧ result = left - right ∧ after = before := by
  simp [checkedSub, and_assoc, and_left_comm, and_comm]

end Rules

section Steady

variable {ν : Type} {view : σ → ν}

theorem steady_check (condition : Prop) [Decidable condition] (error : ε) :
    Steady view (check condition error : Transaction σ (Failure ε) Unit) :=
  steady_ensure condition (Failure.err error)

theorem steady_orErr (found : Option α) (error : ε) :
    Steady view (orErr found error : Transaction σ (Failure ε) α) :=
  steady_fetch found (Failure.err error)

theorem steady_checkedSub (left right : Nat) :
    Steady view (checkedSub left right : Transaction σ (Failure ε) Nat) :=
  steady_bind (steady_ensure _ _) fun _ => steady_pure _

theorem steady_checkedUpTo (bound value : Nat) :
    Steady view (checkedUpTo bound value : Transaction σ (Failure ε) Nat) :=
  steady_bind (steady_ensure _ _) fun _ => steady_pure _

end Steady

/-! ## Bodies that only trap -/

/-- The body never ends in an error. -/
def TrapsOnly (body : Transaction σ (Failure ε) α) : Prop :=
  ∀ before error after, ¬ Faults body before (.err error) after

section TrapsOnly

variable {β : Type}

theorem trapsOnly_pure (value : α) :
    TrapsOnly (pure value : Transaction σ (Failure ε) α) :=
  fun _ _ _ => not_faults_pure

theorem trapsOnly_modify (f : σ → σ) :
    TrapsOnly (modify f : Transaction σ (Failure ε) Unit) :=
  fun _ _ _ => not_faults_modify

theorem trapsOnly_inspect (view : σ → α) :
    TrapsOnly (inspect view : Transaction σ (Failure ε) α) :=
  fun _ _ _ => not_faults_inspect

theorem trapsOnly_orTrap (condition : Prop) [Decidable condition] (message : String) :
    TrapsOnly (orTrap condition message : Transaction σ (Failure ε) Unit) := by
  intro before error after faulted
  obtain ⟨_, same, _⟩ := faults_ensure.mp faulted
  cases same

theorem trapsOnly_bind {first : Transaction σ (Failure ε) α}
    {next : α → Transaction σ (Failure ε) β} (start : TrapsOnly first)
    (rest : ∀ value, TrapsOnly (next value)) : TrapsOnly (first >>= next) := by
  intro before error after faulted
  rcases (faults_bind first next _).mp faulted with early | ⟨value, middle, _, late⟩
  · exact start before error after early
  · exact rest value middle error after late

theorem trapsOnly_checkedUpTo (bound value : Nat) :
    TrapsOnly (checkedUpTo bound value : Transaction σ (Failure ε) Nat) :=
  trapsOnly_bind (trapsOnly_orTrap _ _) fun _ => trapsOnly_pure _

theorem trapsOnly_checkedSub (left right : Nat) :
    TrapsOnly (checkedSub left right : Transaction σ (Failure ε) Nat) :=
  trapsOnly_bind (trapsOnly_orTrap _ _) fun _ => trapsOnly_pure _

end TrapsOnly

/-! ## Endings that a caller may handle -/

/-- The body returns, or else ends in an error; it does not trap. -/
def Ends (body : Transaction σ (Failure ε) α) (before : σ) : Bool → σ → Prop
  | true, after => ∃ value, Commits body before value after
  | false, after => ∃ error, Faults body before (.err error) after

/-- `match f(..) { Ok(_) => .., Err(_) => .. }`: whether the body returned.  What it wrote before an
error stays, and a trap is one of the caller too. -/
def handled (body : Transaction σ (Failure ε) α) : Transaction σ (Failure ε) Bool :=
  ExceptT.mk fun before =>
    match body.execute before with
    | (.ok _, after) => (.ok true, after)
    | (.error (.err _), after) => (.ok false, after)
    | (.error (.trap message), after) => (.error (.trap message), after)

section Ends

variable {β : Type} {before after : σ} {returns : Bool}

@[simp] theorem commits_handled (body : Transaction σ (Failure ε) α) (returns : Bool) :
    Commits (handled body) before returns after ↔ Ends body before returns after := by
  have executed : (handled body).execute before =
      match body.execute before with
      | (.ok _, after) => (.ok true, after)
      | (.error (.err _), after) => (.ok false, after)
      | (.error (.trap message), after) => (.error (.trap message), after) := rfl
  cases returns <;> simp only [Commits, Ends, Faults, executed] <;>
    rcases body.execute before with ⟨(_ | _) | _, left⟩ <;> simp

theorem ends_bind (first : Transaction σ (Failure ε) α)
    (next : α → Transaction σ (Failure ε) β) :
    Ends (first >>= next) before returns after ↔
      (returns = false ∧ Ends first before false after) ∨
        ∃ value middle, Commits first before value middle ∧
          Ends (next value) middle returns after := by
  cases returns with
  | true =>
      simp only [Ends, commits_bind, Bool.true_eq_false, false_and, false_or]
      constructor
      · rintro ⟨result, value, middle, run, rest⟩
        exact ⟨value, middle, run, result, rest⟩
      · rintro ⟨value, middle, run, result, rest⟩
        exact ⟨result, value, middle, run, rest⟩
  | false =>
      simp only [Ends, faults_bind, true_and]
      constructor
      · rintro ⟨error, early | ⟨value, middle, run, late⟩⟩
        · exact .inl ⟨error, early⟩
        · exact .inr ⟨value, middle, run, error, late⟩
      · rintro (⟨error, early⟩ | ⟨value, middle, run, error, late⟩)
        · exact ⟨error, .inl early⟩
        · exact ⟨error, .inr ⟨value, middle, run, late⟩⟩

/-- After a part that only reads, a body goes on from the same state or has ended in it. -/
theorem ends_bind_of_steady {first : Transaction σ (Failure ε) α}
    {next : α → Transaction σ (Failure ε) β} (steady : Steady id first)
    (run : Ends (first >>= next) before returns after) :
    after = before ∨
      ∃ value, Commits first before value before ∧ Ends (next value) before returns after := by
  rcases (ends_bind first next).mp run with ⟨rfl, error, early⟩ | ⟨value, middle, read, rest⟩
  · have same := steady before
    rw [early] at same
    exact .inl same
  · obtain rfl : middle = before := steady.keeps read
    exact .inr ⟨value, read, rest⟩

/-- A write does not end a body. -/
theorem ends_modify_bind (f : σ → σ) (next : Unit → Transaction σ (Failure ε) β) :
    Ends (modify f >>= next) before returns after ↔ Ends (next ()) (f before) returns after := by
  rw [ends_bind]
  constructor
  · rintro (⟨_, error, early⟩ | ⟨_, middle, written, rest⟩)
    · exact absurd early not_faults_modify
    · obtain rfl := (commits_modify _ _).mp written
      exact rest
  · intro rest
    exact .inr ⟨(), f before, rfl, rest⟩

theorem TrapsOnly.ends {body : Transaction σ (Failure ε) α} (only : TrapsOnly body)
    (ends : Ends body before returns after) :
    returns = true ∧ ∃ value, Commits body before value after := by
  cases returns with
  | true => exact ⟨rfl, ends⟩
  | false =>
      obtain ⟨error, faulted⟩ := ends
      exact absurd faulted (only before error after)

end Ends

end Failure
