import LeaseFlow.Foundations.Failure
import Mathlib.Logic.Function.Basic

/-!
# Stores of typed values

A store whose values are of several kinds, with no record of which kind lies at which key.  A
read names the kind it expects: it traps where a value of another kind lies, so that what a body
writes at a key it has read replaces nothing of another kind.
-/

set_option autoImplicit false

abbrev TypedStore (κ ν : Type) := κ → Option ν

/-- The stored form of one type, and the conversion back. -/
structure Kind (ν α : Type) where
  store : α → ν
  convert : ν → Option α
  convert_eq_some_iff : ∀ stored value, convert stored = some value ↔ stored = store value

namespace Kind

variable {ν α β : Type} (kind : Kind ν α) (other : Kind ν β)

/-- No value is stored alike under both kinds. -/
def Foreign : Prop :=
  ∀ value different, kind.store value ≠ other.store different

@[simp] theorem convert_store (value : α) : kind.convert (kind.store value) = some value :=
  (kind.convert_eq_some_iff _ value).mpr rfl

theorem bind_convert_map (found : Option α) :
    (found.map kind.store).bind kind.convert = found := by
  cases found with
  | none => rfl
  | some value => exact kind.convert_store value

theorem store_injective : Function.Injective kind.store := by
  intro first second same
  have converted := kind.convert_store second
  rw [← same, kind.convert_store] at converted
  exact Option.some.inj converted

end Kind

namespace TypedStore

open Transaction Failure

variable {κ ν α β ε : Type}

/-! ## Operations -/

/-- The value at a key, if there is one; a value of another kind does not convert. -/
def get (kind : Kind ν α) (key : κ) : Transaction (TypedStore κ ν) (Failure ε) (Option α) := do
  let found ← inspect fun store => store key
  match found with
  | some stored =>
      let value ← fetch (kind.convert stored) (.trap "stored value is not of the expected type")
      pure (some value)
  | none => pure none

def has (key : κ) : Transaction (TypedStore κ ν) (Failure ε) Bool :=
  inspect fun store => (store key).isSome

section Writes

variable [DecidableEq κ]

def set (kind : Kind ν α) (key : κ) (value : α) :
    Transaction (TypedStore κ ν) (Failure ε) Unit :=
  modify fun store => Function.update store key (some (kind.store value))

def remove (key : κ) : Transaction (TypedStore κ ν) (Failure ε) Unit :=
  modify fun store => Function.update store key none

end Writes

/-! ## What they do -/

section Rules

variable {before after : TypedStore κ ν} {kind : Kind ν α} {other : Kind ν β} {key : κ}

@[simp] theorem commits_get (found : Option α) :
    Commits (get kind key : Transaction _ (Failure ε) _) before found after ↔
      before key = found.map kind.store ∧ after = before := by
  simp only [get, commits_bind, commits_inspect]
  constructor
  · rintro ⟨_, middle, ⟨rfl, rfl⟩, read⟩
    cases lies : middle key with
    | none =>
        rw [lies] at read
        obtain ⟨rfl, rfl⟩ := (commits_pure _ _).mp read
        exact ⟨rfl, rfl⟩
    | some stored =>
        rw [lies] at read
        simp only [commits_bind, commits_fetch, commits_pure] at read
        obtain ⟨value, _, ⟨converted, rfl⟩, rfl, rfl⟩ := read
        rw [(kind.convert_eq_some_iff stored value).mp converted]
        exact ⟨rfl, rfl⟩
  · rintro ⟨lies, rfl⟩
    refine ⟨_, _, ⟨rfl, rfl⟩, ?_⟩
    rw [lies]
    cases found with
    | none => exact (commits_pure _ _).mpr ⟨rfl, rfl⟩
    | some value => simp

@[simp] theorem commits_has (found : Bool) :
    Commits (has key : Transaction _ (Failure ε) _) before found after ↔
      found = (before key).isSome ∧ after = before :=
  commits_inspect _ found

/-- A body that expects another kind than it finds does not go on. -/
theorem not_commits_get_of_foreign (foreign : kind.Foreign other) {value : α}
    (lies : before key = some (kind.store value)) (found : Option β) :
    ¬ Commits (get other key : Transaction _ (Failure ε) _) before found after := by
  rw [commits_get, lies]
  rintro ⟨same, _⟩
  cases found with
  | none => cases same
  | some different => exact foreign value different (Option.some.inj same)

/-- It traps there, with the store as it is. -/
theorem faults_get_of_foreign (foreign : kind.Foreign other) {value : α}
    (lies : before key = some (kind.store value)) :
    Faults (get other key : Transaction _ (Failure ε) _) before
      (.trap "stored value is not of the expected type") before := by
  refine (faults_bind _ _ _).mpr (.inr ⟨before key, before, (commits_inspect _ _).mpr ⟨rfl, rfl⟩, ?_⟩)
  rw [lies]
  refine (faults_bind _ _ _).mpr (.inl (faults_fetch.mpr ⟨?_, rfl, rfl⟩))
  cases converts : other.convert (kind.store value) with
  | none => rfl
  | some different =>
      exact absurd ((other.convert_eq_some_iff _ _).mp converts) (foreign value different)

theorem steady_get {μ : Type} {view : TypedStore κ ν → μ} (kind : Kind ν α) (key : κ) :
    Steady view (get kind key : Transaction _ (Failure ε) _) := by
  refine steady_bind (steady_inspect _) fun found => ?_
  cases found with
  | none => exact steady_pure none
  | some stored => exact steady_bind (steady_fetch _ _) fun _ => steady_pure _

variable [DecidableEq κ]

@[simp] theorem commits_set (value : α) (result : Unit) :
    Commits (set kind key value : Transaction _ (Failure ε) _) before result after ↔
      after = Function.update before key (some (kind.store value)) :=
  commits_modify _ result

@[simp] theorem commits_remove (result : Unit) :
    Commits (remove key : Transaction _ (Failure ε) _) before result after ↔
      after = Function.update before key none :=
  commits_modify _ result

end Rules

end TypedStore
