import Mathlib.Logic.Relation
import LeaseFlow.Foundations.Transaction

/-!
# Bodies that can be re-entered

Before a call to another party answers, the callee may call back.  A script is a body with its
calls to other parties marked; it is executed under a relation that says what callbacks may do
to the state, and the callbacks are executions of scripts again, nested to any depth.  The rules
of the second half are for a lock that some of the scripts hold while they are in progress.
-/

set_option autoImplicit false

open Transaction

/-- A body with its calls to other parties marked, and the operations in it named. -/
inductive Script (σ ε μ : Type) : Type → Type 1 where
  | own {α : Type} (body : Transaction σ ε α) : Script σ ε μ α
  | external {α : Type} (answer : Transaction σ ε α) : Script σ ε μ α
  | bind {α β : Type} (first : Script σ ε μ α) (next : α → Script σ ε μ β) : Script σ ε μ β
  | capture {α δ : Type} (recover : ε → Option δ) (body : Script σ ε μ α) :
      Script σ ε μ (Except δ α)
  | named {α : Type} (name : μ) (body : Script σ ε μ α) : Script σ ε μ α

namespace Script

variable {σ ε μ α β δ : Type}

instance : Monad (Script σ ε μ) where
  pure value := .own (Pure.pure value)
  bind := .bind

/-- The body, when no callee calls back. -/
def erase {α : Type} : Script σ ε μ α → Transaction σ ε α
  | .own body => body
  | .external answer => answer
  | .bind first next => first.erase >>= fun value => (next value).erase
  | .capture recover body => Transaction.capture recover body.erase
  | .named _ body => body.erase

/-- What an execution may end in and leave behind, where callbacks may do what the relation
allows. -/
def Executes (reenters : σ → σ → Prop) {α : Type} : Script σ ε μ α → σ → Except ε α → σ → Prop
  | .own body, before, outcome, after => body.execute before = (outcome, after)
  | .external answer, before, outcome, after =>
      ∃ middle, reenters before middle ∧ answer.execute middle = (outcome, after)
  | .bind first next, before, outcome, after =>
      (∃ value middle, first.Executes reenters before (.ok value) middle ∧
        (next value).Executes reenters middle outcome after) ∨
      ∃ fault, outcome = .error fault ∧ first.Executes reenters before (.error fault) after
  | .capture recover body, before, outcome, after =>
      (∃ value, outcome = .ok (.ok value) ∧ body.Executes reenters before (.ok value) after) ∨
      ∃ fault, body.Executes reenters before (.error fault) after ∧
        outcome = match recover fault with
          | some caught => .ok (.error caught)
          | none => .error fault
  | .named _ body, before, outcome, after => body.Executes reenters before outcome after

/-- Started in the first state, the script waits for another party in the second one, after any
callbacks so far, with the named operations in progress. -/
def Pauses (reenters : σ → σ → Prop) {α : Type} : Script σ ε μ α → σ → List μ → σ → Prop
  | .own _, _, _, _ => False
  | .external _, before, names, pause => names = [] ∧ reenters before pause
  | .bind first next, before, names, pause =>
      first.Pauses reenters before names pause ∨
      ∃ value middle, first.Executes reenters before (.ok value) middle ∧
        (next value).Pauses reenters middle names pause
  | .capture _ body, before, names, pause => body.Pauses reenters before names pause
  | .named name body, before, names, pause =>
      ∃ inner, names = name :: inner ∧ body.Pauses reenters before inner pause

/-- Started in the first state, the script invokes the operation in the second one, with the
named operations around it. -/
def Invokes (reenters : σ → σ → Prop) {α : Type} : Script σ ε μ α → σ → List μ → μ → σ → Prop
  | .own _, _, _, _, _ => False
  | .external _, _, _, _, _ => False
  | .bind first next, before, names, name, start =>
      first.Invokes reenters before names name start ∨
      ∃ value middle, first.Executes reenters before (.ok value) middle ∧
        (next value).Invokes reenters middle names name start
  | .capture _ body, before, names, name, start => body.Invokes reenters before names name start
  | .named outer body, before, names, name, start =>
      (names = [] ∧ name = outer ∧ start = before) ∨
      ∃ inner, names = outer :: inner ∧ body.Invokes reenters before inner name start

section Callbacks

variable (entries : Script σ ε μ Unit → Prop)

/-- What callbacks nested to the given depth may do.  A callback that fails is rolled back. -/
def CallsBack : Nat → σ → σ → Prop
  | 0 => Eq
  | depth + 1 => Relation.ReflTransGen fun before after =>
      ∃ script, entries script ∧ script.Executes (CallsBack depth) before (.ok ()) after

/-- The state can occur between two top-level calls. -/
def Between (start : σ) : σ → Prop :=
  Relation.ReflTransGen (fun before after => ∃ depth script, entries script ∧
    script.Executes (CallsBack entries depth) before (.ok ()) after) start

/-- The entry points can be called in the state while the named operations are in progress. -/
inductive InProgress (start : σ) : List μ → σ → Prop where
  | idle {state : σ} (between : Between entries start state) : InProgress start [] state
  | inside {outer inner : List μ} {state pause : σ} {depth : Nat} {script : Script σ ε μ Unit}
      (progress : InProgress start outer state) (entry : entries script)
      (pauses : script.Pauses (CallsBack entries depth) state inner pause) :
      InProgress start (outer ++ inner) pause

end Callbacks

theorem erase_bind {first : Script σ ε μ α} {next : α → Script σ ε μ β}
    {body : Transaction σ ε α} {rest : α → Transaction σ ε β} (start : first.erase = body)
    (later : ∀ value, (next value).erase = rest value) :
    (first >>= next).erase = body >>= rest := by
  subst start
  exact congrArg (first.erase >>= ·) (funext later)

theorem erase_ite (condition : Prop) [Decidable condition] {yes no : Script σ ε μ α}
    {left right : Transaction σ ε α} (holds : yes.erase = left) (fails : no.erase = right) :
    (if condition then yes else no).erase = if condition then left else right := by
  subst holds fails
  exact apply_ite erase condition yes no

/-- Without callbacks a script executes as its body. -/
theorem executes_eq_iff {script : Script σ ε μ α} {before after : σ} {outcome : Except ε α} :
    script.Executes Eq before outcome after ↔ script.erase.execute before = (outcome, after) := by
  induction script generalizing before after with
  | own body => exact Iff.rfl
  | external answer => simp [Executes, erase]
  | bind first next ihFirst ihNext =>
      simp only [Executes, erase, ihFirst, ihNext, execute_bind]
      rcases first.erase.execute before with ⟨_ | value, middle⟩
      · constructor
        · intro either
          rcases either with ⟨_, _, same, _⟩ | ⟨_, rfl, same⟩
          · cases same
          · cases same
            rfl
        · intro same
          cases same
          exact .inr ⟨_, rfl, rfl⟩
      · constructor
        · intro either
          rcases either with ⟨_, _, same, rest⟩ | ⟨_, _, same⟩
          · cases same
            exact rest
          · cases same
        · intro rest
          exact .inl ⟨value, middle, rfl, rest⟩
  | capture recover body ih =>
      simp only [Executes, erase, ih, execute_capture]
      rcases body.erase.execute before with ⟨fault | value, left⟩
      · constructor
        · intro either
          rcases either with ⟨_, _, same⟩ | ⟨_, same, rfl⟩
          · cases same
          · cases same
            cases caught : recover fault <;> simp [caught]
        · intro same
          refine .inr ⟨fault, ?_⟩
          cases caught : recover fault <;> simp only [caught] at same ⊢ <;> cases same <;>
            exact ⟨rfl, rfl⟩
      · constructor
        · intro either
          rcases either with ⟨_, rfl, same⟩ | ⟨_, same, _⟩
          · cases same
            rfl
          · cases same
        · intro same
          cases same
          exact .inl ⟨value, rfl, rfl⟩
  | named name body ih => exact ih

/-! ## A lock -/

section Lock

variable (locked : σ → Bool)

/-- What callbacks do leaves the lock as it was. -/
def Respects (reenters : σ → σ → Prop) : Prop :=
  ∀ before after, reenters before after → locked after = locked before

/-- Every piece leaves the lock as it was, and no operation in the script is named. -/
def Leaves {α : Type} : Script σ ε μ α → Prop
  | .own body => Steady locked body
  | .external answer => Steady locked answer
  | .bind first next => first.Leaves ∧ ∀ value, (next value).Leaves
  | .capture _ body => body.Leaves
  | .named _ _ => False

/-- The script never waits for another party. -/
def Silent (script : Script σ ε μ α) : Prop :=
  ∀ reenters before names pause, ¬ script.Pauses reenters before names pause

/-- The script invokes no named operation. -/
def Flat (script : Script σ ε μ α) : Prop :=
  ∀ reenters before names name start, ¬ script.Invokes reenters before names name start

/-- A script that commits leaves the lock as it was, and it waits with the lock as it was. -/
structure Calm (script : Script σ ε μ α) : Prop where
  commits : ∀ {reenters before value after}, Respects locked reenters →
    script.Executes reenters before (.ok value) after → locked after = locked before
  pauses : ∀ {reenters before names pause}, Respects locked reenters →
    script.Pauses reenters before names pause → names = [] ∧ locked pause = locked before
  flat : script.Flat

/-- Started with the lock held, a script that commits has released it, and it waits with the
lock held. -/
structure Releases (script : Script σ ε μ α) : Prop where
  commits : ∀ {reenters before value after}, Respects locked reenters → locked before = true →
    script.Executes reenters before (.ok value) after → locked after = false
  pauses : ∀ {reenters before names pause}, Respects locked reenters → locked before = true →
    script.Pauses reenters before names pause → names = [] ∧ locked pause = true
  flat : script.Flat

/-- A script that commits leaves the lock as it was; the lock is held wherever a named operation
is in progress, and as it was elsewhere.  Named operations are not nested. -/
structure Disciplined (script : Script σ ε μ α) : Prop where
  commits : ∀ {reenters before value after}, Respects locked reenters →
    script.Executes reenters before (.ok value) after → locked after = locked before
  pauses : ∀ {reenters before names pause}, Respects locked reenters →
    script.Pauses reenters before names pause →
      (names = [] → locked pause = locked before) ∧ (names ≠ [] → locked pause = true)
  invokes : ∀ {reenters before names name start}, Respects locked reenters →
    script.Invokes reenters before names name start → names = [] ∧ locked start = locked before

/-- Started with the lock held, the script fails. -/
def Refuses (script : Script σ ε μ α) : Prop :=
  ∀ {reenters before outcome after}, locked before = true →
    script.Executes reenters before outcome after → ∃ fault, outcome = .error fault

variable {locked} {reenters : σ → σ → Prop} {before after pause : σ} {names : List μ}

theorem leaves_bind {first : Script σ ε μ α} {next : α → Script σ ε μ β}
    (start : first.Leaves locked) (rest : ∀ value, (next value).Leaves locked) :
    (first >>= next).Leaves locked :=
  ⟨start, rest⟩

theorem leaves_ite (condition : Prop) [Decidable condition] {yes no : Script σ ε μ α}
    (left : yes.Leaves locked) (right : no.Leaves locked) :
    (if condition then yes else no).Leaves locked := by
  split
  · exact left
  · exact right

theorem Leaves.executes {script : Script σ ε μ α} {outcome : Except ε α}
    (leaves : script.Leaves locked) (respects : Respects locked reenters)
    (run : script.Executes reenters before outcome after) : locked after = locked before := by
  induction script generalizing before after with
  | own body =>
      have kept := leaves before
      rwa [show body.execute before = _ from run] at kept
  | external answer =>
      obtain ⟨middle, back, run⟩ := run
      have kept := leaves middle
      rw [run] at kept
      exact kept.trans (respects _ _ back)
  | bind first next ihFirst ihNext =>
      rcases run with ⟨value, middle, start, rest⟩ | ⟨_, _, start⟩
      · exact (ihNext value (leaves.2 value) rest).trans (ihFirst leaves.1 start)
      · exact ihFirst leaves.1 start
  | capture recover body ih =>
      rcases run with ⟨_, _, run⟩ | ⟨_, run, _⟩
      · exact ih leaves run
      · exact ih leaves run
  | named => exact leaves.elim

theorem Leaves.waits {script : Script σ ε μ α} (leaves : script.Leaves locked)
    (respects : Respects locked reenters) (waits : script.Pauses reenters before names pause) :
    names = [] ∧ locked pause = locked before := by
  induction script generalizing before with
  | own => exact waits.elim
  | external => exact ⟨waits.1, respects _ _ waits.2⟩
  | bind first next ihFirst ihNext =>
      rcases waits with waits | ⟨value, middle, start, waits⟩
      · exact ihFirst leaves.1 waits
      · obtain ⟨nameless, same⟩ := ihNext value (leaves.2 value) waits
        exact ⟨nameless, same.trans (leaves.1.executes respects start)⟩
  | capture recover body ih => exact ih leaves waits
  | named => exact leaves.elim

theorem Leaves.flat {script : Script σ ε μ α} (leaves : script.Leaves locked) : script.Flat := by
  intro reenters before names name start invokes
  induction script generalizing before with
  | own => exact invokes
  | external => exact invokes
  | bind first next ihFirst ihNext =>
      rcases invokes with invokes | ⟨value, middle, _, invokes⟩
      · exact ihFirst leaves.1 before invokes
      · exact ihNext value (leaves.2 value) middle invokes
  | capture recover body ih => exact ih leaves before invokes
  | named => exact leaves.elim

theorem Leaves.calm {script : Script σ ε μ α} (leaves : script.Leaves locked) :
    script.Calm locked :=
  ⟨leaves.executes, leaves.waits, leaves.flat⟩

theorem flat_own (body : Transaction σ ε α) : (own body : Script σ ε μ α).Flat :=
  fun _ _ _ _ _ invokes => invokes

theorem Flat.bind {first : Script σ ε μ α} {next : α → Script σ ε μ β} (start : first.Flat)
    (rest : ∀ value, (next value).Flat) : (Script.bind first next).Flat := by
  intro reenters before names name entered invokes
  rcases invokes with invokes | ⟨value, middle, _, invokes⟩
  · exact start _ _ _ _ _ invokes
  · exact rest value _ _ _ _ _ invokes

theorem calm_own {body : Transaction σ ε α} (keeps : Keeps locked body) :
    (own body : Script σ ε μ α).Calm locked :=
  ⟨fun _ run => keeps run, fun _ waits => waits.elim, flat_own body⟩

theorem calm_external {answer : Transaction σ ε α} (keeps : Keeps locked answer) :
    (external answer : Script σ ε μ α).Calm locked := by
  refine ⟨fun respects run => ?_, fun respects waits => ⟨waits.1, respects _ _ waits.2⟩,
    fun _ _ _ _ _ invokes => invokes⟩
  obtain ⟨middle, back, run⟩ := run
  exact (keeps run).trans (respects _ _ back)

theorem Calm.bind {first : Script σ ε μ α} {next : α → Script σ ε μ β} (start : first.Calm locked)
    (rest : ∀ value, (next value).Calm locked) : (Script.bind first next).Calm locked := by
  refine ⟨?_, ?_, start.flat.bind fun value => (rest value).flat⟩
  · intro _ before result after respects run
    rcases run with ⟨value, middle, run, finish⟩ | ⟨_, same, _⟩
    · exact ((rest value).commits respects finish).trans (start.commits respects run)
    · cases same
  · intro _ before names pause respects waits
    rcases waits with waits | ⟨value, middle, run, waits⟩
    · exact start.pauses respects waits
    · obtain ⟨nameless, same⟩ := (rest value).pauses respects waits
      exact ⟨nameless, same.trans (start.commits respects run)⟩

theorem silent_own (body : Transaction σ ε α) : (own body : Script σ ε μ α).Silent :=
  fun _ _ _ _ waits => waits.elim

theorem Silent.bind {first : Script σ ε μ α} {next : α → Script σ ε μ β} (start : first.Silent)
    (rest : ∀ value, (next value).Silent) : (Script.bind first next).Silent := by
  intro reenters before names pause waits
  rcases waits with waits | ⟨value, middle, _, waits⟩
  · exact start _ _ _ _ waits
  · exact rest value _ _ _ _ waits

/-- A release, and code after it that waits for no one. -/
theorem releases_own {body : Transaction σ ε α} {next : α → Script σ ε μ β}
    (frees : ∀ {before value after}, Commits body before value after → locked after = false)
    (rest : ∀ value, (next value).Calm locked) (silent : ∀ value, (next value).Silent) :
    (Script.bind (own body) next).Releases locked := by
  refine ⟨?_, ?_, (flat_own body).bind fun value => (rest value).flat⟩
  · intro _ before result after respects held run
    rcases run with ⟨value, middle, run, finish⟩ | ⟨_, same, _⟩
    · exact ((rest value).commits respects finish).trans (frees run)
    · cases same
  · intro _ before names pause respects held waits
    rcases waits with waits | ⟨value, middle, _, waits⟩
    · exact waits.elim
    · exact (silent value _ _ _ _ waits).elim

theorem Releases.bind {first : Script σ ε μ α} {next : α → Script σ ε μ β}
    (start : first.Calm locked) (rest : ∀ value, (next value).Releases locked) :
    (Script.bind first next).Releases locked := by
  refine ⟨?_, ?_, start.flat.bind fun value => (rest value).flat⟩
  · intro _ before result after respects held run
    rcases run with ⟨value, middle, run, finish⟩ | ⟨_, same, _⟩
    · exact (rest value).commits respects ((start.commits respects run).trans held) finish
    · cases same
  · intro _ before names pause respects held waits
    rcases waits with waits | ⟨value, middle, run, waits⟩
    · obtain ⟨nameless, same⟩ := start.pauses respects waits
      exact ⟨nameless, same.trans held⟩
    · exact (rest value).pauses respects ((start.commits respects run).trans held) waits

/-! ### Disciplined scripts -/

theorem Calm.disciplined {script : Script σ ε μ α} (calm : script.Calm locked) :
    script.Disciplined locked := by
  refine ⟨calm.commits, fun respects waits => ?_, fun _ invokes =>
    (calm.flat _ _ _ _ _ invokes).elim⟩
  obtain ⟨nameless, same⟩ := calm.pauses respects waits
  exact ⟨fun _ => same, fun named => absurd nameless named⟩

theorem Disciplined.bind {first : Script σ ε μ α} {next : α → Script σ ε μ β}
    (start : first.Disciplined locked) (rest : ∀ value, (next value).Disciplined locked) :
    (Script.bind first next).Disciplined locked := by
  constructor
  · intro _ before result after respects run
    rcases run with ⟨value, middle, run, finish⟩ | ⟨_, same, _⟩
    · exact ((rest value).commits respects finish).trans (start.commits respects run)
    · cases same
  · intro _ before names pause respects waits
    rcases waits with waits | ⟨value, middle, run, waits⟩
    · exact start.pauses respects waits
    · obtain ⟨kept, held⟩ := (rest value).pauses respects waits
      exact ⟨fun nameless => (kept nameless).trans (start.commits respects run), held⟩
  · intro _ before names name entered respects invokes
    rcases invokes with invokes | ⟨value, middle, run, invokes⟩
    · exact start.invokes respects invokes
    · obtain ⟨nameless, same⟩ := (rest value).invokes respects invokes
      exact ⟨nameless, same.trans (start.commits respects run)⟩

/-- An operation that acquires the lock where it is free, and releases it before it commits, is
disciplined. -/
theorem disciplined_named {name : μ} {acquire : Transaction σ ε α} {next : α → Script σ ε μ β}
    (acquires : ∀ {before value after}, Commits acquire before value after →
      locked before = false ∧ locked after = true)
    (releases : ∀ value, (next value).Releases locked) :
    (named name (.bind (own acquire) next)).Disciplined locked := by
  constructor
  · intro _ before result after respects run
    rcases run with ⟨value, middle, run, finish⟩ | ⟨_, same, _⟩
    · obtain ⟨free, held⟩ := acquires run
      exact ((releases value).commits respects held finish).trans free.symm
    · cases same
  · intro _ before names pause respects waits
    rcases waits with ⟨inner, rfl, waits | ⟨value, middle, run, waits⟩⟩
    · exact waits.elim
    · obtain ⟨_, held⟩ := (releases value).pauses respects (acquires run).2 waits
      exact ⟨nofun, fun _ => held⟩
  · intro _ before names _ entered respects invokes
    rcases invokes with ⟨nameless, _, rfl⟩ | ⟨inner, _, invokes⟩
    · exact ⟨nameless, rfl⟩
    · exact ((flat_own acquire).bind (fun value => (releases value).flat) _ _ _ _ _ invokes).elim

/-- Such an operation fails where the lock is held. -/
theorem refuses_named {name : μ} {acquire : Transaction σ ε α} {next : α → Script σ ε μ β}
    (acquires : ∀ {before value after}, Commits acquire before value after →
      locked before = false ∧ locked after = true) :
    (named name (.bind (own acquire) next)).Refuses locked := by
  intro _ before outcome after held run
  rcases run with ⟨value, middle, run, _⟩ | ⟨fault, failed, _⟩
  · cases held.symm.trans (acquires run).1
  · exact ⟨fault, failed⟩

/-! ### Runs -/

section Runs

variable {entries : Script σ ε μ Unit → Prop} {start state : σ}

/-- Callbacks into disciplined entry points leave the lock as it was, at any depth. -/
theorem respects_callsBack (disciplined : ∀ script, entries script → script.Disciplined locked)
    (depth : Nat) : Respects locked (CallsBack entries depth) := by
  induction depth with
  | zero =>
      intro before after same
      subst same
      rfl
  | succ depth ih =>
      intro before after back
      induction back with
      | refl => rfl
      | tail _ last same =>
          obtain ⟨script, entry, run⟩ := last
          exact ((disciplined script entry).commits ih run).trans same

theorem Between.lock (disciplined : ∀ script, entries script → script.Disciplined locked)
    (between : Between entries start state) : locked state = locked start := by
  induction between with
  | refl => rfl
  | tail _ last same =>
      obtain ⟨depth, script, entry, run⟩ := last
      have respects := respects_callsBack disciplined depth
      exact ((disciplined script entry).commits respects run).trans same

/-- While named operations are in progress the lock is held, and otherwise it is as it was at
the start. -/
theorem InProgress.lock (disciplined : ∀ script, entries script → script.Disciplined locked)
    (progress : InProgress entries start names state) :
    (names = [] → locked state = locked start) ∧ (names ≠ [] → locked state = true) := by
  induction progress with
  | idle between => exact ⟨fun _ => between.lock disciplined, fun named => absurd rfl named⟩
  | @inside outer inner state pause depth script _ entry waits ih =>
      have respects := respects_callsBack disciplined depth
      obtain ⟨kept, held⟩ := (disciplined script entry).pauses respects waits
      constructor
      · intro nameless
        obtain ⟨rfl, rfl⟩ := List.append_eq_nil_iff.mp nameless
        exact (kept rfl).trans (ih.1 rfl)
      · intro named
        by_cases inside : inner = []
        · subst inside
          exact (kept rfl).trans (ih.2 (by simpa using named))
        · exact held inside

/-- Wherever an operation is invoked the lock tells whether another one is in progress. -/
theorem InProgress.invokes (disciplined : ∀ script, entries script → script.Disciplined locked)
    (progress : InProgress entries start names state) {script : Script σ ε μ Unit}
    (entry : entries script) {depth : Nat} {inner : List μ} {name : μ} {entered : σ}
    (invokes : script.Invokes (CallsBack entries depth) state inner name entered) :
    (names ++ inner = [] → locked entered = locked start) ∧
      (names ++ inner ≠ [] → locked entered = true) := by
  obtain ⟨rfl, same⟩ := (disciplined script entry).invokes
    (respects_callsBack disciplined depth) invokes
  rw [List.append_nil, same]
  exact progress.lock disciplined

end Runs

end Lock

end Script
