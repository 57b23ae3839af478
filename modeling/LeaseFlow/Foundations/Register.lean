import LeaseFlow.Foundations.Machine
import LeaseFlow.Foundations.PartialMap

/-!
# Registers and the events that tell of them

A register drops no record.  What is stored under a key later is what the record that was there
has become, or what a record born since has.  A machine whose calls write the register one record
at a time continues it along every run; and where every call publishes what it writes, whoever
has the events has the register.
-/

set_option autoImplicit false

namespace Register

variable {κ ν : Type}

/-- The later records are what the earlier ones have become, and what those born since have. -/
structure Continues (born : κ → ν → Prop) (becomes : ν → ν → Prop)
    (before after : κ → Option ν) : Prop where
  kept : ∀ key record, before key = some record →
    ∃ next, after key = some next ∧ becomes record next
  new : ∀ key next, before key = none → after key = some next →
    ∃ first, born key first ∧ becomes first next

section Continues

variable {born : κ → ν → Prop} {becomes : ν → ν → Prop} {first second third : κ → Option ν}

theorem continues_refl (refl : ∀ record, becomes record record) (map : κ → Option ν) :
    Continues born becomes map map where
  kept _ record found := ⟨record, found, refl record⟩
  new key next free found := by cases free.symm.trans found

theorem Continues.trans
    (trans : ∀ record next last, becomes record next → becomes next last → becomes record last)
    (one : Continues born becomes first second) (two : Continues born becomes second third) :
    Continues born becomes first third where
  kept key record found := by
    obtain ⟨next, stored, goesOn⟩ := one.kept key record found
    obtain ⟨last, still, further⟩ := two.kept key next stored
    exact ⟨last, still, trans record next last goesOn further⟩
  new key last free found := by
    cases between : second key with
    | none => exact two.new key last between found
    | some next =>
        obtain ⟨start, bears, goesOn⟩ := one.new key next free between
        obtain ⟨_, again, further⟩ := two.kept key next between
        cases again.symm.trans found
        exact ⟨start, bears, trans start next last goesOn further⟩

/-- What a record holds when it is born and keeps as it goes on holds of every record. -/
theorem Continues.forall {P : κ → ν → Prop} (continues : Continues born becomes first second)
    (initially : ∀ key record, born key record → P key record)
    (keeps : ∀ key record next, becomes record next → P key record → P key next)
    (all : ∀ key record, first key = some record → P key record) :
    ∀ key record, second key = some record → P key record := by
  intro key next found
  cases earlier : first key with
  | none =>
      obtain ⟨start, bears, goesOn⟩ := continues.new key next earlier found
      exact keeps key start next goesOn (initially key start bears)
  | some record =>
      obtain ⟨_, again, goesOn⟩ := continues.kept key record earlier
      cases again.symm.trans found
      exact keeps key record next goesOn (all key record earlier)

/-- A record that goes no further stands as it is. -/
theorem Continues.stands {key : κ} {record : ν} (continues : Continues born becomes first second)
    (ended : ∀ next, becomes record next → next = record) (found : first key = some record) :
    second key = some record := by
  obtain ⟨next, stored, goesOn⟩ := continues.kept key record found
  rw [stored, ended next goesOn]

/-- A write of one record continues the register if it goes on from the one that is stored, or is
born where none is. -/
theorem continues_update [DecidableEq κ] {map : κ → Option ν} {key : κ} {value : ν}
    (refl : ∀ record, becomes record record)
    (goesOn : ∀ record, map key = some record → becomes record value)
    (bears : map key = none → born key value) :
    Continues born becomes map (Function.update map key (some value)) where
  kept other record found := by
    by_cases written : other = key
    · subst written
      exact ⟨value, Function.update_self .., goesOn record found⟩
    · exact ⟨record, (Function.update_of_ne written _ _).trans found, refl record⟩
  new other next free found := by
    by_cases written : other = key
    · subst written
      rw [Function.update_self] at found
      cases found
      exact ⟨value, bears free, refl value⟩
    · rw [Function.update_of_ne written] at found
      cases free.symm.trans found

end Continues

/-! ## Runs -/

section Runs

open Transaction

variable {σ ε ι : Type} {body : ι → Transaction σ ε Unit} {relation : σ → σ → Prop}
  {inv : σ → Prop}

/-- Where the calls that go through keep an invariant and a preorder, the states of every run go
up in it. -/
theorem progresses_of_commits (refl : ∀ state, relation state state)
    (trans : ∀ one two three, relation one two → relation two three → relation one three)
    (kept : ∀ call before after, Commits (body call) before () after → inv before → inv after)
    (goesOn : ∀ call before after, Commits (body call) before () after → inv before →
      relation before after)
    (calls : List ι) {start : σ} (holds : inv start) :
    Run.Progresses (Machine.step body) relation calls start := by
  refine (Run.progresses_iff refl trans).mpr ?_
  refine Run.meetsAlong_of_inv (fun call state held => ?_) (fun call state held => ?_) calls holds
  · exact Machine.step_keeps (fun next run _ => kept call state next run) (fun _ => trivial) held
  · by_cases goes : Machine.Goes body call state
    · exact goesOn call state _ goes.commits held
    · rw [Machine.step_of_not_goes goes]
      exact refl state

end Runs

/-! ## Events -/

section Events

open Transaction

variable {σ ε ι α η : Type}

/-- What is read of the state is what the events, newest first, make of a blank. -/
def Told (events : σ → List η) (view : σ → ν) (tell : η → ν → ν) (blank : ν) (state : σ) : Prop :=
  view state = (events state).foldr tell blank

/-- A body that goes through publishes what it changes. -/
def Tells (events : σ → List η) (view : σ → ν) (tell : η → ν → ν)
    (body : Transaction σ ε α) : Prop :=
  ∀ before value after, Commits body before value after → ∃ news,
    events after = news ++ events before ∧ view after = news.foldr tell (view before)

/-- The events published between two states tell what has changed. -/
def Announced (events : σ → List η) (view : σ → ν) (tell : η → ν → ν) (before after : σ) : Prop :=
  ∃ news, events after = news ++ events before ∧ view after = news.foldr tell (view before)

variable {events : σ → List η} {view : σ → ν} {tell : η → ν → ν} {blank : ν}

theorem announced_refl (state : σ) : Announced events view tell state state :=
  ⟨[], rfl, rfl⟩

theorem announced_trans (first second third : σ) (one : Announced events view tell first second)
    (two : Announced events view tell second third) : Announced events view tell first third := by
  obtain ⟨news, published, changed⟩ := one
  obtain ⟨later, publishedLater, changedLater⟩ := two
  refine ⟨later ++ news, ?_, ?_⟩
  · rw [publishedLater, published, List.append_assoc]
  · rw [changedLater, changed, List.foldr_append]

/-- Where nothing is published, nothing that is told has changed. -/
theorem Announced.silent {before after : σ} (announced : Announced events view tell before after)
    (same : events after = events before) : view after = view before := by
  obtain ⟨news, published, changed⟩ := announced
  rw [same, List.self_eq_append_left] at published
  rw [changed, published]
  rfl

theorem Told.announced {before after : σ} (told : Told events view tell blank before)
    (announced : Announced events view tell before after) : Told events view tell blank after := by
  obtain ⟨news, published, changed⟩ := announced
  unfold Told
  rw [published, changed, told, List.foldr_append]

/-- A body that publishes nothing and changes nothing that is told. -/
theorem tells_of_steady {body : Transaction σ ε α}
    (steady : Steady (fun state => (events state, view state)) body) :
    Tells events view tell body := by
  intro before value after run
  have same := steady.keeps run
  rw [Prod.mk.injEq] at same
  exact ⟨[], same.1, same.2⟩

theorem Told.next {body : Transaction σ ε α} {before after : σ} {value : α}
    (told : Told events view tell blank before) (tells : Tells events view tell body)
    (run : Commits body before value after) : Told events view tell blank after :=
  told.announced (tells before value after run)

/-- Where every call publishes what it changes, the events of every run tell all of it. -/
theorem told_of_run {body : ι → Transaction σ ε Unit}
    (tells : ∀ call, Tells events view tell (body call)) (calls : List ι) {start : σ}
    (initially : Told events view tell blank start) :
    Told events view tell blank (Run.run (Machine.step body) calls start) := by
  refine Run.invariant (fun call state told => ?_) calls initially
  exact Machine.step_keeps (fun _ run (_ : True) told => told.next (tells call) run)
    (fun _ => trivial) told

end Events

end Register
