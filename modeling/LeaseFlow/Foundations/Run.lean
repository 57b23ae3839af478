import Mathlib.Order.Basic
import Mathlib.Data.List.Pairwise

/-!
# Runs of a state machine

A machine is a total step function; a call that is refused is a step that
leaves the state alone.  The file packages the inductions over runs: an
invariant of every step, an invariant of the steps that meet a condition on the
state before them, and a stream of emitted values dominated by a mark the state
keeps.
-/

set_option autoImplicit false

namespace Run

variable {σ ι : Type} (step : ι → σ → σ)

def run : List ι → σ → σ
  | [], state => state
  | call :: rest, state => run rest (step call state)

/-- Every call of the run meets the condition in the state it is made in. -/
def MeetsAlong (condition : ι → σ → Prop) : List ι → σ → Prop
  | [], _ => True
  | call :: rest, state => condition call state ∧ MeetsAlong condition rest (step call state)

/-- How many calls of the run are counted in the state they are made in. -/
def count (counted : ι → σ → Bool) : List ι → σ → Nat
  | [], _ => 0
  | call :: rest, state => (counted call state).toNat + count counted rest (step call state)

def Reaches (start state : σ) : Prop :=
  ∃ calls, run step calls start = state

variable {step}

theorem run_append (calls later : List ι) (state : σ) :
    run step (calls ++ later) state = run step later (run step calls state) := by
  induction calls generalizing state with
  | nil => rfl
  | cons call rest ih => exact ih (step call state)

theorem meetsAlong_append {condition : ι → σ → Prop} (calls later : List ι) (state : σ) :
    MeetsAlong step condition (calls ++ later) state ↔
      MeetsAlong step condition calls state ∧
        MeetsAlong step condition later (run step calls state) := by
  induction calls generalizing state with
  | nil => simp [MeetsAlong, run]
  | cons call rest ih =>
      simp only [List.cons_append, MeetsAlong, run]
      rw [ih (step call state), and_assoc]

/-- Every call of the run meets the condition in the state the calls before it leave. -/
theorem MeetsAlong.at {condition : ι → σ → Prop} {calls earlier later : List ι} {call : ι}
    {state : σ} (meets : MeetsAlong step condition calls state)
    (within : earlier ++ call :: later <+: calls) : condition call (run step earlier state) := by
  obtain ⟨rest, rfl⟩ := within
  rw [List.append_assoc] at meets
  exact ((meetsAlong_append earlier _ state).mp meets).2.1

/-- What is met along a run is met along its first calls. -/
theorem MeetsAlong.of_prefix {condition : ι → σ → Prop} {calls earlier : List ι} {state : σ}
    (meets : MeetsAlong step condition calls state) (within : earlier <+: calls) :
    MeetsAlong step condition earlier state := by
  obtain ⟨rest, rfl⟩ := within
  exact ((meetsAlong_append earlier rest state).mp meets).1

theorem meetsAlong_and {first second : ι → σ → Prop} (calls : List ι) (state : σ) :
    MeetsAlong step (fun call state => first call state ∧ second call state) calls state ↔
      MeetsAlong step first calls state ∧ MeetsAlong step second calls state := by
  induction calls generalizing state with
  | nil => simp [MeetsAlong]
  | cons call rest ih =>
      simp only [MeetsAlong]
      rw [ih (step call state), and_and_and_comm]

theorem invariant_along {condition : ι → σ → Prop} {inv : σ → Prop}
    (keeps : ∀ call state, condition call state → inv state → inv (step call state))
    {calls : List ι} {state : σ} (meets : MeetsAlong step condition calls state)
    (holds : inv state) : inv (run step calls state) := by
  induction calls generalizing state with
  | nil => exact holds
  | cons call rest ih => exact ih meets.2 (keeps call state meets.1 holds)

theorem meetsAlong_trivial (calls : List ι) (state : σ) :
    MeetsAlong step (fun _ _ => True) calls state := by
  induction calls generalizing state with
  | nil => trivial
  | cons call rest ih => exact ⟨trivial, ih (step call state)⟩

/-- A condition on the calls alone is met along every run of them. -/
theorem meetsAlong_of_forall {condition : ι → Prop} {calls : List ι}
    (all : ∀ call ∈ calls, condition call) (state : σ) :
    MeetsAlong step (fun call _ => condition call) calls state := by
  induction calls generalizing state with
  | nil => trivial
  | cons call rest ih =>
      refine ⟨all call (List.mem_cons_self ..), ih (fun other later => ?_) (step call state)⟩
      exact all other (List.mem_cons_of_mem call later)

theorem invariant {inv : σ → Prop} (keeps : ∀ call state, inv state → inv (step call state))
    (calls : List ι) {state : σ} (holds : inv state) : inv (run step calls state) :=
  invariant_along (fun call state _ => keeps call state) (meetsAlong_trivial calls state) holds

/-- Two conditions that agree on the states of an invariant are met along the same runs. -/
theorem meetsAlong_congr {inv : σ → Prop} {first second : ι → σ → Prop}
    (keeps : ∀ call state, inv state → inv (step call state))
    (agree : ∀ call state, inv state → (first call state ↔ second call state))
    {calls : List ι} {state : σ} (holds : inv state) :
    MeetsAlong step first calls state ↔ MeetsAlong step second calls state := by
  induction calls generalizing state with
  | nil => exact Iff.rfl
  | cons call rest ih => exact and_congr (agree call state holds) (ih (keeps call state holds))

/-- Along a run whose calls all meet a given condition, two more are met together if they agree
on the states of an invariant that a step meeting the first one keeps. -/
theorem meetsAlong_iff_given {given : ι → σ → Prop} {base inv : σ → Prop}
    {first second : ι → σ → Prop}
    (kept : ∀ call state, given call state → base state → base (step call state))
    (agree : ∀ call state, given call state → base state → inv state →
      (first call state ↔ second call state))
    (next : ∀ call state, given call state → base state → inv state → first call state →
      inv (step call state))
    {calls : List ι} {state : σ} (meets : MeetsAlong step given calls state)
    (based : base state) (holds : inv state) :
    MeetsAlong step first calls state ↔ MeetsAlong step second calls state := by
  induction calls generalizing state with
  | nil => exact Iff.rfl
  | cons call rest ih =>
      obtain ⟨now, later⟩ := meets
      have same := agree call state now based holds
      have based' := kept call state now based
      constructor
      · intro met
        have holds' := next call state now based holds met.1
        exact ⟨same.mp met.1, (ih later based' holds').mp met.2⟩
      · intro met
        have first := same.mpr met.1
        exact ⟨first, (ih later based' (next call state now based holds first)).mpr met.2⟩

/-- Two conditions are met along the same runs if they agree on the states of an invariant
that a step meeting the first one keeps. -/
theorem meetsAlong_iff {base inv : σ → Prop} {first second : ι → σ → Prop}
    (kept : ∀ call state, base state → base (step call state))
    (agree : ∀ call state, base state → inv state → (first call state ↔ second call state))
    (next : ∀ call state, base state → inv state → first call state → inv (step call state))
    {calls : List ι} {state : σ} (based : base state) (holds : inv state) :
    MeetsAlong step first calls state ↔ MeetsAlong step second calls state :=
  meetsAlong_iff_given (fun call state _ => kept call state)
    (fun call state _ => agree call state) (fun call state _ => next call state)
    (meetsAlong_trivial calls state) based holds

/-- Where a step keeps an invariant exactly when it meets a condition, a run keeps the
invariant in every state exactly when every step meets the condition. -/
theorem invariant_along_iff {base inv : σ → Prop} {condition : ι → σ → Prop}
    (kept : ∀ call state, base state → base (step call state))
    (decided : ∀ call state, base state → inv state →
      (inv (step call state) ↔ condition call state))
    {calls : List ι} {state : σ} (based : base state) (holds : inv state) :
    MeetsAlong step (fun call state => inv (step call state)) calls state ↔
      MeetsAlong step condition calls state :=
  meetsAlong_iff kept decided (fun _ _ _ _ kept => kept) based holds

/-- A property of every state of the run is one of the first state and of every step. -/
theorem forall_prefix_iff {inv : σ → Prop} {calls : List ι} {state : σ} :
    (∀ earlier, earlier <+: calls → inv (run step earlier state)) ↔
      inv state ∧ MeetsAlong step (fun call state => inv (step call state)) calls state := by
  induction calls generalizing state with
  | nil =>
      constructor
      · intro all
        exact ⟨all [] (List.prefix_refl []), trivial⟩
      · intro holds earlier within
        rw [List.prefix_nil.mp within]
        exact holds.1
  | cons call rest ih =>
      constructor
      · intro all
        have later := ih.mp fun earlier within =>
          all (call :: earlier) (List.cons_prefix_cons.mpr ⟨rfl, within⟩)
        exact ⟨all [] List.nil_prefix, later⟩
      · intro holds earlier within
        cases earlier with
        | nil => exact holds.1
        | cons other earlier =>
            obtain ⟨rfl, shorter⟩ := List.cons_prefix_cons.mp within
            exact ih.mpr holds.2 earlier shorter

/-- Where the steps of a run keep an invariant exactly when they meet a condition, the run keeps
the invariant in every state exactly when every step meets the condition. -/
theorem invariant_along_iff_given {given : ι → σ → Prop} {base inv : σ → Prop}
    {condition : ι → σ → Prop}
    (kept : ∀ call state, given call state → base state → base (step call state))
    (decided : ∀ call state, given call state → base state → inv state →
      (inv (step call state) ↔ condition call state))
    {calls : List ι} {state : σ} (meets : MeetsAlong step given calls state)
    (based : base state) (holds : inv state) :
    (∀ earlier, earlier <+: calls → inv (run step earlier state)) ↔
      MeetsAlong step condition calls state := by
  rw [forall_prefix_iff, and_iff_right holds]
  exact meetsAlong_iff_given kept decided (fun _ _ _ _ _ kept => kept) meets based holds

/-- What no step restores held before the run if it holds after it. -/
theorem of_run {inv : σ → Prop} (lost : ∀ call state, inv (step call state) → inv state)
    {calls : List ι} {state : σ} (atEnd : inv (run step calls state)) : inv state := by
  induction calls generalizing state with
  | nil => exact atEnd
  | cons call rest ih => exact lost call state (ih atEnd)

/-- An invariant that no step restores holds at the end of a run exactly when every step
meets the condition under which it is kept. -/
theorem invariant_at_end_iff {base inv : σ → Prop} {condition : ι → σ → Prop}
    (kept : ∀ call state, base state → base (step call state))
    (decided : ∀ call state, base state → inv state →
      (inv (step call state) ↔ condition call state))
    (lost : ∀ call state, inv (step call state) → inv state)
    {calls : List ι} {state : σ} (based : base state) (holds : inv state) :
    inv (run step calls state) ↔ MeetsAlong step condition calls state := by
  induction calls generalizing state with
  | nil => exact iff_of_true holds trivial
  | cons call rest ih =>
      have later := kept call state based
      by_cases next : inv (step call state)
      · have met := (decided call state based holds).mp next
        exact (ih later next).trans (and_iff_right met).symm
      · refine iff_of_false (fun atEnd => next (of_run lost atEnd)) fun meets => ?_
        exact next ((decided call state based holds).mpr meets.1)

/-- What holds of every call made in a state of the invariant holds along the run. -/
theorem meetsAlong_of_invariant {inv : σ → Prop} {condition conclusion : ι → σ → Prop}
    (keeps : ∀ call state, condition call state → inv state → inv (step call state))
    (concludes : ∀ call state, condition call state → inv state → conclusion call state)
    {calls : List ι} {state : σ} (meets : MeetsAlong step condition calls state)
    (holds : inv state) : MeetsAlong step conclusion calls state := by
  induction calls generalizing state with
  | nil => trivial
  | cons call rest ih =>
      exact ⟨concludes call state meets.1 holds, ih meets.2 (keeps call state meets.1 holds)⟩

/-- What a call made in a state of an invariant always meets is met along every run. -/
theorem meetsAlong_of_inv {inv : σ → Prop} {conclusion : ι → σ → Prop}
    (keeps : ∀ call state, inv state → inv (step call state))
    (concludes : ∀ call state, inv state → conclusion call state)
    (calls : List ι) {state : σ} (holds : inv state) : MeetsAlong step conclusion calls state :=
  meetsAlong_of_invariant (fun call state _ => keeps call state)
    (fun call state _ => concludes call state) (meetsAlong_trivial calls state) holds

theorem MeetsAlong.mono {first second : ι → σ → Prop} {calls : List ι} {state : σ}
    (meets : MeetsAlong step first calls state)
    (implies : ∀ call state, first call state → second call state) :
    MeetsAlong step second calls state :=
  @meetsAlong_of_invariant _ _ step (fun _ => True) first second (fun _ _ _ _ => trivial)
    (fun call state met _ => implies call state met) _ _ meets trivial

/-- Every state of the run is related to every later one. -/
def Progresses (step : ι → σ → σ) (relation : σ → σ → Prop) (calls : List ι) (state : σ) : Prop :=
  ∀ earlier later, earlier ++ later <+: calls →
    relation (run step earlier state) (run step (earlier ++ later) state)

/-- For a preorder it is enough that every step progresses. -/
theorem progresses_iff {relation : σ → σ → Prop} (refl : ∀ state, relation state state)
    (trans : ∀ first second third, relation first second → relation second third →
      relation first third) {calls : List ι} {state : σ} :
    Progresses step relation calls state ↔
      MeetsAlong step (fun call state => relation state (step call state)) calls state := by
  induction calls generalizing state with
  | nil =>
      refine iff_of_true (fun earlier later within => ?_) trivial
      obtain ⟨rfl, rfl⟩ := List.append_eq_nil_iff.mp (List.prefix_nil.mp within)
      exact refl state
  | cons call rest ih =>
      constructor
      · intro progresses
        refine ⟨progresses [] [call] (by simp), ih.mp fun earlier later within => ?_⟩
        exact progresses (call :: earlier) later (List.cons_prefix_cons.mpr ⟨rfl, within⟩)
      · rintro ⟨now, along⟩ earlier later within
        have progresses := ih.mpr along
        cases earlier with
        | nil =>
            cases later with
            | nil => exact refl state
            | cons other later =>
                obtain ⟨rfl, shorter⟩ := List.cons_prefix_cons.mp within
                exact trans _ _ _ now (progresses [] later shorter)
        | cons other earlier =>
            obtain ⟨rfl, shorter⟩ := List.cons_prefix_cons.mp within
            exact progresses earlier later shorter

/-- A view that no step changes while a condition lasts is the same after a run during which it
lasts. -/
theorem unchanged_while {ν : Type} {view : σ → ν} {inv lasting : σ → Prop}
    (keeps : ∀ call state, inv state → inv (step call state))
    (same : ∀ call state, inv state → lasting state → lasting (step call state) →
      view (step call state) = view state)
    {calls : List ι} {state : σ} (holds : inv state)
    (lasts : ∀ earlier, earlier <+: calls → lasting (run step earlier state)) :
    view (run step calls state) = view state := by
  induction calls generalizing state with
  | nil => rfl
  | cons call rest ih =>
      have now : lasting state := lasts [] List.nil_prefix
      have next : lasting (step call state) := lasts [call] (by simp)
      have later := ih (keeps call state holds) fun earlier within =>
        lasts (call :: earlier) (List.cons_prefix_cons.mpr ⟨rfl, within⟩)
      exact later.trans (same call state holds now next)

theorem reaches_refl (start : σ) : Reaches step start start :=
  ⟨[], rfl⟩

theorem Reaches.invariant {inv : σ → Prop} {start state : σ} (reached : Reaches step start state)
    (keeps : ∀ call state, inv state → inv (step call state)) (initially : inv start) :
    inv state := by
  obtain ⟨calls, rfl⟩ := reached
  exact Run.invariant keeps calls initially

theorem Reaches.next {start state : σ} (reached : Reaches step start state) (call : ι) :
    Reaches step start (step call state) := by
  obtain ⟨calls, rfl⟩ := reached
  exact ⟨calls ++ [call], run_append calls [call] start⟩

/-! ## Emissions -/

section Emissions

variable {ν : Type}

/-- The values a run emits, in the order of its calls. -/
def emissions (step : ι → σ → σ) (emit : ι → σ → Option ν) : List ι → σ → List ν
  | [], _ => []
  | call :: rest, state => (emit call state).toList ++ emissions step emit rest (step call state)

variable {emit : ι → σ → Option ν}

/-- What every step keeps of the state and of all that was emitted so far holds after a run. -/
theorem invariant_emissions {inv : σ → List ν → Prop}
    (keeps : ∀ call state emitted, inv state emitted →
      inv (step call state) (emitted ++ (emit call state).toList))
    (calls : List ι) {state : σ} {emitted : List ν} (holds : inv state emitted) :
    inv (run step calls state) (emitted ++ emissions step emit calls state) := by
  induction calls generalizing state emitted with
  | nil =>
      rw [emissions, List.append_nil]
      exact holds
  | cons call rest ih =>
      rw [emissions, ← List.append_assoc]
      exact ih (keeps call state emitted holds)

end Emissions

/-! ## Emissions below a high-water mark -/

section HighWater

variable {ν : Type} [Preorder ν]

/-- An emitted value lies above the mark it is emitted under, and the next mark
covers it; a silent step never lowers the mark. -/
structure HighWater (step : ι → σ → σ) (emit : ι → σ → Option ν) (mark : σ → ν) : Prop where
  silent : ∀ call state, emit call state = none → mark state ≤ mark (step call state)
  above : ∀ call state value, emit call state = some value → mark state < value
  covered : ∀ call state value, emit call state = some value → value ≤ mark (step call state)

variable {emit : ι → σ → Option ν} {mark : σ → ν}

theorem HighWater.mark_le (high : HighWater step emit mark) (call : ι) (state : σ) :
    mark state ≤ mark (step call state) := by
  cases emitted : emit call state with
  | none => exact high.silent call state emitted
  | some value =>
      exact (high.above call state value emitted).le.trans (high.covered call state value emitted)

theorem HighWater.emissions_above (high : HighWater step emit mark) {calls : List ι} {state : σ}
    {value : ν} (emitted : value ∈ emissions step emit calls state) : mark state < value := by
  induction calls generalizing state with
  | nil => simp [emissions] at emitted
  | cons call rest ih =>
      simp only [emissions, List.mem_append, Option.mem_toList] at emitted
      rcases emitted with now | later
      · exact high.above call state value now
      · exact (high.mark_le call state).trans_lt (ih later)

theorem HighWater.emissions_increasing (high : HighWater step emit mark) (calls : List ι)
    (state : σ) : (emissions step emit calls state).Pairwise (· < ·) := by
  induction calls generalizing state with
  | nil => exact List.Pairwise.nil
  | cons call rest ih =>
      simp only [emissions]
      refine List.pairwise_append.mpr ⟨?_, ih (step call state), ?_⟩
      · cases emit call state <;> simp
      · intro value now later emitted
        have covered := high.covered call state value (Option.mem_toList.mp now)
        exact covered.trans_lt (high.emissions_above emitted)

end HighWater

/-! ## A history beside the state -/

section Annotated

variable {γ : Type}

/-- The machine with a history beside its state.  Every call extends the history by what it
finds in the state it is made in. -/
def annotate (step : ι → σ → σ) (extend : ι → σ → γ → γ) (call : ι) (state : σ × γ) : σ × γ :=
  (step call state.1, extend call state.1 state.2)

variable {extend : ι → σ → γ → γ}

/-- The history changes nothing about the states of a run. -/
theorem run_annotate_fst (calls : List ι) (state : σ × γ) :
    (run (annotate step extend) calls state).1 = run step calls state.1 := by
  induction calls generalizing state with
  | nil => rfl
  | cons call rest ih => exact ih (annotate step extend call state)

theorem meetsAlong_annotate {condition : ι → σ → Prop} (calls : List ι) (state : σ × γ) :
    MeetsAlong (annotate step extend) (fun call state => condition call state.1) calls state ↔
      MeetsAlong step condition calls state.1 := by
  induction calls generalizing state with
  | nil => exact Iff.rfl
  | cons call rest ih => exact and_congr_right' (ih (annotate step extend call state))

end Annotated

end Run
