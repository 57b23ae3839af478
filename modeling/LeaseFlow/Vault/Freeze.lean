import LeaseFlow.Vault.Effect

/-!
# The global escrow freeze

The flag and its time stamp are written together, and only by the council.  The four operations
that move tokens look at the flag before anything else, and a vault that is frozen has been set
up, so that nothing but the lift touches it.
-/

set_option autoImplicit false

namespace LeaseFlow.Vault

open Transaction Run

/-- Before the vault is set up it has no council, and nobody to freeze it. -/
def Books.Founded (books : Books) : Prop :=
  books.admin = none → books.council = none ∧ books.frozen = false

/-- The time stamp is that of the freeze that lasts. -/
structure Books.Stamped (books : Books) (since : Option U64) : Prop where
  stamp : books.freezeTimestamp = since
  flag : books.frozen = since.isSome

/-- The ledger time of the call that froze the vault, while it is frozen. -/
def frozenSince (call : Call) (store : Store) (since : Option U64) : Option U64 :=
  if (step call store).frozen = store.frozen then since
  else if (step call store).frozen = true then some call.env.timestamp
  else none

/-- The address stored as council authorized the call. -/
def Call.CouncilAuthorized (call : Call) (store : Store) : Prop :=
  ∃ council, store.daoSecurityCouncil = some council ∧ call.env.authorized council = true

section Effects

variable {env : Env} {operation : Operation} {books after : Books}

theorem Effect.founded (effect : Effect env operation books after) (founded : books.Founded) :
    after.Founded := by
  cases effect with
  | initialized fresh =>
      intro unset
      cases unset
  | deposited unfrozen authorized lock accepted => exact founded
  | paid asked authorized payable accepted => exact founded
  | froze council authorized unfrozen =>
      intro unset
      rw [(founded unset).1] at council
      cases council
  | lifted council authorized frozen =>
      intro unset
      exact ⟨(founded unset).1, rfl⟩
  | repeated council authorized already => exact founded
  | replaced stored authorized =>
      intro unset
      change books.admin = none at unset
      rw [unset] at stored
      cases stored

/-- The flag is changed by the council only. -/
theorem Effect.flag (effect : Effect env operation books after) (founded : books.Founded) :
    after.frozen = books.frozen ∨
      ∃ council, books.council = some council ∧ env.authorized council = true := by
  cases effect with
  | initialized fresh => exact .inl (founded fresh).2.symm
  | deposited unfrozen authorized lock accepted => exact .inl rfl
  | paid asked authorized payable accepted => exact .inl rfl
  | froze council authorized unfrozen => exact .inr ⟨_, council, authorized⟩
  | lifted council authorized frozen => exact .inr ⟨_, council, authorized⟩
  | repeated council authorized already => exact .inl rfl
  | replaced stored authorized => exact .inl rfl

/-- The time stamp is set by a freeze, removed by a lift and left alone by everything else. -/
theorem Effect.timestamp (effect : Effect env operation books after) (founded : books.Founded) :
    (after.frozen = books.frozen ∧ after.freezeTimestamp = books.freezeTimestamp) ∨
      (books.frozen = false ∧ after.frozen = true ∧
        after.freezeTimestamp = some env.timestamp) ∨
      (books.frozen = true ∧ after.frozen = false ∧ after.freezeTimestamp = none) := by
  cases effect with
  | initialized fresh => exact .inl ⟨(founded fresh).2.symm, rfl⟩
  | deposited unfrozen authorized lock accepted => exact .inl ⟨rfl, rfl⟩
  | paid asked authorized payable accepted => exact .inl ⟨rfl, rfl⟩
  | froze council authorized unfrozen => exact .inr (.inl ⟨unfrozen, rfl, rfl⟩)
  | lifted council authorized frozen => exact .inr (.inr ⟨frozen, rfl, rfl⟩)
  | repeated council authorized already => exact .inl ⟨rfl, rfl⟩
  | replaced stored authorized => exact .inl ⟨rfl, rfl⟩

/-- Nothing moves in a frozen vault. -/
theorem Effect.still (effect : Effect env operation books after) (founded : books.Founded)
    (frozen : books.frozen = true) :
    after.entries = books.entries ∧ after.transfers = books.transfers := by
  cases effect with
  | initialized fresh =>
      rw [(founded fresh).2] at frozen
      cases frozen
  | deposited unfrozen authorized lock accepted =>
      rw [unfrozen] at frozen
      cases frozen
  | paid asked authorized payable accepted =>
      rw [payable.unfrozen] at frozen
      cases frozen
  | froze council authorized unfrozen => exact ⟨rfl, rfl⟩
  | lifted council authorized frozen => exact ⟨rfl, rfl⟩
  | repeated council authorized already => exact ⟨rfl, rfl⟩
  | replaced stored authorized => exact ⟨rfl, rfl⟩

end Effects

/-! ## Steps -/

theorem step_founded (call : Call) (store : Store) (founded : store.books.Founded) :
    (step call store).books.Founded := by
  rcases step_effect call store with effect | same
  · exact effect.founded founded
  · rwa [same]

theorem step_flag {call : Call} {store : Store} (founded : store.books.Founded)
    (changed : (step call store).frozen ≠ store.frozen) : call.CouncilAuthorized store := by
  rcases step_effect call store with effect | same
  · exact (effect.flag founded).resolve_left changed
  · rw [same] at changed
    exact absurd rfl changed

theorem step_still {call : Call} {store : Store} (founded : store.books.Founded)
    (frozen : store.frozen = true) :
    (step call store).entries = store.entries ∧
      (step call store).transfers = store.transfers := by
  rcases step_effect call store with effect | same
  · exact effect.still founded frozen
  · rw [same]
    exact ⟨rfl, rfl⟩

theorem step_timestamp (call : Call) {store : Store} (founded : store.books.Founded) :
    ((step call store).frozen = store.frozen ∧
        (step call store).freezeTimestamp = store.freezeTimestamp) ∨
      (store.frozen = false ∧ (step call store).frozen = true ∧
        (step call store).freezeTimestamp = some call.env.timestamp) ∨
      (store.frozen = true ∧ (step call store).frozen = false ∧
        (step call store).freezeTimestamp = none) := by
  rcases step_effect call store with effect | same
  · exact effect.timestamp founded
  · rw [same]
    exact .inl ⟨rfl, rfl⟩

theorem step_stamped (call : Call) (state : Store × Option U64)
    (holds : state.1.books.Founded ∧ state.1.books.Stamped state.2) :
    (annotate step frozenSince call state).1.books.Founded ∧
      (annotate step frozenSince call state).1.books.Stamped
        (annotate step frozenSince call state).2 := by
  obtain ⟨founded, stamped⟩ := holds
  refine ⟨step_founded call state.1 founded, ?_⟩
  rcases step_timestamp call founded with ⟨flag, stamp⟩ | ⟨before, flag, stamp⟩ |
    ⟨before, flag, stamp⟩
  · have since : frozenSince call state.1 state.2 = state.2 := if_pos flag
    rw [annotate, since]
    exact ⟨stamp.trans stamped.stamp, flag.trans stamped.flag⟩
  · have since : frozenSince call state.1 state.2 = some call.env.timestamp := by
      rw [frozenSince, flag, before]
      rfl
    rw [annotate, since]
    exact ⟨stamp, flag⟩
  · have since : frozenSince call state.1 state.2 = none := by
      rw [frozenSince, flag, before]
      rfl
    rw [annotate, since]
    exact ⟨stamp, flag⟩

/-! ## Runs -/

theorem newVault_founded : newVault.books.Founded :=
  fun _ => ⟨rfl, rfl⟩

theorem newVault_stamped :
    (newVault, (none : Option U64)).1.books.Founded ∧
      (newVault, (none : Option U64)).1.books.Stamped (newVault, (none : Option U64)).2 :=
  ⟨newVault_founded, rfl, rfl⟩

theorem run_founded (calls : List Call) : (run step calls newVault).books.Founded :=
  invariant step_founded calls newVault_founded

/-- Only the council changes the flag, the time stamp is there while the vault is frozen and is
the time of the call that froze it, and while a freeze lasts entries, transfers and time stamp
stay as they are. -/
theorem freeze_holds (calls : List Call) :
    MeetsAlong step (fun call store => (step call store).frozen ≠ store.frozen →
        call.CouncilAuthorized store) calls newVault ∧
      (run step calls newVault).books.Stamped
        (run (annotate step frozenSince) calls (newVault, none)).2 ∧
      MeetsAlong step (fun call store => store.frozen = true →
        (step call store).entries = store.entries ∧
          (step call store).transfers = store.transfers) calls newVault ∧
      ∀ earlier later, earlier ++ later = calls →
        (∀ middle, middle <+: later →
          (run step (earlier ++ middle) newVault).frozen = true) →
        (run step calls newVault).entries = (run step earlier newVault).entries ∧
          (run step calls newVault).transfers = (run step earlier newVault).transfers ∧
          (run step calls newVault).freezeTimestamp =
            (run step earlier newVault).freezeTimestamp := by
  refine ⟨?_, ?_, ?_, ?_⟩
  · apply meetsAlong_of_inv step_founded
    · intro call store founded changed
      exact step_flag founded changed
    · exact newVault_founded
  · have holds := invariant step_stamped calls newVault_stamped
    rw [run_annotate_fst] at holds
    exact holds.2
  · apply meetsAlong_of_inv step_founded
    · intro call store founded frozen
      exact step_still founded frozen
    · exact newVault_founded
  · intro earlier later split lasts
    subst split
    simp only [run_append] at lasts ⊢
    have same := @unchanged_while _ _ step _
      (fun store => (store.entries, store.transfers, store.freezeTimestamp))
      (fun store => store.books.Founded) (fun store => store.frozen = true) step_founded
      (fun call store founded frozen next => by
        have still := @step_still call store founded frozen
        rcases step_timestamp call founded with ⟨_, stamp⟩ | ⟨before, _, _⟩ | ⟨_, after, _⟩
        · rw [still.1, still.2, stamp]
        · rw [frozen] at before
          cases before
        · rw [next] at after
          cases after)
      later (run step earlier newVault) (run_founded earlier) lasts
    simpa using same

end LeaseFlow.Vault
