import LeaseFlow.Billing.Bookkeeping

/-!
# Invoices of different leases

The id of an invoice is the ledger sequence, which all leases billed in one ledger share, and
the store of an invoice overwrites what is there.  Invoices are independent exactly in the
runs that never bill where one of the same ledger is stored.
-/

set_option autoImplicit false

namespace LeaseFlow.Billing

open Transaction Run

/-! ## Independence -/

/-- The call is a billing of the lease that returns the cycle id. -/
def Call.Bills (leaseId cycleId : U64) (call : Call) (store : Store) : Prop :=
  ∃ processor, call.operation = .processBillingCycle leaseId processor ∧
    Commits (processBillingCycle call.env leaseId processor) store cycleId (step call store)

/-- A billing stores a new cycle of its lease and leaves every stored cycle unchanged. -/
def Call.StoresNewCycle (call : Call) (store : Store) : Prop :=
  ∀ leaseId cycleId, call.Bills leaseId cycleId store →
    store.cycles.lookup cycleId = none ∧
      (∃ cycle, (step call store).cycles.lookup cycleId = some cycle ∧
        cycle.leaseId = leaseId) ∧
      ∀ other cycle, store.cycles.lookup other = some cycle →
        (step call store).cycles.lookup other = some cycle

/-- The number of stored cycles is the number of processed ones. -/
def Store.CountsCycles (store : Store) : Prop :=
  store.cycles.entries.length = (store.state true 0).totalCyclesProcessed

/-- Billings store new cycles, all of them are counted, and a returned id refers to its lease
from then on. -/
structure CyclesIndependent (calls : List Call) : Prop where
  stored : MeetsAlong step Call.StoresNewCycle calls newModule
  counted : ∀ earlier, earlier <+: calls → (run step earlier newModule).CountsCycles
  refers : ∀ earlier call later leaseId cycleId, earlier ++ call :: later <+: calls →
    call.Bills leaseId cycleId (run step earlier newModule) →
    ∃ cycle, (run step (earlier ++ call :: later) newModule).cycles.lookup cycleId = some cycle ∧
      cycle.leaseId = leaseId

/-- The call does not bill in a ledger in which a cycle was stored before. -/
def Call.BillsInFreshLedger (call : Call) (store : Store) : Prop :=
  ∀ leaseId processor, call.operation = .processBillingCycle leaseId processor →
    call.body.succeeds store = true → store.cycles.lookup call.env.sequence = none

/-! ## One step -/

section Steps

variable {env : Env} {operation : Operation} {books after : Books} {call : Call} {store : Store}
  {leaseId cycleId : U64}

/-- A billing that goes through returns the ledger sequence. -/
theorem bills_iff : call.Bills leaseId cycleId store ↔
    (∃ processor, call.operation = .processBillingCycle leaseId processor) ∧
      call.body.succeeds store = true ∧ cycleId = call.env.sequence := by
  obtain ⟨env, operation⟩ := call
  constructor
  · intro bills
    obtain ⟨processor, rfl, run⟩ := bills
    refine ⟨⟨processor, rfl⟩, ?_, (processBillingCycle_outcome run).1⟩
    apply succeeds_iff.mpr
    exact ⟨(), _, (commits_bind _ _ _).mpr ⟨cycleId, _, run, (commits_pure _ _).mpr ⟨rfl, rfl⟩⟩⟩
  · intro bills
    obtain ⟨⟨processor, rfl⟩, committed, rfl⟩ := bills
    obtain ⟨returned, middle, billed, finished⟩ :=
      (commits_bind _ _ _).mp (commits_attempt committed)
    obtain ⟨_, rfl⟩ := (commits_pure _ _).mp finished
    have same := (processBillingCycle_outcome billed).1
    subst same
    exact ⟨processor, rfl, billed⟩

theorem Effect.billed {processor : Address}
    (effect : Effect env (.processBillingCycle leaseId processor) books after) :
    ∃ cycle, cycle.leaseId = leaseId ∧
      after.cycles = books.cycles.set env.sequence (some cycle) := by
  cases effect with
  | charged found charge counted => exact ⟨_, rfl, rfl⟩

/-- A billing in a fresh ledger, and no other, stores a new cycle. -/
theorem storesNewCycle_iff : call.StoresNewCycle store ↔ call.BillsInFreshLedger store := by
  constructor
  · intro storesNew leaseId processor billing committed
    have bills := bills_iff.mpr ⟨⟨processor, billing⟩, committed, rfl⟩
    exact (storesNew leaseId call.env.sequence bills).1
  · intro freshLedger leaseId cycleId bills
    obtain ⟨⟨processor, billing⟩, committed, rfl⟩ := bills_iff.mp bills
    have fresh := freshLedger leaseId processor billing committed
    rcases step_cases call store with ⟨_, outcome⟩ | ⟨refused, _⟩
    · have effect := outcome.effect
      rw [billing] at effect
      obtain ⟨cycle, named, cycles⟩ := effect.billed
      refine ⟨fresh, ⟨cycle, ?_, named⟩, fun other stored found => ?_⟩
      · rw [cycles_eq, cycles, Table.lookup_set_self]
      · have differs : other ≠ call.env.sequence := by
          intro same
          rw [same, fresh] at found
          cases found
        rwa [cycles_eq, cycles, Table.lookup_set_ne _ _ differs]
    · cases committed.symm.trans refused

/-- Every stored cycle stays stored, for the same lease. -/
def Books.KeepsReferences (before after : Books) : Prop :=
  ∀ cycleId cycle, before.cycles.lookup cycleId = some cycle →
    ∃ later, after.cycles.lookup cycleId = some later ∧ later.leaseId = cycle.leaseId

theorem keepsReferences_of_same (cycles : after.cycles = books.cycles) :
    books.KeepsReferences after := by
  intro cycleId cycle found
  exact ⟨cycle, by rwa [cycles], rfl⟩

theorem Books.KeepsReferences.trans {last : Books} (kept : books.KeepsReferences after)
    (further : after.KeepsReferences last) : books.KeepsReferences last := by
  intro cycleId cycle found
  obtain ⟨later, stored, same⟩ := kept cycleId cycle found
  obtain ⟨latest, remains, still⟩ := further cycleId later stored
  exact ⟨latest, remains, still.trans same⟩

theorem keepsReferences_set {cycle : BillingCycle}
    (cycles : after.cycles = books.cycles.set cycleId (some cycle))
    (replaces : ∀ stored, books.cycles.lookup cycleId = some stored →
      cycle.leaseId = stored.leaseId) : books.KeepsReferences after := by
  intro other stored found
  by_cases same : other = cycleId
  · subst same
    exact ⟨cycle, by rw [cycles, Table.lookup_set_self], replaces stored found⟩
  · exact ⟨stored, by rwa [cycles, Table.lookup_set_ne _ _ same], rfl⟩

theorem Payment.keepsReferences {payer : Address} {amount : I128}
    (payment : Payment env payer cycleId amount books after) : books.KeepsReferences after := by
  obtain ⟨unpaid, cycle, lease, totalPaid, totalOwed, posting⟩ := payment.posting
  apply keepsReferences_set posting.cycles
  intro stored found
  rw [posting.found] at found
  cases found
  exact (payCycle_sameInvoice posting.settled).leaseId

theorem Effect.keepsReferences (effect : Effect env operation books after)
    (empty : books.EmptyUntilSetUp)
    (fresh : ∀ leaseId processor, operation = .processBillingCycle leaseId processor →
      books.cycles.lookup env.sequence = none) : books.KeepsReferences after := by
  cases effect with
  | initialized unset =>
      intro cycleId cycle found
      rw [empty unset] at found
      simp [newModule, Store.books, Store.cycles] at found
  | registered enabled held => exact keepsReferences_of_same rfl
  | @charged _ leaseId processor =>
      apply keepsReferences_set rfl
      intro stored found
      rw [fresh leaseId processor rfl] at found
      cases found
  | paid payment => exact payment.keepsReferences
  | granted authorized unexpired next found => exact keepsReferences_of_same rfl
  | pulled granted active unexpired found covered payment => exact payment.keepsReferences
  | terminated found stored entitled authorized => exact keepsReferences_of_same rfl
  | paused stored authorized => exact keepsReferences_of_same rfl
  | configured stored authorized => exact keepsReferences_of_same rfl
  | distributed stored authorized held within accepted sent available =>
      exact keepsReferences_of_same rfl

/-! ### The number of cycles -/

def Books.Counted (books : Books) : Prop :=
  books.cycles.entries.length = (books.stateOr true 0).totalCyclesProcessed

theorem totalCyclesProcessed_stateOr (globalBillingEnabled : Bool) (lastProcessTime : U64) :
    (books.stateOr globalBillingEnabled lastProcessTime).totalCyclesProcessed =
      (books.stateOr true 0).totalCyclesProcessed := by
  unfold Books.stateOr
  cases books.state <;> rfl

theorem Books.Counted.of_same (counted : books.Counted)
    (cycles : after.cycles.entries.length = books.cycles.entries.length)
    (state : (after.stateOr true 0).totalCyclesProcessed =
      (books.stateOr true 0).totalCyclesProcessed) : after.Counted := by
  rw [Books.Counted, cycles, state]
  exact counted

theorem length_set_fresh {cycles : Table U64 BillingCycle} (cycle : BillingCycle)
    (fresh : cycles.lookup cycleId = none) :
    (cycles.set cycleId (some cycle)).entries.length = cycles.entries.length + 1 := by
  have count := Table.count_set (fun _ => true) cycles cycleId (some cycle)
  rw [fresh, Table.count_true, Table.count_true] at count
  exact count

theorem length_set_stored {cycles : Table U64 BillingCycle} {stored : BillingCycle}
    (cycle : BillingCycle) (found : cycles.lookup cycleId = some stored) :
    (cycles.set cycleId (some cycle)).entries.length = cycles.entries.length := by
  have count := Table.count_set (fun _ => true) cycles cycleId (some cycle)
  rw [found, Table.count_true, Table.count_true] at count
  exact Nat.add_right_cancel count

theorem Payment.counted {payer : Address} {amount : I128}
    (payment : Payment env payer cycleId amount books after) (counted : books.Counted) :
    after.Counted := by
  cases payment with
  | intro authorized found =>
      apply counted.of_same
      · exact length_set_stored _ found
      · exact totalCyclesProcessed_stateOr true env.timestamp

theorem Effect.counted (effect : Effect env operation books after)
    (fresh : ∀ leaseId processor, operation = .processBillingCycle leaseId processor →
      books.cycles.lookup env.sequence = none) (counted : books.Counted) : after.Counted := by
  cases effect with
  | initialized unset => rfl
  | registered enabled held => exact counted
  | @charged _ leaseId processor lease nextCycle duration cycleEnd processed rent totalOwed found
      charge counts =>
      obtain ⟨_, rfl⟩ := Checked.upTo_eq_some.mp counts
      have longer := length_set_fresh (.opened env.sequence leaseId lease rent nextCycle cycleEnd
        duration) (fresh leaseId processor rfl)
      have before : books.cycles.entries.length = (books.stateOr true 0).totalCyclesProcessed :=
        counted
      calc (books.cycles.set env.sequence (some (.opened env.sequence leaseId lease rent nextCycle
            cycleEnd duration))).entries.length
          = books.cycles.entries.length + 1 := longer
        _ = (books.stateOr true env.timestamp).totalCyclesProcessed + 1 := by
            rw [before, totalCyclesProcessed_stateOr true env.timestamp]
  | paid payment => exact payment.counted counted
  | granted authorized unexpired next found => exact counted
  | pulled granted active unexpired found covered payment => exact payment.counted counted
  | terminated found stored entitled authorized => exact counted
  | paused stored authorized => exact counted.of_same rfl rfl
  | configured stored authorized => exact counted
  | distributed stored authorized held within accepted sent available => exact counted

end Steps

/-! ## Runs -/

/-- The states of a run that bills in fresh ledgers. -/
structure Store.Orderly (store : Store) : Prop where
  empty : store.books.EmptyUntilSetUp
  counted : store.books.Counted

theorem newModule_orderly : newModule.Orderly where
  empty _ := rfl
  counted := rfl

theorem step_kept {call : Call} {store : Store} (fresh : call.BillsInFreshLedger store)
    (orderly : store.Orderly) :
    (step call store).Orderly ∧ store.books.KeepsReferences (step call store).books := by
  have empty := step_emptyUntilSetUp call store orderly.empty
  rcases step_cases call store with ⟨committed, outcome⟩ | ⟨_, same⟩
  · have unstored : ∀ leaseId processor, call.operation = .processBillingCycle leaseId processor →
        store.books.cycles.lookup call.env.sequence = none :=
      fun leaseId processor billing => fresh leaseId processor billing committed
    exact ⟨⟨empty, outcome.effect.counted unstored orderly.counted⟩,
      outcome.effect.keepsReferences orderly.empty unstored⟩
  · rw [same]
    exact ⟨orderly, keepsReferences_of_same rfl⟩

theorem run_orderly {calls : List Call}
    (fresh : MeetsAlong step Call.BillsInFreshLedger calls newModule) :
    (run step calls newModule).Orderly := by
  apply @invariant_along _ _ step Call.BillsInFreshLedger Store.Orderly
  · intro call store met orderly
    exact (step_kept met orderly).1
  · exact fresh
  · exact newModule_orderly

theorem run_keepsReferences {calls : List Call}
    (fresh : MeetsAlong step Call.BillsInFreshLedger calls newModule) :
    Progresses step (fun before after => before.books.KeepsReferences after.books) calls
      newModule := by
  have along : MeetsAlong step
      (fun call store => store.books.KeepsReferences (step call store).books) calls newModule := by
    apply @meetsAlong_of_invariant _ _ step Store.Orderly Call.BillsInFreshLedger
    · intro call store met orderly
      exact (step_kept met orderly).1
    · intro call store met orderly
      exact (step_kept met orderly).2
    · exact fresh
    · exact newModule_orderly
  have progresses := @progresses_iff _ _ step
    (fun before after => before.books.KeepsReferences after.books)
    (fun _ => keepsReferences_of_same rfl) (fun _ _ _ kept further => kept.trans further)
    calls newModule
  exact progresses.mpr along

/-- Invoices are independent exactly in the runs in which no billing goes through in a ledger
in which a cycle was stored before. -/
theorem cycles_independent_iff (calls : List Call) :
    CyclesIndependent calls ↔ MeetsAlong step Call.BillsInFreshLedger calls newModule := by
  have stores : MeetsAlong step Call.StoresNewCycle calls newModule ↔
      MeetsAlong step Call.BillsInFreshLedger calls newModule :=
    @meetsAlong_congr _ _ step (fun _ => True) _ _ (fun _ _ _ => trivial)
      (fun _ _ _ => storesNewCycle_iff) calls newModule trivial
  constructor
  · intro independent
    exact stores.mp independent.stored
  · intro fresh
    have stored := stores.mpr fresh
    refine ⟨stored, ?_, ?_⟩
    · intro earlier within
      exact (run_orderly (fresh.of_prefix within)).counted
    · intro earlier call later leaseId cycleId within bills
      have position : earlier ++ call :: later = (earlier ++ [call]) ++ later := by simp
      obtain ⟨_, ⟨cycle, found, named⟩, _⟩ := stored.at within leaseId cycleId bills
      have opened :
          (run step (earlier ++ [call]) newModule).cycles.lookup cycleId = some cycle := by
        rw [run_append]
        exact found
      rw [position] at within ⊢
      obtain ⟨last, kept, same⟩ :=
        run_keepsReferences fresh (earlier ++ [call]) later within cycleId cycle opened
      exact ⟨last, kept, same.trans named⟩

/-- Two leases are billed in ledger 5. -/
def sharedLedger : List Call :=
  [⟨.willing 100 1, .initializeContract ⟨9⟩ ⟨8⟩⟩,
   ⟨.willing 100 2, .registerLeaseBilling 7 ⟨1⟩ ⟨2⟩ ⟨3⟩ 50 0 ⟨4⟩ 100 1000 300⟩,
   ⟨.willing 100 3, .registerLeaseBilling 8 ⟨1⟩ ⟨5⟩ ⟨3⟩ 60 0 ⟨4⟩ 100 1000 300⟩,
   ⟨.willing 100 5, .processBillingCycle 7 ⟨1⟩⟩,
   ⟨.willing 100 5, .processBillingCycle 8 ⟨1⟩⟩]

/-- The second invoice overwrites the first: two are counted, one is stored. -/
theorem sharedLedger_overwrites : ¬ CyclesIndependent sharedLedger := by
  intro independent
  have counted := independent.counted sharedLedger (List.prefix_refl _)
  revert counted
  unfold Store.CountsCycles
  decide

end LeaseFlow.Billing
