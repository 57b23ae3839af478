import LeaseFlow.Billing.Bookkeeping

/-!
# The treasury's books

The treasury record and the billing state both count the rent that came in, in different
places of a payment.  Beside the storage a run keeps the sum of all committed payments; the
two records and the sum agree in every state the set-up module reaches.
-/

set_option autoImplicit false

namespace LeaseFlow.Billing

open Transaction Run

/-- Token contracts reject a transfer of a negative amount. -/
def Env.RejectsNegative (env : Env) : Prop :=
  ∀ moved, env.accepts moved = true → 0 ≤ moved.amount

theorem Env.willing_rejectsNegative (timestamp : U64) (sequence : U32) :
    (Env.willing timestamp sequence).RejectsNegative := by
  intro moved accepted
  exact of_decide_eq_true accepted

/-! ## Payments beside the storage -/

/-- What a committed call pays: a pull pays the rent of the cycle. -/
def Operation.amountPaid (books : Books) : Operation → Int
  | .processPayment _ _ paymentAmount => paymentAmount
  | .executePullPayment _ cycleId _ _ =>
      (books.cycles.lookup cycleId).elim 0 BillingCycle.rentAmount
  | _ => 0

/-- The sum of the amounts of all committed payments. -/
def receive (call : Call) (store : Store) (received : Int) : Int :=
  if call.body.succeeds store = true then received + call.operation.amountPaid store.books
  else received

/-- The treasury record and the billing state tell what was received. -/
structure Tally (treasury : RentTreasury) (state : BillingState) (received : Int) : Prop where
  balance : treasury.totalCollected = treasury.totalDistributed + treasury.availableBalance
  collected_nonneg : 0 ≤ treasury.totalCollected
  distributed_nonneg : 0 ≤ treasury.totalDistributed
  available_nonneg : 0 ≤ treasury.availableBalance
  counted : treasury.totalCollected = state.totalRentCollected
  received : treasury.totalCollected = received

/-- Both records are stored and tell what was received. -/
def Books.Tallied (received : Int) (books : Books) : Prop :=
  ∃ treasury state, books.treasury = some treasury ∧ books.state = some state ∧
    Tally treasury state received

/-- Once the module is set up its records tell what was received, nothing before. -/
def Reconciled (books : Books) (received : Int) : Prop :=
  (books.admin = none → received = 0) ∧ (books.admin ≠ none → books.Tallied received)

section Steps

variable {env : Env} {operation : Operation} {books after : Books} {received : Int}

theorem Books.Tallied.of_same (tallied : books.Tallied received)
    (treasury : after.treasury = books.treasury) (state : after.state = books.state) :
    after.Tallied received := by
  rw [Books.Tallied, treasury, state]
  exact tallied

theorem Books.Tallied.putState {globalBillingEnabled : Bool} {lastProcessTime : U64}
    {state : BillingState} (tallied : books.Tallied received)
    (same : state.totalRentCollected =
      (books.stateOr globalBillingEnabled lastProcessTime).totalRentCollected) :
    (books.putState state).Tallied received := by
  obtain ⟨treasury, stored, held, kept, tally⟩ := tallied
  have found : books.stateOr globalBillingEnabled lastProcessTime = stored := by
    rw [Books.stateOr, kept, Option.getD_some]
  refine ⟨treasury, state, held, rfl, ?_⟩
  exact { tally with counted := by rw [same, found, tally.counted] }

theorem Payment.tallied {payer : Address} {cycleId : U64} {amount : I128}
    (payment : Payment env payer cycleId amount books after) (rejects : env.RejectsNegative)
    (tallied : books.Tallied received) : after.Tallied (received + amount) := by
  cases payment with
  | @intro unpaid cycle lease treasury totalCollected availableBalance totalPaid totalOwed
      totalRentCollected collectionCount authorized found unsettled within held accepted collected
      available counted settled leased paid owed total =>
      obtain ⟨stored, state, kept, counts, tally⟩ := tallied
      have same : stored = treasury := Option.some.inj (kept.symm.trans held)
      subst same
      have read : books.stateOr true env.timestamp = state := by
        rw [Books.stateOr, counts, Option.getD_some]
      rw [read] at total
      have amount_nonneg : 0 ≤ amount := rejects _ accepted
      obtain ⟨_, rfl⟩ := Checked.within_eq_some.mp collected
      obtain ⟨_, rfl⟩ := Checked.within_eq_some.mp available
      obtain ⟨_, rfl⟩ := Checked.within_eq_some.mp total
      refine ⟨_, _, rfl, rfl, ?_⟩
      constructor
      · simp only [RentTreasury.collect]
        linarith [tally.balance]
      · exact add_nonneg tally.collected_nonneg amount_nonneg
      · exact tally.distributed_nonneg
      · exact add_nonneg tally.available_nonneg amount_nonneg
      · simp only [RentTreasury.collect, read, BillingState.collect]
        rw [tally.counted]
      · simp only [RentTreasury.collect]
        rw [tally.received]

theorem tallied_setUp (timestamp : U64) (admin rentTreasuryAddress : Address) :
    (books.setUp timestamp admin rentTreasuryAddress).Tallied 0 := by
  refine ⟨_, _, rfl, rfl, ?_⟩
  constructor
  · rfl
  · exact le_rfl
  · exact le_rfl
  · exact le_rfl
  · rfl
  · rfl

/-- A distribution takes at most what is available. -/
theorem Books.Tallied.distribute {treasury : RentTreasury}
    {amount totalDistributed availableBalance : I128} (tallied : books.Tallied received)
    (held : books.treasury = some treasury) (within : amount ≤ treasury.availableBalance)
    (amount_nonneg : 0 ≤ amount)
    (sent : addI128 treasury.totalDistributed amount = some totalDistributed)
    (available : subI128 treasury.availableBalance amount = some availableBalance) :
    (books.putTreasury (treasury.distribute totalDistributed availableBalance)).Tallied
      received := by
  obtain ⟨stored, state, kept, counts, tally⟩ := tallied
  have same : stored = treasury := Option.some.inj (kept.symm.trans held)
  subst same
  obtain ⟨_, rfl⟩ := Checked.within_eq_some.mp sent
  obtain ⟨_, rfl⟩ := Checked.within_eq_some.mp available
  refine ⟨_, state, rfl, counts, ?_⟩
  constructor
  · simp only [RentTreasury.distribute]
    linarith [tally.balance]
  · exact tally.collected_nonneg
  · exact add_nonneg tally.distributed_nonneg amount_nonneg
  · exact sub_nonneg.mpr within
  · exact tally.counted
  · exact tally.received

theorem Books.Tallied.unpaid (tallied : books.Tallied received) : books.Tallied (received + 0) := by
  rwa [add_zero]

theorem Effect.tallied (effect : Effect env operation books after) (rejects : env.RejectsNegative)
    (set : books.admin ≠ none) (tallied : books.Tallied received) :
    after.Tallied (received + operation.amountPaid books) := by
  cases effect with
  | initialized fresh => exact absurd fresh set
  | registered enabled held =>
      apply Books.Tallied.unpaid
      exact tallied.of_same rfl rfl
  | @charged _ leaseId processor lease nextCycle duration cycleEnd processed rent totalOwed found
      charge counted =>
      have counting := @Books.Tallied.putState books received true env.timestamp
        ((books.stateOr true env.timestamp).count processed env.timestamp) tallied rfl
      apply Books.Tallied.unpaid
      exact counting.of_same rfl rfl
  | paid payment => exact payment.tallied rejects tallied
  | granted authorized unexpired next found =>
      apply Books.Tallied.unpaid
      exact tallied.of_same rfl rfl
  | pulled granted active unexpired found covered payment =>
      rw [Operation.amountPaid, found, Option.elim]
      exact payment.tallied rejects (tallied.of_same rfl rfl)
  | terminated found stored entitled authorized =>
      apply Books.Tallied.unpaid
      exact tallied.of_same rfl rfl
  | @paused _ admin pause reason stored authorized =>
      apply Books.Tallied.unpaid
      exact @Books.Tallied.putState books received true 0
        ((books.stateOr true 0).setPause env.timestamp pause reason) tallied rfl
  | configured stored authorized =>
      apply Books.Tallied.unpaid
      exact tallied
  | distributed stored authorized held within accepted sent available =>
      have amount_nonneg := rejects _ accepted
      apply Books.Tallied.unpaid
      exact (tallied.distribute held within amount_nonneg sent available).of_same rfl rfl

theorem Effect.reconciled (effect : Effect env operation books after)
    (rejects : env.RejectsNegative) (empty : books.EmptyUntilSetUp)
    (reconciled : Reconciled books received) :
    Reconciled after (received + operation.amountPaid books) := by
  by_cases unset : books.admin = none
  · have nothing : received = 0 := reconciled.1 unset
    subst nothing
    rw [empty unset] at effect ⊢
    refine ⟨fun still => absurd still effect.admin_of_empty, fun _ => ?_⟩
    obtain ⟨admin, rentTreasuryAddress, rfl, rfl⟩ := effect.of_empty
    exact (tallied_setUp env.timestamp admin rentTreasuryAddress).unpaid
  · refine ⟨fun still => absurd still (effect.admin unset), fun _ => ?_⟩
    exact effect.tallied rejects unset (reconciled.2 unset)

end Steps

/-! ## Runs -/

theorem step_reconciled {call : Call} {state : Store × Int} (rejects : call.env.RejectsNegative)
    (empty : state.1.books.EmptyUntilSetUp) (reconciled : Reconciled state.1.books state.2) :
    Reconciled (annotate step receive call state).1.books (annotate step receive call state).2 := by
  rcases annotate_cases receive (fun _ _ _ => rfl) call state with
    ⟨committed, outcome, kept⟩ | ⟨refused, kept⟩
  · rw [kept]
    exact outcome.effect.reconciled rejects empty reconciled
  · rw [kept]
    exact reconciled

/-- The guard is clear in every state, whatever the configuration, and once the module is set up
the treasury splits what it collected into what it distributed and what is available, none of
them negative, and collected the rent the billing state counts, which is the sum of all
committed payments. -/
theorem treasury_matches_payments (calls : List Call)
    (rejects : ∀ call ∈ calls, call.env.RejectsNegative) :
    (run (annotate step receive) calls (newModule, 0)).1.guardActive = false ∧
      ((run (annotate step receive) calls (newModule, 0)).1.admin ≠ none →
        ∃ treasury state,
          (run (annotate step receive) calls (newModule, 0)).1.rentTreasury = some treasury ∧
          (run (annotate step receive) calls (newModule, 0)).1.billingState = some state ∧
          Tally treasury state (run (annotate step receive) calls (newModule, 0)).2) := by
  have kept : (run (annotate step receive) calls (newModule, 0)).1.books.EmptyUntilSetUp ∧
      Reconciled (run (annotate step receive) calls (newModule, 0)).1.books
        (run (annotate step receive) calls (newModule, 0)).2 := by
    apply @invariant_along _ _ (annotate step receive) (fun call _ => call.env.RejectsNegative)
      fun state => state.1.books.EmptyUntilSetUp ∧ Reconciled state.1.books state.2
    · intro call state rejects holds
      obtain ⟨empty, reconciled⟩ := holds
      exact ⟨step_emptyUntilSetUp call state.1 empty,
        step_reconciled rejects empty reconciled⟩
    · exact meetsAlong_of_forall rejects (newModule, 0)
    · constructor
      · intro _
        rfl
      · constructor
        · intro _
          rfl
        · intro set
          exact absurd rfl set
  constructor
  · rw [run_annotate_fst]
    exact invariant step_clears calls rfl
  · intro set
    exact kept.2.2 set

/-- A lease is registered and billed, the tenant pays the cycle and the admin passes some of the
rent on. -/
def paidRent : List Call :=
  [⟨.willing 100 1, .initializeContract ⟨9⟩ ⟨8⟩⟩,
   ⟨.willing 100 2, .registerLeaseBilling 7 ⟨1⟩ ⟨2⟩ ⟨3⟩ 50 0 ⟨4⟩ 100 1000 300⟩,
   ⟨.willing 100 3, .processBillingCycle 7 ⟨1⟩⟩,
   ⟨.willing 110 4, .processPayment ⟨2⟩ 3 50⟩,
   ⟨.willing 120 5, .distributeRentTreasury ⟨9⟩ ⟨1⟩ 20⟩]

theorem paidRent_matches_payments :
    (run (annotate step receive) paidRent (newModule, 0)).2 = 50 ∧
      ∃ treasury state,
        (run (annotate step receive) paidRent (newModule, 0)).1.rentTreasury = some treasury ∧
        (run (annotate step receive) paidRent (newModule, 0)).1.billingState = some state ∧
        Tally treasury state (run (annotate step receive) paidRent (newModule, 0)).2 := by
  have rejects : ∀ call ∈ paidRent, call.env.RejectsNegative := by
    simp [paidRent, Env.willing_rejectsNegative]
  constructor
  · decide
  · exact (treasury_matches_payments paidRent rejects).2 (by decide)

end LeaseFlow.Billing
