import LeaseFlow.Billing.Effect

/-!
# What the books always say

The module's books are empty until it is set up, every invoice is stored under its own id,
and its lease is registered.  No call ever takes a lease or an invoice away.
-/

set_option autoImplicit false

namespace LeaseFlow.Billing

open Transaction Run

/-! ## Invoices and their leases -/

/-- Every invoice carries its key and belongs to a registered lease. -/
structure Books.WellKept (books : Books) : Prop where
  cycleId : ∀ cycleId cycle, books.cycles.lookup cycleId = some cycle → cycle.cycleId = cycleId
  leased : ∀ cycleId cycle, books.cycles.lookup cycleId = some cycle →
    (books.leases.lookup cycle.leaseId).isSome = true

/-- Nothing is stored before the module is set up. -/
def Books.EmptyUntilSetUp (books : Books) : Prop :=
  books.admin = none → books = newModule.books

/-- A payment changes status, times and arrears of its cycle only. -/
structure BillingCycle.SameInvoice (before after : BillingCycle) : Prop where
  cycleId : after.cycleId = before.cycleId
  leaseId : after.leaseId = before.leaseId
  rentAmount : after.rentAmount = before.rentAmount
  token : after.token = before.token

theorem payCycle_sameInvoice {timestamp : U64} {amount : I128} {unpaid cycle : BillingCycle}
    (settled : payCycle timestamp amount unpaid = some cycle) : unpaid.SameInvoice cycle := by
  unfold payCycle at settled
  split at settled
  · cases settled
    exact ⟨rfl, rfl, rfl, rfl⟩
  · obtain ⟨arrearsAmount, _, settled⟩ := Option.bind_eq_some_iff.mp settled
    cases settled
    exact ⟨rfl, rfl, rfl, rfl⟩

section Effects

variable {env : Env} {operation : Operation} {books after : Books} {payer : Address}
  {cycleId : U64} {amount : I128}

/-- What a payment posts to its cycle and to the lease of the cycle. -/
structure Posting (env : Env) (cycleId : U64) (amount : I128) (books after : Books)
    (unpaid cycle : BillingCycle) (lease : ActiveLease) (totalPaid totalOwed : I128) : Prop where
  found : books.cycles.lookup cycleId = some unpaid
  unsettled : unpaid.status ≠ .processed
  within : amount ≤ unpaid.rentAmount
  settled : payCycle env.timestamp amount unpaid = some cycle
  leased : books.leases.lookup cycle.leaseId = some lease
  paid : addI128 lease.totalPaid amount = some totalPaid
  owed : owedAfter cycle lease = some totalOwed
  cycles : after.cycles = books.cycles.set cycleId (some cycle)
  leases : after.leases =
    books.leases.set cycle.leaseId (some (lease.credit totalPaid totalOwed))

theorem Payment.posting (payment : Payment env payer cycleId amount books after) :
    ∃ unpaid cycle lease totalPaid totalOwed,
      Posting env cycleId amount books after unpaid cycle lease totalPaid totalOwed := by
  cases payment with
  | intro _ found unsettled within _ _ _ _ _ settled leased paid owed =>
      exact ⟨_, _, _, _, _, found, unsettled, within, settled, leased, paid, owed, rfl, rfl⟩

theorem Payment.frame (payment : Payment env payer cycleId amount books after) :
    after.admin = books.admin ∧ after.nonces = books.nonces ∧
      after.authorizations = books.authorizations := by
  cases payment
  exact ⟨rfl, rfl, rfl⟩

theorem lookup_putLease_isSome {leaseId other : U64} (lease : ActiveLease)
    (stored : (books.leases.lookup other).isSome = true) :
    ((books.putLease leaseId lease).leases.lookup other).isSome = true := by
  rw [Books.putLease, Table.lookup_set]
  split
  · rfl
  · exact stored

theorem Books.WellKept.of_same (wellKept : books.WellKept) (cycles : after.cycles = books.cycles)
    (leases : after.leases = books.leases) : after.WellKept := by
  constructor
  · rw [cycles]
    exact wellKept.cycleId
  · rw [cycles, leases]
    exact wellKept.leased

theorem Books.WellKept.putLease (wellKept : books.WellKept) (leaseId : U64) (lease : ActiveLease) :
    (books.putLease leaseId lease).WellKept where
  cycleId := wellKept.cycleId
  leased cycleId cycle found := lookup_putLease_isSome lease (wellKept.leased cycleId cycle found)

theorem Books.WellKept.putCycle {cycleId : U64} {cycle : BillingCycle} (wellKept : books.WellKept)
    (named : cycle.cycleId = cycleId)
    (leased : (books.leases.lookup cycle.leaseId).isSome = true) :
    (books.putCycle cycleId cycle).WellKept where
  cycleId := Table.forall_set wellKept.cycleId fun _ same => by
    cases same
    exact named
  leased := Table.forall_set wellKept.leased fun _ same => by
    cases same
    exact leased

theorem Payment.wellKept (payment : Payment env payer cycleId amount books after)
    (wellKept : books.WellKept) : after.WellKept := by
  obtain ⟨unpaid, cycle, lease, totalPaid, totalOwed, posting⟩ := payment.posting
  have same := payCycle_sameInvoice posting.settled
  have named := same.cycleId.trans (wellKept.cycleId cycleId unpaid posting.found)
  have leased : (books.leases.lookup cycle.leaseId).isSome = true := by
    rw [posting.leased]
    rfl
  have stored := (wellKept.putCycle named leased).putLease cycle.leaseId
    (lease.credit totalPaid totalOwed)
  exact stored.of_same posting.cycles posting.leases

theorem Effect.wellKept (effect : Effect env operation books after) (wellKept : books.WellKept) :
    after.WellKept := by
  cases effect with
  | initialized fresh =>
      constructor
      · intro cycleId cycle found
        simp [Books.setUp] at found
      · intro cycleId cycle found
        simp [Books.setUp] at found
  | registered enabled held => exact wellKept.putLease _ _
  | @charged _ leaseId processor lease nextCycle duration cycleEnd processed rent totalOwed found =>
      have opened : (books.putCycle env.sequence (.opened env.sequence leaseId lease rent nextCycle
          cycleEnd duration)).WellKept := by
        apply wellKept.putCycle
        · rfl
        · change (books.leases.lookup leaseId).isSome = true
          rw [found]
          rfl
      exact (opened.putLease leaseId (lease.charge nextCycle totalOwed)).of_same rfl rfl
  | paid payment => exact payment.wellKept wellKept
  | @granted _ leaseId nonce lessee authorizedAmount expiryTimestamp signature lease =>
      have stored := wellKept.putLease leaseId (lease.authorize authorizedAmount expiryTimestamp)
      exact stored.of_same rfl rfl
  | pulled granted active unexpired found covered payment =>
      exact payment.wellKept (wellKept.of_same rfl rfl)
  | terminated found stored entitled authorized => exact wellKept.putLease _ _
  | paused stored authorized => exact wellKept.of_same rfl rfl
  | configured stored authorized => exact wellKept
  | distributed stored authorized held within accepted sent available =>
      exact wellKept.of_same rfl rfl

/-- Nothing but the set-up goes through in empty books. -/
theorem Effect.of_empty (effect : Effect env operation newModule.books after) :
    ∃ admin rentTreasuryAddress, operation = .initializeContract admin rentTreasuryAddress ∧
      after = newModule.books.setUp env.timestamp admin rentTreasuryAddress := by
  cases effect with
  | initialized fresh => exact ⟨_, _, rfl, rfl⟩
  | registered enabled held => cases held
  | charged found charge counted => simp [newModule, Store.books, Store.leases] at found
  | paid payment =>
      cases payment with
      | intro _ found => simp [newModule, Store.books, Store.cycles] at found
  | granted authorized unexpired next found => simp [newModule, Store.books, Store.leases] at found
  | pulled granted => simp [newModule, Store.books] at granted
  | terminated found stored => cases stored
  | paused stored authorized => cases stored
  | configured stored authorized => cases stored
  | distributed stored => cases stored

theorem Effect.admin_of_empty (effect : Effect env operation newModule.books after) :
    after.admin ≠ none := by
  obtain ⟨admin, rentTreasuryAddress, _, rfl⟩ := effect.of_empty
  exact Option.some_ne_none admin

theorem Effect.admin (effect : Effect env operation books after) (set : books.admin ≠ none) :
    after.admin ≠ none := by
  cases effect with
  | initialized fresh => exact absurd fresh set
  | registered enabled held => exact set
  | charged found charge counted => exact set
  | paid payment => rwa [payment.frame.1]
  | granted authorized unexpired next found => exact set
  | pulled granted active unexpired found covered payment => rwa [payment.frame.1]
  | terminated found stored entitled authorized => exact set
  | paused stored authorized => exact set
  | configured stored authorized => exact set
  | distributed stored authorized held within accepted sent available => exact set

end Effects

theorem step_wellKept (call : Call) (store : Store) (wellKept : store.books.WellKept) :
    (step call store).books.WellKept := by
  rcases step_effect call store with effect | same
  · exact effect.wellKept wellKept
  · rwa [same]

theorem newModule_wellKept : newModule.books.WellKept where
  cycleId cycleId cycle found := by simp [newModule, Store.books, Store.cycles] at found
  leased cycleId cycle found := by simp [newModule, Store.books, Store.cycles] at found

theorem run_wellKept (calls : List Call) : (run step calls newModule).books.WellKept :=
  invariant step_wellKept calls newModule_wellKept

theorem step_emptyUntilSetUp (call : Call) (store : Store) (empty : store.books.EmptyUntilSetUp) :
    (step call store).books.EmptyUntilSetUp := by
  intro unset
  rcases step_effect call store with effect | same
  · by_cases before : store.books.admin = none
    · rw [empty before] at effect
      exact absurd unset effect.admin_of_empty
    · exact absurd unset (effect.admin before)
  · rw [same] at unset ⊢
    exact empty unset

theorem run_emptyUntilSetUp (calls : List Call) :
    (run step calls newModule).books.EmptyUntilSetUp :=
  invariant step_emptyUntilSetUp calls fun _ => rfl

end LeaseFlow.Billing
