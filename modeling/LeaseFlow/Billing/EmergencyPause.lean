import LeaseFlow.Billing.Bookkeeping

/-!
# The emergency pause

Of the operations that move rent or charge it only the registration of a lease looks at the
pause.  What a call that goes through may change while billing is paused, and which operations
do change it.
-/

set_option autoImplicit false

namespace LeaseFlow.Billing

open Transaction Run

/-- What the module's own view of its state says. -/
def Books.paused (books : Books) : Bool :=
  (books.stateOr true 0).emergencyPause

/-- What a lease owes and what it has paid. -/
def ActiveLease.account (lease : ActiveLease) : I128 × I128 :=
  (lease.totalOwed, lease.totalPaid)

def Operation.registers : Operation → Bool
  | .registerLeaseBilling .. => true
  | _ => false

/-- The operations that charge or move rent without a look at the pause. -/
def Operation.ignoresPause : Operation → Bool
  | .processBillingCycle .. => true
  | .processPayment .. => true
  | .executePullPayment .. => true
  | .distributeRentTreasury .. => true
  | _ => false

/-- No lease is registered, no cycle created, no account of a lease changed, no token moved. -/
structure Halted (operation : Operation) (books after : Books) : Prop where
  unregistered : operation.registers = false
  cycles : ∀ cycleId,
    (after.cycles.lookup cycleId).isSome = (books.cycles.lookup cycleId).isSome
  counted : (after.stateOr true 0).totalCyclesProcessed =
    (books.stateOr true 0).totalCyclesProcessed
  accounts : ∀ leaseId, (after.leases.lookup leaseId).map ActiveLease.account =
    (books.leases.lookup leaseId).map ActiveLease.account
  transfers : after.transfers = books.transfers

section Effects

variable {env : Env} {operation : Operation} {books after : Books}

/-- The state read where none is stored is never paused. -/
theorem stateOr_emergencyPause (globalBillingEnabled : Bool) (lastProcessTime : U64) :
    (books.stateOr globalBillingEnabled lastProcessTime).emergencyPause = books.paused := by
  rw [Books.paused, Books.stateOr, Books.stateOr]
  cases books.state with
  | none => rfl
  | some state => rfl

theorem stateOr_totalCyclesProcessed (globalBillingEnabled : Bool) (lastProcessTime : U64) :
    (books.stateOr globalBillingEnabled lastProcessTime).totalCyclesProcessed =
      (books.stateOr true 0).totalCyclesProcessed := by
  rw [Books.stateOr, Books.stateOr]
  cases books.state with
  | none => rfl
  | some state => rfl

theorem accounts_putLease {leaseId : U64} {lease stored : ActiveLease}
    (found : books.leases.lookup leaseId = some stored) (same : lease.account = stored.account)
    (other : U64) :
    ((books.putLease leaseId lease).leases.lookup other).map ActiveLease.account =
      (books.leases.lookup other).map ActiveLease.account := by
  rw [Books.putLease, Table.lookup_set]
  split
  · next known =>
      subst known
      rw [found, Option.map_some, Option.map_some, same]
  · rfl

theorem halted_of_same (unregistered : operation.registers = false)
    (cycles : after.cycles = books.cycles)
    (counted : (after.stateOr true 0).totalCyclesProcessed =
      (books.stateOr true 0).totalCyclesProcessed)
    (leases : after.leases = books.leases) (transfers : after.transfers = books.transfers) :
    Halted operation books after where
  unregistered
  cycles cycleId := by rw [cycles]
  counted
  accounts leaseId := by rw [leases]
  transfers

theorem halted_putLease {leaseId : U64} {stored : ActiveLease} (lease : ActiveLease)
    (unregistered : operation.registers = false)
    (found : books.leases.lookup leaseId = some stored) (same : lease.account = stored.account)
    (cycles : after.cycles = books.cycles) (state : after.state = books.state)
    (leases : after.leases = (books.putLease leaseId lease).leases)
    (transfers : after.transfers = books.transfers) : Halted operation books after where
  unregistered
  cycles cycleId := by rw [cycles]
  counted := by rw [Books.stateOr, state]; rfl
  accounts other := by
    rw [leases]
    exact accounts_putLease found same other
  transfers

theorem Payment.not_halted {payer : Address} {cycleId : U64} {amount : I128}
    (payment : Payment env payer cycleId amount books after) :
    ¬ Halted operation books after := by
  intro halted
  have moved := halted.transfers
  cases payment
  exact List.cons_ne_self _ _ moved

/-- A call that goes through while billing is paused leaves rent and leases alone exactly when
its operation is none of those that ignore the pause. -/
theorem Effect.halted_iff (effect : Effect env operation books after)
    (empty : books.EmptyUntilSetUp) (paused : books.paused = true) :
    Halted operation books after ↔ operation.ignoresPause = false := by
  cases effect with
  | initialized fresh =>
      rw [empty fresh] at paused
      cases paused
  | registered enabled held =>
      rw [stateOr_emergencyPause, paused] at enabled
      cases enabled.2
  | @charged _ leaseId processor lease nextCycle duration cycleEnd processed rent totalOwed found
      charge counted =>
      refine iff_of_false (fun halted => ?_) (by simp [Operation.ignoresPause])
      have same : processed = (books.stateOr true 0).totalCyclesProcessed := halted.counted
      obtain ⟨_, next⟩ := Checked.upTo_eq_some.mp counted
      rw [stateOr_totalCyclesProcessed, ← same] at next
      omega
  | paid payment => exact iff_of_false payment.not_halted (by simp [Operation.ignoresPause])
  | @granted _ leaseId nonce lessee authorizedAmount expiryTimestamp signature lease _ _ _ found =>
      exact iff_of_true (halted_putLease (lease.authorize authorizedAmount expiryTimestamp)
        rfl found rfl rfl rfl rfl rfl) rfl
  | pulled granted active unexpired found covered payment =>
      refine iff_of_false (fun halted => ?_) (by simp [Operation.ignoresPause])
      exact payment.not_halted ⟨halted.unregistered, halted.cycles, halted.counted,
        halted.accounts, halted.transfers⟩
  | @terminated _ leaseId terminator admin lease found =>
      exact iff_of_true (halted_putLease lease.terminate rfl found rfl rfl rfl rfl rfl) rfl
  | paused stored authorized =>
      exact iff_of_true (halted_of_same rfl rfl rfl rfl rfl) rfl
  | configured stored authorized =>
      exact iff_of_true (halted_of_same rfl rfl rfl rfl rfl) rfl
  | distributed stored authorized held within accepted sent available =>
      refine iff_of_false (fun halted => ?_) (by simp [Operation.ignoresPause])
      exact List.cons_ne_self _ _ halted.transfers

end Effects

/-! ## Runs -/

/-- A call that goes through while billing is paused leaves rent and leases alone. -/
def Call.Halts (call : Call) (store : Store) : Prop :=
  store.books.paused = true → call.body.succeeds store = true →
    Halted call.operation store.books (step call store).books

/-- A call that goes through while billing is paused is none of those that ignore the pause. -/
def Call.MindsPause (call : Call) (store : Store) : Prop :=
  store.books.paused = true → call.body.succeeds store = true →
    call.operation.ignoresPause = false

theorem step_halts_iff {call : Call} {store : Store} (empty : store.books.EmptyUntilSetUp) :
    call.Halts store ↔ call.MindsPause store := by
  apply imp_congr_right
  intro paused
  rcases step_cases call store with ⟨committed, outcome⟩ | ⟨refused, _⟩
  · exact imp_congr_right fun _ => outcome.effect.halted_iff empty paused
  · rw [refused]
    simp

/-- In a run, nothing that goes through while billing is paused registers a lease, creates a
cycle, changes what a lease owes or has paid or moves a token, exactly when no cycle is
processed, no payment made or pulled and no rent distributed while billing is paused. -/
theorem pause_halts_iff (calls : List Call) :
    MeetsAlong step Call.Halts calls newModule ↔
      MeetsAlong step Call.MindsPause calls newModule := by
  apply meetsAlong_congr step_emptyUntilSetUp
  · intro call store empty
    exact step_halts_iff empty
  · intro _
    rfl

/-- A lease is billed while the admin has billing paused. -/
def billedWhilePaused : List Call :=
  [⟨.willing 100 1, .initializeContract ⟨9⟩ ⟨8⟩⟩,
   ⟨.willing 100 2, .registerLeaseBilling 7 ⟨1⟩ ⟨2⟩ ⟨3⟩ 50 0 ⟨4⟩ 100 1000 300⟩,
   ⟨.willing 100 3, .toggleEmergencyPause ⟨9⟩ true none⟩,
   ⟨.willing 100 4, .processBillingCycle 7 ⟨1⟩⟩]

theorem billedWhilePaused_not_halted : ¬ MeetsAlong step Call.Halts billedWhilePaused newModule := by
  intro halts
  have billing := halts.2.2.2.1 (by decide) (by decide)
  have counted := billing.counted
  revert counted
  decide

end LeaseFlow.Billing
