import LeaseFlow.Billing.Bookkeeping
import Mathlib.Tactic.Linarith

/-!
# Backing of the rent treasury

A payment moves the token of its cycle to the treasury address, a distribution moves the token
whose contract the treasury address is.  What the treasury address holds of the rent token is
read off the transfers, and compared with the balance the treasury record claims.
-/

set_option autoImplicit false

namespace LeaseFlow.Billing

open Transaction Run

/-! ## Token balances -/

/-- What a transfer changes in the balance of an account. -/
def Transfer.change (token holder : Address) (moved : Transfer) : Int :=
  if moved.token = token then
    (if moved.payee = holder then moved.amount else 0) -
      (if moved.payer = holder then moved.amount else 0)
  else 0

/-- The balance that the transfers of the module leave on an account, empty before them. -/
def Books.balance (token holder : Address) (books : Books) : Int :=
  (books.transfers.map (Transfer.change token holder)).sum

/-- The treasury address holds what the treasury record has available. -/
def Books.Backed (token : Address) (books : Books) : Prop :=
  ∀ treasury, books.treasury = some treasury →
    books.balance token treasury.treasuryAddress = treasury.availableBalance

/-- Leases and their cycles are all paid in the one token. -/
structure Books.OneToken (token : Address) (books : Books) : Prop where
  lease : ∀ leaseId lease, books.leases.lookup leaseId = some lease → lease.token = token
  cycle : ∀ cycleId cycle, books.cycles.lookup cycleId = some cycle → cycle.token = token

/-- A registration that asks for the rent in the given token. -/
def Operation.UsesToken (token : Address) : Operation → Prop
  | .registerLeaseBilling _ _ _ _ _ _ rentToken _ _ _ => rentToken = token
  | _ => True

section Balances

variable {token holder : Address} {books after : Books}

theorem balance_of_moved {moved : Transfer}
    (transfers : after.transfers = moved :: books.transfers) :
    after.balance token holder = books.balance token holder + moved.change token holder := by
  rw [Books.balance, transfers, List.map_cons, List.sum_cons, add_comm]
  rfl

theorem balance_of_same (transfers : after.transfers = books.transfers) :
    after.balance token holder = books.balance token holder := by
  rw [Books.balance, transfers]
  rfl

theorem change_incoming {payer : Address} {amount : I128} :
    (Transfer.mk token payer holder amount).change token holder =
      if payer = holder then 0 else amount := by
  by_cases same : payer = holder
  · simp [Transfer.change, same]
  · simp [Transfer.change, same]

theorem change_outgoing {contract payee : Address} {amount : I128} :
    (Transfer.mk contract holder payee amount).change token holder =
      if contract = token ∧ payee ≠ holder then -amount else 0 := by
  by_cases right : contract = token
  · by_cases back : payee = holder
    · simp [Transfer.change, right, back]
    · simp [Transfer.change, right, back]
  · simp [Transfer.change, right]

end Balances

/-! ## One token -/

section OneToken

variable {env : Env} {operation : Operation} {token : Address} {books after : Books}

theorem Books.OneToken.of_same (single : books.OneToken token)
    (leases : after.leases = books.leases) (cycles : after.cycles = books.cycles) :
    after.OneToken token := by
  constructor
  · rw [leases]
    exact single.lease
  · rw [cycles]
    exact single.cycle

theorem Books.OneToken.putLease (single : books.OneToken token) (leaseId : U64)
    {lease : ActiveLease} (uses : lease.token = token) :
    (books.putLease leaseId lease).OneToken token where
  lease := Table.forall_set single.lease fun _ same => by
    cases same
    exact uses
  cycle := single.cycle

theorem Books.OneToken.putCycle (single : books.OneToken token) (cycleId : U64)
    {cycle : BillingCycle} (uses : cycle.token = token) :
    (books.putCycle cycleId cycle).OneToken token where
  lease := single.lease
  cycle := Table.forall_set single.cycle fun _ same => by
    cases same
    exact uses

theorem Payment.oneToken {payer : Address} {cycleId : U64} {amount : I128}
    (payment : Payment env payer cycleId amount books after) (single : books.OneToken token) :
    after.OneToken token := by
  obtain ⟨unpaid, cycle, lease, totalPaid, totalOwed, posting⟩ := payment.posting
  have invoiced : cycle.token = token :=
    (payCycle_sameInvoice posting.settled).token.trans (single.cycle cycleId unpaid posting.found)
  have leased : (lease.credit totalPaid totalOwed).token = token :=
    single.lease cycle.leaseId lease posting.leased
  have stored := (single.putCycle cycleId invoiced).putLease cycle.leaseId leased
  exact stored.of_same posting.leases posting.cycles

theorem Effect.oneToken (effect : Effect env operation books after)
    (uses : operation.UsesToken token) (single : books.OneToken token) : after.OneToken token := by
  cases effect with
  | initialized fresh =>
      constructor
      · intro leaseId lease found
        simp [Books.setUp] at found
      · intro cycleId cycle found
        simp [Books.setUp] at found
  | registered enabled held => exact single.putLease _ uses
  | @charged _ leaseId processor lease nextCycle duration cycleEnd processed rent totalOwed found =>
      have leased : lease.token = token := single.lease leaseId lease found
      have opened : (BillingCycle.opened env.sequence leaseId lease rent nextCycle cycleEnd
          duration).token = token := leased
      have charged : (lease.charge nextCycle totalOwed).token = token := leased
      have stored := (single.putCycle env.sequence opened).putLease leaseId charged
      exact stored.of_same rfl rfl
  | paid payment => exact payment.oneToken single
  | @granted _ leaseId nonce lessee authorizedAmount expiryTimestamp signature lease _ _ _ found =>
      have leased : (lease.authorize authorizedAmount expiryTimestamp).token = token :=
        single.lease leaseId lease found
      exact (single.putLease leaseId leased).of_same rfl rfl
  | pulled granted active unexpired found covered payment =>
      exact payment.oneToken (single.of_same rfl rfl)
  | @terminated _ leaseId terminator admin lease found =>
      have leased : lease.terminate.token = token := single.lease leaseId lease found
      exact single.putLease leaseId leased
  | paused stored authorized => exact single.of_same rfl rfl
  | configured stored authorized => exact single
  | distributed stored authorized held within accepted sent available =>
      exact single.of_same rfl rfl

end OneToken

/-! ## What a call does to the backing -/

/-- A payment out of the treasury address itself brings nothing in. -/
def Books.TakesIn (books : Books) (payer : Address) (amount : I128) : Prop :=
  ∀ treasury, books.treasury = some treasury → payer = treasury.treasuryAddress → amount = 0

/-- A distribution moves the token only where the treasury address is the token contract. -/
def Books.PaysOut (token : Address) (books : Books) (lessor : Address) (amount : I128) : Prop :=
  ∀ treasury, books.treasury = some treasury →
    amount = 0 ∨ (treasury.treasuryAddress = token ∧ lessor ≠ treasury.treasuryAddress)

/-- The payer is not the treasury, and what is distributed is the token, where the amounts are
not zero. -/
def Operation.KeepsBacking (token : Address) (books : Books) : Operation → Prop
  | .processPayment payer _ amount => books.TakesIn payer amount
  | .executePullPayment leaseId cycleId nonce _ =>
      ∀ authorization cycle, books.authorizations.lookup (leaseId, nonce) = some authorization →
        books.cycles.lookup cycleId = some cycle →
        books.TakesIn authorization.lessee cycle.rentAmount
  | .distributeRentTreasury _ lessor amount => books.PaysOut token lessor amount
  | _ => True

/-- A distribution takes its amount of the token from the treasury address to the lessor. -/
def Operation.MovesRent (token : Address) (books after : Books) : Operation → Prop
  | .distributeRentTreasury _ lessor amount =>
      ∀ treasury, books.treasury = some treasury →
        after.balance token treasury.treasuryAddress =
          books.balance token treasury.treasuryAddress - amount ∧
        after.balance token lessor = books.balance token lessor + amount
  | _ => True

section Backing

variable {env : Env} {operation : Operation} {token : Address} {books after : Books}

theorem backed_iff {treasury : RentTreasury} (held : books.treasury = some treasury) :
    books.Backed token ↔
      books.balance token treasury.treasuryAddress = treasury.availableBalance := by
  rw [Books.Backed, held]
  simp

theorem Books.Backed.of_same (backed : books.Backed token)
    (treasury : after.treasury = books.treasury) (transfers : after.transfers = books.transfers) :
    after.Backed token := by
  intro stored held
  rw [treasury] at held
  rw [balance_of_same transfers]
  exact backed stored held

theorem Payment.backed_iff {payer : Address} {cycleId : U64} {amount : I128}
    (payment : Payment env payer cycleId amount books after) (single : books.OneToken token)
    (backed : books.Backed token) : after.Backed token ↔ books.TakesIn payer amount := by
  cases payment with
  | @intro unpaid cycle lease treasury totalCollected availableBalance totalPaid totalOwed
      totalRentCollected collectionCount authorized found unsettled within held accepted collected
      available counted settled leased paid owed total =>
      have paidIn : unpaid.token = token := single.cycle cycleId unpaid found
      have before := (Billing.backed_iff held).mp backed
      obtain ⟨_, rfl⟩ := Checked.within_eq_some.mp available
      have taken : books.TakesIn payer amount ↔
          (payer = treasury.treasuryAddress → amount = 0) := by
        rw [Books.TakesIn, held]
        simp
      rw [Billing.backed_iff rfl, taken]
      rw [@balance_of_moved _ _ books _ _ rfl]
      simp only [RentTreasury.collect]
      rw [before, paidIn, change_incoming]
      by_cases own : payer = treasury.treasuryAddress
      · simp [own]
      · simp [own]

theorem Effect.backed_iff (effect : Effect env operation books after)
    (empty : books.EmptyUntilSetUp) (single : books.OneToken token)
    (backed : books.Backed token) : after.Backed token ↔ operation.KeepsBacking token books := by
  cases effect with
  | initialized fresh =>
      rw [empty fresh]
      refine iff_of_true ?_ trivial
      intro treasury held
      cases held
      rfl
  | registered enabled held => exact iff_of_true (backed.of_same rfl rfl) trivial
  | charged found charge counted => exact iff_of_true (backed.of_same rfl rfl) trivial
  | paid payment => exact payment.backed_iff single backed
  | granted authorized unexpired next found => exact iff_of_true (backed.of_same rfl rfl) trivial
  | pulled granted active unexpired found covered payment =>
      have paid := payment.backed_iff (single.of_same rfl rfl) (backed.of_same rfl rfl)
      rw [paid, Operation.KeepsBacking, granted, found]
      simp [Books.TakesIn, Books.putAuthorization]
  | terminated found stored entitled authorized =>
      exact iff_of_true (backed.of_same rfl rfl) trivial
  | paused stored authorized => exact iff_of_true (backed.of_same rfl rfl) trivial
  | configured stored authorized => exact iff_of_true backed trivial
  | @distributed _ admin lessor amount treasury totalDistributed availableBalance stored authorized
      held within accepted sent available =>
      have before := (Billing.backed_iff held).mp backed
      obtain ⟨_, rfl⟩ := Checked.within_eq_some.mp available
      have paidOut : books.PaysOut token lessor amount ↔ amount = 0 ∨
          (treasury.treasuryAddress = token ∧ lessor ≠ treasury.treasuryAddress) := by
        rw [Books.PaysOut, held]
        simp
      rw [Billing.backed_iff rfl, Operation.KeepsBacking, paidOut]
      rw [@balance_of_moved _ _ books _ _ rfl]
      simp only [RentTreasury.distribute]
      rw [before, change_outgoing]
      by_cases moves : treasury.treasuryAddress = token ∧ lessor ≠ treasury.treasuryAddress
      · rw [if_pos moves]
        exact iff_of_true (sub_eq_add_neg treasury.availableBalance amount).symm (.inr moves)
      · rw [if_neg moves, or_iff_left moves, add_zero, eq_comm, sub_eq_self]

theorem Effect.movesRent (effect : Effect env operation books after)
    (keeps : operation.KeepsBacking token books) : operation.MovesRent token books after := by
  cases effect with
  | @distributed _ admin lessor amount treasury totalDistributed availableBalance stored authorized
      held within accepted sent available =>
      intro found same
      have known : treasury = found := Option.some.inj (held.symm.trans same)
      subst known
      constructor
      · apply (@balance_of_moved _ _ books _ _ rfl).trans
        rcases keeps treasury held with rfl | moves
        · simp [Transfer.change]
        · rw [change_outgoing, if_pos moves, sub_eq_add_neg]
      · apply (@balance_of_moved _ _ books _ _ rfl).trans
        rcases keeps treasury held with rfl | ⟨right, other⟩
        · simp [Transfer.change]
        · subst right
          rw [change_incoming, if_neg other.symm]
  | initialized fresh => trivial
  | registered enabled held => trivial
  | charged found charge counted => trivial
  | paid payment => trivial
  | granted authorized unexpired next found => trivial
  | pulled granted active unexpired found covered payment => trivial
  | terminated found stored entitled authorized => trivial
  | paused stored authorized => trivial
  | configured stored authorized => trivial

end Backing

/-! ## Runs -/

/-- A call that goes through keeps the treasury backed. -/
def Call.KeepsBacking (token : Address) (call : Call) (store : Store) : Prop :=
  call.body.succeeds store = true → call.operation.KeepsBacking token store.books

def Call.MovesRent (token : Address) (call : Call) (store : Store) : Prop :=
  call.body.succeeds store = true →
    call.operation.MovesRent token store.books (step call store).books

theorem step_oneToken {token : Address} {call : Call} {store : Store}
    (uses : call.operation.UsesToken token) (single : store.books.OneToken token) :
    (step call store).books.OneToken token := by
  rcases step_effect call store with effect | same
  · exact effect.oneToken uses single
  · rwa [same]

theorem step_backed_iff {token : Address} {call : Call} {store : Store}
    (empty : store.books.EmptyUntilSetUp) (single : store.books.OneToken token)
    (backed : store.books.Backed token) :
    (step call store).books.Backed token ↔ call.KeepsBacking token store := by
  rcases step_cases call store with ⟨committed, outcome⟩ | ⟨refused, same⟩
  · rw [outcome.effect.backed_iff empty single backed, Call.KeepsBacking]
    simp [committed]
  · rw [same, Call.KeepsBacking]
    simp [refused, backed]

theorem step_movesRent {token : Address} {call : Call} {store : Store}
    (keeps : call.KeepsBacking token store) : call.MovesRent token store := by
  intro committed
  rcases step_cases call store with ⟨_, outcome⟩ | ⟨refused, _⟩
  · exact outcome.effect.movesRent (keeps committed)
  · rw [committed] at refused
    cases refused

theorem newModule_oneToken (token : Address) : newModule.books.OneToken token where
  lease leaseId lease found := by simp [newModule, Store.books, Store.leases] at found
  cycle cycleId cycle found := by simp [newModule, Store.books, Store.cycles] at found

/-- With all leases in one token, the treasury address holds what the treasury record has
available in every state of the run, and every distribution takes its amount to the lessor,
exactly when no payment comes from the treasury address and nothing is distributed other than
by a treasury address that is the token contract itself, amounts of zero aside. -/
theorem treasury_backed_iff (token : Address) (calls : List Call)
    (uses : ∀ call ∈ calls, call.operation.UsesToken token) :
    ((∀ earlier, earlier <+: calls → (run step earlier newModule).books.Backed token) ∧
      MeetsAlong step (Call.MovesRent token) calls newModule) ↔
      MeetsAlong step (Call.KeepsBacking token) calls newModule := by
  have backing : (∀ earlier, earlier <+: calls →
      (run step earlier newModule).books.Backed token) ↔
      MeetsAlong step (Call.KeepsBacking token) calls newModule := by
    apply @invariant_along_iff_given _ _ step (fun call _ => call.operation.UsesToken token)
      (fun store => store.books.EmptyUntilSetUp ∧ store.books.OneToken token)
      fun store => store.books.Backed token
    · intro call store uses based
      exact ⟨step_emptyUntilSetUp call store based.1, step_oneToken uses based.2⟩
    · intro call store _ based backed
      exact step_backed_iff based.1 based.2 backed
    · exact meetsAlong_of_forall uses newModule
    · exact ⟨fun _ => rfl, newModule_oneToken token⟩
    · intro treasury held
      cases held
  rw [backing, and_iff_left_iff_imp]
  intro keeps
  apply keeps.mono
  intro call store keeps
  exact step_movesRent keeps

/-- The rent of a cycle is paid, and the admin distributes some of it. -/
def distributedRent : List Call :=
  [⟨.willing 100 1, .initializeContract ⟨9⟩ ⟨8⟩⟩,
   ⟨.willing 100 2, .registerLeaseBilling 7 ⟨1⟩ ⟨2⟩ ⟨3⟩ 50 0 ⟨4⟩ 100 1000 300⟩,
   ⟨.willing 100 3, .processBillingCycle 7 ⟨1⟩⟩,
   ⟨.willing 110 4, .processPayment ⟨2⟩ 3 50⟩,
   ⟨.willing 120 5, .distributeRentTreasury ⟨9⟩ ⟨1⟩ 20⟩]

theorem distributedRent_uses : ∀ call ∈ distributedRent, call.operation.UsesToken ⟨4⟩ := by
  simp [distributedRent, Operation.UsesToken]

/-- The treasury address still holds 50, the record has 30 available, the lessor got nothing. -/
theorem distributedRent_not_backed :
    ¬ ((∀ earlier, earlier <+: distributedRent →
        (run step earlier newModule).books.Backed ⟨4⟩) ∧
      MeetsAlong step (Call.MovesRent ⟨4⟩) distributedRent newModule) := by
  intro backed
  have held := backed.1 distributedRent (List.prefix_refl _) ⟨⟨8⟩, 50, 20, 30, 110, 1⟩ (by decide)
  revert held
  decide

theorem distributedRent_backed_iff :
    ((∀ earlier, earlier <+: distributedRent →
        (run step earlier newModule).books.Backed ⟨4⟩) ∧
      MeetsAlong step (Call.MovesRent ⟨4⟩) distributedRent newModule) ↔
      MeetsAlong step (Call.KeepsBacking ⟨4⟩) distributedRent newModule :=
  treasury_backed_iff ⟨4⟩ distributedRent distributedRent_uses

end LeaseFlow.Billing
