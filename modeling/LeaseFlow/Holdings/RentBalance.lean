import LeaseFlow.Foundations.Ledger
import LeaseFlow.Holdings.Amendments
import LeaseFlow.Holdings.Books

/-!
# Rent books

The rent of a lease stands in four places: the record, the balances of its payers, the
withdrawals noted on the record, and the tokens sent to the landlord.  A withdrawal sends no
tokens, and the balances outlive the record they belong to.
-/

set_option autoImplicit false

namespace LeaseFlow

open Transaction

/-! ## One lease -/

/-- What the run did for the lease now stored under an id: who paid how much for it, the
withheld rent that repairs released, and the tokens sent to its withdrawal address. -/
structure RentAccount where
  payments : Address → I128
  released : I128
  transferred : I128

def RentAccount.opened : RentAccount :=
  ⟨fun _ => 0, 0, 0⟩

/-- The record, the balances of the payers and the account agree. -/
structure RentBooks.Balanced (books : RentBooks) (balance : Address → I128)
    (account : RentAccount) : Prop where
  paid : books.rentPaid = Ledger.total balance + account.released
  own : ∀ payer, balance payer = account.payments payer
  covered : books.rentWithdrawn ≤ books.rentPaid
  transferred : books.rentWithdrawn = account.transferred

section Account

variable {books : RentBooks} {balance : Address → I128} {account : RentAccount}

theorem RentBooks.balanced_opened_iff {withheldRent : I128} :
    (RentBooks.mk 0 0 withheldRent).Balanced balance .opened ↔ ∀ payer, balance payer = 0 := by
  constructor
  · intro balanced payer
    exact balanced.own payer
  · intro empty
    obtain rfl : balance = fun _ => 0 := funext empty
    exact ⟨by simp [RentAccount.opened], empty, le_rfl, rfl⟩

/-- A payment balances exactly when it leaves the withdrawn rent covered. -/
theorem RentBooks.Balanced.pay_iff {payer : Address} {paymentAmount : I128}
    (balanced : books.Balanced balance account) (finite : balance.HasFiniteSupport) :
    RentBooks.Balanced { books with rentPaid := books.rentPaid + paymentAmount }
        (Ledger.credit payer paymentAmount balance)
        { account with payments := Ledger.credit payer paymentAmount account.payments } ↔
      books.rentWithdrawn ≤ books.rentPaid + paymentAmount := by
  constructor
  · intro later
    exact later.covered
  · intro covered
    refine ⟨?_, fun other => ?_, covered, balanced.transferred⟩
    · change books.rentPaid + paymentAmount = _
      rw [Ledger.total_credit finite, balanced.paid]
      ring
    · rw [funext balanced.own]

/-- A withdrawal that sends no tokens balances exactly when nothing was due. -/
theorem RentBooks.Balanced.withdraw_iff (balanced : books.Balanced balance account) :
    RentBooks.Balanced { books with rentWithdrawn := books.rentPaid } balance account ↔
      books.rentPaid = books.rentWithdrawn := by
  constructor
  · intro later
    exact later.transferred.trans balanced.transferred.symm
  · intro nothing
    exact ⟨balanced.paid, balanced.own, le_rfl, nothing.trans balanced.transferred⟩

theorem RentBooks.Balanced.release (balanced : books.Balanced balance account)
    (withheld : 0 ≤ books.withheldRent) :
    RentBooks.Balanced
      { books with rentPaid := books.rentPaid + books.withheldRent, withheldRent := 0 } balance
      { account with released := account.released + books.withheldRent } := by
  refine ⟨?_, balanced.own, ?_, balanced.transferred⟩
  · rw [balanced.paid, add_assoc]
  · exact balanced.covered.trans (le_add_of_nonneg_right withheld)

end Account

/-! ## The book -/

/-- `get_roommate_balance`. -/
def RentStore.balance (rent : RentStore) (leaseId : LeaseId) (roommate : Address) : I128 :=
  (rent.roommateBalance (leaseId, roommate)).getD 0

/-- The amount of a token that one address paid another. -/
def Outbox.sent (outbox : Outbox) (token sender recipient : Address) : I128 :=
  ((outbox.payments.filter fun payment => payment.token = token ∧ payment.sender = sender ∧
    payment.recipient = recipient).map TokenTransfer.amount).sum

/-- The rent tokens that a call sends from the contract to the withdrawal address of a stored
lease. -/
def Call.sends (env : Env) (world : World) (leaseId : LeaseId) (call : Call) : I128 :=
  (world.leases.lookup leaseId).elim 0 fun lease =>
    lease.withdrawalAddress.elim 0 fun recipient =>
      ((dispatch env call).attempt world).outbox.sent lease.paymentToken
          env.currentContractAddress recipient -
        world.outbox.sent lease.paymentToken env.currentContractAddress recipient

/-- The withheld rent that a verified repair releases. -/
def World.withheldRent (world : World) (leaseId : LeaseId) : I128 :=
  (world.leases.lookup leaseId).elim 0 LeaseInstance.withheldRent

/-- A creation opens the account of its lease anew; payments, withdrawals and verified repairs
are entered in it. -/
def bookRent (env : Env) (world : World) (call : Call) (accounts : LeaseId → RentAccount) :
    LeaseId → RentAccount :=
  match call with
  | .createLeaseInstance leaseId _ _ => Function.update accounts leaseId .opened
  | .createLeaseWithContinuousBilling _ =>
      Function.update accounts (billingLeaseId env) .opened
  | .payLeaseInstanceRent leaseId payer paymentAmount =>
      Function.update accounts leaseId { accounts leaseId with
        payments := Ledger.credit payer paymentAmount (accounts leaseId).payments }
  | .withdrawRent leaseId =>
      Function.update accounts leaseId { accounts leaseId with
        transferred := (accounts leaseId).transferred + call.sends env world leaseId }
  | .verifyRepair leaseId _ =>
      Function.update accounts leaseId { accounts leaseId with
        released := (accounts leaseId).released + world.withheldRent leaseId }
  | _ => accounts

/-- The books of every live lease balance. -/
def World.RentBalances (world : World) (accounts : LeaseId → RentAccount) : Prop :=
  ∀ leaseId lease, world.leases.lookup leaseId = some lease →
    lease.rentBooks.Balanced (world.rent.balance leaseId) (accounts leaseId)

/-- The call opens a lease under an id whose payers still have balances, marks rent as
withdrawn that was due, or takes back a payment that was withdrawn. -/
inductive Call.Unbalances (env : Env) (world : World) : Call → Prop where
  | reopens {call : Call} {leaseId : LeaseId} {payer : Address}
      (creates : call.creates env = some leaseId)
      (owed : world.rent.balance leaseId payer ≠ 0) : Call.Unbalances env world call
  | withdraws {leaseId : LeaseId} {lease : LeaseInstance}
      (found : world.leases.lookup leaseId = some lease)
      (due : lease.rentPaid ≠ lease.rentWithdrawn) :
      Call.Unbalances env world (.withdrawRent leaseId)
  | takesBack {leaseId : LeaseId} {payer : Address} {paymentAmount : I128} {lease : LeaseInstance}
      (found : world.leases.lookup leaseId = some lease)
      (short : world.boughtOutBy leaseId paymentAmount = false)
      (below : lease.rentPaid + paymentAmount < lease.rentWithdrawn) :
      Call.Unbalances env world (.payLeaseInstanceRent leaseId payer paymentAmount)

/-- The lease whose account a call writes. -/
def Call.rentSubject (env : Env) : Call → Option LeaseId
  | .payLeaseInstanceRent leaseId _ _ => some leaseId
  | .withdrawRent leaseId => some leaseId
  | .verifyRepair leaseId _ => some leaseId
  | call => call.creates env

/-! ## What a call writes -/

section Steps

variable {env : Env} {world after : World} {leaseId : LeaseId} {lease next : LeaseInstance}
  {call : Call} {accounts : LeaseId → RentAccount}

theorem creditPayer_balance {payer : Address} {paymentAmount : I128} {result : Unit}
    (run : Commits (creditPayer leaseId payer paymentAmount) world result after) :
    after.rent.roommateBalance = Function.update world.rent.roommateBalance (leaseId, payer)
      (some ((world.rent.roommateBalance (leaseId, payer)).getD 0 + paymentAmount)) := by
  simp only [creditPayer, updateRent, commits_bind, commits_inspect, commits_checkedI128,
    commits_modify] at run
  obtain ⟨_, _, ⟨rfl, rfl⟩, _, _, ⟨_, rfl, rfl⟩, rfl⟩ := run
  rfl

theorem payLeaseInstanceRent_credits {payer : Address} {paymentAmount : I128} {result : Unit}
    (run : Commits (payLeaseInstanceRent env leaseId payer paymentAmount) world result after) :
    after.rent.balance leaseId =
      Ledger.credit payer paymentAmount (world.rent.balance leaseId) ∧
      ∀ other, other ≠ leaseId → after.rent.balance other = world.rent.balance other := by
  obtain ⟨lease, settled, _, _, collected, closing⟩ := payLeaseInstanceRent_steps run
  simp only [collectRent, commits_bind] at collected
  obtain ⟨_, charged, paid, _, w2, credited, _, w3, partially, executed⟩ := collected
  have start : charged.rent.roommateBalance = world.rent.roommateBalance :=
    part_kept .roommateBalances paid (by simp)
  have finish : after.rent.roommateBalance = w2.rent.roommateBalance :=
    (part_kept .roommateBalances closing (by simp)).trans
      ((part_kept .roommateBalances executed (by simp)).trans
        (part_kept .roommateBalances partially (by simp)))
  have credited : after.rent.roommateBalance = Function.update world.rent.roommateBalance
      (leaseId, payer)
      (some ((world.rent.roommateBalance (leaseId, payer)).getD 0 + paymentAmount)) := by
    rw [finish, creditPayer_balance credited, start]
  constructor
  · funext other
    by_cases same : other = payer
    · subst same
      simp [RentStore.balance, credited]
    · rw [Ledger.credit_of_ne same, RentStore.balance, RentStore.balance, credited,
        Function.update_of_ne fun equal => same (Prod.mk.inj equal).2]
  · intro other differs
    funext roommate
    rw [RentStore.balance, RentStore.balance, credited,
      Function.update_of_ne fun equal => differs (Prod.mk.inj equal).1]

theorem dispatch_balance (run : Commits (dispatch env call) world () after)
    (aside : ∀ payer paymentAmount, call ≠ .payLeaseInstanceRent leaseId payer paymentAmount) :
    after.rent.balance leaseId = world.rent.balance leaseId := by
  cases call with
  | payLeaseInstanceRent other payer paymentAmount =>
      apply (payLeaseInstanceRent_credits run).2
      rintro rfl
      exact aside payer paymentAmount rfl
  | _ =>
      have kept : after.rent.roommateBalance = world.rent.roommateBalance :=
        @dispatch_kept _ _ _ _ .roommateBalances run (by simp)
      funext roommate
      rw [RentStore.balance, RentStore.balance, kept]

theorem bookRent_of_aside (aside : call.rentSubject env ≠ some leaseId) :
    bookRent env world call accounts leaseId = accounts leaseId := by
  cases call with
  | createLeaseInstance | createLeaseWithContinuousBilling | payLeaseInstanceRent | withdrawRent
  | verifyRepair => exact Function.update_of_ne (fun same => aside (congrArg some same.symm)) ..
  | _ => rfl

theorem Call.rentSubject_of_creates (creates : call.creates env = some leaseId) :
    call.rentSubject env = some leaseId := by
  cases call <;> first | exact creates | cases creates

theorem Call.creates_of_rentSubject (aside : call.rentSubject env ≠ some leaseId) :
    call.creates env ≠ some leaseId :=
  fun creates => aside (Call.rentSubject_of_creates creates)

theorem Call.rebook_of_aside (aside : call.rentSubject env ≠ some leaseId) (books : RentBooks) :
    call.rebook leaseId books = books := by
  cases call with
  | payLeaseInstanceRent | withdrawRent | verifyRepair =>
      exact if_neg fun same => aside (congrArg some same)
  | _ => rfl

theorem balanced_of_aside (run : Commits (dispatch env call) world () after)
    (balances : world.RentBalances accounts) (aside : call.rentSubject env ≠ some leaseId)
    (stored : after.leases.lookup leaseId = some next) :
    next.rentBooks.Balanced (after.rent.balance leaseId)
      (bookRent env world call accounts leaseId) := by
  have keeps := Call.creates_of_rentSubject aside
  obtain ⟨lease, found⟩ := dispatch_appears run stored keeps
  rw [bookRent_of_aside aside, (dispatch_rebooks run keeps found stored).2,
    Call.rebook_of_aside aside, dispatch_balance run]
  · exact balances leaseId lease found
  · rintro payer paymentAmount rfl
    exact aside rfl

/-- The books balance after a call if those of the lease it is about do. -/
theorem balances_iff_at (run : Commits (dispatch env call) world () after)
    (balances : world.RentBalances accounts) (subject : call.rentSubject env = some leaseId) :
    after.RentBalances (bookRent env world call accounts) ↔
      ∀ next, after.leases.lookup leaseId = some next →
        next.rentBooks.Balanced (after.rent.balance leaseId)
          (bookRent env world call accounts leaseId) := by
  constructor
  · intro later next stored
    exact later leaseId next stored
  · intro here other next stored
    by_cases same : other = leaseId
    · subst same
      exact here next stored
    · apply balanced_of_aside run balances _ stored
      intro also
      exact same (Option.some.inj (also.symm.trans subject))

/-- Every lease has finitely many payers with a balance, and no rent is withheld. -/
structure RentSound (world : World) : Prop where
  finite : ∀ leaseId, (world.rent.balance leaseId).HasFiniteSupport
  unwithheld : ∀ leaseId lease, world.leases.lookup leaseId = some lease →
    lease.rentBooks.withheldRent = 0

theorem RentSound.kept (sound : RentSound world)
    (run : Commits (dispatch env call) world () after) : RentSound after := by
  refine ⟨fun leaseId => ?_, fun leaseId next stored => ?_⟩
  · by_cases paid : ∃ payer paymentAmount, call = .payLeaseInstanceRent leaseId payer paymentAmount
    · obtain ⟨payer, paymentAmount, rfl⟩ := paid
      rw [(payLeaseInstanceRent_credits run).1]
      exact Ledger.finite_credit (sound.finite leaseId)
    · rw [dispatch_balance run fun payer paymentAmount same => paid ⟨payer, paymentAmount, same⟩]
      exact sound.finite leaseId
  · by_cases creates : call.creates env = some leaseId
    · obtain ⟨opened, found, books, _⟩ := dispatch_opens run creates
      obtain rfl := Option.some.inj (stored.symm.trans found)
      rw [books]
    · obtain ⟨lease, found⟩ := dispatch_appears run stored creates
      exact dispatch_unwithheld run creates found stored (sound.unwithheld leaseId lease found)

theorem opened_balances_iff (run : Commits (dispatch env call) world () after)
    (balances : world.RentBalances accounts) (creates : call.creates env = some leaseId) :
    after.RentBalances (bookRent env world call accounts) ↔ ¬ call.Unbalances env world := by
  have subject := Call.rentSubject_of_creates creates
  have account : bookRent env world call accounts leaseId = .opened := by
    cases call with
    | createLeaseInstance | createLeaseWithContinuousBilling =>
        obtain rfl := Option.some.inj creates
        exact Function.update_self ..
    | _ => cases creates
  have balance : after.rent.balance leaseId = world.rent.balance leaseId := by
    apply dispatch_balance run
    rintro payer paymentAmount rfl
    cases creates
  obtain ⟨opened, found, books, _⟩ := dispatch_opens run creates
  rw [balances_iff_at run balances subject, account, balance]
  constructor
  · intro here unbalances
    cases unbalances with
    | reopens again owed =>
        obtain rfl := Option.some.inj (again.symm.trans creates)
        have balanced := here opened found
        rw [books] at balanced
        exact owed (RentBooks.balanced_opened_iff.mp balanced _)
    | withdraws => cases creates
    | takesBack => cases creates
  · intro settled next stored
    obtain rfl := Option.some.inj (stored.symm.trans found)
    rw [books]
    refine RentBooks.balanced_opened_iff.mpr fun payer => ?_
    by_contra owed
    exact settled (.reopens creates owed)

theorem paid_balances_iff {payer : Address} {paymentAmount : I128} (sound : RentSound world)
    (run : Commits (dispatch env (.payLeaseInstanceRent leaseId payer paymentAmount)) world ()
      after) (balances : world.RentBalances accounts) :
    after.RentBalances
        (bookRent env world (.payLeaseInstanceRent leaseId payer paymentAmount) accounts) ↔
      ¬ (Call.payLeaseInstanceRent leaseId payer paymentAmount).Unbalances env world := by
  have paid : Commits (payLeaseInstanceRent env leaseId payer paymentAmount) world () after := run
  rw [balances_iff_at run balances rfl, (payLeaseInstanceRent_credits paid).1]
  cases stored : after.leases.lookup leaseId with
  | none =>
      refine iff_of_true (fun _ kept => (by cases kept)) ?_
      intro unbalances
      cases unbalances with
      | reopens creates => cases creates
      | takesBack _ short _ =>
          cases short.symm.trans ((payLeaseInstanceRent_removes_iff paid).mpr stored)
  | some next =>
      obtain ⟨lease, found⟩ := dispatch_appears run stored (by nofun)
      have short : world.boughtOutBy leaseId paymentAmount = false := by
        rw [Bool.eq_false_iff, Ne, payLeaseInstanceRent_removes_iff paid, stored]
        nofun
      have books := (dispatch_rebooks run (by nofun) found stored).2
      simp only [Option.some.injEq, forall_eq', books, Call.rebook, if_true, bookRent,
        Function.update_self]
      rw [(balances leaseId lease found).pay_iff (sound.finite leaseId)]
      constructor
      · intro covered unbalances
        cases unbalances with
        | reopens creates => cases creates
        | takesBack held _ below =>
            obtain rfl := Option.some.inj (found.symm.trans held)
            exact absurd covered (not_le.mpr below)
      · intro fair
        by_contra below
        exact fair (.takesBack found short (not_le.mp below))

theorem withdrawRent_sends (run : Commits (dispatch env (.withdrawRent leaseId)) world () after) :
    (Call.withdrawRent leaseId).sends env world leaseId = 0 := by
  have kept : after.outbox.payments = world.outbox.payments :=
    @dispatch_kept _ _ _ _ .payments run (by simp)
  rw [Call.sends, attempt_of_commits run]
  simp only [Outbox.sent, kept, sub_self]
  cases world.leases.lookup leaseId with
  | none => rfl
  | some lease => cases withdrawal : lease.withdrawalAddress <;> simp [withdrawal]

theorem withdrawn_balances_iff
    (run : Commits (dispatch env (.withdrawRent leaseId)) world () after)
    (balances : world.RentBalances accounts) :
    after.RentBalances (bookRent env world (.withdrawRent leaseId) accounts) ↔
      ¬ (Call.withdrawRent leaseId).Unbalances env world := by
  obtain ⟨lease, next, found, saved, _, books⟩ := withdrawRent_rebooks run
  have stored : after.leases.lookup leaseId = some next := by
    rw [saved, Table.lookup_set_self]
  have account : bookRent env world (.withdrawRent leaseId) accounts leaseId =
      accounts leaseId := by
    rw [bookRent, Function.update_self, withdrawRent_sends run, add_zero]
  rw [balances_iff_at run balances rfl, account, dispatch_balance run (by nofun)]
  simp only [stored, Option.some.injEq, forall_eq', books]
  rw [(balances leaseId lease found).withdraw_iff]
  constructor
  · intro nothing unbalances
    cases unbalances with
    | reopens creates => cases creates
    | withdraws held due =>
        obtain rfl := Option.some.inj (found.symm.trans held)
        exact due nothing
  · intro fair
    by_contra due
    exact fair (.withdraws found due)

theorem repaired_balances {inspector : Address} (sound : RentSound world)
    (run : Commits (dispatch env (.verifyRepair leaseId inspector)) world () after)
    (balances : world.RentBalances accounts) :
    after.RentBalances (bookRent env world (.verifyRepair leaseId inspector) accounts) := by
  obtain ⟨lease, next, found, saved, _, books⟩ := verifyRepair_rebooks run
  have stored : after.leases.lookup leaseId = some next := by
    rw [saved, Table.lookup_set_self]
  have released : world.withheldRent leaseId = lease.rentBooks.withheldRent := by
    rw [World.withheldRent, found]
    rfl
  rw [balances_iff_at run balances rfl, dispatch_balance run (by nofun)]
  simp only [stored, Option.some.injEq, forall_eq', books, bookRent, Function.update_self, released]
  exact (balances leaseId lease found).release (sound.unwithheld leaseId lease found).ge

/-- A committed call keeps the rent books balanced exactly when it does not unbalance them. -/
theorem dispatch_balances_iff (run : Commits (dispatch env call) world () after)
    (sound : RentSound world) (balances : world.RentBalances accounts) :
    after.RentBalances (bookRent env world call accounts) ↔ ¬ call.Unbalances env world := by
  cases subject : call.rentSubject env with
  | none =>
      refine iff_of_true (fun leaseId next stored => ?_) ?_
      · exact balanced_of_aside run balances (by simp [subject]) stored
      · intro unbalances
        cases unbalances with
        | reopens creates => cases subject.symm.trans (Call.rentSubject_of_creates creates)
        | withdraws => cases subject
        | takesBack => cases subject
  | some leaseId =>
      cases call with
      | payLeaseInstanceRent => exact paid_balances_iff sound run balances
      | withdrawRent => exact withdrawn_balances_iff run balances
      | verifyRepair =>
          refine iff_of_true (repaired_balances sound run balances) ?_
          intro unbalances
          cases unbalances with
          | reopens creates => cases creates
      | _ => exact opened_balances_iff run balances subject

end Steps

theorem World.genesis_rentSound (config : ConfigStore) (billing : BillingStore)
    (securityCouncil : Option SecurityCouncil) :
    RentSound (World.genesis config billing securityCouncil) := by
  refine ⟨fun leaseId => ?_, fun _ _ found => (by cases found)⟩
  have empty : Function.support
      ((World.genesis config billing securityCouncil).rent.balance leaseId) = ∅ :=
    Function.support_eq_empty_iff.mpr rfl
  rw [Function.HasFiniteSupport, empty]
  exact Set.finite_empty

/-- From a new deployment, the rent books of every live lease balance in every state of a run
exactly when no call of the run that goes through unbalances them. -/
theorem rent_balances_iff (config : ConfigStore) (billing : BillingStore)
    (securityCouncil : Option SecurityCouncil) (calls : List Invocation) :
    Run.MeetsAlong (bookedStep bookRent)
        (fun call state => (bookedStep bookRent call state).1.RentBalances
          (bookedStep bookRent call state).2) calls
        (World.genesis config billing securityCouncil, fun _ => .opened) ↔
      Run.MeetsAlong step (fun invocation world => invocation.Committed world →
        ¬ invocation.call.Unbalances invocation.env world) calls
        (World.genesis config billing securityCouncil) := by
  refine @booked_along_iff _ bookRent _ _ (fun world _ => RentSound world) World.RentBalances
    (fun env world call => call.Unbalances env world)
    (fun env call world after book run sound => sound.kept run)
    (fun env call world after book run sound balances => dispatch_balances_iff run sound balances)
    calls (World.genesis_rentSound config billing securityCouncil) ?_
  intro leaseId lease found
  cases found

/-! ## Books that do not balance -/

/-- The tenant of lease 7 pays rent. -/
def payRentOf7 (timestamp : U64) : Invocation :=
  callAt timestamp (.payLeaseInstanceRent 7 ⟨2⟩ 10)

/-- Rent that is marked as withdrawn is not sent, and a lease opened under the id of an ended
one takes over the balances of its payers. -/
theorem rent_not_balanced :
    ¬ Run.MeetsAlong (bookedStep bookRent)
        (fun call state => (bookedStep bookRent call state).1.RentBalances
          (bookedStep bookRent call state).2)
        [propose 100000 7 200 50, callAt 100001 (.setWithdrawalAddress 7 ⟨1⟩), payRentOf7 100001,
          callAt 100002 (.withdrawRent 7)]
        (freshWorld, fun _ => .opened) ∧
      ¬ Run.MeetsAlong (bookedStep bookRent)
        (fun call state => (bookedStep bookRent call state).1.RentBalances
          (bookedStep bookRent call state).2)
        [propose 100000 7 200 50, payRentOf7 100001,
          callAt 100002 (.executeEarlyTermination 7 ⟨2⟩), propose 200000 7 200 50]
        (freshWorld, fun _ => .opened) := by
  constructor
  · rintro ⟨_, _, _, balances, _⟩
    exact absurd (balances 7 _ rfl).transferred (by decide)
  · rintro ⟨_, _, _, balances, _⟩
    exact absurd ((balances 7 _ rfl).own ⟨2⟩) (by decide)

end LeaseFlow
