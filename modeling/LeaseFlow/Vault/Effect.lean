import LeaseFlow.Vault.Operations

/-!
# The effect of a committed vault call

What a committed call does to the vault's books, its storage without the events, and the lemma
for each operation that reads its effect off its body.
-/

set_option autoImplicit false

namespace LeaseFlow.Vault

open Transaction

/-! ## Books -/

/-- The storage without events; a missing map reads as an empty one, a missing flag as unset. -/
structure Books where
  admin : Option Address
  council : Option Address
  frozen : Bool
  entries : Table U64 EscrowEntry
  freezeTimestamp : Option U64
  transfers : List Transfer

def Store.books (store : Store) : Books where
  admin := store.admin
  council := store.daoSecurityCouncil
  frozen := store.frozen
  entries := store.entries
  freezeTimestamp := store.freezeTimestamp
  transfers := store.transfers

namespace Books

def putEscrow (escrowId : U64) (entry : EscrowEntry) (books : Books) : Books :=
  { books with entries := books.entries.set escrowId (some entry) }

def move (moved : Transfer) (books : Books) : Books :=
  { books with transfers := moved :: books.transfers }

def putCouncil (council : Address) (books : Books) : Books :=
  { books with council := some council }

def freeze (timestamp : U64) (books : Books) : Books :=
  { books with frozen := true, freezeTimestamp := some timestamp }

def lift (books : Books) : Books :=
  { books with frozen := false, freezeTimestamp := none }

def setUp (admin daoSecurityCouncil : Address) (books : Books) : Books :=
  { books with
    admin := some admin, council := some daoSecurityCouncil, frozen := false, entries := ∅ }

end Books

section Views

variable (store : Store)

@[simp] theorem books_log (event : Event) : (store.log event).books = store.books := rfl

@[simp] theorem books_putEscrow (escrowId : U64) (entry : EscrowEntry) :
    (store.putEscrow escrowId entry).books = store.books.putEscrow escrowId entry := rfl

@[simp] theorem books_move (moved : Transfer) :
    (store.move moved).books = store.books.move moved := rfl

@[simp] theorem books_putCouncil (council : Address) :
    (store.putCouncil council).books = store.books.putCouncil council := rfl

@[simp] theorem books_freeze (timestamp : U64) :
    (store.freeze timestamp).books = store.books.freeze timestamp := rfl

@[simp] theorem books_lift : store.lift.books = store.books.lift := rfl

@[simp] theorem books_setUp (admin daoSecurityCouncil : Address) :
    (store.setUp admin daoSecurityCouncil).books =
      store.books.setUp admin daoSecurityCouncil := rfl

end Views

/-! ## Committed primitives -/

section Commits

variable {store after : Store}

@[simp] theorem commits_compute {α : Type} (computation : Checked α) (value : α) :
    Commits (compute computation) store value after ↔
      computation = some value ∧ after = store := by
  simp [compute]

@[simp] theorem commits_publish (event : Event) (result : Unit) :
    Commits (publish event) store result after ↔ after = store.log event := by
  simp [publish]

@[simp] theorem commits_requireAuth (env : Env) (address : Address) (result : Unit) :
    Commits (requireAuth env address) store result after ↔
      env.authorized address = true ∧ after = store := by
  simp [requireAuth]

@[simp] theorem commits_transfer (env : Env) (token payer payee : Address) (amount : I128)
    (result : Unit) :
    Commits (transfer env token payer payee amount) store result after ↔
      env.accepts ⟨token, payer, payee, amount⟩ = true ∧
        after = store.move ⟨token, payer, payee, amount⟩ := by
  simp [transfer]

@[simp] theorem commits_escrowOf (escrowId : U64) (entry : EscrowEntry) :
    Commits (escrowOf escrowId) store entry after ↔
      store.entries.lookup escrowId = some entry ∧ after = store := by
  simp [escrowOf, and_comm]

@[simp] theorem commits_councilOf (council : Address) :
    Commits councilOf store council after ↔
      store.daoSecurityCouncil = some council ∧ after = store := by
  simp [councilOf, eq_comm, and_comm]

@[simp] theorem commits_adminOf (admin : Address) :
    Commits adminOf store admin after ↔ store.admin = some admin ∧ after = store := by
  simp [adminOf, eq_comm, and_comm]

@[simp] theorem commits_setEscrow (escrowId : U64) (entry : EscrowEntry) (result : Unit) :
    Commits (setEscrow escrowId entry) store result after ↔
      after = store.putEscrow escrowId entry := by
  simp [setEscrow]

@[simp] theorem commits_checkFreezeStatus (result : Unit) :
    Commits checkFreezeStatus store result after ↔ store.frozen = false ∧ after = store := by
  simp [checkFreezeStatus, and_comm]

end Commits

/-! ## Effects -/

/-- What an operation asks to be paid out. -/
def Operation.payout : Operation → Option Payout
  | .executeOracleSlash oracle escrowId slashAmount slashRecipient =>
      some (.oracleSlash oracle escrowId slashAmount slashRecipient)
  | .executeMutualRelease releaser escrowId releaseAmount recipient =>
      some (.mutualRelease releaser escrowId releaseAmount recipient)
  | .deductArrears arrearsCollector escrowId arrearsAmount recipient =>
      some (.arrears arrearsCollector escrowId arrearsAmount recipient)
  | _ => none

/-- The checks a payout passes that do not depend on who authorized the call. -/
structure Payable (payout : Payout) (books : Books) (entry : EscrowEntry) (remaining : I128) :
    Prop where
  unfrozen : books.frozen = false
  found : books.entries.lookup payout.escrowId = some entry
  admitted : payout.admits entry = true
  locked : entry.status = .locked
  within : payout.amount ≤ entry.amount
  kept : subI128 entry.amount payout.amount = some remaining

def Books.pay (env : Env) (payout : Payout) (entry : EscrowEntry) (remaining : I128)
    (books : Books) : Books :=
  (books.putEscrow payout.escrowId (payout.leave (entry.keep remaining))).move
    ⟨entry.token, env.currentContract, payout.recipient, payout.amount⟩

/-- What a committed call does to the books. -/
inductive Effect (env : Env) : Operation → Books → Books → Prop where
  | initialized {books : Books} {admin daoSecurityCouncil : Address}
      (fresh : books.admin = none) :
      Effect env (.initializeContract admin daoSecurityCouncil) books
        (books.setUp admin daoSecurityCouncil)
  | deposited {books : Books} {depositor beneficiary token : Address} {amount : I128}
      {purpose : String} {lockDuration lockUntil : U64} {leaseId : Option U64}
      (unfrozen : books.frozen = false) (authorized : env.authorized depositor = true)
      (lock : addU64 env.timestamp lockDuration = some lockUntil)
      (accepted : env.accepts ⟨token, depositor, env.currentContract, amount⟩ = true) :
      Effect env (.initializeDeposit depositor beneficiary token amount purpose lockDuration
          leaseId) books
        ((books.putEscrow env.sequence (.deposited env.sequence depositor beneficiary token amount
          purpose env.timestamp lockUntil leaseId)).move
          ⟨token, depositor, env.currentContract, amount⟩)
  | paid {books : Books} {operation : Operation} {payout : Payout} {entry : EscrowEntry}
      {remaining : I128} (asked : operation.payout = some payout)
      (authorized : env.authorized payout.caller = true)
      (payable : Payable payout books entry remaining)
      (accepted : env.accepts ⟨entry.token, env.currentContract, payout.recipient,
        payout.amount⟩ = true) :
      Effect env operation books (books.pay env payout entry remaining)
  | froze {books : Books} {daoMember : Address} {reason : String}
      (council : books.council = some daoMember) (authorized : env.authorized daoMember = true)
      (unfrozen : books.frozen = false) :
      Effect env (.toggleEscrowFreeze daoMember true reason) books (books.freeze env.timestamp)
  | lifted {books : Books} {daoMember : Address} {reason : String}
      (council : books.council = some daoMember) (authorized : env.authorized daoMember = true)
      (frozen : books.frozen = true) :
      Effect env (.toggleEscrowFreeze daoMember false reason) books books.lift
  | repeated {books : Books} {daoMember : Address} {freeze : Bool} {reason : String}
      (council : books.council = some daoMember) (authorized : env.authorized daoMember = true)
      (already : books.frozen = freeze) :
      Effect env (.toggleEscrowFreeze daoMember freeze reason) books books
  | replaced {books : Books} {admin newDaoCouncil : Address} (stored : books.admin = some admin)
      (authorized : env.authorized admin = true) :
      Effect env (.setDaoSecurityCouncil admin newDaoCouncil) books
        (books.putCouncil newDaoCouncil)

/-- An operation that asks for a payout and goes through pays it. -/
theorem Effect.pays {env : Env} {operation : Operation} {books after : Books} {payout : Payout}
    (effect : Effect env operation books after) (asked : operation.payout = some payout) :
    ∃ entry remaining, env.authorized payout.caller = true ∧
      Payable payout books entry remaining ∧ after = books.pay env payout entry remaining := by
  cases effect with
  | paid known authorized payable accepted =>
      cases Option.some.inj (known.symm.trans asked)
      exact ⟨_, _, authorized, payable, rfl⟩
  | initialized fresh => cases asked
  | deposited unfrozen authorized lock accepted => cases asked
  | froze council authorized unfrozen => cases asked
  | lifted council authorized frozen => cases asked
  | repeated council authorized already => cases asked
  | replaced stored authorized => cases asked

/-! ## The effect of each operation -/

section Operations

variable {env : Env} {store after : Store}

theorem initializeContract_effect {admin daoSecurityCouncil : Address}
    (run : Commits (initializeContract env admin daoSecurityCouncil) store () after) :
    Effect env (.initializeContract admin daoSecurityCouncil) store.books after.books := by
  simp only [initializeContract, commits_bind, commits_inspect, commits_ensure,
    commits_modify] at run
  obtain ⟨_, _, ⟨rfl, rfl⟩, _, _, ⟨fresh, rfl⟩, rfl⟩ := run
  exact .initialized fresh

theorem initializeDeposit_effect {depositor beneficiary token : Address} {amount : I128}
    {purpose : String} {lockDuration escrowId : U64} {leaseId : Option U64}
    (run : Commits (initializeDeposit env depositor beneficiary token amount purpose lockDuration
      leaseId) store escrowId after) :
    Effect env (.initializeDeposit depositor beneficiary token amount purpose lockDuration leaseId)
      store.books after.books := by
  simp only [initializeDeposit, commits_bind, commits_checkFreezeStatus, commits_requireAuth,
    commits_compute, commits_setEscrow, commits_transfer, commits_publish, commits_pure] at run
  obtain ⟨_, _, ⟨unfrozen, rfl⟩, _, _, ⟨authorized, rfl⟩, lockUntil, _, ⟨lock, rfl⟩, _, _, rfl, _, _,
    ⟨accepted, rfl⟩, _, _, rfl, _, rfl⟩ := run
  exact .deposited unfrozen authorized lock accepted

/-- A payout goes through exactly when its caller authorized it, the entry can pay it and the
token contract moves it. -/
theorem commits_payOut (payout : Payout) (event : Event) :
    Commits (payOut env payout event) store () after ↔
      ∃ entry remaining, env.authorized payout.caller = true ∧
        Payable payout store.books entry remaining ∧
        env.accepts ⟨entry.token, env.currentContract, payout.recipient, payout.amount⟩ = true ∧
        after = ((store.putEscrow payout.escrowId (payout.leave (entry.keep remaining))).move
          ⟨entry.token, env.currentContract, payout.recipient, payout.amount⟩).log event := by
  simp only [payOut, commits_bind, commits_checkFreezeStatus, commits_requireAuth,
    commits_escrowOf, commits_ensure, commits_compute, commits_setEscrow, commits_transfer,
    commits_publish]
  constructor
  · intro run
    obtain ⟨_, _, ⟨unfrozen, rfl⟩, _, _, ⟨authorized, rfl⟩, entry, _, ⟨found, rfl⟩, _, _,
      ⟨admitted, rfl⟩, _, _, ⟨locked, rfl⟩, _, _, ⟨within, rfl⟩, remaining, _, ⟨kept, rfl⟩, _, _, rfl,
      _, _, ⟨accepted, rfl⟩, rfl⟩ := run
    exact ⟨entry, remaining, authorized, ⟨unfrozen, found, admitted, locked, within, kept⟩,
      accepted, rfl⟩
  · intro paid
    obtain ⟨entry, remaining, authorized, payable, accepted, rfl⟩ := paid
    exact ⟨(), store, ⟨payable.unfrozen, rfl⟩, (), store, ⟨authorized, rfl⟩, entry, store,
      ⟨payable.found, rfl⟩, (), store, ⟨payable.admitted, rfl⟩, (), store, ⟨payable.locked, rfl⟩,
      (), store, ⟨payable.within, rfl⟩, remaining, store, ⟨payable.kept, rfl⟩, (), _, rfl, (), _,
      ⟨accepted, rfl⟩, rfl⟩

theorem payOut_effect {operation : Operation} {payout : Payout} {event : Event}
    (asked : operation.payout = some payout)
    (run : Commits (payOut env payout event) store () after) :
    Effect env operation store.books after.books := by
  obtain ⟨entry, remaining, authorized, payable, accepted, rfl⟩ :=
    (commits_payOut payout event).mp run
  exact .paid asked authorized payable accepted

theorem toggleEscrowFreeze_effect {daoMember : Address} {freeze : Bool} {reason : String}
    (run : Commits (toggleEscrowFreeze env daoMember freeze reason) store () after) :
    Effect env (.toggleEscrowFreeze daoMember freeze reason) store.books after.books := by
  simp only [toggleEscrowFreeze, commits_bind, commits_councilOf, commits_ensure,
    commits_requireAuth, commits_inspect, commits_ite, commits_modify, commits_publish,
    commits_compute, commits_pure] at run
  obtain ⟨_, _, ⟨council, rfl⟩, _, _, ⟨rfl, rfl⟩, _, _, ⟨authorized, rfl⟩, _, _, ⟨rfl, rfl⟩,
    toggled⟩ := run
  split at toggled
  · next activates =>
      obtain ⟨rfl, unfrozen⟩ := activates
      obtain ⟨_, _, rfl, rfl⟩ := toggled
      exact .froze council authorized unfrozen
  · next inactive =>
      split at toggled
      · next lifts =>
          obtain ⟨rfl, frozen⟩ := lifts
          obtain ⟨_, _, ⟨rfl, rfl⟩, _, _, ⟨_, rfl⟩, _, _, rfl, rfl⟩ := toggled
          exact .lifted council authorized frozen
      · next standing =>
          obtain ⟨_, rfl⟩ := toggled
          apply Effect.repeated council authorized
          cases freeze with
          | true =>
              apply Bool.eq_true_of_not_eq_false
              intro unfrozen
              exact inactive ⟨rfl, unfrozen⟩
          | false =>
              apply Bool.eq_false_of_not_eq_true
              intro frozen
              exact standing ⟨rfl, frozen⟩

theorem setDaoSecurityCouncil_effect {admin newDaoCouncil : Address}
    (run : Commits (setDaoSecurityCouncil env admin newDaoCouncil) store () after) :
    Effect env (.setDaoSecurityCouncil admin newDaoCouncil) store.books after.books := by
  simp only [setDaoSecurityCouncil, commits_bind, commits_adminOf, commits_ensure,
    commits_requireAuth, commits_modify] at run
  obtain ⟨_, _, ⟨stored, rfl⟩, _, _, ⟨rfl, rfl⟩, _, _, ⟨authorized, rfl⟩, rfl⟩ := run
  exact .replaced stored authorized

theorem call_effect {call : Call} (run : Commits call.body store () after) :
    Effect call.env call.operation store.books after.books := by
  obtain ⟨env, operation⟩ := call
  cases operation with
  | initializeContract admin daoSecurityCouncil => exact initializeContract_effect run
  | initializeDeposit depositor beneficiary token amount purpose lockDuration leaseId =>
      simp only [Call.body, commits_bind, commits_pure] at run
      obtain ⟨escrowId, _, deposit, _, rfl⟩ := run
      exact initializeDeposit_effect deposit
  | executeOracleSlash oracle escrowId slashAmount slashRecipient => exact payOut_effect rfl run
  | executeMutualRelease releaser escrowId releaseAmount recipient => exact payOut_effect rfl run
  | deductArrears arrearsCollector escrowId arrearsAmount recipient => exact payOut_effect rfl run
  | toggleEscrowFreeze daoMember freeze reason => exact toggleEscrowFreeze_effect run
  | setDaoSecurityCouncil admin newDaoCouncil => exact setDaoSecurityCouncil_effect run

/-- A step either commits, with its effect, or leaves the store as it was. -/
theorem step_cases (call : Call) (store : Store) :
    (call.body.succeeds store = true ∧
      Effect call.env call.operation store.books (step call store).books) ∨
      (call.body.succeeds store = false ∧ step call store = store) := by
  by_cases committed : call.body.succeeds store = true
  · exact .inl ⟨committed, call_effect (commits_attempt committed)⟩
  · have refused : call.body.succeeds store = false := Bool.eq_false_iff.mpr committed
    exact .inr ⟨refused, attempt_of_not_succeeds refused⟩

theorem step_effect (call : Call) (store : Store) :
    Effect call.env call.operation store.books (step call store).books ∨
      step call store = store := by
  rcases step_cases call store with ⟨_, effect⟩ | ⟨_, same⟩
  · exact .inl effect
  · exact .inr same

end Operations

end LeaseFlow.Vault
