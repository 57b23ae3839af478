import LeaseFlow.Vault.Effect

/-!
# Who may move escrowed funds

A payout asks its caller for an authorization.  Of the three only the mutual release compares
the caller with the entry.  What the code enforces, whatever the tokens accept and whoever else
authorized the call, is compared with who should have a say.
-/

set_option autoImplicit false

namespace LeaseFlow.Vault

open Transaction

/-- Depositor, beneficiary, admin and council have a say about an entry. -/
def Books.Entitled (books : Books) (entry : EscrowEntry) (address : Address) : Prop :=
  address = entry.depositor ∨ address = entry.beneficiary ∨ books.admin = some address ∨
    books.council = some address

def Operation.isMutual : Operation → Bool
  | .executeMutualRelease .. => true
  | _ => false

/-- A payout that goes through was authorized by somebody entitled, a mutual release by both
parties of the entry. -/
def Call.Legitimate (call : Call) (store : Store) : Prop :=
  ∀ payout entry, call.operation.payout = some payout →
    store.entries.lookup payout.escrowId = some entry → call.body.succeeds store = true →
    (∃ address, call.env.authorized address = true ∧ store.books.Entitled entry address) ∧
      (call.operation.isMutual = true →
        call.env.authorized entry.depositor = true ∧
          call.env.authorized entry.beneficiary = true)

/-- In no environment does the code let an illegitimate call through. -/
def Store.Enforces (operation : Operation) (store : Store) : Prop :=
  ∀ env, Call.Legitimate ⟨env, operation⟩ store

/-- Where the entry can pay, the caller named is entitled, and the parties of a mutual release
are one. -/
def Store.NamesEntitled (operation : Operation) (store : Store) : Prop :=
  ∀ payout entry remaining, operation.payout = some payout →
    Payable payout store.books entry remaining →
    store.books.Entitled entry payout.caller ∧
      (operation.isMutual = true → entry.depositor = entry.beneficiary)

/-- Only the caller authorized the call, and the tokens move whatever they are asked to. -/
def Env.onlyBy (caller : Address) : Env where
  timestamp := 0
  sequence := 0
  currentContract := ⟨0⟩
  authorized address := decide (address = caller)
  accepts _ := true

theorem onlyBy_authorized {caller address : Address} :
    (Env.onlyBy caller).authorized address = true ↔ address = caller := by
  simp [Env.onlyBy]

section Payouts

variable {env : Env} {operation : Operation} {payout : Payout} {store : Store}

/-- The body of a payout, whichever of the three it is. -/
theorem body_of_payout (asked : operation.payout = some payout) :
    ∃ event, (Call.mk env operation).body = payOut env payout event := by
  cases operation with
  | executeOracleSlash oracle escrowId slashAmount slashRecipient =>
      cases asked
      exact ⟨_, rfl⟩
  | executeMutualRelease releaser escrowId releaseAmount recipient =>
      cases asked
      exact ⟨_, rfl⟩
  | deductArrears arrearsCollector escrowId arrearsAmount recipient =>
      cases asked
      exact ⟨_, rfl⟩
  | initializeContract admin daoSecurityCouncil => cases asked
  | initializeDeposit depositor beneficiary token amount purpose lockDuration leaseId => cases asked
  | toggleEscrowFreeze daoMember freeze reason => cases asked
  | setDaoSecurityCouncil admin newDaoCouncil => cases asked

/-- A payout goes through exactly when its caller authorized it, the entry can pay it and the
token contract moves it. -/
theorem succeeds_payout_iff (asked : operation.payout = some payout) :
    (Call.mk env operation).body.succeeds store = true ↔
      ∃ entry remaining, env.authorized payout.caller = true ∧
        Payable payout store.books entry remaining ∧
        env.accepts ⟨entry.token, env.currentContract, payout.recipient, payout.amount⟩ = true := by
  obtain ⟨event, body⟩ := @body_of_payout env operation payout asked
  rw [body, succeeds_iff]
  constructor
  · intro goes
    obtain ⟨_, after, run⟩ := goes
    obtain ⟨entry, remaining, authorized, payable, accepted, _⟩ := (commits_payOut payout event).mp run
    exact ⟨entry, remaining, authorized, payable, accepted⟩
  · intro goes
    obtain ⟨entry, remaining, authorized, payable, accepted⟩ := goes
    exact ⟨(), _, (commits_payOut payout event).mpr
      ⟨entry, remaining, authorized, payable, accepted, rfl⟩⟩

/-- The caller of a mutual release is one of the two parties. -/
theorem party_of_mutual {entry : EscrowEntry} {remaining : I128} {books : Books}
    (asked : operation.payout = some payout) (shared : operation.isMutual = true)
    (payable : Payable payout books entry remaining) :
    payout.caller = entry.depositor ∨ payout.caller = entry.beneficiary := by
  cases operation with
  | executeMutualRelease releaser escrowId releaseAmount recipient =>
      cases asked
      exact of_decide_eq_true payable.admitted
  | executeOracleSlash oracle escrowId slashAmount slashRecipient => cases shared
  | deductArrears arrearsCollector escrowId arrearsAmount recipient => cases shared
  | initializeContract admin daoSecurityCouncil => cases shared
  | initializeDeposit depositor beneficiary token amount purpose lockDuration leaseId => cases shared
  | toggleEscrowFreeze daoMember freeze reason => cases shared
  | setDaoSecurityCouncil admin newDaoCouncil => cases shared

end Payouts

/-- In any store, the code lets only legitimate payouts through exactly when the caller a payout
names is entitled, the entry being able to pay, and the parties of a mutual release are one. -/
theorem entitlement_enforced_iff (operation : Operation) (store : Store) :
    store.Enforces operation ↔ store.NamesEntitled operation := by
  constructor
  · intro enforces payout entry remaining asked payable
    have goes : (Call.mk (.onlyBy payout.caller) operation).body.succeeds store = true := by
      apply (succeeds_payout_iff asked).mpr
      exact ⟨entry, remaining, onlyBy_authorized.mpr rfl, payable, rfl⟩
    obtain ⟨⟨address, authorized, entitled⟩, both⟩ :=
      enforces (.onlyBy payout.caller) payout entry asked payable.found goes
    constructor
    · rwa [onlyBy_authorized.mp authorized] at entitled
    · intro shared
      obtain ⟨depositor, beneficiary⟩ := both shared
      exact (onlyBy_authorized.mp depositor).trans (onlyBy_authorized.mp beneficiary).symm
  · intro names env payout entry asked found goes
    obtain ⟨stored, remaining, authorized, payable, _⟩ := (succeeds_payout_iff asked).mp goes
    cases Option.some.inj (payable.found.symm.trans found)
    obtain ⟨entitled, one⟩ := names payout entry remaining asked payable
    refine ⟨⟨payout.caller, authorized, entitled⟩, fun shared => ?_⟩
    have same := one shared
    rcases party_of_mutual asked shared payable with party | party
    · rw [← same, ← party]
      exact ⟨authorized, authorized⟩
    · rw [same, ← party]
      exact ⟨authorized, authorized⟩

/-- An entry of 100 between two parties, locked. -/
def lockedEntry : EscrowEntry :=
  { EscrowEntry.deposited 5 ⟨1⟩ ⟨2⟩ ⟨4⟩ 100 "security_deposit" 100 86500 none with
    status := .locked }

def lockedVault : Store :=
  (newVault.setUp ⟨9⟩ ⟨8⟩).putEscrow 5 lockedEntry

/-- Address 66, a stranger to the entry and to the vault, slashes all of it to itself, and the
depositor alone releases all of it to itself. -/
theorem lockedVault_not_enforced :
    ¬ lockedVault.Enforces (.executeOracleSlash ⟨66⟩ 5 100 ⟨66⟩) ∧
      ¬ lockedVault.Enforces (.executeMutualRelease ⟨1⟩ 5 100 ⟨1⟩) := by
  constructor
  · intro enforces
    obtain ⟨⟨address, authorized, entitled⟩, _⟩ :=
      enforces (.onlyBy ⟨66⟩) _ lockedEntry rfl (by decide) (by decide)
    rw [onlyBy_authorized.mp authorized] at entitled
    simp [Books.Entitled, lockedEntry, EscrowEntry.deposited, lockedVault, Store.books,
      Store.putEscrow, Store.setUp] at entitled
  · intro enforces
    have both := (enforces (.onlyBy ⟨1⟩) _ lockedEntry rfl (by decide) (by decide)).2 rfl
    revert both
    decide

end LeaseFlow.Vault
