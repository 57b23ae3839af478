import LeaseFlow.Vault.Effect

/-!
# Entries that are never released

A deposit is stored as pending, a payout wants a locked entry, and no operation locks one.
-/

set_option autoImplicit false

namespace LeaseFlow.Vault

open Transaction Run

/-- What a call that goes through pays out of an entry. -/
def Call.paysOut (escrowId : U64) (call : Call) (store : Store) : Int :=
  match call.operation.payout with
  | none => 0
  | some payout =>
      if payout.escrowId = escrowId ∧ call.body.succeeds store = true then payout.amount else 0

/-- What a run pays out of an entry. -/
def paidOut (escrowId : U64) : List Call → Store → Int
  | [], _ => 0
  | call :: rest, store => call.paysOut escrowId store + paidOut escrowId rest (step call store)

/-- Some run, by whomever and whenever, pays the stored entry out in full. -/
def Store.Releasable (escrowId : U64) (store : Store) : Prop :=
  ∃ entry later, store.entries.lookup escrowId = some entry ∧
    paidOut escrowId later store = entry.amount

def Books.AllPending (books : Books) : Prop :=
  ∀ escrowId entry, books.entries.lookup escrowId = some entry → entry.status = .pending

theorem Books.AllPending.not_payable {books : Books} {payout : Payout} {entry : EscrowEntry}
    {remaining : I128} (pending : books.AllPending) : ¬ Payable payout books entry remaining := by
  intro payable
  have waiting := pending payout.escrowId entry payable.found
  rw [payable.locked] at waiting
  cases waiting

theorem Effect.allPending {env : Env} {operation : Operation} {books after : Books}
    (effect : Effect env operation books after) (pending : books.AllPending) :
    after.AllPending := by
  cases effect with
  | initialized fresh =>
      intro escrowId entry found
      simp [Books.setUp] at found
  | deposited unfrozen authorized lock accepted =>
      apply Table.forall_set pending
      intro entry same
      cases same
      rfl
  | paid asked authorized payable accepted => exact absurd payable pending.not_payable
  | froze council authorized unfrozen => exact pending
  | lifted council authorized frozen => exact pending
  | repeated council authorized already => exact pending
  | replaced stored authorized => exact pending

theorem step_allPending (call : Call) (store : Store) (pending : store.books.AllPending) :
    (step call store).books.AllPending := by
  rcases step_effect call store with effect | same
  · exact effect.allPending pending
  · rwa [same]

theorem newVault_allPending : newVault.books.AllPending := by
  intro escrowId entry found
  simp [newVault, Store.books, Store.entries] at found

theorem run_allPending (calls : List Call) : (run step calls newVault).books.AllPending :=
  invariant step_allPending calls newVault_allPending

/-- No call of the three goes through that pay out of an entry. -/
theorem paysOut_of_allPending {escrowId : U64} {call : Call} {store : Store}
    (pending : store.books.AllPending) : call.paysOut escrowId store = 0 := by
  unfold Call.paysOut
  cases asked : call.operation.payout with
  | none => rfl
  | some payout =>
      apply if_neg
      intro goes
      rcases step_cases call store with ⟨_, effect⟩ | ⟨refused, _⟩
      · obtain ⟨entry, remaining, _, payable, _⟩ := effect.pays asked
        exact pending.not_payable payable
      · rw [goes.2] at refused
        cases refused

theorem paidOut_of_allPending {escrowId : U64} (calls : List Call) {store : Store}
    (pending : store.books.AllPending) : paidOut escrowId calls store = 0 := by
  induction calls generalizing store with
  | nil => rfl
  | cons call rest ih =>
      rw [paidOut, paysOut_of_allPending pending, ih (step_allPending call store pending)]
      rfl

/-- An entry that holds anything cannot be paid out, from no state of the vault. -/
theorem escrow_stuck (calls : List Call) (escrowId : U64) (entry : EscrowEntry)
    (stored : (run step calls newVault).entries.lookup escrowId = some entry)
    (positive : 0 < entry.amount) :
    ¬ (run step calls newVault).Releasable escrowId := by
  intro releasable
  obtain ⟨found, later, same, released⟩ := releasable
  cases Option.some.inj (stored.symm.trans same)
  rw [paidOut_of_allPending later (run_allPending calls)] at released
  exact positive.ne released

/-- A vault with one deposit of 100. -/
def singleDeposit : List Call :=
  [⟨.willing 100 1, .initializeContract ⟨9⟩ ⟨8⟩⟩,
   ⟨.willing 100 5, .initializeDeposit ⟨1⟩ ⟨2⟩ ⟨4⟩ 100 "security_deposit" 86400 none⟩]

def singleEntry : EscrowEntry :=
  .deposited 5 ⟨1⟩ ⟨2⟩ ⟨4⟩ 100 "security_deposit" 100 86500 none

theorem singleDeposit_stuck :
    (run step singleDeposit newVault).entries.lookup 5 = some singleEntry ∧
      ¬ (run step singleDeposit newVault).Releasable 5 := by
  have stored : (run step singleDeposit newVault).entries.lookup 5 = some singleEntry := by decide
  exact ⟨stored, escrow_stuck singleDeposit 5 singleEntry stored (by decide)⟩

theorem singleDeposit_not_released :
    ¬ ∀ escrowId entry, (run step singleDeposit newVault).frozen = false →
      (run step singleDeposit newVault).entries.lookup escrowId = some entry →
      0 < entry.amount → (run step singleDeposit newVault).Releasable escrowId := by
  intro released
  obtain ⟨entry, later, stored, paid⟩ := released 5 singleEntry (by decide) (by decide) (by decide)
  have amount : entry.amount = 100 := by
    have known : (run step singleDeposit newVault).entries.lookup 5 = some singleEntry := by decide
    cases Option.some.inj (known.symm.trans stored)
    rfl
  rw [paidOut_of_allPending later (run_allPending singleDeposit), amount] at paid
  cases paid

end LeaseFlow.Vault
