import LeaseFlow.Vault.Effect
import LeaseFlow.Foundations.Ledger

/-!
# Backing of the escrow entries

Beside the storage a run keeps what was deposited and what was paid out, token by token.  The
entries hold the difference until a write drops an entry that holds something: a deposit in the
ledger of an earlier one takes its key, and the set-up of a vault that took deposits before it
empties the map.
-/

set_option autoImplicit false

namespace LeaseFlow.Vault

open Transaction Run

/-- Token contracts reject a transfer of a negative amount. -/
def Env.RejectsNegative (env : Env) : Prop :=
  ∀ moved, env.accepts moved = true → 0 ≤ moved.amount

theorem Env.willing_rejectsNegative (timestamp : U64) (sequence : U32) :
    (Env.willing timestamp sequence).RejectsNegative := by
  intro moved accepted
  exact of_decide_eq_true accepted

/-! ## Flows beside the storage -/

structure Flows where
  deposited : Address → Int
  paidOut : Address → Int

def noFlows : Flows where
  deposited _ := 0
  paidOut _ := 0

/-- The token and the amount a deposit brings in. -/
def Operation.inflow : Operation → Option (Address × I128)
  | .initializeDeposit _ _ token amount _ _ _ => some (token, amount)
  | _ => none

/-- The token and the amount a payout takes out. -/
def Operation.outflow (books : Books) (operation : Operation) : Option (Address × I128) := do
  let payout ← operation.payout
  let entry ← books.entries.lookup payout.escrowId
  pure (entry.token, payout.amount)

def post (flow : Option (Address × I128)) (ledger : Address → Int) : Address → Int :=
  flow.elim ledger fun moved => Ledger.credit moved.1 moved.2 ledger

/-- What a committed call adds to the flows. -/
def Flows.add (operation : Operation) (books : Books) (flows : Flows) : Flows where
  deposited := post operation.inflow flows.deposited
  paidOut := post (operation.outflow books) flows.paidOut

def recordFlows (call : Call) (store : Store) (flows : Flows) : Flows :=
  if call.body.succeeds store = true then flows.add call.operation store.books else flows

/-! ## What the entries hold -/

/-- What an entry holds of a token. -/
def EscrowEntry.holds (token : Address) (entry : EscrowEntry) : Int :=
  if entry.token = token then entry.amount else 0

/-- What all stored entries hold of a token. -/
def Books.held (token : Address) (books : Books) : Int :=
  books.entries.total (EscrowEntry.holds token)

/-- The entries hold what was deposited and not paid out, none of them a negative amount. -/
structure Backed (books : Books) (flows : Flows) : Prop where
  held : ∀ token, books.held token = flows.deposited token - flows.paidOut token
  nonneg : ∀ escrowId entry, books.entries.lookup escrowId = some entry → 0 ≤ entry.amount

/-- No call drops an entry that holds something. -/
def Operation.DropsNothing (env : Env) (books : Books) : Operation → Prop
  | .initializeContract _ _ =>
      ∀ escrowId entry, books.entries.lookup escrowId = some entry → entry.amount = 0
  | .initializeDeposit _ _ _ _ _ _ _ =>
      ∀ entry, books.entries.lookup env.sequence = some entry → entry.amount = 0
  | _ => True

section Entries

variable {env : Env} {operation : Operation} {books after : Books} {flows : Flows}

@[simp] theorem post_none (ledger : Address → Int) : post none ledger = ledger := rfl

theorem post_some (token other : Address) (amount : I128) (ledger : Address → Int) :
    post (some (token, amount)) ledger other =
      ledger other + if token = other then amount else 0 := by
  by_cases same : token = other
  · subst same
    simp [post]
  · rw [if_neg same, add_zero]
    exact Ledger.credit_of_ne (Ne.symm same)

theorem holds_eq_zero_iff {entry : EscrowEntry} :
    (∀ token, entry.holds token = 0) ↔ entry.amount = 0 := by
  constructor
  · intro nothing
    have own := nothing entry.token
    rwa [EscrowEntry.holds, if_pos rfl] at own
  · intro empty token
    rw [EscrowEntry.holds, empty, ite_self]

/-- A written entry replaces what the entry before it held. -/
theorem held_putEscrow (token : Address) (escrowId : U64) (entry : EscrowEntry) :
    (books.putEscrow escrowId entry).held token +
        (books.entries.lookup escrowId).elim 0 (EscrowEntry.holds token) =
      books.held token + entry.holds token :=
  Table.total_set (EscrowEntry.holds token) books.entries escrowId (some entry)

theorem Backed.of_same (backed : Backed books flows) (entries : after.entries = books.entries) :
    Backed after flows := by
  constructor
  · intro token
    rw [Books.held, entries]
    exact backed.held token
  · rw [entries]
    exact backed.nonneg

/-- Entries that hold nothing of any token are all empty, negative amounts being excluded. -/
theorem held_eq_zero_iff
    (nonneg : ∀ escrowId entry, books.entries.lookup escrowId = some entry → 0 ≤ entry.amount) :
    (∀ token, books.held token = 0) ↔
      ∀ escrowId entry, books.entries.lookup escrowId = some entry → entry.amount = 0 := by
  have holds_nonneg : ∀ token escrowId entry, books.entries.lookup escrowId = some entry →
      0 ≤ entry.holds token := by
    intro token escrowId entry found
    unfold EscrowEntry.holds
    split
    · exact nonneg escrowId entry found
    · exact le_rfl
  constructor
  · intro nothing escrowId entry found
    have bound := Table.le_total (holds_nonneg entry.token) found
    have zero : books.entries.total (EscrowEntry.holds entry.token) = 0 := nothing entry.token
    rw [zero, EscrowEntry.holds, if_pos rfl] at bound
    exact le_antisymm bound (nonneg escrowId entry found)
  · intro empty token
    have agree : books.entries.total (EscrowEntry.holds token) =
        books.entries.total fun _ => 0 := by
      apply Table.total_congr
      intro escrowId entry found
      exact holds_eq_zero_iff.mpr (empty escrowId entry found) token
    rw [Books.held, agree, Table.total]
    simp

/-- What the three payouts leave of an entry. -/
theorem leave_eq {payout : Payout} (asked : operation.payout = some payout) (entry : EscrowEntry)
    (remaining : I128) : (payout.leave (entry.keep remaining)).amount = remaining ∧
      (payout.leave (entry.keep remaining)).token = entry.token := by
  cases operation with
  | executeOracleSlash oracle escrowId slashAmount slashRecipient =>
      cases asked
      exact ⟨rfl, rfl⟩
  | executeMutualRelease releaser escrowId releaseAmount recipient =>
      cases asked
      exact ⟨rfl, rfl⟩
  | deductArrears arrearsCollector escrowId arrearsAmount recipient =>
      cases asked
      exact ⟨rfl, rfl⟩
  | initializeContract admin daoSecurityCouncil => cases asked
  | initializeDeposit depositor beneficiary token amount purpose lockDuration leaseId => cases asked
  | toggleEscrowFreeze daoMember freeze reason => cases asked
  | setDaoSecurityCouncil admin newDaoCouncil => cases asked

theorem add_of_payout {payout : Payout} {entry : EscrowEntry}
    (asked : operation.payout = some payout)
    (found : books.entries.lookup payout.escrowId = some entry) :
    flows.add operation books =
      ⟨flows.deposited, post (some (entry.token, payout.amount)) flows.paidOut⟩ := by
  have inflow : operation.inflow = none := by
    cases operation with
    | initializeDeposit depositor beneficiary token amount purpose lockDuration leaseId =>
        cases asked
    | initializeContract admin daoSecurityCouncil => rfl
    | executeOracleSlash oracle escrowId slashAmount slashRecipient => rfl
    | executeMutualRelease releaser escrowId releaseAmount recipient => rfl
    | deductArrears arrearsCollector escrowId arrearsAmount recipient => rfl
    | toggleEscrowFreeze daoMember freeze reason => rfl
    | setDaoSecurityCouncil admin newDaoCouncil => rfl
  rw [Flows.add, inflow, Operation.outflow, asked]
  simp [found]

/-- A payout takes out of the entry what it moves. -/
theorem Backed.pay {payout : Payout} {entry : EscrowEntry} {remaining : I128}
    (backed : Backed books flows) (asked : operation.payout = some payout)
    (payable : Payable payout books entry remaining) :
    Backed (books.pay env payout entry remaining) (flows.add operation books) := by
  obtain ⟨amount, token⟩ := leave_eq asked entry remaining
  obtain ⟨_, left⟩ := Checked.within_eq_some.mp payable.kept
  rw [add_of_payout asked payable.found]
  constructor
  · intro other
    have written := @held_putEscrow books other payout.escrowId
      (payout.leave (entry.keep remaining))
    have before := backed.held other
    rw [payable.found, Option.elim, EscrowEntry.holds, EscrowEntry.holds, amount, token] at written
    change (books.putEscrow payout.escrowId (payout.leave (entry.keep remaining))).held other = _
    simp only [post_some]
    by_cases same : entry.token = other
    · rw [if_pos same] at written ⊢
      rw [if_pos same] at written
      linarith
    · rw [if_neg same] at written ⊢
      rw [if_neg same] at written
      linarith
  · apply Table.forall_set backed.nonneg
    intro stored same
    cases same
    rw [amount, ← left]
    exact sub_nonneg.mpr payable.within

/-- A deposit adds to the entries what it moves, unless an entry made room for it. -/
theorem Backed.deposit_iff {escrowId : U64} {entry : EscrowEntry} (backed : Backed books flows)
    (amount_nonneg : 0 ≤ entry.amount)
    (entries : after.entries = (books.putEscrow escrowId entry).entries) :
    Backed after ⟨post (some (entry.token, entry.amount)) flows.deposited, flows.paidOut⟩ ↔
      ∀ replaced, books.entries.lookup escrowId = some replaced → replaced.amount = 0 := by
  have written (token : Address) : after.held token +
      (books.entries.lookup escrowId).elim 0 (EscrowEntry.holds token) =
      flows.deposited token - flows.paidOut token + entry.holds token := by
    rw [Books.held, entries, ← backed.held token]
    exact held_putEscrow token escrowId entry
  constructor
  · intro holds replaced found
    apply holds_eq_zero_iff.mp
    intro token
    have now := written token
    have brought : entry.holds token = if entry.token = token then entry.amount else 0 := rfl
    rw [found, holds.held token, Option.elim, brought] at now
    simp only [post_some] at now
    linarith
  · intro drops
    constructor
    · intro token
      have nothing : (books.entries.lookup escrowId).elim 0 (EscrowEntry.holds token) = 0 := by
        cases found : books.entries.lookup escrowId with
        | none => rfl
        | some replaced => exact holds_eq_zero_iff.mpr (drops replaced found) token
      have now := written token
      rw [nothing, EscrowEntry.holds] at now
      simp only [post_some]
      linarith
    · rw [entries]
      apply Table.forall_set backed.nonneg
      intro stored same
      cases same
      exact amount_nonneg

/-- A committed call keeps the entries backed exactly when it drops nothing. -/
theorem Effect.backed_iff (effect : Effect env operation books after)
    (rejects : env.RejectsNegative) (backed : Backed books flows) :
    Backed after (flows.add operation books) ↔ operation.DropsNothing env books := by
  cases effect with
  | @initialized _ admin daoSecurityCouncil fresh =>
      rw [Operation.DropsNothing, ← held_eq_zero_iff backed.nonneg]
      have emptied (token : Address) :
          (books.setUp admin daoSecurityCouncil).held token = 0 := rfl
      constructor
      · intro empty token
        rw [backed.held token]
        exact (empty.held token).symm.trans (emptied token)
      · intro nothing
        constructor
        · intro token
          rw [emptied token, ← nothing token]
          exact backed.held token
        · intro escrowId entry found
          simp [Books.setUp] at found
  | @deposited _ depositor beneficiary token amount purpose lockDuration lockUntil leaseId unfrozen
      authorized lock accepted =>
      have amount_nonneg : 0 ≤ (EscrowEntry.deposited env.sequence depositor beneficiary token
        amount purpose env.timestamp lockUntil leaseId).amount := rejects _ accepted
      exact backed.deposit_iff amount_nonneg rfl
  | @paid _ _ payout entry remaining asked authorized payable accepted =>
      refine iff_of_true (backed.pay asked payable) ?_
      cases operation with
      | initializeContract admin daoSecurityCouncil => cases asked
      | initializeDeposit depositor beneficiary token amount purpose lockDuration leaseId =>
          cases asked
      | executeOracleSlash oracle escrowId slashAmount slashRecipient => trivial
      | executeMutualRelease releaser escrowId releaseAmount recipient => trivial
      | deductArrears arrearsCollector escrowId arrearsAmount recipient => trivial
      | toggleEscrowFreeze daoMember freeze reason => trivial
      | setDaoSecurityCouncil admin newDaoCouncil => trivial
  | froze council authorized unfrozen => exact iff_of_true (backed.of_same rfl) trivial
  | lifted council authorized frozen => exact iff_of_true (backed.of_same rfl) trivial
  | repeated council authorized already => exact iff_of_true (backed.of_same rfl) trivial
  | replaced stored authorized => exact iff_of_true (backed.of_same rfl) trivial

end Entries

/-! ## Runs -/

/-- A call that goes through drops no entry that holds something. -/
def Call.DropsNothing (call : Call) (store : Store) : Prop :=
  call.body.succeeds store = true → call.operation.DropsNothing call.env store.books

theorem step_backed_iff {call : Call} {state : Store × Flows} (rejects : call.env.RejectsNegative)
    (backed : Backed state.1.books state.2) :
    Backed (annotate step recordFlows call state).1.books
      (annotate step recordFlows call state).2 ↔ call.DropsNothing state.1 := by
  rcases step_cases call state.1 with ⟨committed, effect⟩ | ⟨refused, same⟩
  · rw [annotate, recordFlows, if_pos committed, effect.backed_iff rejects backed,
      Call.DropsNothing]
    simp [committed]
  · rw [annotate, recordFlows, same, Call.DropsNothing]
    simp [refused, backed]

theorem newVault_backed : Backed newVault.books noFlows where
  held token := rfl
  nonneg escrowId entry found := by simp [newVault, Store.books, Store.entries] at found

/-- In every state of the run the entries hold what was deposited and not paid out, token by
token and none of them a negative amount, exactly when no deposit is made in a ledger and no
vault set up while the entries it drops hold something. -/
theorem entries_backed_iff (calls : List Call)
    (rejects : ∀ call ∈ calls, call.env.RejectsNegative) :
    (∀ earlier, earlier <+: calls →
      Backed (run (annotate step recordFlows) earlier (newVault, noFlows)).1.books
        (run (annotate step recordFlows) earlier (newVault, noFlows)).2) ↔
      MeetsAlong step Call.DropsNothing calls newVault := by
  have along := @invariant_along_iff_given _ _ (annotate step recordFlows)
    (fun call _ => call.env.RejectsNegative) (fun _ => True)
    (fun state => Backed state.1.books state.2)
    (fun call state => call.DropsNothing state.1)
    (fun _ _ _ _ => trivial)
    (fun call state rejects _ backed => step_backed_iff rejects backed) calls (newVault, noFlows)
    (meetsAlong_of_forall rejects (newVault, noFlows)) trivial newVault_backed
  rw [along]
  exact meetsAlong_annotate calls (newVault, noFlows)

/-- Two tenants deposit 100 and 40 in one ledger. -/
def twoDeposits : List Call :=
  [⟨.willing 100 1, .initializeContract ⟨9⟩ ⟨8⟩⟩,
   ⟨.willing 100 5, .initializeDeposit ⟨1⟩ ⟨3⟩ ⟨4⟩ 100 "security_deposit" 86400 none⟩,
   ⟨.willing 100 5, .initializeDeposit ⟨2⟩ ⟨3⟩ ⟨4⟩ 40 "security_deposit" 86400 none⟩]

theorem twoDeposits_reject : ∀ call ∈ twoDeposits, call.env.RejectsNegative := by
  simp [twoDeposits, Env.willing_rejectsNegative]

theorem twoDeposits_not_backed :
    ¬ ∀ earlier, earlier <+: twoDeposits →
      Backed (run (annotate step recordFlows) earlier (newVault, noFlows)).1.books
        (run (annotate step recordFlows) earlier (newVault, noFlows)).2 := by
  intro backed
  have held := (backed twoDeposits (List.prefix_refl _)).held ⟨4⟩
  revert held
  decide

theorem twoDeposits_backed_iff :
    (∀ earlier, earlier <+: twoDeposits →
      Backed (run (annotate step recordFlows) earlier (newVault, noFlows)).1.books
        (run (annotate step recordFlows) earlier (newVault, noFlows)).2) ↔
      MeetsAlong step Call.DropsNothing twoDeposits newVault :=
  entries_backed_iff twoDeposits twoDeposits_reject

end LeaseFlow.Vault
