import LeaseFlow.Escrow.Effect

/-!
# Sums over the history of deposits

Amounts paid out and received on account of deposits, over the whole history and
since the record of a lease was last opened.
-/

set_option autoImplicit false

namespace LeaseFlow

/-- Which payouts a sum counts. -/
abbrev Selection := LeaseId → DepositShare → TokenTransfer → Bool

def DepositEntry.payout (counts : Selection) : DepositEntry → Int
  | .paid leaseId share transfer => if counts leaseId share transfer then transfer.amount else 0
  | _ => 0

def paidOut (counts : Selection) (history : List DepositEntry) : Int :=
  (history.map (DepositEntry.payout counts)).sum

def DepositEntry.receipt (token : Address) : DepositEntry → Int
  | .received _ transfer => if transfer.token = token then transfer.amount else 0
  | _ => 0

def received (token : Address) (history : List DepositEntry) : Int :=
  (history.map (DepositEntry.receipt token)).sum

/-- The part of a history that follows the last opening of a lease's record. -/
def sinceOpening (leaseId : LeaseId) (history : List DepositEntry) : List DepositEntry :=
  history.takeWhile fun entry => decide (entry ≠ .opened leaseId)

def forToken (token : Address) : Selection :=
  fun _ _ transfer => transfer.token = token

def forLease (leaseId : LeaseId) : Selection :=
  fun other _ _ => other = leaseId

/-- Payouts of a lease in its payment token to one of its parties. -/
def toParties (leaseId : LeaseId) (lease : LeaseInstance) : Selection :=
  fun other _ transfer => other = leaseId ∧ transfer.token = lease.paymentToken ∧
    (transfer.recipient = lease.tenant ∨ transfer.recipient = lease.landlord)

def forShare (share : DepositShare) : Selection :=
  fun _ other _ => other = share

/-! ## Rules -/

variable {counts : Selection} {env : Env} {leaseId : LeaseId}

theorem paidOut_append (later earlier : List DepositEntry) :
    paidOut counts (later ++ earlier) = paidOut counts later + paidOut counts earlier := by
  simp [paidOut]

@[simp] theorem paidOut_nil : paidOut counts [] = 0 := rfl

@[simp] theorem paidOut_opened (other : LeaseId) : paidOut counts [.opened other] = 0 := rfl

theorem paidOut_depositPayout (share : DepositShare) (token recipient : Address)
    (amount : I128) :
    paidOut counts (depositPayout env leaseId share token recipient amount) =
      if counts leaseId share ⟨token, env.currentContractAddress, recipient, amount⟩ then
        max amount 0
      else 0 := by
  unfold depositPayout
  split
  · next positive =>
      rw [max_eq_left positive.le]
      simp [paidOut, DepositEntry.payout]
  · next empty =>
      rw [max_eq_right (not_lt.mp empty)]
      simp

theorem paidOut_shareEntries {lease : LeaseInstance} {tenantRefund landlordPayout : I128} :
    paidOut counts (shareEntries env leaseId lease tenantRefund landlordPayout) =
      (if counts leaseId .landlordPayout
          ⟨lease.paymentToken, env.currentContractAddress, lease.landlord, landlordPayout⟩ then
        max landlordPayout 0 else 0) +
      if counts leaseId .tenantRefund
          ⟨lease.paymentToken, env.currentContractAddress, lease.tenant, tenantRefund⟩ then
        max tenantRefund 0 else 0 := by
  rw [shareEntries, paidOut_append, paidOut_depositPayout, paidOut_depositPayout]

theorem shareEntries_nil {lease : LeaseInstance} {tenantRefund landlordPayout : I128}
    (unrefunded : tenantRefund ≤ 0) (unpaid : landlordPayout ≤ 0) :
    shareEntries env leaseId lease tenantRefund landlordPayout = [] := by
  rw [shareEntries, depositPayout, depositPayout, if_neg (not_lt.mpr unrefunded),
    if_neg (not_lt.mpr unpaid)]
  rfl

/-- Both shares go to the parties in the payment token. -/
theorem paidOut_toParties_shareEntries {lease : LeaseInstance}
    {tenantRefund landlordPayout : I128} :
    paidOut (toParties leaseId lease)
      (shareEntries env leaseId lease tenantRefund landlordPayout) =
      max landlordPayout 0 + max tenantRefund 0 := by
  simp [paidOut_shareEntries, toParties]

theorem paidOut_forLease_shareEntries {lease : LeaseInstance}
    {tenantRefund landlordPayout : I128} :
    paidOut (forLease leaseId) (shareEntries env leaseId lease tenantRefund landlordPayout) =
      max landlordPayout 0 + max tenantRefund 0 := by
  simp [paidOut_shareEntries, forLease]

/-- An entry on account of one lease. -/
def DepositEntry.names (leaseId : LeaseId) : DepositEntry → Prop
  | .paid other _ _ => other = leaseId
  | _ => False

theorem names_of_mem_depositPayout {share : DepositShare} {token recipient : Address}
    {amount : I128} {entry : DepositEntry}
    (listed : entry ∈ depositPayout env leaseId share token recipient amount) :
    entry.names leaseId := by
  unfold depositPayout at listed
  split at listed
  · rw [List.mem_singleton.mp listed]
    exact rfl
  · cases listed

theorem names_of_mem_shareEntries {lease : LeaseInstance} {tenantRefund landlordPayout : I128}
    {entry : DepositEntry}
    (listed : entry ∈ shareEntries env leaseId lease tenantRefund landlordPayout) :
    entry.names leaseId := by
  rcases List.mem_append.mp listed with paid | refunded
  · exact names_of_mem_depositPayout paid
  · exact names_of_mem_depositPayout refunded

/-- Every payout of a changed record is on account of its lease. -/
theorem LeaseChange.names {world : World} {call : Call} {lease : LeaseInstance}
    {record : Option LeaseInstance} {entries : List DepositEntry}
    (change : LeaseChange env world leaseId lease call record entries) :
    ∀ entry ∈ entries, entry.names leaseId := by
  cases change with
  | released => exact fun entry => names_of_mem_shareEntries
  | endedEarly => exact fun entry => names_of_mem_shareEntries
  | slashed => exact fun entry => names_of_mem_shareEntries
  | swept => exact fun entry => names_of_mem_depositPayout
  | _ => exact fun entry listed => by cases listed

theorem sinceOpening_append {later earlier : List DepositEntry} {other : LeaseId}
    (paid : ∀ entry ∈ later, entry.names other) :
    sinceOpening leaseId (later ++ earlier) = later ++ sinceOpening leaseId earlier := by
  refine List.takeWhile_append_of_pos fun entry listed => decide_eq_true ?_
  rintro rfl
  exact paid _ listed

@[simp] theorem sinceOpening_opened (earlier : List DepositEntry) :
    sinceOpening leaseId ([.opened leaseId] ++ earlier) = [] := by
  simp [sinceOpening]

theorem sinceOpening_opened_other {other : LeaseId} (differs : other ≠ leaseId)
    (earlier : List DepositEntry) :
    sinceOpening leaseId ([.opened other] ++ earlier) =
      [.opened other] ++ sinceOpening leaseId earlier := by
  simp [sinceOpening, differs]

/-- A selection that passes over a lease counts none of its payouts. -/
theorem paidOut_of_names {other : LeaseId}
    (selects : ∀ share transfer, counts other share transfer = false)
    {entries : List DepositEntry} (paid : ∀ entry ∈ entries, entry.names other) :
    paidOut counts entries = 0 := by
  refine List.sum_eq_zero fun amount listed => ?_
  obtain ⟨entry, member, rfl⟩ := List.mem_map.mp listed
  cases entry with
  | opened => rfl
  | received => rfl
  | paid named share transfer =>
      have same : named = other := paid _ member
      simp [DepositEntry.payout, same, selects]

/-! ## One lease -/

/-- What the contract paid on account of a lease since its record was opened. -/
def Escrow.paidSinceOpening (leaseId : LeaseId) (counts : Selection) (escrow : Escrow) : Int :=
  paidOut counts (sinceOpening leaseId escrow.deposits)

/-- The selection counts payouts of one lease only. -/
def Selection.Of (leaseId : LeaseId) (counts : Selection) : Prop :=
  ∀ other share transfer, other ≠ leaseId → counts other share transfer = false

theorem forLease_of : Selection.Of leaseId (forLease leaseId) := by
  intro other share transfer differs
  simp [forLease, differs]

theorem toParties_of (lease : LeaseInstance) : Selection.Of leaseId (toParties leaseId lease) := by
  intro other share transfer differs
  simp [toParties, differs]

/-- A movement as one lease sees it. -/
inductive LeaseView (env : Env) (call : Call) (world : World) (after : Escrow)
    (leaseId : LeaseId) (counts : Selection) : Prop where
  | aside (foreign : call.subject env ≠ some leaseId)
      (record : after.leases.lookup leaseId = world.leases.lookup leaseId)
      (paid : after.paidSinceOpening leaseId counts =
        world.toEscrow.paidSinceOpening leaseId counts)
  | opened {lease : LeaseInstance} (opening : Opening env world call leaseId lease)
      (record : after.leases.lookup leaseId = some lease)
      (paid : after.paidSinceOpening leaseId counts = 0)
  | changed {lease : LeaseInstance} {record : Option LeaseInstance} {entries : List DepositEntry}
      (found : world.leases.lookup leaseId = some lease)
      (change : LeaseChange env world leaseId lease call record entries)
      (record : after.leases.lookup leaseId = record)
      (paid : after.paidSinceOpening leaseId counts =
        paidOut counts entries + world.toEscrow.paidSinceOpening leaseId counts)

theorem Movement.view {world : World} {call : Call} {after : Escrow}
    (movement : Movement env call world after) (selects : counts.Of leaseId) :
    LeaseView env call world after leaseId counts := by
  cases movement with
  | still silent leases deposits =>
      refine .aside (by simp [silent]) (by rw [leases]) ?_
      rw [Escrow.paidSinceOpening, deposits]
      rfl
  | @opened other lease opening moved =>
      rcases eq_or_ne other leaseId with rfl | differs
      · refine .opened opening moved.lookup_self ?_
        rw [Escrow.paidSinceOpening, moved.deposits, sinceOpening_opened, paidOut_nil]
      · refine .aside (by simp [opening.subject, differs]) (moved.lookup_other differs.symm) ?_
        rw [Escrow.paidSinceOpening, moved.deposits, sinceOpening_opened_other differs,
          paidOut_append, paidOut_opened, zero_add]
        rfl
  | @changed other lease record entries found change moved =>
      rcases eq_or_ne other leaseId with rfl | differs
      · refine .changed found change moved.lookup_self ?_
        rw [Escrow.paidSinceOpening, moved.deposits, sinceOpening_append change.names,
          paidOut_append]
        rfl
      · refine .aside (by simp [change.subject, differs]) (moved.lookup_other differs.symm) ?_
        rw [Escrow.paidSinceOpening, moved.deposits, sinceOpening_append change.names,
          paidOut_append, paidOut_of_names (fun share transfer => selects _ _ _ differs)
            change.names, zero_add]
        rfl

end LeaseFlow
