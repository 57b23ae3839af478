import LeaseFlow.Escrow.History

/-!
# Paying a deposit in full

When a record becomes settled, or leaves live storage, the parties should have
received its whole deposit.  The operations that settle without a transfer, and
the one that reopens a paid deposit, meet this only for records that hold nothing.
-/

set_option autoImplicit false

namespace LeaseFlow

open Transaction

/-- Paid to the tenant and the landlord of a record, in its payment token. -/
def Escrow.paidToParties (leaseId : LeaseId) (lease : LeaseInstance) (escrow : Escrow) : Int :=
  escrow.paidSinceOpening leaseId (toParties leaseId lease)

/-- A call that settles the record of a lease, removes it or replaces it leaves nothing of
its deposit unpaid. -/
structure Invocation.StrandsNothing (invocation : Invocation) (world : World)
    (leaseId : LeaseId) (lease : LeaseInstance) : Prop where
  settled : ∀ next, (step invocation world).leases.lookup leaseId = some next →
    next.depositStatus = .settled → lease.depositStatus ≠ .settled →
    (step invocation world).toEscrow.paidToParties leaseId lease = next.totalDeposit
  removed : (step invocation world).leases.lookup leaseId = none →
    (step invocation world).toEscrow.paidToParties leaseId lease = lease.totalDeposit
  replaced : invocation.Committed world →
    invocation.call.creates invocation.env = some leaseId →
    world.toEscrow.paidToParties leaseId lease = lease.totalDeposit

/-- The record may be closed without a transfer. -/
def LeaseInstance.Discharged (lease : LeaseInstance) : Prop :=
  lease.depositStatus = .settled ∨ lease.totalDeposit = 0

/-- The record may be paid out, or opened for it. -/
def LeaseInstance.Payable (lease : LeaseInstance) : Prop :=
  lease.depositStatus = .settled → lease.totalDeposit = 0

/-- What a call has to find in the record of its subject. -/
def Call.ClosesPaid (env : Env) (world : World) (leaseId : LeaseId) (lease : LeaseInstance) :
    Call → Prop
  | .settleDeposit .. => lease.Discharged
  | .concludeLease .. => lease.Discharged
  | .resolveDispute .. => lease.Discharged
  | .createLeaseWithContinuousBilling .. => lease.Discharged
  | .payLeaseInstanceRent _ _ paymentAmount => ∀ price, lease.buyoutPrice = some price →
      price ≤ lease.cumulativePayments + paymentAmount → lease.Discharged
  | .disputeDeposit .. => lease.Payable
  | .initMutualReleaseFb .. => lease.Payable
  | .mutualDepositRelease .. => lease.Payable
  | .executeEarlyTermination .. => 0 ≤ lease.totalDeposit ∧ lease.Payable
  | .executeDepositSlash .. => 0 ≤ lease.totalDeposit
  | .sweepExpiredProposals .. =>
      max lease.securityDeposit 0 =
        if lease.depositStatus = .settled then 0 else lease.totalDeposit
  | .deployEscrowToYield _ _ deployAmount _ =>
      lease.depositStatus = .settled → deployAmount = 0
  | .withdrawFromYield .. =>
      lease.depositStatus = .settled → world.yieldReturn env leaseId = 0
  | _ => True

def Invocation.ClosesPaid (invocation : Invocation) (world : World) : Prop :=
  ∀ leaseId lease, invocation.call.subject invocation.env = some leaseId →
    world.leases.lookup leaseId = some lease →
    invocation.call.ClosesPaid invocation.env world leaseId lease

/-- An unsettled record has paid nothing, a settled one all of its deposit. -/
structure PaidInStep (paid : Int) (lease : LeaseInstance) : Prop where
  feeless : lease.Feeless
  unsettled : lease.depositStatus ≠ .settled → paid = 0
  settled : lease.depositStatus = .settled → paid = lease.totalDeposit

/-! ## One record -/

namespace PaidInStep

variable {env : Env} {world : World} {call : Call} {leaseId : LeaseId}
  {lease next : LeaseInstance} {paid : Int}

theorem discharged (account : PaidInStep paid lease) (discharged : lease.Discharged) :
    paid = lease.totalDeposit := by
  rcases discharged with settled | empty
  · exact account.settled settled
  · by_cases settled : lease.depositStatus = .settled
    · exact account.settled settled
    · rw [account.unsettled settled, empty]

theorem unpaid (account : PaidInStep paid lease) (payable : lease.Payable) : paid = 0 := by
  by_cases settled : lease.depositStatus = .settled
  · rw [account.settled settled, payable settled]
  · exact account.unsettled settled

theorem of_settled (feeless : next.Feeless) (status : next.depositStatus = .settled)
    (whole : paid = next.totalDeposit) : PaidInStep paid next :=
  ⟨feeless, fun unsettled => absurd status unsettled, fun _ => whole⟩

theorem of_unsettled (feeless : next.Feeless) (status : next.depositStatus ≠ .settled)
    (nothing : paid = 0) : PaidInStep paid next :=
  ⟨feeless, fun _ => nothing, fun settled => absurd settled status⟩

theorem of_same (account : PaidInStep paid lease) (feeless : next.Feeless)
    (status : next.depositStatus = lease.depositStatus)
    (total : lease.depositStatus = .settled → next.totalDeposit = lease.totalDeposit) :
    PaidInStep paid next where
  feeless := feeless
  unsettled := by
    rw [status]
    exact account.unsettled
  settled := by
    rw [status]
    intro settled
    rw [total settled]
    exact account.settled settled

theorem paid_shares {tenantRefund landlordPayout : I128} (refund : 0 ≤ tenantRefund)
    (payout : 0 ≤ landlordPayout) (split : tenantRefund + landlordPayout = lease.totalDeposit)
    (nothing : paid = 0) :
    paidOut (toParties leaseId lease)
      (shareEntries env leaseId lease tenantRefund landlordPayout) + paid =
      lease.totalDeposit := by
  rw [paidOut_toParties_shareEntries, max_eq_left refund, max_eq_left payout, nothing]
  linarith

theorem paid_early (account : PaidInStep paid lease) (held : 0 ≤ lease.totalDeposit)
    (payable : lease.Payable) (now : U64) :
    paidOut (toParties leaseId lease)
      (shareEntries env leaseId lease (lease.totalDeposit - lease.finalPenalty now)
        (lease.finalPenalty now)) + paid = lease.totalDeposit := by
  rw [account.feeless.finalPenalty, min_eq_left held, sub_zero]
  exact paid_shares held le_rfl (add_zero _) (account.unpaid payable)

theorem paid_slash (account : PaidInStep paid lease) (held : 0 ≤ lease.totalDeposit)
    (range : lease.totalDeposit ≤ i128Max) (unsettled : lease.depositStatus ≠ .settled)
    (severity : DamageSeverity) :
    paidOut (toParties leaseId lease)
      (shareEntries env leaseId lease (slashRefund lease.totalDeposit severity)
        (slashPenalty lease.totalDeposit severity)) + paid = lease.totalDeposit := by
  rw [slashRefund_eq severity held range]
  exact paid_shares (sub_nonneg.mpr (slashPenalty_le severity held))
    (slashPenalty_nonneg severity held) (sub_add_cancel _ _) (account.unsettled unsettled)

theorem paid_sweep (account : PaidInStep paid lease)
    (covers : max lease.securityDeposit 0 =
      if lease.depositStatus = .settled then 0 else lease.totalDeposit) :
    paidOut (toParties leaseId lease) (depositPayout env leaseId .tenantRefund
      lease.paymentToken lease.tenant lease.securityDeposit) + paid = lease.totalDeposit := by
  rw [paidOut_depositPayout, covers]
  simp only [toParties, true_or, and_self, decide_true, if_true]
  by_cases settled : lease.depositStatus = .settled
  · rw [if_pos settled, zero_add]
    exact account.settled settled
  · rw [if_neg settled, account.unsettled settled, add_zero]

/-- The account of a record that a change leaves in storage. -/
theorem kept {record : Option LeaseInstance} {entries : List DepositEntry}
    (account : PaidInStep paid lease)
    (change : LeaseChange env world leaseId lease call record entries)
    (closes : call.ClosesPaid env world leaseId lease) (left : record = some next) :
    PaidInStep (paidOut (toParties leaseId lease) entries + paid) next := by
  have feeless := (change.sameParties left).feeless account.feeless
  cases change with
  | amended _ terms =>
      cases left
      rw [paidOut_nil, zero_add]
      exact account.of_same feeless terms.depositStatus fun _ => terms.totalDeposit
  | settled =>
      cases left
      rw [paidOut_nil, zero_add]
      exact of_settled feeless rfl (account.discharged closes)
  | concluded =>
      cases left
      rw [paidOut_nil, zero_add]
      exact of_settled feeless rfl (account.discharged closes)
  | resolved =>
      cases left
      rw [paidOut_nil, zero_add]
      exact of_settled feeless rfl (account.discharged closes)
  | disputed =>
      cases left
      rw [paidOut_nil, zero_add]
      exact of_unsettled feeless (by simp) (account.unpaid closes)
  | fallbackDisputed =>
      cases left
      rw [paidOut_nil, zero_add]
      exact of_unsettled feeless (by simp) (account.unpaid closes)
  | released _ split returned slashed =>
      cases left
      exact of_settled feeless rfl (paid_shares returned slashed split (account.unpaid closes))
  | reclaimed =>
      cases left
      rw [paidOut_nil, zero_add]
      exact account.of_same feeless rfl fun _ => rfl
  | slashed _ _ unsettled range =>
      cases left
      exact of_settled feeless rfl (account.paid_slash closes range unsettled _)
  | deployed =>
      cases left
      rw [paidOut_nil, zero_add]
      refine account.of_same feeless rfl fun settled => ?_
      simp [LeaseInstance.totalDeposit, closes settled]
  | withdrawn =>
      cases left
      rw [paidOut_nil, zero_add]
      refine account.of_same feeless rfl fun settled => ?_
      simp [LeaseInstance.totalDeposit, closes settled]
  | boughtOut => cases left
  | terminated => cases left
  | endedEarly => cases left
  | swept => cases left

theorem removed {record : Option LeaseInstance} {entries : List DepositEntry}
    (account : PaidInStep paid lease)
    (change : LeaseChange env world leaseId lease call record entries)
    (closes : call.ClosesPaid env world leaseId lease) (gone : record = none) :
    paidOut (toParties leaseId lease) entries + paid = lease.totalDeposit := by
  cases change with
  | boughtOut priced reached =>
      rw [paidOut_nil, zero_add]
      exact account.discharged (closes _ priced reached)
  | terminated settled =>
      rw [paidOut_nil, zero_add]
      exact account.settled settled
  | endedEarly => exact account.paid_early closes.1 closes.2 _
  | swept => exact account.paid_sweep closes
  | _ => cases gone

end PaidInStep

/-! ## The store -/

/-- Every stored record is paid in step. -/
def Escrow.PaidInStep (escrow : Escrow) : Prop :=
  ∀ leaseId lease, escrow.leases.lookup leaseId = some lease →
    LeaseFlow.PaidInStep (escrow.paidToParties leaseId lease) lease

theorem LeaseInstance.SameParties.toParties {leaseId : LeaseId} {lease next : LeaseInstance}
    (same : lease.SameParties next) : toParties leaseId next = toParties leaseId lease := by
  funext other share transfer
  simp only [LeaseFlow.toParties, same.tenant, same.landlord, same.paymentToken]

section Openings

variable {env : Env} {world : World} {call : Call} {leaseId : LeaseId}
  {lease opened : LeaseInstance}

theorem Opening.held (opening : Opening env world call leaseId opened) :
    opened.depositStatus = .held := by
  cases opening <;> rfl

/-- A creation that replaces a record finds it discharged. -/
theorem Opening.discharged (opening : Opening env world call leaseId opened)
    (found : world.leases.lookup leaseId = some lease)
    (closes : call.ClosesPaid env world leaseId lease) : lease.Discharged := by
  cases opening with
  | proposed fresh => cases fresh.symm.trans found
  | billed => exact closes

end Openings

section Store

variable {invocation : Invocation} {world : World} {leaseId : LeaseId} {lease : LeaseInstance}

theorem Movement.paidInStep {after : Escrow}
    (movement : Movement invocation.env invocation.call world after)
    (closes : invocation.ClosesPaid world) (before : world.toEscrow.PaidInStep) :
    after.PaidInStep := by
  intro leaseId next stored
  have selects : Selection.Of leaseId (toParties leaseId next) := toParties_of next
  cases movement.view selects with
  | aside _ record paid =>
      rw [Escrow.paidToParties, paid]
      exact before leaseId next (record.symm.trans stored)
  | opened opening record paid =>
      obtain rfl : _ = next := Option.some.inj (record.symm.trans stored)
      rw [Escrow.paidToParties, paid]
      exact .of_unsettled opening.feeless (by simp [opening.held]) rfl
  | @changed lease _ _ found change record paid =>
      have left := record.symm.trans stored
      have same : toParties leaseId next = toParties leaseId lease :=
        (change.sameParties left).toParties
      rw [Escrow.paidToParties, paid, same]
      exact (before leaseId lease found).kept change
        (closes leaseId lease change.subject found) left

theorem Movement.strandsNothing
    (movement : Movement invocation.env invocation.call world (step invocation world).toEscrow)
    (closes : invocation.ClosesPaid world) (before : world.toEscrow.PaidInStep)
    (found : world.leases.lookup leaseId = some lease) :
    invocation.StrandsNothing world leaseId lease := by
  have account := before leaseId lease found
  have replaced : invocation.call.creates invocation.env = some leaseId →
      world.toEscrow.paidToParties leaseId lease = lease.totalDeposit := by
    intro creates
    obtain ⟨opened, opening, _⟩ := movement.opening creates
    exact account.discharged
      (opening.discharged found (closes leaseId lease opening.subject found))
  have selects : Selection.Of leaseId (toParties leaseId lease) := toParties_of lease
  cases movement.view selects with
  | aside _ record paid =>
      refine ⟨fun next stored settled unsettled => ?_, fun gone => ?_, fun _ => replaced⟩
      · obtain rfl : lease = next := Option.some.inj (found.symm.trans (record.symm.trans stored))
        exact absurd settled unsettled
      · cases found.symm.trans (record.symm.trans gone)
  | opened opening record paid =>
      refine ⟨fun next stored settled _ => ?_, fun gone => ?_, fun _ => replaced⟩
      · obtain rfl : _ = next := Option.some.inj (record.symm.trans stored)
        cases opening.held.symm.trans settled
      · cases record.symm.trans gone
  | @changed other _ _ stored change record paid =>
      obtain rfl : lease = other := Option.some.inj (found.symm.trans stored)
      have required := closes leaseId lease change.subject found
      refine ⟨fun next kept settled _ => ?_, fun gone => ?_, fun _ => replaced⟩
      · rw [Escrow.paidToParties, paid]
        exact (account.kept change required (record.symm.trans kept)).settled settled
      · rw [Escrow.paidToParties, paid]
        exact account.removed change required (record.symm.trans gone)

theorem Invocation.StrandsNothing.of_refused (refused : ¬ invocation.Committed world)
    (found : world.leases.lookup leaseId = some lease) :
    invocation.StrandsNothing world leaseId lease := by
  have same := step_of_not_committed refused
  refine ⟨fun next stored settled unsettled => ?_, fun gone => ?_, fun committed => ?_⟩
  · rw [same, found] at stored
    cases stored
    exact absurd settled unsettled
  · rw [same, found] at gone
    cases gone
  · exact absurd committed refused

end Store

/-! ## Runs -/

/-- Along every run whose committed calls close only paid records, no call strands a part
of a deposit. -/
theorem deposits_paid_in_full {config : ConfigStore} {billing : BillingStore}
    {securityCouncil : Option SecurityCouncil} {calls : List Invocation} {last : Invocation}
    {leaseId : LeaseId} {lease : LeaseInstance}
    (meets : Run.MeetsAlong step (fun invocation world => invocation.Committed world →
        invocation.ClosesPaid world)
      (calls ++ [last]) (World.genesis config billing securityCouncil))
    (stored : (Run.run step calls (World.genesis config billing securityCouncil)).leases.lookup
      leaseId = some lease) :
    last.StrandsNothing (Run.run step calls (World.genesis config billing securityCouncil))
      leaseId lease := by
  obtain ⟨earlier, final, _⟩ := (Run.meetsAlong_append calls [last] _).mp meets
  have initially : (World.genesis config billing securityCouncil).toEscrow.PaidInStep :=
    fun _ _ found => by cases found
  have kept : ∀ (invocation : Invocation) (world after : World),
      Commits invocation.body world () after → invocation.ClosesPaid world →
      world.toEscrow.PaidInStep → after.toEscrow.PaidInStep :=
    fun _ _ _ run closes holds => (dispatch_effect run).movement.paidInStep closes holds
  have before := run_invariant kept earlier initially
  generalize Run.run step calls (World.genesis config billing securityCouncil) = world at *
  by_cases committed : last.Committed world
  · exact (dispatch_effect committed.commits).movement.strandsNothing (final committed) before
      stored
  · exact .of_refused committed stored

theorem proposal_terminated_in_full :
    (callAt 100001 (.executeEarlyTermination 7 ⟨2⟩)).StrandsNothing
      (Run.run step [propose 0 7 200 50] freshWorld) 7
      (proposedLease ⟨1⟩ (sampleProposal 200 50) 200) := by
  have meets : Run.MeetsAlong step (fun invocation world => invocation.Committed world →
        invocation.ClosesPaid world)
      ([propose 0 7 200 50] ++ [callAt 100001 (.executeEarlyTermination 7 ⟨2⟩)]) freshWorld := by
    refine ⟨fun _ => ?_, fun _ => ?_, trivial⟩
    · rintro leaseId lease _ found
      cases found
    · rintro leaseId lease names found
      cases names
      cases found
      exact ⟨by decide, nofun⟩
  exact deposits_paid_in_full meets rfl

/-- `settle_deposit` settles a deposit of which nothing was paid. -/
theorem settlement_strands_deposit :
    ¬ (callAt 60 (.settleDeposit 7 ⟨1⟩)).StrandsNothing
      (Run.run step [propose 0 7 200 50] freshWorld) 7
      (proposedLease ⟨1⟩ (sampleProposal 200 50) 200) := by
  intro strands
  have paid := strands.settled _ rfl rfl (by decide)
  revert paid
  decide

end LeaseFlow
