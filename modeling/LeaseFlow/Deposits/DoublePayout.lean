import LeaseFlow.Escrow.History
import LeaseFlow.Safeguards.Demotion

/-!
# Paying a deposit once

What the contract pays on account of a lease from its creation on, against the
deposit the creation recorded.  An early termination looks at the lease status
only, so a dispute raised after a slash opens the way to a second payout.
-/

set_option autoImplicit false

namespace LeaseFlow

open Transaction

/-- The operations that dispute, settle or pay out a deposit. -/
def Call.movesDeposit : Call → Bool
  | .disputeDeposit .. => true
  | .mutualDepositRelease .. => true
  | .executeDepositSlash .. => true
  | .executeEarlyTermination .. => true
  | .settleDeposit .. => true
  | .resolveDispute .. => true
  | .concludeLease .. => true
  | .sweepExpiredProposals .. => true
  | _ => false

/-- On the given lease only deposit operations and amendments are called. -/
def Invocation.StaysOnDeposit (leaseId : LeaseId) (invocation : Invocation) : Prop :=
  invocation.call.subject invocation.env = some leaseId →
    invocation.call.movesDeposit = true ∨ invocation.call.amended ≠ none

/-- The call ends the lease early only while its `ACTIVE` flag is set or it holds nothing,
and sweeps it only when its security deposit is within its total. -/
def Invocation.PaysOnce (leaseId : LeaseId) (invocation : Invocation) (world : World) : Prop :=
  ∀ lease, world.leases.lookup leaseId = some lease →
    match invocation.call with
    | .executeEarlyTermination named _ =>
        named = leaseId → lease.flags.has .active = true ∨ lease.totalDeposit = 0
    | .sweepExpiredProposals _ named => named = leaseId → 0 ≤ lease.depositAmount
    | _ => True

/-- What a record of the given amounts still allows once an amount was paid. -/
structure DepositCourse (securityDeposit depositAmount paid : Int) (lease : LeaseInstance) :
    Prop where
  securityDeposit : lease.securityDeposit = securityDeposit
  depositAmount : lease.depositAmount = depositAmount
  feeless : lease.Feeless
  unpaid : lease.flags.has .active = true → paid = 0
  running : lease.status = .pending ∨ lease.status = .active → lease.flags.has .active = true
  unexpired : lease.status ≠ .expired
  closed : lease.status = .terminated → lease.depositStatus = .settled

namespace DepositCourse

variable {env : Env} {call : Call} {world : World} {leaseId : LeaseId}
  {securityDeposit depositAmount paid : Int} {lease : LeaseInstance}

theorem totalDeposit (course : DepositCourse securityDeposit depositAmount paid lease) :
    lease.totalDeposit = securityDeposit + depositAmount := by
  rw [LeaseInstance.totalDeposit, course.securityDeposit, course.depositAmount]

theorem of_opening (opening : Opening env world call leaseId lease) :
    DepositCourse lease.securityDeposit lease.depositAmount 0 lease := by
  cases opening with
  | @proposed _ _ params =>
      have active : (initialFlags params).has .active = true := by
        unfold initialFlags
        split <;> split <;> decide
      exact ⟨rfl, rfl, ⟨rfl, rfl⟩, fun _ => rfl, fun _ => active, nofun, nofun⟩
  | billed =>
      have active : LeaseFlags.active.has .active = true := by decide
      exact ⟨rfl, rfl, ⟨rfl, rfl⟩, fun _ => rfl, fun _ => active, nofun, nofun⟩

theorem amended {next : LeaseInstance}
    (course : DepositCourse securityDeposit depositAmount paid lease)
    (terms : lease.SameTerms next) :
    DepositCourse securityDeposit depositAmount paid next where
  securityDeposit := terms.securityDeposit.trans course.securityDeposit
  depositAmount := terms.depositAmount.trans course.depositAmount
  feeless := ⟨terms.earlyTerminationFeeBps.trans course.feeless.earlyTerminationFeeBps,
    terms.fixedPenalty.trans course.feeless.fixedPenalty⟩
  unpaid := fun active => course.unpaid (terms.active.symm.trans active)
  running := by
    rw [terms.status, terms.active]
    exact course.running
  unexpired := by
    rw [terms.status]
    exact course.unexpired
  closed := by
    rw [terms.status, terms.depositStatus]
    exact course.closed

theorem unpaid_of_running (course : DepositCourse securityDeposit depositAmount paid lease)
    (running : lease.status = .active ∨ lease.status = .expired) : paid = 0 := by
  rcases running with active | expired
  · exact course.unpaid (course.running (.inr active))
  · exact absurd expired course.unexpired

theorem settled (course : DepositCourse securityDeposit depositAmount paid lease) :
    DepositCourse securityDeposit depositAmount paid { lease with depositStatus := .settled } :=
  ⟨course.securityDeposit, course.depositAmount, ⟨course.feeless.1, course.feeless.2⟩,
    course.unpaid, course.running, course.unexpired, fun _ => rfl⟩

theorem concluded (course : DepositCourse securityDeposit depositAmount paid lease) :
    DepositCourse securityDeposit depositAmount paid
      { lease with status := .terminated, depositStatus := .settled } :=
  ⟨course.securityDeposit, course.depositAmount, ⟨course.feeless.1, course.feeless.2⟩,
    course.unpaid, by simp, by simp, fun _ => rfl⟩

theorem disputed (course : DepositCourse securityDeposit depositAmount paid lease) :
    DepositCourse securityDeposit depositAmount paid
      { lease with depositStatus := .disputed, status := .disputed } :=
  ⟨course.securityDeposit, course.depositAmount, ⟨course.feeless.1, course.feeless.2⟩,
    course.unpaid, by simp, by simp, by simp⟩

/-- Once paid out and inactive, a record stays on course whatever was paid. -/
theorem settledOut (course : DepositCourse securityDeposit depositAmount paid lease)
    (final : Int) : DepositCourse securityDeposit depositAmount final lease.settledOut :=
  ⟨course.securityDeposit, course.depositAmount, ⟨course.feeless.1, course.feeless.2⟩,
    by simp [LeaseInstance.settledOut], by simp [LeaseInstance.settledOut],
    by simp [LeaseInstance.settledOut], fun _ => rfl⟩

/-- A change pays no more than the deposit in all, and leaves a record on course. -/
theorem step {record : Option LeaseInstance} {entries : List DepositEntry}
    (course : DepositCourse securityDeposit depositAmount paid lease)
    (held : 0 ≤ securityDeposit + depositAmount) (bounded : paid ≤ securityDeposit + depositAmount)
    (found : world.leases.lookup leaseId = some lease)
    (change : LeaseChange env world leaseId lease call record entries)
    (stays : call.movesDeposit = true ∨ call.amended ≠ none)
    (once : Invocation.PaysOnce leaseId ⟨env, call⟩ world) :
    paidOut (forLease leaseId) entries + paid ≤ securityDeposit + depositAmount ∧
      ∀ next, record = some next → DepositCourse securityDeposit depositAmount
        (paidOut (forLease leaseId) entries + paid) next := by
  have total := course.totalDeposit
  cases change with
  | amended _ terms =>
      rw [paidOut_nil, zero_add]
      exact ⟨bounded, fun _ kept => Option.some.inj kept ▸ course.amended terms⟩
  | boughtOut =>
      rw [paidOut_nil, zero_add]
      exact ⟨bounded, by simp⟩
  | settled =>
      rw [paidOut_nil, zero_add]
      exact ⟨bounded, fun _ kept => Option.some.inj kept ▸ course.settled⟩
  | concluded =>
      rw [paidOut_nil, zero_add]
      exact ⟨bounded, fun _ kept => Option.some.inj kept ▸ course.concluded⟩
  | resolved =>
      rw [paidOut_nil, zero_add]
      exact ⟨bounded, fun _ kept => Option.some.inj kept ▸ course.concluded⟩
  | disputed =>
      rw [paidOut_nil, zero_add]
      exact ⟨bounded, fun _ kept => Option.some.inj kept ▸ course.disputed⟩
  | released running split returned slashed =>
      rw [paidOut_forLease_shareEntries, course.unpaid_of_running running, max_eq_left returned,
        max_eq_left slashed]
      exact ⟨by linarith, fun _ kept => Option.some.inj kept ▸ course.settledOut _⟩
  | endedEarly =>
      have empty : paid ≤ 0 ∨ lease.totalDeposit = 0 :=
        (once lease found rfl).imp_left fun active => (course.unpaid active).le
      rw [paidOut_forLease_shareEntries, course.feeless.finalPenalty, total,
        min_eq_left held, sub_zero, max_self, max_eq_left held]
      refine ⟨?_, by simp⟩
      rcases empty with unpaid | nothing
      · linarith
      · rw [total] at nothing
        linarith
  | swept pending =>
      have unpaid := course.unpaid (course.running (.inl pending))
      have within := once lease found rfl
      rw [course.depositAmount] at within
      refine ⟨?_, by simp⟩
      rw [paidOut_depositPayout, unpaid, course.securityDeposit]
      simp only [forLease, decide_true, if_true, add_zero]
      exact max_le (by linarith) held
  | slashed _ ended unsettled =>
      rcases ended with terminated | expired
      · exact absurd (course.closed terminated) unsettled
      · exact absurd expired course.unexpired
  | fallbackDisputed => simp [Call.movesDeposit, Call.amended] at stays
  | reclaimed => simp [Call.movesDeposit, Call.amended] at stays
  | terminated => simp [Call.movesDeposit, Call.amended] at stays
  | deployed => simp [Call.movesDeposit, Call.amended] at stays
  | withdrawn => simp [Call.movesDeposit, Call.amended] at stays

end DepositCourse

/-- The payouts of a lease are within its deposit, and its record, if any, is on course. -/
structure Escrow.PaidOnce (leaseId : LeaseId) (securityDeposit depositAmount : Int)
    (escrow : Escrow) : Prop where
  bounded : escrow.paidSinceOpening leaseId (forLease leaseId) ≤ securityDeposit + depositAmount
  course : ∀ lease, escrow.leases.lookup leaseId = some lease →
    DepositCourse securityDeposit depositAmount
      (escrow.paidSinceOpening leaseId (forLease leaseId)) lease

theorem Movement.paidOnce {env : Env} {call : Call} {world : World} {after : Escrow}
    {leaseId : LeaseId} {securityDeposit depositAmount : Int}
    (movement : Movement env call world after) (held : 0 ≤ securityDeposit + depositAmount)
    (stays : Invocation.StaysOnDeposit leaseId ⟨env, call⟩)
    (once : Invocation.PaysOnce leaseId ⟨env, call⟩ world)
    (before : world.toEscrow.PaidOnce leaseId securityDeposit depositAmount) :
    after.PaidOnce leaseId securityDeposit depositAmount := by
  have selects : Selection.Of leaseId (forLease leaseId) := forLease_of
  cases movement.view selects with
  | aside foreign record paid =>
      constructor
      · rw [paid]
        exact before.bounded
      · rw [paid, record]
        exact before.course
  | opened opening =>
      rcases stays opening.subject with moves | amends
      · cases opening <;> cases moves
      · cases opening <;> exact absurd rfl amends
  | changed found change record paid =>
      obtain ⟨bounded, course⟩ := (before.course _ found).step held before.bounded found change
        (stays change.subject) once
      constructor
      · rw [paid]
        exact bounded
      · rw [paid, record]
        exact course

/-- From a creation that records a nonnegative deposit on, the contract pays no more than
that deposit, as long as the committed calls on the lease are deposit operations that pay
once. -/
theorem deposit_paid_once {creation : Invocation} {before : World} {leaseId : LeaseId}
    {lease : LeaseInstance} {calls : List Invocation} (created : creation.Committed before)
    (creates : creation.call.creates creation.env = some leaseId)
    (stored : (step creation before).leases.lookup leaseId = some lease)
    (held : 0 ≤ lease.totalDeposit)
    (meets : Run.MeetsAlong step (fun invocation world => invocation.Committed world →
        invocation.StaysOnDeposit leaseId ∧ invocation.PaysOnce leaseId world)
      calls (step creation before)) :
    (Run.run step calls (step creation before)).toEscrow.paidSinceOpening leaseId
      (forLease leaseId) ≤ lease.totalDeposit := by
  obtain ⟨opened, opening, moved⟩ := (dispatch_effect created.commits).movement.opening creates
  obtain rfl : opened = lease := Option.some.inj (moved.lookup_self.symm.trans stored)
  have paid : (step creation before).toEscrow.paidSinceOpening leaseId (forLease leaseId) = 0 := by
    rw [Escrow.paidSinceOpening, moved.deposits, sinceOpening_opened, paidOut_nil]
  have initially : (step creation before).toEscrow.PaidOnce leaseId opened.securityDeposit
      opened.depositAmount := by
    refine ⟨by rw [paid]; exact held, fun other found => ?_⟩
    obtain rfl : opened = other := Option.some.inj (stored.symm.trans found)
    rw [paid]
    exact .of_opening opening
  have kept : ∀ (invocation : Invocation) (world after : World),
      Commits invocation.body world () after →
      invocation.StaysOnDeposit leaseId ∧ invocation.PaysOnce leaseId world →
      world.toEscrow.PaidOnce leaseId opened.securityDeposit opened.depositAmount →
      after.toEscrow.PaidOnce leaseId opened.securityDeposit opened.depositAmount :=
    fun _ _ _ run condition holds =>
      (dispatch_effect run).movement.paidOnce held condition.1 condition.2 holds
  exact (run_invariant kept meets initially).bounded

/-- A lease resolved after a dispute, disputed again and ended early pays once. -/
theorem disputed_deposit_paid_once :
    ∃ lease, (step (propose 0 7 200 0) freshWorld).leases.lookup 7 = some lease ∧
      (Run.run step
        [callAt 10 (.disputeDeposit 7 ⟨2⟩), callAt 20 (.resolveDispute 7 ⟨4⟩ 0),
          callAt 30 (.disputeDeposit 7 ⟨2⟩), callAt 40 (.executeEarlyTermination 7 ⟨2⟩)]
        (step (propose 0 7 200 0) freshWorld)).toEscrow.paidSinceOpening 7 (forLease 7) ≤
        lease.totalDeposit := by
  have created : (propose 0 7 200 0).Committed freshWorld := show _ = true by decide
  refine ⟨_, rfl, deposit_paid_once created rfl rfl (by decide)
    ⟨fun _ => ⟨fun _ => .inl rfl, fun _ _ => trivial⟩,
      fun _ => ⟨fun _ => .inl rfl, fun _ _ => trivial⟩,
      fun _ => ⟨fun _ => .inl rfl, fun _ _ => trivial⟩,
      fun _ => ⟨fun _ => .inl rfl, fun lease stored _ => .inl ?_⟩, trivial⟩⟩
  cases stored
  rfl

/-- A reclaimed lease is slashed, and a dispute reopens it for an early termination, which
pays the deposit again.  A sweep refunds the whole security deposit of a proposal whose
total is smaller. -/
theorem reclaimed_deposit_paid_twice :
    (((step (propose 0 0 200 0) guardedWorld).leases.lookup 0).map LeaseInstance.totalDeposit =
        some 200 ∧
      (Run.run step
        [callAt 10 (.reclaim 0 ⟨1⟩), callAt 100000 (.executeDepositSlash (sampleReport .minor 1)),
          callAt 100001 (.disputeDeposit 0 ⟨2⟩), callAt 100002 (.executeEarlyTermination 0 ⟨2⟩)]
        (step (propose 0 0 200 0) guardedWorld)).toEscrow.paidSinceOpening 0 (forLease 0) = 400) ∧
    ((step (propose 0 7 200 (-100)) freshWorld).leases.lookup 7).map LeaseInstance.totalDeposit =
        some 100 ∧
      (Run.run step [callAt 700000 (.sweepExpiredProposals ⟨9⟩ 7)]
        (step (propose 0 7 200 (-100)) freshWorld)).toEscrow.paidSinceOpening 7 (forLease 7) =
        200 := by
  decide

end LeaseFlow
