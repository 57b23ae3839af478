import LeaseFlow.Deposits.Simulation

/-!
# Splitting a deposit

Three operations pay a deposit out to both parties.  The release and the slash divide the whole
of it; the early termination caps its penalty from above and not from below.
-/

set_option autoImplicit false

namespace LeaseFlow

open Transaction

/-- The lease whose deposit a call pays out to its parties. -/
def Call.settles : Call → Option LeaseId
  | .executeEarlyTermination leaseId _ => some leaseId
  | .executeDepositSlash payload => some payload.leaseId
  | .mutualDepositRelease leaseId _ _ _ _ => some leaseId
  | _ => none

/-- Both parties get a part of the deposit, and together all of it. -/
structure LeaseInstance.SplitBetween (lease : LeaseInstance) (before after : World) : Prop where
  refund_nonneg : 0 ≤ transferred .tenantRefund before after
  refund_le : transferred .tenantRefund before after ≤ lease.totalDeposit
  payout_nonneg : 0 ≤ transferred .landlordPayout before after
  payout_le : transferred .landlordPayout before after ≤ lease.totalDeposit
  whole : transferred .tenantRefund before after + transferred .landlordPayout before after =
    lease.totalDeposit

/-- No penalty is configured, or one of those configured is not negative: the fixed one, or the
percentage of the remaining rent, which is rounded toward zero. -/
def LeaseInstance.PenaltyNonneg (lease : LeaseInstance) (remainingTime : U64) : Prop :=
  match lease.earlyTerminationFeeBps, lease.fixedPenalty with
  | some feeBps, some fixedPenalty =>
      -10000 < (remainingTime * lease.rentPerSec * feeBps : Int) ∨ 0 ≤ fixedPenalty
  | some feeBps, none => -10000 < (remainingTime * lease.rentPerSec * feeBps : Int)
  | none, some fixedPenalty => 0 ≤ fixedPenalty
  | none, none => True

/-! ## Penalties -/

theorem tdiv_nonneg_iff {value size : Int} (positive : 0 < size) :
    0 ≤ value.tdiv size ↔ -size < value := by
  rcases le_or_gt 0 value with nonneg | negative
  · exact iff_of_true (Int.tdiv_nonneg nonneg positive.le) (by omega)
  · have rounded : value.tdiv size = -(-value / size) := by
      rw [← Int.tdiv_eq_ediv_of_nonneg (by omega), Int.neg_tdiv, neg_neg]
    rw [rounded, neg_nonneg, ← Int.lt_add_one_iff, zero_add, Int.ediv_lt_iff_lt_mul positive,
      one_mul, neg_lt]

theorem LeaseInstance.configuredPenalty_nonneg_iff (lease : LeaseInstance) (remainingTime : U64) :
    0 ≤ lease.configuredPenalty remainingTime ↔ lease.PenaltyNonneg remainingTime := by
  have percentage (feeBps : U32) :
      0 ≤ (if 0 < feeBps ∧ 0 < remainingTime then
        (remainingTime * lease.rentPerSec * feeBps : Int).tdiv 10000 else 0) ↔
      -10000 < (remainingTime * lease.rentPerSec * feeBps : Int) := by
    split
    · exact tdiv_nonneg_iff (by decide)
    · next free =>
        refine iff_of_true le_rfl ?_
        rcases Nat.eq_zero_or_pos feeBps with none | charged
        · simp [none]
        · simp [Nat.eq_zero_of_not_pos fun remaining => free ⟨charged, remaining⟩]
  unfold LeaseInstance.configuredPenalty LeaseInstance.PenaltyNonneg
  cases lease.earlyTerminationFeeBps with
  | none =>
      cases lease.fixedPenalty with
      | none => exact iff_of_true le_rfl trivial
      | some fixedPenalty => exact Iff.rfl
  | some feeBps =>
      cases lease.fixedPenalty with
      | none => exact percentage feeBps
      | some fixedPenalty => exact le_max_iff.trans (or_congr_left (percentage feeBps))

theorem LeaseInstance.Feeless.penaltyNonneg {lease : LeaseInstance} (feeless : lease.Feeless)
    (remainingTime : U64) : lease.PenaltyNonneg remainingTime := by
  unfold LeaseInstance.PenaltyNonneg
  rw [feeless.earlyTerminationFeeBps, feeless.fixedPenalty]
  trivial

/-! ## Splits -/

section Splits

variable {env : Env} {world after : World} {leaseId : LeaseId} {lease : LeaseInstance}
  {invocation : Invocation}

theorem transferred_append {share : DepositShare} {entries : List DepositEntry}
    (paid : after.deposits = entries ++ world.deposits) :
    transferred share world after = paidOut (forShare share) entries := by
  rw [transferred, paid, paidOut_append, add_sub_cancel_right]

theorem splitBetween_shareEntries_iff {tenantRefund landlordPayout : Int}
    (paid : after.deposits =
      shareEntries env leaseId lease tenantRefund landlordPayout ++ world.deposits)
    (whole : tenantRefund + landlordPayout = lease.totalDeposit) :
    lease.SplitBetween world after ↔ 0 ≤ tenantRefund ∧ 0 ≤ landlordPayout := by
  have refund : transferred .tenantRefund world after = max tenantRefund 0 := by
    rw [transferred_append paid, paidOut_shareEntries]
    simp [forShare]
  have payout : transferred .landlordPayout world after = max landlordPayout 0 := by
    rw [transferred_append paid, paidOut_shareEntries]
    simp [forShare]
  constructor
  · rintro ⟨refund_nonneg, refund_le, payout_nonneg, payout_le, total⟩
    rw [refund, payout] at total
    omega
  · rintro ⟨refunds, pays⟩
    rw [max_eq_left refunds] at refund
    rw [max_eq_left pays] at payout
    constructor <;> omega

/-- What a settlement paid, by the shares of its operation. -/
theorem LeaseChange.splitBetween_iff {call : Call} {record : Option LeaseInstance}
    {entries : List DepositEntry} (change : LeaseChange env world leaseId lease call record entries)
    (settles : call.settles = some leaseId) (held : 0 ≤ lease.totalDeposit)
    (paid : after.deposits = entries ++ world.deposits) :
    lease.SplitBetween world after ↔ ∀ caller, call = .executeEarlyTermination leaseId caller →
      lease.PenaltyNonneg (lease.endDate - env.timestamp) := by
  cases change with
  | released running split returned slashed =>
      rw [splitBetween_shareEntries_iff paid split]
      exact iff_of_true ⟨returned, slashed⟩ nofun
  | @endedEarly caller running timely =>
      have capped : lease.finalPenalty env.timestamp =
          min (lease.configuredPenalty (lease.endDate - env.timestamp)) lease.totalDeposit := rfl
      rw [splitBetween_shareEntries_iff paid (sub_add_cancel _ _),
        ← lease.configuredPenalty_nonneg_iff]
      constructor
      · rintro ⟨_, pays⟩ _ _
        omega
      · intro charged
        have nonneg := charged caller rfl
        omega
  | @slashed payload names ended unsettled range =>
      have penalty_nonneg := slashPenalty_nonneg payload.damageSeverity held
      have penalty_le := slashPenalty_le payload.damageSeverity held
      have refund := slashRefund_eq payload.damageSeverity held range
      rw [refund] at paid
      rw [splitBetween_shareEntries_iff paid (sub_add_cancel _ _)]
      exact iff_of_true ⟨sub_nonneg.mpr penalty_le, penalty_nonneg⟩ nofun
  | amended amends => cases call <;> first | (cases amends; done) | cases settles
  | _ => cases settles

theorem exists_settlement (committed : invocation.Committed world)
    (settles : invocation.call.settles = some leaseId)
    (found : world.leases.lookup leaseId = some lease) :
    ∃ record entries, LeaseChange invocation.env world leaseId lease invocation.call record entries ∧
      (step invocation world).deposits = entries ++ world.deposits := by
  have subject : invocation.call.subject invocation.env = some leaseId := by
    cases asked : invocation.call <;> rw [asked] at settles <;> first | exact settles | cases settles
  have created : invocation.call.creates invocation.env = none := by
    cases asked : invocation.call <;> rw [asked] at settles <;> first | rfl | cases settles
  cases (dispatch_effect committed.commits).movement with
  | still silent => cases silent.symm.trans subject
  | opened opening => cases opening.creates.symm.trans created
  | @changed other stored record entries there change moved =>
      obtain rfl : other = leaseId := Option.some.inj (change.subject.symm.trans subject)
      obtain rfl : stored = lease := Option.some.inj (there.symm.trans found)
      exact ⟨record, entries, change, moved.deposits⟩

/-- A release, a slash or an early termination that goes through splits the deposit between the
parties, except for an early termination with a negative penalty. -/
theorem settlement_splits_iff (committed : invocation.Committed world)
    (settles : invocation.call.settles = some leaseId)
    (found : world.leases.lookup leaseId = some lease) (security : 0 ≤ lease.securityDeposit)
    (amount : 0 ≤ lease.depositAmount) :
    lease.SplitBetween world (step invocation world) ↔
      ∀ caller, invocation.call = .executeEarlyTermination leaseId caller →
        lease.PenaltyNonneg (lease.endDate - invocation.env.timestamp) := by
  obtain ⟨record, entries, change, paid⟩ := exists_settlement committed settles found
  exact change.splitBetween_iff settles (add_nonneg security amount) paid

/-- The contract configures no penalties, so every settlement of a lease it has created splits the
deposit. -/
theorem Reachable.settlement_splits (reached : Reachable world)
    (committed : invocation.Committed world) (settles : invocation.call.settles = some leaseId)
    (found : world.leases.lookup leaseId = some lease) (held : 0 ≤ lease.totalDeposit) :
    lease.SplitBetween world (step invocation world) := by
  have feeless : ∀ leaseId lease, world.leases.lookup leaseId = some lease → lease.Feeless := by
    refine @Reachable.invariant
      (fun world => ∀ leaseId lease, world.leases.lookup leaseId = some lease → lease.Feeless)
      world reached (fun _ _ _ leaseId lease found => by cases found) ?_
    intro invocation before after run kept leaseId lease stored
    change after.toEscrow.leases.lookup leaseId = some lease at stored
    cases (dispatch_effect run).movement with
    | still _ leases =>
        rw [leases] at stored
        exact kept leaseId lease stored
    | @opened opened record opening moved =>
        by_cases same : leaseId = opened
        · rw [same, moved.lookup_self] at stored
          cases stored
          exact opening.feeless
        · rw [moved.lookup_other same] at stored
          exact kept leaseId lease stored
    | @changed changed prior record entries there change moved =>
        by_cases same : leaseId = changed
        · rw [same, moved.lookup_self] at stored
          exact (change.sameParties stored).feeless (kept changed prior there)
        · rw [moved.lookup_other same] at stored
          exact kept leaseId lease stored
  obtain ⟨record, entries, change, paid⟩ := exists_settlement committed settles found
  exact (change.splitBetween_iff settles held paid).mpr fun _ _ =>
    (feeless leaseId lease found).penaltyNonneg _

end Splits

/-- A proposal with one fixed penalty. -/
def penalised (fixedPenalty : I128) : World :=
  { step (propose 0 7 200 50) freshWorld with
    leases := (step (propose 0 7 200 50) freshWorld).leases.set 7
      (some { proposedLease ⟨1⟩ (sampleProposal 200 50) 200 with
        fixedPenalty := some fixedPenalty }) }

/-- A penalty of eighty goes to the landlord and the rest of the deposit to the tenant. -/
theorem penalty_splits_deposit :
    LeaseInstance.SplitBetween { proposedLease ⟨1⟩ (sampleProposal 200 50) 200 with
        fixedPenalty := some 80 } (penalised 80)
      (step (callAt 100001 (.executeEarlyTermination 7 ⟨2⟩)) (penalised 80)) := by
  have committed : Invocation.Committed (callAt 100001 (.executeEarlyTermination 7 ⟨2⟩))
      (penalised 80) := show _ = true by decide
  refine (settlement_splits_iff committed rfl rfl (by decide) (by decide)).mpr fun _ _ => ?_
  exact show (0 : Int) ≤ 80 by decide

/-- A penalty of minus fifty is added to the tenant's refund. -/
theorem negative_penalty_overpays :
    Invocation.Committed (callAt 100001 (.executeEarlyTermination 7 ⟨2⟩)) (penalised (-50)) ∧
    transferred .tenantRefund (penalised (-50))
      (step (callAt 100001 (.executeEarlyTermination 7 ⟨2⟩)) (penalised (-50))) = 300 ∧
    ¬ LeaseInstance.SplitBetween { proposedLease ⟨1⟩ (sampleProposal 200 50) 200 with
        fixedPenalty := some (-50) } (penalised (-50))
      (step (callAt 100001 (.executeEarlyTermination 7 ⟨2⟩)) (penalised (-50))) := by
  have refund : transferred .tenantRefund (penalised (-50))
      (step (callAt 100001 (.executeEarlyTermination 7 ⟨2⟩)) (penalised (-50))) = 300 := by decide
  refine ⟨show _ = true by decide, refund, fun split => ?_⟩
  have within := split.refund_le
  rw [refund] at within
  exact absurd within (by decide)

end LeaseFlow
