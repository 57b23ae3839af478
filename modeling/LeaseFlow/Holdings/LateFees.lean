import LeaseFlow.Escrow.Effect

/-!
# Late fees

A check for default charges what has become due since the check before: the flat fee once, and the
seconds past the grace period that were not charged yet.  How often a lease is checked makes no
difference.
-/

set_option autoImplicit false

namespace LeaseFlow

open Transaction

def FitsI128 (value : Int) : Prop :=
  i128Min ≤ value ∧ value ≤ i128Max

/-! ## One check -/

/-- The record with the flat fee, charged now or before. -/
def LeaseInstance.flatCharged (lease : LeaseInstance) : LeaseInstance :=
  if lease.flags.has .flatFeeApplied = false then
    { lease with
      debt := lease.debt + lease.lateFeeFlat
      flags := lease.flags.raise .flatFeeApplied }
  else lease

/-- The record with all seconds late charged. -/
def LeaseInstance.lateCharged (secondsLate : U64) (lease : LeaseInstance) : LeaseInstance :=
  if lease.secondsLateCharged < secondsLate then
    { lease with
      debt := lease.debt + (secondsLate - lease.secondsLateCharged : Nat) * lease.lateFeePerSec
      secondsLateCharged := secondsLate }
  else lease

/-- The record that a check leaves. -/
def LeaseInstance.checkedAt (now : U64) (lease : LeaseInstance) : LeaseInstance :=
  if lease.gracePeriodEnd < now then
    lease.flatCharged.lateCharged (now - lease.gracePeriodEnd)
  else lease

/-- The fees that a check charges do not overflow. -/
structure LeaseInstance.FeesFit (now : U64) (lease : LeaseInstance) : Prop where
  flat : lease.gracePeriodEnd < now → lease.flags.has .flatFeeApplied = false →
    FitsI128 (lease.debt + lease.lateFeeFlat)
  late : lease.gracePeriodEnd < now → lease.secondsLateCharged < now - lease.gracePeriodEnd →
    FitsI128 ((now - lease.gracePeriodEnd - lease.secondsLateCharged : Nat) *
      lease.lateFeePerSec) ∧ FitsI128 (lease.checkedAt now).debt

section Check

variable {env : Env} {world after : World} {leaseId : LeaseId} {lease charged : LeaseInstance}

@[simp] theorem LeaseInstance.flatCharged_secondsLateCharged :
    lease.flatCharged.secondsLateCharged = lease.secondsLateCharged := by
  unfold flatCharged
  split <;> rfl

@[simp] theorem LeaseInstance.flatCharged_lateFeePerSec :
    lease.flatCharged.lateFeePerSec = lease.lateFeePerSec := by
  unfold flatCharged
  split <;> rfl

theorem commits_applyFlatFee :
    Commits (applyFlatFee lease) world charged after ↔
      (lease.flags.has .flatFeeApplied = false → FitsI128 (lease.debt + lease.lateFeeFlat)) ∧
        charged = lease.flatCharged ∧ after = world := by
  simp only [applyFlatFee, LeaseInstance.flatCharged, commits_ite, commits_bind,
    commits_checkedI128, commits_pure]
  by_cases unapplied : lease.flags.has .flatFeeApplied = false
  · rw [if_pos unapplied, if_pos unapplied]
    constructor
    · rintro ⟨_, _, ⟨fits, rfl, rfl⟩, rfl, rfl⟩
      exact ⟨fun _ => fits, rfl, rfl⟩
    · rintro ⟨fits, rfl, rfl⟩
      exact ⟨_, _, ⟨fits unapplied, rfl, rfl⟩, rfl, rfl⟩
  · rw [if_neg unapplied, if_neg unapplied]
    exact ⟨fun same => ⟨fun absent => absurd absent unapplied, same⟩, And.right⟩

theorem commits_chargeLateSeconds {secondsLate : U64} :
    Commits (chargeLateSeconds secondsLate lease) world charged after ↔
      (lease.secondsLateCharged < secondsLate →
        FitsI128 ((secondsLate - lease.secondsLateCharged : Nat) * lease.lateFeePerSec) ∧
          FitsI128 (lease.lateCharged secondsLate).debt) ∧
        charged = lease.lateCharged secondsLate ∧ after = world := by
  simp only [chargeLateSeconds, LeaseInstance.lateCharged, commits_ite, commits_bind,
    commits_checkedI128, commits_pure]
  by_cases more : lease.secondsLateCharged < secondsLate
  · simp only [if_pos more]
    constructor
    · rintro ⟨_, _, ⟨charge, rfl, rfl⟩, _, _, ⟨debt, rfl, rfl⟩, rfl, rfl⟩
      exact ⟨fun _ => ⟨charge, debt⟩, rfl, rfl⟩
    · rintro ⟨fits, rfl, rfl⟩
      exact ⟨_, _, ⟨(fits more).1, rfl, rfl⟩, _, _, ⟨(fits more).2, rfl, rfl⟩, rfl, rfl⟩
  · simp only [if_neg more]
    exact ⟨fun same => ⟨fun less => absurd less more, same⟩, And.right⟩

theorem accrueLateFees_commits_iff :
    (∃ after, Commits (accrueLateFees env leaseId lease) world charged after) ↔
      lease.FeesFit env.timestamp ∧ charged = lease.checkedAt env.timestamp := by
  simp only [accrueLateFees, commits_ite, commits_bind, commits_pure, commits_applyFlatFee,
    commits_chargeLateSeconds]
  by_cases late : lease.gracePeriodEnd < env.timestamp
  · have checked : lease.checkedAt env.timestamp =
        lease.flatCharged.lateCharged (env.timestamp - lease.gracePeriodEnd) := if_pos late
    simp only [if_pos late]
    constructor
    · rintro ⟨_, _, _, ⟨flat, rfl, rfl⟩, _, _, ⟨seconds, rfl, rfl⟩, _, _, _, rfl, rfl⟩
      rw [LeaseInstance.flatCharged_secondsLateCharged,
        LeaseInstance.flatCharged_lateFeePerSec, ← checked] at seconds
      exact ⟨⟨fun _ => flat, fun _ => seconds⟩, checked.symm⟩
    · rintro ⟨fits, rfl⟩
      have seconds := fits.late late
      rw [checked, ← LeaseInstance.flatCharged_secondsLateCharged,
        ← LeaseInstance.flatCharged_lateFeePerSec] at seconds
      exact ⟨_, _, _, ⟨fits.flat late, rfl, rfl⟩, _, _, ⟨seconds, rfl, rfl⟩, (), _,
        (commits_modify _ _).mpr rfl, checked, rfl⟩
  · have unchanged : lease.checkedAt env.timestamp = lease := if_neg late
    simp only [if_neg late]
    constructor
    · rintro ⟨_, rfl, _⟩
      exact ⟨⟨fun now => absurd now late, fun now => absurd now late⟩, unchanged.symm⟩
    · rintro ⟨_, rfl⟩
      exact ⟨world, unchanged, rfl⟩

theorem exists_commits_flagEviction (total : I128) :
    ∃ after, Commits (flagEviction leaseId lease total) world () after := by
  simp only [flagEviction, commits_ite]
  split
  · exact ⟨_, (commits_modify _ _).mpr rfl⟩
  · exact ⟨_, (commits_pure _ _).mpr ⟨rfl, rfl⟩⟩

theorem checkTenantDefault_commits_iff {total : I128} (found : world.leases.lookup leaseId = some lease) :
    (∃ after, Commits (checkTenantDefault env leaseId) world total after) ↔
      lease.FeesFit env.timestamp ∧
        FitsI128 (unpaidRent env lease + (lease.checkedAt env.timestamp).debt) ∧
        total = unpaidRent env lease + (lease.checkedAt env.timestamp).debt := by
  simp only [checkTenantDefault, commits_bind, commits_loadLeaseInstanceById,
    commits_checkedI128, commits_pure, commits_saveLeaseInstance]
  constructor
  · rintro ⟨_, stored, _, ⟨loaded, rfl⟩, charged, _, accrued, _, _, ⟨fits, rfl, rfl⟩, _, _, _, _, _,
      _, rfl, _⟩
    obtain rfl := Option.some.inj (loaded.symm.trans found)
    obtain ⟨fees, rfl⟩ := accrueLateFees_commits_iff.mp ⟨_, accrued⟩
    exact ⟨fees, fits, rfl⟩
  · rintro ⟨fees, fits, rfl⟩
    obtain ⟨middle, accrued⟩ := (@accrueLateFees_commits_iff env world leaseId lease _).mpr
      ⟨fees, rfl⟩
    obtain ⟨flagged, flags⟩ := @exists_commits_flagEviction middle leaseId
      (lease.checkedAt env.timestamp) (unpaidRent env lease + (lease.checkedAt env.timestamp).debt)
    exact ⟨_, lease, _, ⟨found, rfl⟩, _, _, accrued, _, _, ⟨fits, rfl, rfl⟩, (), _, flags, (), _,
      rfl, rfl, rfl⟩

theorem checkTenantDefault_leases {total : I128} (found : world.leases.lookup leaseId = some lease)
    (run : Commits (checkTenantDefault env leaseId) world total after) :
    after.leases.lookup leaseId = some (lease.checkedAt env.timestamp) := by
  simp only [checkTenantDefault, commits_bind, commits_loadLeaseInstanceById,
    commits_checkedI128, commits_pure, commits_saveLeaseInstance] at run
  obtain ⟨stored, _, ⟨loaded, rfl⟩, charged, _, accrued, _, _, ⟨_, rfl, rfl⟩, _, _, _, _, _, rfl, _,
    rfl⟩ := run
  obtain rfl := Option.some.inj (loaded.symm.trans found)
  obtain ⟨_, rfl⟩ := accrueLateFees_commits_iff.mp ⟨_, accrued⟩
  exact Table.lookup_set_self _ _ _

end Check

/-! ## Many checks -/

/-- Nothing has been charged for lateness. -/
structure LeaseInstance.Uncharged (lease : LeaseInstance) : Prop where
  seconds : lease.secondsLateCharged = 0
  flat : lease.flags.has .flatFeeApplied = false

/-- The record of a lease charged at once for all of its lateness. -/
def LeaseInstance.overdueAt (now : U64) (lease : LeaseInstance) : LeaseInstance :=
  if lease.gracePeriodEnd < now then
    { lease with
      debt := lease.debt + lease.lateFeeFlat +
        (now - lease.gracePeriodEnd : Nat) * lease.lateFeePerSec
      flags := lease.flags.raise .flatFeeApplied
      secondsLateCharged := now - lease.gracePeriodEnd }
  else lease

section Overdue

variable {lease : LeaseInstance} {before now : U64}

theorem LeaseInstance.overdueAt_of_late (late : lease.gracePeriodEnd < now) :
    lease.overdueAt now = { lease with
      debt := lease.debt + lease.lateFeeFlat +
        (now - lease.gracePeriodEnd : Nat) * lease.lateFeePerSec
      flags := lease.flags.raise .flatFeeApplied
      secondsLateCharged := now - lease.gracePeriodEnd } :=
  if_pos late

theorem LeaseInstance.overdueAt_of_not_late (timely : ¬ lease.gracePeriodEnd < now) :
    lease.overdueAt now = lease :=
  if_neg timely

theorem LeaseInstance.Uncharged.checkedAt (uncharged : lease.Uncharged) :
    lease.checkedAt now = lease.overdueAt now := by
  by_cases late : lease.gracePeriodEnd < now
  · have seconds : lease.flatCharged.secondsLateCharged < now - lease.gracePeriodEnd := by
      rw [flatCharged_secondsLateCharged, uncharged.seconds]
      exact Nat.sub_pos_of_lt late
    rw [LeaseInstance.checkedAt, if_pos late, lateCharged, if_pos seconds, flatCharged,
      if_pos uncharged.flat, overdueAt_of_late late, uncharged.seconds, Nat.sub_zero]
  · rw [LeaseInstance.checkedAt, if_neg late, overdueAt_of_not_late late]

theorem LeaseFlags.has_raise_flatFeeApplied (flags : LeaseFlags) :
    (flags.raise .flatFeeApplied).has .flatFeeApplied = true := by
  revert flags
  decide

theorem LeaseInstance.overdueAt_flatCharged (charged : lease.gracePeriodEnd < before) :
    (lease.overdueAt before).flatCharged = lease.overdueAt before := by
  rw [overdueAt_of_late charged]
  exact if_neg (by rw [LeaseFlags.has_raise_flatFeeApplied]; simp)

theorem LeaseInstance.overdueAt_gracePeriodEnd :
    (lease.overdueAt before).gracePeriodEnd = lease.gracePeriodEnd := by
  unfold overdueAt
  split <;> rfl

theorem LeaseInstance.overdueAt_secondsLateCharged (charged : lease.gracePeriodEnd < before) :
    (lease.overdueAt before).secondsLateCharged = before - lease.gracePeriodEnd := by
  rw [overdueAt_of_late charged]

/-- The seconds up to a check and those from there on are charged like all of them. -/
theorem LeaseInstance.overdueAt_lateCharged (charged : lease.gracePeriodEnd < before)
    (later : before < now) :
    (lease.overdueAt before).lateCharged (now - lease.gracePeriodEnd) = lease.overdueAt now := by
  have late : lease.gracePeriodEnd < now := charged.trans later
  have more : (lease.overdueAt before).secondsLateCharged < now - lease.gracePeriodEnd := by
    rw [overdueAt_secondsLateCharged charged]
    exact Nat.sub_lt_sub_right charged.le later
  have parts : ((now - lease.gracePeriodEnd : Nat) : Int) = (before - lease.gracePeriodEnd : Nat) +
      (now - lease.gracePeriodEnd - (before - lease.gracePeriodEnd) : Nat) := by
    rw [← Nat.cast_add, Nat.add_sub_cancel' (Nat.sub_le_sub_right later.le _)]
  rw [lateCharged, if_pos more, overdueAt_of_late charged, overdueAt_of_late late, parts,
    add_mul, ← add_assoc]

theorem LeaseInstance.Uncharged.overdueAt_checkedAt (uncharged : lease.Uncharged) :
    (lease.overdueAt before).checkedAt now = lease.overdueAt (max before now) := by
  by_cases charged : lease.gracePeriodEnd < before
  · rw [LeaseInstance.checkedAt, overdueAt_gracePeriodEnd, overdueAt_flatCharged charged]
    rcases lt_or_ge before now with later | earlier
    · rw [if_pos (charged.trans later), overdueAt_lateCharged charged later,
        max_eq_right later.le]
    · have none : ¬ (lease.overdueAt before).secondsLateCharged < now - lease.gracePeriodEnd := by
        rw [overdueAt_secondsLateCharged charged]
        exact not_lt.mpr (Nat.sub_le_sub_right earlier _)
      rw [max_eq_left earlier, lateCharged, if_neg none, ite_self]
  · rw [overdueAt_of_not_late charged, uncharged.checkedAt]
    by_cases late : lease.gracePeriodEnd < now
    · rw [max_eq_right ((not_lt.mp charged).trans late.le)]
    · have timely : ¬ lease.gracePeriodEnd < max before now :=
        not_lt.mpr (max_le (not_lt.mp charged) (not_lt.mp late))
      rw [overdueAt_of_not_late late, overdueAt_of_not_late timely]

theorem fitsI128_of_part {part all : Nat} {fee : Int} (within : part ≤ all)
    (fits : FitsI128 (all * fee)) : FitsI128 (part * fee) := by
  have zero : i128Min ≤ 0 ∧ (0 : Int) ≤ i128Max := by decide
  have cast : (part : Int) ≤ all := Int.ofNat_le.mpr within
  rcases le_total 0 fee with gains | loses
  · have least : 0 ≤ (part : Int) * fee := mul_nonneg (Int.natCast_nonneg part) gains
    have most : (part : Int) * fee ≤ all * fee := mul_le_mul_of_nonneg_right cast gains
    exact ⟨zero.1.trans least, most.trans fits.2⟩
  · have most : (part : Int) * fee ≤ 0 :=
      mul_nonpos_of_nonneg_of_nonpos (Int.natCast_nonneg part) loses
    have least : (all : Int) * fee ≤ part * fee := mul_le_mul_of_nonpos_right cast loses
    exact ⟨fits.1.trans least, most.trans zero.2⟩

theorem LeaseInstance.overdueAt_lateFeePerSec :
    (lease.overdueAt before).lateFeePerSec = lease.lateFeePerSec := by
  unfold overdueAt
  split <;> rfl

/-- After other checks a check leaves what a single one would. -/
theorem LeaseInstance.Uncharged.checkedAt_of_overdueAt (uncharged : lease.Uncharged)
    (ordered : before ≤ now) : (lease.overdueAt before).checkedAt now = lease.checkedAt now := by
  rw [uncharged.overdueAt_checkedAt, max_eq_right ordered, uncharged.checkedAt]

theorem LeaseInstance.Uncharged.feesFit (uncharged : lease.Uncharged) (ordered : before ≤ now)
    (fits : lease.FeesFit now) : (lease.overdueAt before).FeesFit now := by
  by_cases charged : lease.gracePeriodEnd < before
  · have late : lease.gracePeriodEnd < now := charged.trans_le ordered
    have all : FitsI128 ((now - lease.gracePeriodEnd : Nat) * lease.lateFeePerSec) ∧
        FitsI128 (lease.checkedAt now).debt := by
      have seconds := fits.late late (by
        rw [uncharged.seconds]
        exact Nat.sub_pos_of_lt late)
      rwa [uncharged.seconds, Nat.sub_zero] at seconds
    constructor
    · intro _ unapplied
      rw [overdueAt_of_late charged, LeaseFlags.has_raise_flatFeeApplied] at unapplied
      cases unapplied
    · intro _ _
      rw [overdueAt_lateFeePerSec, uncharged.checkedAt_of_overdueAt ordered,
        overdueAt_gracePeriodEnd]
      exact ⟨fitsI128_of_part (Nat.sub_le _ _) all.1, all.2⟩
  · rwa [overdueAt_of_not_late charged]

theorem LeaseInstance.overdueAt_unpaidRent (env : Env) :
    unpaidRent env (lease.overdueAt before) = unpaidRent env lease := by
  unfold overdueAt
  split <;> rfl

end Overdue

section Runs

variable {leaseId : LeaseId} {lease : LeaseInstance} {world : World} {now : U64}

/-- The operation checks the lease, no later than the given time, or is not on the lease. -/
def Invocation.ChecksBy (leaseId : LeaseId) (now : U64) (invocation : Invocation) : Prop :=
  (invocation.call = .checkTenantDefault leaseId ∧ invocation.env.timestamp ≤ now) ∨
    invocation.call.subject invocation.env ≠ some leaseId

/-- The lease is stored as charged at once at a time before the given one. -/
def World.ChargedBy (leaseId : LeaseId) (lease : LeaseInstance) (now : U64) (world : World) :
    Prop :=
  ∃ before, before ≤ now ∧ world.leases.lookup leaseId = some (lease.overdueAt before)

theorem World.ChargedBy.step (uncharged : lease.Uncharged) {invocation : Invocation}
    (checks : invocation.ChecksBy leaseId now) (charged : world.ChargedBy leaseId lease now) :
    (LeaseFlow.step invocation world).ChargedBy leaseId lease now := by
  rcases step_cases invocation world with run | same
  · obtain ⟨before, earlier, stored⟩ := charged
    generalize LeaseFlow.step invocation world = after at run ⊢
    obtain ⟨env, call⟩ := invocation
    rcases checks with ⟨check, ordered⟩ | aside
    · obtain rfl : call = .checkTenantDefault leaseId := check
      obtain ⟨total, checked⟩ := (commits_dropResult _ _).mp run
      refine ⟨max before env.timestamp, max_le earlier ordered, ?_⟩
      rw [checkTenantDefault_leases stored checked, uncharged.overdueAt_checkedAt]
    · refine ⟨before, earlier, ?_⟩
      rw [(dispatch_effect run).movement.frame aside, stored]
  · rwa [same]

/-- However often and whenever a lease is checked for default, the last check leaves the record
and returns the debt that it would have without the others: the flat fee is charged once, and each
second past the grace period once.  Other leases may be operated on in between. -/
theorem lateFees_charged_once (calls : List Invocation) (env : Env) (after : World) (total : I128)
    (found : world.leases.lookup leaseId = some lease) (uncharged : lease.Uncharged)
    (checks : ∀ invocation ∈ calls, invocation.ChecksBy leaseId env.timestamp)
    (single : Commits (checkTenantDefault env leaseId) world total after) :
    ∃ last, Commits (checkTenantDefault env leaseId) (Run.run step calls world) total last ∧
      last.leases.lookup leaseId = after.leases.lookup leaseId ∧
      after.leases.lookup leaseId = some (lease.overdueAt env.timestamp) := by
  obtain ⟨fees, fits, rfl⟩ := (checkTenantDefault_commits_iff found).mp ⟨after, single⟩
  have initially : world.ChargedBy leaseId lease env.timestamp := by
    refine ⟨0, Nat.zero_le _, ?_⟩
    rw [LeaseInstance.overdueAt_of_not_late (Nat.not_lt_zero _)]
    exact found
  obtain ⟨before, earlier, stored⟩ := Run.invariant_along
    (fun _ _ checks charged => World.ChargedBy.step uncharged checks charged)
    (@Run.meetsAlong_of_forall _ _ step _ _ checks world) initially
  have charged := uncharged.checkedAt_of_overdueAt earlier
  have alike := @checkTenantDefault_commits_iff env _ leaseId _
    (unpaidRent env lease + (lease.checkedAt env.timestamp).debt) stored
  rw [charged, LeaseInstance.overdueAt_unpaidRent] at alike
  obtain ⟨last, run⟩ := alike.mpr ⟨uncharged.feesFit earlier fees, fits, rfl⟩
  refine ⟨last, run, ?_, ?_⟩
  · rw [checkTenantDefault_leases stored run, checkTenantDefault_leases found single, charged]
  · rw [checkTenantDefault_leases found single, uncharged.checkedAt]

end Runs

/-! ## A late tenant -/

/-- A lease whose tenant has until 100, then owes 5 and 2 more for each second. -/
def lateProposal : CreateLeaseParams :=
  { sampleProposal 200 50 with gracePeriodEnd := 100, lateFeeFlat := 5, lateFeePerSec := 2 }

def lateWorld : World :=
  step ⟨openLedger 50 0, .createLeaseInstance 8 ⟨1⟩ lateProposal⟩ freshWorld

/-- Checks before and after the grace period, and a proposal of another lease between them. -/
def lateChecks : List Invocation :=
  [callAt 60 (.checkTenantDefault 8), callAt 110 (.checkTenantDefault 8), propose 115 9 200 50,
    callAt 120 (.checkTenantDefault 8)]

/-- At 130 the tenant owes 130 of rent, 5 and 60. -/
theorem lateFees_charged_once_late :
    ∃ last, Commits (checkTenantDefault (openLedger 130 0) 8) (Run.run step lateChecks lateWorld)
        195 last ∧
      last.leases.lookup 8 =
        (step (callAt 130 (.checkTenantDefault 8)) lateWorld).leases.lookup 8 ∧
      (step (callAt 130 (.checkTenantDefault 8)) lateWorld).leases.lookup 8 =
        some ((proposedLease ⟨1⟩ lateProposal 200).overdueAt 130) := by
  have checks : ∀ invocation ∈ lateChecks, invocation.ChecksBy 8 130 := by
    simp only [lateChecks, List.forall_mem_cons, List.not_mem_nil, false_implies, implies_true,
      and_true]
    exact ⟨.inl ⟨rfl, by decide⟩, .inl ⟨rfl, by decide⟩, .inr (by decide), .inl ⟨rfl, by decide⟩⟩
  exact lateFees_charged_once lateChecks (openLedger 130 0) _ 195 rfl ⟨rfl, by decide⟩ checks rfl

end LeaseFlow
