import LeaseFlow.Escrow.History

/-!
# Simulated and executed early terminations

The simulation charges a tenth of the remaining rent and the debt of the lease; the
execution charges the penalties the lease configures, and no debt.
-/

set_option autoImplicit false

namespace LeaseFlow

open Transaction

/-- What a call paid out on one side of a deposit. -/
def transferred (share : DepositShare) (before after : World) : Int :=
  paidOut (forShare share) after.deposits - paidOut (forShare share) before.deposits

/-- A tenth of the remaining rent and the debt. -/
def LeaseInstance.simulatedCharge (lease : LeaseInstance) (remainingTime : U64) : Int :=
  let penalty : Int :=
    if 0 < remainingTime ∧ 0 < lease.rentPerSec then
      (remainingTime * lease.rentPerSec * 1000 : Int).tdiv 10000
    else 0
  penalty + max lease.debt 0

/-- The simulation goes through, and charges what the lease configures unless both take
the whole deposit. -/
structure LeaseInstance.SimulationAgrees (lease : LeaseInstance) (remainingTime : U64) :
    Prop where
  fits : lease.SimulationFits remainingTime
  held : 0 ≤ lease.totalDeposit
  charged : 0 ≤ lease.configuredPenalty remainingTime
  amounts : lease.simulatedCharge remainingTime = lease.configuredPenalty remainingTime ∨
    lease.totalDeposit ≤ lease.simulatedCharge remainingTime ∧
      lease.totalDeposit ≤ lease.configuredPenalty remainingTime

/-! ## The simulation -/

section Simulation

variable {world after : World} {lease : LeaseInstance} {leaseId : LeaseId} {remainingTime : U64}

theorem commits_simulatedPenalty {totalDeposit penalty : I128} :
    Commits (simulatedPenalty lease totalDeposit remainingTime) world penalty after ↔
      (0 < remainingTime → 0 < lease.rentPerSec →
        remainingTime * lease.rentPerSec * 1000 ≤ i128Max) ∧
      penalty = (if 0 < remainingTime ∧ 0 < lease.rentPerSec then
        min ((remainingTime * lease.rentPerSec * 1000 : Int).tdiv 10000) totalDeposit else 0) ∧
      after = world := by
  simp only [simulatedPenalty, commits_ite, commits_bind, commits_checkedI128, commits_pure]
  split
  · next charged =>
      have value : 0 ≤ (remainingTime : Int) * lease.rentPerSec :=
        mul_nonneg (Int.natCast_nonneg _) charged.2.le
      have low : i128Min ≤ 0 := by decide
      constructor
      · rintro ⟨_, _, ⟨_, rfl, rfl⟩, _, _, ⟨range, rfl, rfl⟩, rfl, rfl⟩
        exact ⟨fun _ _ => range.2, rfl, rfl⟩
      · rintro ⟨range, rfl, rfl⟩
        have scaled := range charged.1 charged.2
        exact ⟨_, after, ⟨⟨by linarith, by linarith⟩, rfl, rfl⟩, _, after,
          ⟨⟨by linarith, scaled⟩, rfl, rfl⟩, rfl, rfl⟩
  · next free =>
      constructor
      · rintro ⟨rfl, rfl⟩
        exact ⟨fun remaining rent => absurd ⟨remaining, rent⟩ free, rfl, rfl⟩
      · rintro ⟨_, rfl, rfl⟩
        exact ⟨rfl, rfl⟩

theorem min_simulatedDeduction :
    min (lease.simulatedDeduction remainingTime) lease.totalDeposit =
      min (lease.simulatedCharge remainingTime) lease.totalDeposit := by
  unfold LeaseInstance.simulatedDeduction LeaseInstance.simulatedCharge
  dsimp only
  split <;> omega

theorem le_simulatedDeduction :
    min 0 lease.totalDeposit ≤ lease.simulatedDeduction remainingTime := by
  unfold LeaseInstance.simulatedDeduction
  dsimp only
  split
  · next charged =>
      have penalty : 0 ≤ (remainingTime * lease.rentPerSec * 1000 : Int).tdiv 10000 :=
        Int.tdiv_nonneg (mul_nonneg (mul_nonneg (Int.natCast_nonneg _) charged.2.le)
          (by norm_num)) (by norm_num)
      omega
  · omega

theorem commits_simulateTermination {terminationTimestamp : U64}
    {simulation : TerminationSimulation} (found : world.leases.lookup leaseId = some lease)
    (range : i128Min ≤ lease.totalDeposit ∧ lease.totalDeposit ≤ i128Max) :
    Commits (simulateTermination leaseId terminationTimestamp) world simulation after ↔
      lease.SimulationFits (lease.endDate - terminationTimestamp) ∧
      simulation = ⟨lease.totalDeposit,
        min (lease.simulatedDeduction (lease.endDate - terminationTimestamp)) lease.totalDeposit,
        lease.totalDeposit - min
          (lease.simulatedDeduction (lease.endDate - terminationTimestamp))
          lease.totalDeposit⟩ ∧
      after = world := by
  have least : min 0 lease.totalDeposit ≤
      lease.simulatedDeduction (lease.endDate - terminationTimestamp) := le_simulatedDeduction
  have low : i128Min ≤ 0 := by decide
  have high : 0 ≤ i128Max := by decide
  have deducible : i128Min ≤
      lease.simulatedDeduction (lease.endDate - terminationTimestamp) := by omega
  have refundable : i128Min ≤ lease.totalDeposit -
        min (lease.simulatedDeduction (lease.endDate - terminationTimestamp)) lease.totalDeposit ∧
      lease.totalDeposit -
        min (lease.simulatedDeduction (lease.endDate - terminationTimestamp)) lease.totalDeposit ≤
        i128Max := by omega
  simp only [simulateTermination, commits_bind, commits_loadLeaseInstanceById,
    commits_checkedI128, commits_simulatedPenalty, commits_pure]
  constructor
  · rintro ⟨other, _, ⟨stored, rfl⟩, _, _, ⟨_, rfl, rfl⟩, _, _, ⟨scaled, rfl, rfl⟩, _, _,
      ⟨deduction, rfl, rfl⟩, _, _, ⟨_, rfl, rfl⟩, rfl, rfl⟩
    obtain rfl : lease = other := Option.some.inj (found.symm.trans stored)
    exact ⟨⟨scaled, deduction.2⟩, rfl, rfl⟩
  · rintro ⟨fits, rfl, rfl⟩
    exact ⟨lease, after, ⟨found, rfl⟩, _, after, ⟨range, rfl, rfl⟩, _, after,
      ⟨fits.scaled, rfl, rfl⟩, _, after, ⟨⟨deducible, fits.deduction⟩, rfl, rfl⟩, _, after,
      ⟨refundable, rfl, rfl⟩, rfl, rfl⟩

end Simulation

/-! ## The execution -/

section Execution

variable {env : Env} {world : World} {leaseId : LeaseId} {caller : Address}
  {lease : LeaseInstance}

/-- The amounts a committed early termination transferred. -/
theorem earlyTermination_transferred
    (committed : Invocation.Committed ⟨env, .executeEarlyTermination leaseId caller⟩ world)
    (found : world.leases.lookup leaseId = some lease) :
    lease.EndsEarly env.timestamp ∧
      transferred .tenantRefund world
        (step ⟨env, .executeEarlyTermination leaseId caller⟩ world) =
        max (lease.totalDeposit - lease.finalPenalty env.timestamp) 0 ∧
      transferred .landlordPayout world
        (step ⟨env, .executeEarlyTermination leaseId caller⟩ world) =
        max (lease.finalPenalty env.timestamp) 0 := by
  obtain ⟨other, stored, _, _, timely, moved⟩ :=
    executeEarlyTermination_commits committed.commits
  obtain rfl : lease = other := Option.some.inj (found.symm.trans stored)
  have deposits : (step ⟨env, .executeEarlyTermination leaseId caller⟩ world).deposits =
      shareEntries env leaseId lease (lease.totalDeposit - lease.finalPenalty env.timestamp)
        (lease.finalPenalty env.timestamp) ++ world.deposits := by
    obtain ⟨_, same⟩ := moved
    exact congrArg Escrow.deposits same
  refine ⟨timely, ?_, ?_⟩
  · rw [transferred, deposits, paidOut_append, add_sub_cancel_right, paidOut_shareEntries]
    simp [forShare]
  · rw [transferred, deposits, paidOut_append, add_sub_cancel_right, paidOut_shareEntries]
    simp [forShare]

theorem shares_agree_iff {total deduction charge configured : Int}
    (capped : min deduction total = min charge total) :
    (total - min deduction total = max (total - min configured total) 0 ∧
      min deduction total = max (min configured total) 0) ↔
      0 ≤ total ∧ 0 ≤ configured ∧
        (charge = configured ∨ total ≤ charge ∧ total ≤ configured) := by
  omega

/-- On a lease whose early termination goes through, the simulation reports the amounts
the execution transfers exactly under the stated condition. -/
theorem simulation_agrees_iff
    (committed : Invocation.Committed ⟨env, .executeEarlyTermination leaseId caller⟩ world)
    (found : world.leases.lookup leaseId = some lease) :
    (∃ simulation, Commits (simulateTermination leaseId env.timestamp) world simulation world ∧
      simulation.projectedRefund = transferred .tenantRefund world
        (step ⟨env, .executeEarlyTermination leaseId caller⟩ world) ∧
      simulation.penaltyAmount = transferred .landlordPayout world
        (step ⟨env, .executeEarlyTermination leaseId caller⟩ world)) ↔
      lease.SimulationAgrees (lease.endDate - env.timestamp) := by
  obtain ⟨timely, refund, payout⟩ := earlyTermination_transferred committed found
  have capped : min (lease.simulatedDeduction (lease.endDate - env.timestamp)) lease.totalDeposit =
      min (lease.simulatedCharge (lease.endDate - env.timestamp)) lease.totalDeposit :=
    min_simulatedDeduction
  rw [refund, payout, LeaseInstance.finalPenalty]
  simp only [commits_simulateTermination found timely.totalRange]
  constructor
  · rintro ⟨_, ⟨fits, rfl, _⟩, refunds, pays⟩
    obtain ⟨held, charged, amounts⟩ := (shares_agree_iff capped).mp ⟨refunds, pays⟩
    exact ⟨fits, held, charged, amounts⟩
  · rintro ⟨fits, held, charged, amounts⟩
    obtain ⟨refunds, pays⟩ := (shares_agree_iff capped).mpr ⟨held, charged, amounts⟩
    exact ⟨_, ⟨fits, rfl, trivial⟩, refunds, pays⟩

end Execution

/-- A lease without rent and debt, for which both sides charge nothing. -/
def rentlessProposal : Invocation :=
  ⟨openLedger 0 0, .createLeaseInstance 7 ⟨1⟩ { sampleProposal 200 50 with rentPerSec := 0 }⟩

theorem rentless_simulation_agrees :
    ∃ simulation, Commits (simulateTermination 7 100001) (step rentlessProposal freshWorld)
        simulation (step rentlessProposal freshWorld) ∧
      simulation.projectedRefund = transferred .tenantRefund (step rentlessProposal freshWorld)
        (step (callAt 100001 (.executeEarlyTermination 7 ⟨2⟩))
          (step rentlessProposal freshWorld)) ∧
      simulation.penaltyAmount = transferred .landlordPayout (step rentlessProposal freshWorld)
        (step (callAt 100001 (.executeEarlyTermination 7 ⟨2⟩))
          (step rentlessProposal freshWorld)) := by
  have committed : Invocation.Committed ⟨openLedger 100001 0, .executeEarlyTermination 7 ⟨2⟩⟩
      (step rentlessProposal freshWorld) := show _ = true by decide
  exact (simulation_agrees_iff committed rfl).mpr
    ⟨⟨by decide, by decide⟩, by decide, by decide, .inl (by decide)⟩

/-- A lease without configured penalties refunds everything, while the simulation takes
the whole deposit for a tenth of the remaining rent. -/
theorem simulation_disagrees :
    Commits (simulateTermination 7 100001) (step (propose 0 7 200 50) freshWorld) ⟨250, 250, 0⟩
      (step (propose 0 7 200 50) freshWorld) ∧
    transferred .tenantRefund (step (propose 0 7 200 50) freshWorld)
      (step (callAt 100001 (.executeEarlyTermination 7 ⟨2⟩))
        (step (propose 0 7 200 50) freshWorld)) = 250 := by
  have found : (step (propose 0 7 200 50) freshWorld).leases.lookup 7 =
      some (proposedLease ⟨1⟩ (sampleProposal 200 50) 200) := rfl
  exact ⟨(commits_simulateTermination found (by decide)).mpr
    ⟨⟨by decide, by decide⟩, by decide, rfl⟩, by decide⟩

end LeaseFlow
