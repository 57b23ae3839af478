import LeaseFlow.Holdings.YieldCollateral
import LeaseFlow.Foundations.Proportion

/-!
# Sharing out a yield

A harvest rounds the three shares down one by one, and pays the share of the DAO only where a
recipient is configured.  What it books is the whole yield.
-/

set_option autoImplicit false

namespace LeaseFlow

open Transaction

/-- `get_accumulated_yield`. -/
def YieldStore.accumulated (yield : YieldStore) (leaseId : LeaseId) : I128 :=
  (yield.yieldAccumulated leaseId).getD 0

/-- What a harvest pays to each party. -/
structure YieldShares where
  lessee : I128
  lessor : I128
  dao : I128

namespace YieldShares

def total (shares : YieldShares) : I128 :=
  shares.lessee + shares.lessor + shares.dao

/-- The transfer that carries a share, if there is one to carry. -/
def transferOf (env : Env) (token recipient : Address) (share : I128) : List TokenTransfer :=
  if 0 < share then [⟨token, env.currentContractAddress, recipient, share⟩] else []

/-- The transfers that carry the shares of a lease, newest first. -/
def transfers (env : Env) (lease : LeaseInstance) (daoAddress : Address) (shares : YieldShares) :
    List TokenTransfer :=
  transferOf env lease.paymentToken daoAddress shares.dao ++
    (transferOf env lease.paymentToken lease.landlord shares.lessor ++
      transferOf env lease.paymentToken lease.tenant shares.lessee)

/-- No share is negative, each is within one unit of its part of the yield, and together they
are all of it. -/
structure Complete (totalYield : I128) (shares : YieldShares) : Prop where
  lessee_nonneg : 0 ≤ shares.lessee
  lessor_nonneg : 0 ≤ shares.lessor
  dao_nonneg : 0 ≤ shares.dao
  lessee_near : |(10000 * shares.lessee - 5000 * totalYield : Int)| ≤ 10000
  lessor_near : |(10000 * shares.lessor - 3000 * totalYield : Int)| ≤ 10000
  dao_near : |(10000 * shares.dao - 2000 * totalYield : Int)| ≤ 10000
  whole : shares.total = totalYield

/-- The shares were carried to the parties of the lease and to the configured recipient. -/
def CarriedIn (env : Env) (lease : LeaseInstance) (shares : YieldShares) (before after : World) :
    Prop :=
  ∃ daoAddress, (0 < shares.dao → before.config.platformFeeRecipient = some daoAddress) ∧
    after.outbox.payments = shares.transfers env lease daoAddress ++ before.outbox.payments

end YieldShares

/-- The yield left the contract in complete shares, and what was booked for the lease is what
left. -/
def World.YieldDistributed (env : Env) (leaseId : LeaseId) (lease : LeaseInstance)
    (totalYield : I128) (before after : World) : Prop :=
  ∃ shares : YieldShares, shares.Complete totalYield ∧ shares.CarriedIn env lease before after ∧
    after.yield.accumulated leaseId = before.yield.accumulated leaseId + shares.total

/-! ## Amounts -/

theorem YieldShares.sum_transferOf (env : Env) (token recipient : Address) {share : I128}
    (nonneg : 0 ≤ share) :
    ((transferOf env token recipient share).map TokenTransfer.amount).sum = share := by
  unfold transferOf
  split
  · exact List.sum_singleton
  · next free => exact le_antisymm nonneg (not_lt.mp free)

theorem YieldShares.sum_transfers (env : Env) (lease : LeaseInstance) (daoAddress : Address)
    {shares : YieldShares} (lessee : 0 ≤ shares.lessee) (lessor : 0 ≤ shares.lessor)
    (dao : 0 ≤ shares.dao) :
    ((shares.transfers env lease daoAddress).map TokenTransfer.amount).sum = shares.total := by
  simp only [transfers, List.map_append, List.sum_append, sum_transferOf, lessee, lessor, dao,
    total]
  exact (add_comm _ _).trans (congrArg (· + shares.dao) (add_comm _ _))

theorem YieldShares.CarriedIn.total_eq {env : Env} {lease : LeaseInstance}
    {shares others : YieldShares} {before after : World}
    (carried : shares.CarriedIn env lease before after)
    (also : others.CarriedIn env lease before after)
    (nonneg : 0 ≤ shares.lessee ∧ 0 ≤ shares.lessor ∧ 0 ≤ shares.dao)
    (others_nonneg : 0 ≤ others.lessee ∧ 0 ≤ others.lessor ∧ 0 ≤ others.dao) :
    shares.total = others.total := by
  obtain ⟨daoAddress, _, paid⟩ := carried
  obtain ⟨otherAddress, _, same⟩ := also
  have transfers := List.append_cancel_right (paid.symm.trans same)
  rw [← sum_transfers env lease daoAddress nonneg.1 nonneg.2.1 nonneg.2.2, transfers,
    sum_transfers env lease otherAddress others_nonneg.1 others_nonneg.2.1 others_nonneg.2.2]

/-- Everything the contract has paid besides deposits. -/
def Outbox.paid (outbox : Outbox) : I128 :=
  (outbox.payments.map TokenTransfer.amount).sum

theorem World.YieldDistributed.left {env : Env} {leaseId : LeaseId} {lease : LeaseInstance}
    {totalYield : I128} {before after : World}
    (distributed : World.YieldDistributed env leaseId lease totalYield before after) :
    after.outbox.paid = before.outbox.paid + totalYield ∧
      after.yield.accumulated leaseId = before.yield.accumulated leaseId + totalYield := by
  obtain ⟨shares, complete, ⟨daoAddress, _, paid⟩, booked⟩ := distributed
  rw [complete.whole] at booked
  refine ⟨?_, booked⟩
  rw [Outbox.paid, paid, List.map_append, List.sum_append,
    YieldShares.sum_transfers env lease daoAddress complete.lessee_nonneg complete.lessor_nonneg
      complete.dao_nonneg, complete.whole]
  exact add_comm _ _

/-! ## The shares of a harvest -/

/-- What a harvest pays of a yield: the share of the DAO stays where no recipient is set. -/
def World.paidYield (world : World) (totalYield : I128) : YieldShares where
  lessee := (calculateYieldDistribution totalYield).1
  lessor := (calculateYieldDistribution totalYield).2.1
  dao := if world.config.platformFeeRecipient = none then 0
    else (calculateYieldDistribution totalYield).2.2

/-- The yield is rounded nowhere, and its largest part does not saturate. -/
def World.PaysWholeYield (world : World) (totalYield : I128) : Prop :=
  10 ∣ (totalYield : Int) ∧ (totalYield * 5000 : Int) ≤ i128Max ∧
    world.config.platformFeeRecipient ≠ none

section Shares

variable {world after : World} {env : Env} {leaseId : LeaseId} {lease : LeaseInstance}
  {totalYield : I128}

theorem yieldShare_eq (positive : 0 < totalYield) {bps : Int} (bps_nonneg : 0 ≤ bps) :
    (saturatingI128 (totalYield * bps)).tdiv 10000 = min (totalYield * bps) i128Max / 10000 := by
  have product : (0 : Int) ≤ totalYield * bps := mul_nonneg positive.le bps_nonneg
  have capped : saturatingI128 (totalYield * bps) = min (totalYield * bps) i128Max :=
    max_eq_right (le_min (le_trans (by decide) product) (by decide))
  rw [capped, Int.tdiv_eq_ediv_of_nonneg (le_min product (by decide))]

theorem paidYield_nonneg (world : World) (positive : 0 < totalYield) :
    0 ≤ (world.paidYield totalYield).lessee ∧ 0 ≤ (world.paidYield totalYield).lessor ∧
      0 ≤ (world.paidYield totalYield).dao := by
  have share {bps : Int} (bps_nonneg : 0 ≤ bps) :
      0 ≤ (saturatingI128 (totalYield * bps)).tdiv 10000 := by
    rw [yieldShare_eq positive bps_nonneg]
    exact Int.ediv_nonneg (le_min (mul_nonneg positive.le bps_nonneg) (by decide)) (by decide)
  refine ⟨share (by decide), share (by decide), ?_⟩
  unfold World.paidYield
  split
  · exact le_rfl
  · exact share (by decide)

/-- Capped and rounded shares of one half, three tenths and a fifth make up a whole exactly when
ten divides it and its half is not capped. -/
theorem cappedShares_whole_iff {whole cap : Int} (positive : 0 < whole) :
    min (whole * 5000) cap / 10000 + min (whole * 3000) cap / 10000 +
        min (whole * 2000) cap / 10000 = whole ↔
      10 ∣ whole ∧ whole * 5000 ≤ cap := by
  have below (bps : Int) : min (whole * bps) cap / 10000 * 10000 ≤ bps * whole := by
    rw [mul_comm bps]
    exact (Int.ediv_mul_le _ (by decide)).trans (min_le_left _ _)
  have whole_iff := @Proportion.sum_amounts_eq_iff 10000 whole whole [5000, 3000, 2000]
    (fun bps => min (whole * bps) cap / 10000) (by decide) (fun bps _ => below bps)
    (le_of_eq (mul_comm _ _))
  simp only [List.map_cons, List.map_nil, List.sum_cons, List.sum_nil, List.forall_mem_cons]
    at whole_iff
  rw [add_assoc, ← add_zero (min (whole * 2000) cap / 10000), whole_iff]
  constructor
  · rintro ⟨_, half, tenths, fifth, _⟩
    omega
  · rintro ⟨divides, fits⟩
    refine ⟨mul_comm _ _, ?_, ?_, ?_, nofun⟩ <;> omega

theorem cappedShares_part_lt {whole cap : Int} (positive : 0 < whole) :
    min (whole * 5000) cap / 10000 + min (whole * 3000) cap / 10000 < whole := by
  omega

/-- What is paid of a positive yield is all of it exactly when nothing is rounded, capped or
kept. -/
theorem paidYield_total_iff (world : World) (positive : 0 < totalYield) :
    (world.paidYield totalYield).total = totalYield ↔ world.PaysWholeYield totalYield := by
  have lessee := yieldShare_eq positive (show (0 : Int) ≤ 5000 by decide)
  have lessor := yieldShare_eq positive (show (0 : Int) ≤ 3000 by decide)
  have dao := yieldShare_eq positive (show (0 : Int) ≤ 2000 by decide)
  simp only [World.paidYield, YieldShares.total, calculateYieldDistribution,
    World.PaysWholeYield, lessee, lessor, dao]
  by_cases unset : world.config.platformFeeRecipient = none
  · simp only [unset, if_true, ne_eq, not_true, and_false, iff_false, add_zero]
    exact (cappedShares_part_lt positive).ne
  · simp only [unset, if_false, ne_eq, not_false_iff, and_true]
    exact cappedShares_whole_iff positive

theorem paidYield_complete (positive : 0 < totalYield)
    (pays : world.PaysWholeYield totalYield) :
    (world.paidYield totalYield).Complete totalYield := by
  obtain ⟨lessee_nonneg, lessor_nonneg, dao_nonneg⟩ := paidYield_nonneg world positive
  have whole := (paidYield_total_iff world positive).mpr pays
  obtain ⟨divides, fits, set⟩ := pays
  have part {bps : Int} (bps_nonneg : 0 ≤ bps) (bps_le : bps ≤ 5000) :
      (saturatingI128 (totalYield * bps)).tdiv 10000 = totalYield * bps / 10000 := by
    rw [yieldShare_eq positive bps_nonneg, min_eq_left]
    exact (mul_le_mul_of_nonneg_left bps_le positive.le).trans fits
  refine ⟨lessee_nonneg, lessor_nonneg, dao_nonneg, ?_, ?_, ?_, whole⟩
  · have share : (world.paidYield totalYield).lessee = totalYield * 5000 / 10000 :=
      part (by decide) (by decide)
    rw [share, abs_le]
    omega
  · have share : (world.paidYield totalYield).lessor = totalYield * 3000 / 10000 :=
      part (by decide) (by decide)
    rw [share, abs_le]
    omega
  · have share : (world.paidYield totalYield).dao = totalYield * 2000 / 10000 :=
      (if_neg set).trans (part (by decide) (by decide))
    rw [share, abs_le]
    omega

/-! ## The harvest -/

theorem payYieldShare_payments {token recipient : Address} {share : I128} {result : Unit}
    (run : Commits (payYieldShare env token recipient share) world result after) :
    after.outbox.payments =
      YieldShares.transferOf env token recipient share ++ world.outbox.payments := by
  simp only [payYieldShare, commits_ite, transfer, commits_bind, commits_demand, commits_modify,
    commits_pure] at run
  unfold YieldShares.transferOf
  split at run
  · next some =>
      obtain ⟨_, _, ⟨_, rfl⟩, rfl⟩ := run
      rw [if_pos some]
      rfl
  · next none =>
      rw [if_neg none, run.2]
      rfl

theorem payDaoShare_payments {token : Address} {share : I128} {result : Unit}
    (run : Commits (payDaoShare env token share) world result after) :
    ∃ daoAddress,
      (world.config.platformFeeRecipient ≠ none →
        world.config.platformFeeRecipient = some daoAddress) ∧
      after.outbox.payments =
        YieldShares.transferOf env token daoAddress
          (if world.config.platformFeeRecipient = none then 0 else share) ++
          world.outbox.payments := by
  rw [payDaoShare, commits_bind] at run
  obtain ⟨found, start, looked, paid⟩ := run
  obtain ⟨read, same⟩ := (commits_inspect _ _).mp looked
  rw [read, same] at paid
  cases recipient : world.config.platformFeeRecipient with
  | none =>
      rw [recipient] at paid
      rw [((commits_pure _ _).mp paid).2]
      exact ⟨env.currentContractAddress, fun set => absurd rfl set, rfl⟩
  | some daoAddress =>
      rw [recipient] at paid
      exact ⟨daoAddress, fun _ => rfl, payYieldShare_payments paid⟩

/-- What a harvest that goes through pays and books. -/
theorem harvestYield_pays {deployment : YieldDeployment} {result : Unit}
    (run : Commits (harvestYield env leaseId) world result after)
    (found : world.leases.lookup leaseId = some lease)
    (deployed : world.yield.yieldDeployment leaseId = some deployment)
    (claimed : env.contracts.claimRewards deployment.yieldProtocol = some totalYield) :
    0 < totalYield ∧ (world.paidYield totalYield).CarriedIn env lease world after ∧
      after.yield.accumulated leaseId = world.yield.accumulated leaseId + totalYield := by
  obtain ⟨_, _, _, w1, w2, w3, stored, there, answered, positive, lessee, lessor, dao, kept,
    yield⟩ := harvestYield_commits run
  obtain rfl := Option.some.inj (stored.symm.trans deployed)
  obtain rfl := Option.some.inj (there.symm.trans found)
  obtain rfl := Option.some.inj (answered.symm.trans claimed)
  refine ⟨positive, ?_, ?_⟩
  · have same : Part.read .settings w2 = Part.read .settings world :=
      (part_kept .settings lessor (by simp)).trans (part_kept .settings lessee (by simp))
    have settings := congrArg ConfigStore.platformFeeRecipient same
    change w2.config.platformFeeRecipient = world.config.platformFeeRecipient at settings
    obtain ⟨daoAddress, recipient, paid⟩ := payDaoShare_payments dao
    rw [settings] at recipient paid
    refine ⟨daoAddress, fun some => recipient fun unset => ?_, ?_⟩
    · exact absurd some (by simp [World.paidYield, unset])
    · rw [kept, paid, payYieldShare_payments lessor, payYieldShare_payments lessee]
      simp only [YieldShares.transfers, List.append_assoc]
      rfl
  · rw [YieldStore.accumulated, yield]
    dsimp only
    rw [Function.update_self]
    rfl

/-- A harvest that goes through distributes the yield completely exactly when ten divides the
yield, half of it fits after scaling, and a recipient of the DAO's share is configured. -/
theorem harvest_distributes_iff {invocation : Invocation} {deployment : YieldDeployment}
    (committed : invocation.Committed world)
    (harvests : invocation.call = .harvestYield leaseId)
    (found : world.leases.lookup leaseId = some lease)
    (deployed : world.yield.yieldDeployment leaseId = some deployment)
    (claimed : invocation.env.contracts.claimRewards deployment.yieldProtocol =
      some totalYield) :
    world.YieldDistributed invocation.env leaseId lease totalYield (step invocation world) ↔
      world.PaysWholeYield totalYield := by
  have run := committed.commits
  rw [Invocation.body, harvests] at run
  obtain ⟨positive, carried, booked⟩ := harvestYield_pays run found deployed claimed
  have nonneg := paidYield_nonneg world positive
  constructor
  · rintro ⟨shares, complete, also, _⟩
    apply (paidYield_total_iff world positive).mp
    rw [carried.total_eq also nonneg
      ⟨complete.lessee_nonneg, complete.lessor_nonneg, complete.dao_nonneg⟩, complete.whole]
  · intro pays
    have complete := paidYield_complete positive pays
    refine ⟨world.paidYield totalYield, complete, carried, ?_⟩
    rw [complete.whole]
    exact booked

end Shares

/-- Half of the deposit of lease 7 is lent out, for a contract with the given fee recipient. -/
def lentWorld (feeRecipient : Option Address) : World :=
  Run.run step [propose 100000 7 50 0, lend] (World.genesis { openSettings with
    whitelistedYieldProtocol := fun _ => true
    liquidityBuffer := some 1000
    platformFeeRecipient := feeRecipient } openBilling none)

/-- A harvest for lease 7 that finds the given rewards. -/
def harvest (totalYield : I128) : Invocation :=
  ⟨{ openLedger 100002 0 with
      contracts := { agreeableContracts with claimRewards := fun _ => some totalYield } },
    .harvestYield 7⟩

/-- A yield of ten is shared out as five, three and two. -/
theorem yield_of_ten_distributed :
    ∃ lease, (lentWorld (some ⟨4⟩)).leases.lookup 7 = some lease ∧
      World.YieldDistributed (harvest 10).env 7 lease 10 (lentWorld (some ⟨4⟩))
        (step (harvest 10) (lentWorld (some ⟨4⟩))) := by
  obtain ⟨lease, found⟩ := Option.isSome_iff_exists.mp
    (show ((lentWorld (some ⟨4⟩)).leases.lookup 7).isSome = true by decide)
  have committed : (harvest 10).Committed (lentWorld (some ⟨4⟩)) := show _ = true by decide
  have deployed : (lentWorld (some ⟨4⟩)).yield.yieldDeployment 7 =
      some ⟨7, 25, ⟨8⟩, 100001, 25, true⟩ := rfl
  refine ⟨lease, found, (harvest_distributes_iff committed rfl found deployed rfl).mpr ?_⟩
  exact ⟨by decide, by decide, nofun⟩

/-- Of a yield of seven one unit stays behind, and without a recipient the share of the DAO
does. -/
theorem yield_kept_back :
    ((harvest 7).Committed (lentWorld (some ⟨4⟩)) ∧
      ∀ lease, ¬ World.YieldDistributed (harvest 7).env 7 lease 7 (lentWorld (some ⟨4⟩))
        (step (harvest 7) (lentWorld (some ⟨4⟩)))) ∧
    (harvest 10).Committed (lentWorld none) ∧
      ∀ lease, ¬ World.YieldDistributed (harvest 10).env 7 lease 10 (lentWorld none)
        (step (harvest 10) (lentWorld none)) := by
  refine ⟨⟨show _ = true by decide, fun lease distributed => ?_⟩, show _ = true by decide,
    fun lease distributed => ?_⟩
  · exact absurd distributed.left.1 (by decide)
  · exact absurd distributed.left.1 (by decide)

end LeaseFlow
