import LeaseFlow.Archive.Removal
import LeaseFlow.Holdings.Books

/-!
# Collateral lent to yield protocols

One slot for each lease records the collateral that is lent out for it.  A second deployment
overwrites the slot, and the closing paths do not look at it, so LP tokens are lost with the
slot that recorded them or with the record that could take them back.
-/

set_option autoImplicit false

namespace LeaseFlow

open Transaction

/-- A deployment of the lease is recorded as active. -/
def YieldStore.deployed (yield : YieldStore) (leaseId : LeaseId) : Bool :=
  (yield.yieldDeployment leaseId).any YieldDeployment.active

/-- The LP tokens that the record of a lease's deployment accounts for. -/
def YieldStore.activeLpTokens (yield : YieldStore) (leaseId : LeaseId) : I128 :=
  match yield.yieldDeployment leaseId with
  | some deployment => if deployment.active = true then deployment.lpTokens else 0
  | none => 0

/-- The LP tokens that a withdrawal for the lease hands back to the protocol. -/
def YieldStore.redeemed (yield : YieldStore) (leaseId : LeaseId) : I128 :=
  (yield.yieldDeployment leaseId).elim 0 YieldDeployment.lpTokens

/-! ## The holdings -/

/-- The LP tokens held for each lease after a call went through: a protocol credits those it
returns, and takes back those it is handed. -/
def bookLp (env : Env) (world : World) (call : Call) (held : LeaseId → I128) : LeaseId → I128 :=
  match call with
  | .deployEscrowToYield leaseId yieldProtocol deployAmount _ =>
      Function.update held leaseId
        (held leaseId + (env.contracts.yieldDeposit yieldProtocol deployAmount).getD 0)
  | .withdrawFromYield leaseId _ =>
      Function.update held leaseId (held leaseId - world.yield.redeemed leaseId)
  | _ => held

/-- The records account for the LP tokens held, and the record of every lease with an active
deployment is live. -/
structure CollateralTracked (world : World) (held : LeaseId → I128) : Prop where
  outstanding : ∀ leaseId, held leaseId = world.yield.activeLpTokens leaseId
  live : ∀ leaseId, world.yield.deployed leaseId = true → world.leases.lookup leaseId ≠ none

/-- The call replaces a deployment that still holds LP tokens, or removes the record of a
lease whose collateral is lent out. -/
inductive Call.Strands (world : World) : Call → Prop where
  | overwrites {leaseId : LeaseId} {yieldProtocol : Address} {deployAmount : I128}
      {maxSlippageBps : U32} (holds : world.yield.activeLpTokens leaseId ≠ 0) :
      Call.Strands world
        (.deployEscrowToYield leaseId yieldProtocol deployAmount maxSlippageBps)
  | abandons {call : Call} {leaseId : LeaseId} (removes : call.removes world = some leaseId)
      (deployed : world.yield.deployed leaseId = true) : Call.Strands world call

/-! ## The recorded deployments -/

section Deployments

variable {env : Env} {world after : World} {leaseId : LeaseId} {call : Call}

theorem deployEscrowToYield_deployed {yieldProtocol : Address} {deployAmount : I128}
    {maxSlippageBps : U32} {result : Unit}
    (run : Commits (deployEscrowToYield env leaseId yieldProtocol deployAmount maxSlippageBps)
      world result after) :
    ∃ deployment : YieldDeployment, deployment.active = true ∧
      env.contracts.yieldDeposit yieldProtocol deployAmount = some deployment.lpTokens ∧
      after.yield.yieldDeployment =
        Function.update world.yield.yieldDeployment leaseId (some deployment) := by
  obtain ⟨lease, lpTokens, w1, w2, _, credited, deployed, saved, adjusted⟩ :=
    deployEscrowToYield_steps run
  have kept : after.yield = w1.yield :=
    (part_kept .yield adjusted (by simp)).trans (part_kept .yield saved (by simp))
  refine ⟨⟨leaseId, deployAmount, yieldProtocol, env.timestamp, lpTokens, true⟩, rfl, credited, ?_⟩
  rw [kept, (commits_modify _ _).mp deployed]

theorem withdrawFromYield_closed {maxSlippageBps : U32} {result : Unit}
    (run : Commits (withdrawFromYield env leaseId maxSlippageBps) world result after) :
    ∃ deployment closed : YieldDeployment,
      world.yield.yieldDeployment leaseId = some deployment ∧ deployment.active = true ∧
      closed.active = false ∧ after.yield.yieldDeployment =
        Function.update world.yield.yieldDeployment leaseId (some closed) := by
  obtain ⟨deployment, withdrawnAmount, lease, w1, w2, stored, active, _, _, saved, closed,
    adjusted⟩ := withdrawFromYield_steps run
  have start : w1.yield = world.yield := part_kept .yield saved (by simp)
  have finish : after.yield = w2.yield := part_kept .yield adjusted (by simp)
  refine ⟨deployment, { deployment with active := false, lpTokens := 0 }, stored, active, rfl, ?_⟩
  rw [finish, (commits_modify _ _).mp closed, ← start]

theorem harvestYield_kept {result : Unit}
    (run : Commits (harvestYield env leaseId) world result after) :
    after.yield.yieldDeployment = world.yield.yieldDeployment := by
  obtain ⟨_, _, _, _, _, _, _, _, _, _, _, _, _, _, yield⟩ := harvestYield_commits run
  rw [yield]

theorem dispatch_yieldDeployment (run : Commits (dispatch env call) world () after)
    (idle : call.movesYield = false) :
    after.yield.yieldDeployment = world.yield.yieldDeployment := by
  cases call with
  | harvestYield leaseId => exact harvestYield_kept run
  | deployEscrowToYield | withdrawFromYield => cases idle
  | _ => exact congrArg YieldStore.yieldDeployment (@dispatch_kept _ _ _ _ .yield run (by simp))

/-! ## Steps -/

theorem YieldStore.activeLpTokens_of_active {yield : YieldStore} {deployment : YieldDeployment}
    (stored : yield.yieldDeployment leaseId = some deployment)
    (active : deployment.active = true) : yield.activeLpTokens leaseId = deployment.lpTokens := by
  rw [activeLpTokens, stored]
  exact if_pos active

theorem YieldStore.activeLpTokens_of_closed {yield : YieldStore} {deployment : YieldDeployment}
    (stored : yield.yieldDeployment leaseId = some deployment)
    (closed : deployment.active = false) : yield.activeLpTokens leaseId = 0 := by
  rw [activeLpTokens, stored]
  exact if_neg (closed ▸ Bool.false_ne_true)

theorem YieldStore.deployed_congr {before after : YieldStore}
    (same : after.yieldDeployment leaseId = before.yieldDeployment leaseId) :
    after.deployed leaseId = before.deployed leaseId := by
  rw [deployed, deployed, same]

theorem YieldStore.activeLpTokens_congr {before after : YieldStore}
    (same : after.yieldDeployment leaseId = before.yieldDeployment leaseId) :
    after.activeLpTokens leaseId = before.activeLpTokens leaseId := by
  rw [activeLpTokens, activeLpTokens, same]

variable {held : LeaseId → I128}

theorem Escrow.SecurityMoved.lookup_ne {amount : I128} {before after : Escrow}
    (moved : before.SecurityMoved leaseId amount after) {other : LeaseId}
    (live : before.leases.lookup other ≠ none) : after.leases.lookup other ≠ none := by
  obtain ⟨lease, found, rfl⟩ := moved
  by_cases same : other = leaseId
  · subst same
    simp [Escrow.store]
  · simpa [Escrow.store, Table.lookup_set_ne _ _ same] using live

/-- A deployment keeps the records in step with the holdings exactly when the slot it takes
holds no LP tokens. -/
theorem deploy_tracked_iff {yieldProtocol : Address} {deployAmount : I128}
    {maxSlippageBps : U32}
    (run : Commits (deployEscrowToYield env leaseId yieldProtocol deployAmount maxSlippageBps)
      world () after) (tracked : CollateralTracked world held) :
    CollateralTracked after (bookLp env world
        (.deployEscrowToYield leaseId yieldProtocol deployAmount maxSlippageBps) held) ↔
      world.yield.activeLpTokens leaseId = 0 := by
  obtain ⟨deployment, active, credited, stored⟩ := deployEscrowToYield_deployed run
  have moved := deployEscrowToYield_commits run
  obtain ⟨lease, found, _⟩ := id moved
  have recorded : after.yield.yieldDeployment leaseId = some deployment := by
    rw [stored, Function.update_self]
  have aside {other : LeaseId} (differs : other ≠ leaseId) :
      after.yield.yieldDeployment other = world.yield.yieldDeployment other := by
    rw [stored, Function.update_of_ne differs]
  simp only [bookLp, credited, Option.getD_some, tracked.outstanding leaseId]
  constructor
  · intro later
    have total := later.outstanding leaseId
    rw [Function.update_self, YieldStore.activeLpTokens_of_active recorded active] at total
    exact right_eq_add.mp total.symm
  · intro empty
    refine ⟨fun other => ?_, fun other deployed => ?_⟩
    · by_cases same : other = leaseId
      · subst same
        rw [Function.update_self, empty, zero_add,
          YieldStore.activeLpTokens_of_active recorded active]
      · rw [Function.update_of_ne same, YieldStore.activeLpTokens_congr (aside same)]
        exact tracked.outstanding other
    · apply moved.lookup_ne
      by_cases same : other = leaseId
      · rw [same, found]
        nofun
      · exact tracked.live other ((YieldStore.deployed_congr (aside same)).symm.trans deployed)

/-- A withdrawal closes the slot and hands back what it recorded. -/
theorem withdraw_tracked {maxSlippageBps : U32}
    (run : Commits (withdrawFromYield env leaseId maxSlippageBps) world () after)
    (tracked : CollateralTracked world held) :
    CollateralTracked after
      (bookLp env world (.withdrawFromYield leaseId maxSlippageBps) held) := by
  obtain ⟨deployment, closed, recorded, active, inactive, stored⟩ := withdrawFromYield_closed run
  have emptied : after.yield.yieldDeployment leaseId = some closed := by
    rw [stored, Function.update_self]
  have aside {other : LeaseId} (differs : other ≠ leaseId) :
      after.yield.yieldDeployment other = world.yield.yieldDeployment other := by
    rw [stored, Function.update_of_ne differs]
  have handed : world.yield.redeemed leaseId = held leaseId := by
    rw [tracked.outstanding leaseId, YieldStore.activeLpTokens_of_active recorded active,
      YieldStore.redeemed, recorded]
    rfl
  refine ⟨fun other => ?_, fun other deployed => ?_⟩
  · rw [bookLp, handed, sub_self]
    by_cases same : other = leaseId
    · rw [same, Function.update_self, YieldStore.activeLpTokens_of_closed emptied inactive]
    · rw [Function.update_of_ne same, YieldStore.activeLpTokens_congr (aside same)]
      exact tracked.outstanding other
  · apply (withdrawFromYield_commits run).lookup_ne
    by_cases same : other = leaseId
    · rw [same, YieldStore.deployed, emptied] at deployed
      cases deployed.symm.trans inactive
    · exact tracked.live other ((YieldStore.deployed_congr (aside same)).symm.trans deployed)

/-- A call that moves no yield keeps every record in step exactly when it removes no lease
whose collateral is lent out. -/
theorem aside_tracked_iff (run : Commits (dispatch env call) world () after)
    (idle : call.movesYield = false) (tracked : CollateralTracked world held) :
    CollateralTracked after held ↔
      ∀ leaseId, call.removes world = some leaseId → world.yield.deployed leaseId = false := by
  have kept := dispatch_yieldDeployment run idle
  have deployed (leaseId : LeaseId) : after.yield.deployed leaseId = world.yield.deployed leaseId :=
    YieldStore.deployed_congr (congrFun kept leaseId)
  constructor
  · intro later leaseId removes
    by_contra lent
    have lent := Bool.eq_true_of_not_eq_false lent
    obtain ⟨lease, stored⟩ := Option.ne_none_iff_exists'.mp (tracked.live leaseId lent)
    apply later.live leaseId ((deployed leaseId).trans lent)
    exact (dispatch_removes_iff run stored).mpr removes
  · intro spared
    refine ⟨fun leaseId => ?_, fun leaseId lent gone => ?_⟩
    · rw [YieldStore.activeLpTokens_congr (congrFun kept leaseId)]
      exact tracked.outstanding leaseId
    · rw [deployed leaseId] at lent
      obtain ⟨lease, stored⟩ := Option.ne_none_iff_exists'.mp (tracked.live leaseId lent)
      have removes := (dispatch_removes_iff run stored).mp gone
      cases lent.symm.trans (spared leaseId removes)

/-- A committed call keeps the collateral tracked exactly when it strands none. -/
theorem dispatch_tracked_iff (run : Commits (dispatch env call) world () after)
    (tracked : CollateralTracked world held) :
    CollateralTracked after (bookLp env world call held) ↔ ¬ call.Strands world := by
  by_cases moves : call.movesYield = true
  · cases call with
    | deployEscrowToYield leaseId yieldProtocol deployAmount maxSlippageBps =>
        rw [deploy_tracked_iff run tracked]
        constructor
        · intro empty strands
          cases strands with
          | overwrites holds => exact holds empty
          | abandons removes => cases removes
        · intro idle
          by_contra holds
          exact idle (.overwrites holds)
    | withdrawFromYield leaseId maxSlippageBps =>
        refine iff_of_true (withdraw_tracked run tracked) ?_
        intro strands
        cases strands with
        | abandons removes => cases removes
    | _ => cases moves
  · have idle := Bool.eq_false_iff.mpr moves
    have same : bookLp env world call held = held := by
      cases call <;> first | rfl | exact absurd rfl moves
    rw [same, aside_tracked_iff run idle tracked]
    constructor
    · intro spared strands
      cases strands with
      | overwrites => exact moves rfl
      | abandons removes lent => cases lent.symm.trans (spared _ removes)
    · intro spares leaseId removes
      by_contra lent
      exact spares (.abandons removes (Bool.eq_true_of_not_eq_false lent))

end Deployments

/-- From a new deployment, the records account for the LP tokens held in every state of a run
exactly when no call of the run that goes through strands collateral. -/
theorem collateral_tracked_iff (config : ConfigStore) (billing : BillingStore)
    (securityCouncil : Option SecurityCouncil) (calls : List Invocation) :
    Run.MeetsAlong (bookedStep bookLp)
        (fun call state => CollateralTracked (bookedStep bookLp call state).1
          (bookedStep bookLp call state).2) calls
        (World.genesis config billing securityCouncil, fun _ => 0) ↔
      Run.MeetsAlong step (fun invocation world => invocation.Committed world →
        ¬ invocation.call.Strands world) calls (World.genesis config billing securityCouncil) := by
  refine @booked_along_iff _ bookLp _ _ (fun _ _ => True) CollateralTracked
    (fun _ world call => call.Strands world) (fun _ _ _ _ _ _ _ => trivial)
    (fun env call world after held run _ tracked => dispatch_tracked_iff run tracked) calls
    trivial ⟨fun _ => rfl, fun _ deployed => ?_⟩
  cases deployed

/-! ## Stranded collateral -/

/-- A new deployment that trusts a yield protocol and keeps a liquidity buffer. -/
def lendingWorld : World :=
  World.genesis { openSettings with
    whitelistedYieldProtocol := fun _ => true
    liquidityBuffer := some 1000 } openBilling none

/-- Half of the deposit of lease 7 is lent to protocol 8. -/
def lend : Invocation :=
  callAt 100001 (.deployEscrowToYield 7 ⟨8⟩ 25 0)

/-- The second deployment of a lease is recorded over the first, and a lease can end while its
collateral is lent out. -/
theorem collateral_stranded :
    ¬ Run.MeetsAlong (bookedStep bookLp)
        (fun call state => CollateralTracked (bookedStep bookLp call state).1
          (bookedStep bookLp call state).2) [propose 100000 7 50 0, lend, lend]
        (lendingWorld, fun _ => 0) ∧
      ¬ Run.MeetsAlong (bookedStep bookLp)
        (fun call state => CollateralTracked (bookedStep bookLp call state).1
          (bookedStep bookLp call state).2)
        [propose 100000 7 50 0, lend, callAt 100002 (.executeEarlyTermination 7 ⟨2⟩)]
        (lendingWorld, fun _ => 0) := by
  constructor
  · rintro ⟨_, _, tracked, _⟩
    exact absurd (tracked.outstanding 7) (by decide)
  · rintro ⟨_, _, tracked, _⟩
    exact tracked.live 7 (by decide) (by decide)

end LeaseFlow
