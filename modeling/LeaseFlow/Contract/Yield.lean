import LeaseFlow.Contract.Occupancy
import LeaseFlow.Contract.Creation

/-!
# Yield on escrowed deposits

Lending a part of the recorded security deposit to a whitelisted protocol,
sharing out what it earns, and taking it back.  Both movements rewrite the
security deposit of the record.
-/

set_option autoImplicit false

namespace LeaseFlow

open Transaction

def isYieldProtocolWhitelisted (protocol : Address) : Contract Bool :=
  inspect fun world => world.config.whitelistedYieldProtocol protocol

def verifyLiquidityBuffer (requiredAmount : I128) : Contract Unit := do
  let currentBuffer ← getLiquidityBuffer
  require (requiredAmount ≤ currentBuffer) .insufficientLiquidityBuffer

def adjustLiquidityBuffer (delta : I128) : Contract Unit := do
  let currentBuffer ← getLiquidityBuffer
  let adjusted ← checkedI128 (currentBuffer + delta)
  setLiquidityBuffer adjusted

def updateYield (change : YieldStore → YieldStore) : Contract Unit :=
  modify fun world => { world with yield := change world.yield }

def saveYieldDeployment (leaseId : LeaseId) (deployment : YieldDeployment) : Contract Unit :=
  updateYield fun yield => { yield with
    yieldDeployment := Function.update yield.yieldDeployment leaseId (some deployment) }

def loadActiveDeployment (leaseId : LeaseId) : Contract YieldDeployment := do
  let stored ← inspect fun world => world.yield.yieldDeployment leaseId
  let deployment ← okOr stored .leaseNotFound
  require (deployment.active = true) .leaseNotFound
  pure deployment

/-! ## Deploying -/

/-- The yield protocol's answer to a deposit, within the slippage the caller accepts. -/
def depositToYield (env : Env) (yieldProtocol : Address) (deployAmount : I128)
    (maxSlippageBps : U32) : Contract I128 := do
  let lpTokens ← expect (env.contracts.yieldDeposit yieldProtocol deployAmount)
    "yield deposit failed"
  require (minimumSwapOutput deployAmount maxSlippageBps ≤ lpTokens) .slippageExceeded
  pure lpTokens

/-- Asks for no authorization. -/
def deployEscrowToYield (env : Env) (leaseId : LeaseId) (yieldProtocol : Address)
    (deployAmount : I128) (maxSlippageBps : U32) : Contract Unit := do
  let lease ← loadLeaseInstanceById leaseId
  let known ← isYieldProtocolWhitelisted yieldProtocol
  require (known = true) .yieldProtocolNotWhitelisted
  require (deployAmount ≤ lease.securityDeposit) .invalidDeduction
  verifyLiquidityBuffer deployAmount
  let lpTokens ← depositToYield env yieldProtocol deployAmount maxSlippageBps
  saveYieldDeployment leaseId
    ⟨leaseId, deployAmount, yieldProtocol, env.timestamp, lpTokens, true⟩
  let securityDeposit ← checkedI128 (lease.securityDeposit - deployAmount)
  saveLeaseInstance leaseId { lease with securityDeposit := securityDeposit }
  adjustLiquidityBuffer (-deployAmount)

/-! ## Harvesting -/

/-- The shares of the lessee, the lessor and the DAO, in basis points. -/
def calculateYieldDistribution (totalYield : I128) : I128 × I128 × I128 :=
  ((saturatingI128 (totalYield * 5000)).tdiv 10000,
    (saturatingI128 (totalYield * 3000)).tdiv 10000,
    (saturatingI128 (totalYield * 2000)).tdiv 10000)

def payYieldShare (env : Env) (token recipient : Address) (share : I128) : Contract Unit :=
  if 0 < share then transfer env ⟨token, env.currentContractAddress, recipient, share⟩
  else pure ()

def payDaoShare (env : Env) (token : Address) (daoShare : I128) : Contract Unit := do
  let feeRecipient ← inspect fun world => world.config.platformFeeRecipient
  match feeRecipient with
  | some daoAddress => payYieldShare env token daoAddress daoShare
  | none => pure ()

def accumulateYield (leaseId : LeaseId) (totalYield : I128) : Contract Unit := do
  let stored ← inspect fun world => world.yield.yieldAccumulated leaseId
  let accumulated ← checkedI128 (stored.getD 0 + totalYield)
  updateYield fun yield => { yield with
    yieldAccumulated := Function.update yield.yieldAccumulated leaseId (some accumulated) }

def harvestYield (env : Env) (leaseId : LeaseId) : Contract Unit := do
  let deployment ← loadActiveDeployment leaseId
  let lease ← loadLeaseInstanceById leaseId
  let totalYield ← expect (env.contracts.claimRewards deployment.yieldProtocol)
    "claiming rewards failed"
  require (0 < totalYield) .yieldUnderflow
  let (lesseeShare, lessorShare, daoShare) := calculateYieldDistribution totalYield
  payYieldShare env lease.paymentToken lease.tenant lesseeShare
  payYieldShare env lease.paymentToken lease.landlord lessorShare
  payDaoShare env lease.paymentToken daoShare
  accumulateYield leaseId totalYield
  publish (.escrowYieldHarvested leaseId totalYield lesseeShare lessorShare daoShare
    deployment.yieldProtocol env.timestamp)

/-! ## Withdrawing -/

/-- Asks for no authorization. -/
def withdrawFromYield (env : Env) (leaseId : LeaseId) (maxSlippageBps : U32) :
    Contract Unit := do
  let deployment ← loadActiveDeployment leaseId
  let withdrawnAmount ←
    expect (env.contracts.yieldWithdraw deployment.yieldProtocol deployment.lpTokens)
      "yield withdrawal failed"
  require (deployment.principalAmount ≤ withdrawnAmount) .yieldUnderflow
  require (minimumSwapOutput deployment.principalAmount maxSlippageBps ≤ withdrawnAmount)
    .slippageExceeded
  let lease ← loadLeaseInstanceById leaseId
  let securityDeposit ← checkedI128 (lease.securityDeposit + withdrawnAmount)
  saveLeaseInstance leaseId { lease with securityDeposit := securityDeposit }
  saveYieldDeployment leaseId { deployment with active := false, lpTokens := 0 }
  adjustLiquidityBuffer withdrawnAmount

/-! ## Footprints -/

section Footprints

variable {parts : List Part} {env : Env} {leaseId : LeaseId}

@[simp] theorem writes_adjustLiquidityBuffer (may : .settings ∈ parts) (delta : I128) :
    Writes parts (adjustLiquidityBuffer delta) := by
  unfold adjustLiquidityBuffer
  repeat refine writes_bind (by simp) fun _ => ?_
  simp [may]

@[simp] theorem writes_saveYieldDeployment (may : .yield ∈ parts) (deployment : YieldDeployment) :
    Writes parts (saveYieldDeployment leaseId deployment) := by
  refine writes_modify fun state part aside => ?_
  cases part <;> first | rfl | exact absurd may aside

@[simp] theorem writes_loadActiveDeployment : Writes parts (loadActiveDeployment leaseId) := by
  unfold loadActiveDeployment
  repeat refine writes_bind (by simp) fun _ => ?_
  simp

@[simp] theorem writes_depositToYield (yieldProtocol : Address) (deployAmount : I128)
    (maxSlippageBps : U32) :
    Writes parts (depositToYield env yieldProtocol deployAmount maxSlippageBps) := by
  unfold depositToYield
  repeat refine writes_bind (by simp) fun _ => ?_
  simp

@[simp] theorem writes_deployEscrowToYield (may : [.leases, .settings, .yield] ⊆ parts)
    (yieldProtocol : Address) (deployAmount : I128) (maxSlippageBps : U32) :
    Writes parts (deployEscrowToYield env leaseId yieldProtocol deployAmount maxSlippageBps) := by
  refine Writes.mono ?_ may
  unfold deployEscrowToYield isYieldProtocolWhitelisted verifyLiquidityBuffer
  repeat refine writes_bind (by simp) fun _ => ?_
  simp

@[simp] theorem writes_payYieldShare (may : .payments ∈ parts) (token recipient : Address)
    (share : I128) : Writes parts (payYieldShare env token recipient share) := by
  simp [payYieldShare, may]

@[simp] theorem writes_payDaoShare (may : .payments ∈ parts) (token : Address)
    (daoShare : I128) : Writes parts (payDaoShare env token daoShare) := by
  refine writes_bind (by simp) fun feeRecipient => ?_
  split <;> simp [may]

@[simp] theorem writes_accumulateYield (may : .yield ∈ parts) (totalYield : I128) :
    Writes parts (accumulateYield leaseId totalYield) := by
  unfold accumulateYield
  repeat refine writes_bind (by simp) fun _ => ?_
  refine writes_modify fun state part aside => ?_
  cases part <;> first | rfl | exact absurd may aside

@[simp] theorem writes_harvestYield (may : [.yield, .payments, .events] ⊆ parts) :
    Writes parts (harvestYield env leaseId) := by
  refine Writes.mono ?_ may
  unfold harvestYield
  repeat refine writes_bind (by simp) fun _ => ?_
  simp

@[simp] theorem writes_withdrawFromYield (may : [.leases, .settings, .yield] ⊆ parts)
    (maxSlippageBps : U32) : Writes parts (withdrawFromYield env leaseId maxSlippageBps) := by
  refine Writes.mono ?_ may
  unfold withdrawFromYield
  repeat refine writes_bind (by simp) fun _ => ?_
  simp

end Footprints

/-! ## Effect on the escrow -/

/-- The security deposit of one record was changed by an amount. -/
def Escrow.SecurityMoved (leaseId : LeaseId) (amount : I128) (before after : Escrow) : Prop :=
  ∃ lease, before.leases.lookup leaseId = some lease ∧
    after = before.store leaseId
      (some { lease with securityDeposit := lease.securityDeposit + amount })

/-- What the protocol of a lease's deployment returns for its LP tokens. -/
def World.yieldReturn (world : World) (env : Env) (leaseId : LeaseId) : I128 :=
  match world.yield.yieldDeployment leaseId with
  | some deployment =>
      (env.contracts.yieldWithdraw deployment.yieldProtocol deployment.lpTokens).getD 0
  | none => 0

section Yield

variable {world after : World} {env : Env} {leaseId : LeaseId}

/-- What a deployment that goes through does after its checks. -/
theorem deployEscrowToYield_steps {yieldProtocol : Address} {deployAmount : I128}
    {maxSlippageBps : U32} {result : Unit}
    (run : Commits (deployEscrowToYield env leaseId yieldProtocol deployAmount maxSlippageBps)
      world result after) :
    ∃ lease lpTokens w1 w2, world.leases.lookup leaseId = some lease ∧
      env.contracts.yieldDeposit yieldProtocol deployAmount = some lpTokens ∧
      Commits (saveYieldDeployment leaseId
        ⟨leaseId, deployAmount, yieldProtocol, env.timestamp, lpTokens, true⟩) world () w1 ∧
      Commits (saveLeaseInstance leaseId
        { lease with securityDeposit := lease.securityDeposit - deployAmount }) w1 () w2 ∧
      Commits (adjustLiquidityBuffer (-deployAmount)) w2 result after := by
  simp only [deployEscrowToYield, verifyLiquidityBuffer, isYieldProtocolWhitelisted,
    getLiquidityBuffer, commits_bind, commits_loadLeaseInstanceById, commits_inspect,
    commits_require, commits_checkedI128] at run
  obtain ⟨lease, _, ⟨found, rfl⟩, _, _, ⟨_, rfl⟩, _, _, ⟨_, rfl⟩, _, _, ⟨_, rfl⟩, _, _,
    ⟨_, _, ⟨_, rfl⟩, _, rfl⟩, lpTokens, _, deposited, rest⟩ := run
  obtain ⟨_, w1, deployed, _, _, ⟨_, rfl, rfl⟩, _, w2, saved, adjusted⟩ := rest
  simp only [depositToYield, commits_bind, commits_require, commits_expect,
    commits_pure] at deposited
  obtain ⟨_, _, ⟨credited, rfl⟩, _, _, ⟨_, rfl⟩, rfl, rfl⟩ := deposited
  exact ⟨lease, lpTokens, _, w2, found, credited, deployed, saved, adjusted⟩

theorem deployEscrowToYield_commits {yieldProtocol : Address} {deployAmount : I128}
    {maxSlippageBps : U32} {result : Unit}
    (run : Commits (deployEscrowToYield env leaseId yieldProtocol deployAmount maxSlippageBps)
      world result after) :
    world.toEscrow.SecurityMoved leaseId (-deployAmount) after.toEscrow := by
  obtain ⟨lease, lpTokens, w1, w2, found, _, deployed, saved, adjusted⟩ :=
    deployEscrowToYield_steps run
  refine ⟨lease, found, ?_⟩
  rw [escrow_kept adjusted (by simp), saveLeaseInstance_escrow saved,
    escrow_kept deployed (by simp), Int.sub_eq_add_neg]

/-- What a withdrawal that goes through does after its checks. -/
theorem withdrawFromYield_steps {maxSlippageBps : U32} {result : Unit}
    (run : Commits (withdrawFromYield env leaseId maxSlippageBps) world result after) :
    ∃ deployment withdrawnAmount lease w1 w2,
      world.yield.yieldDeployment leaseId = some deployment ∧ deployment.active = true ∧
      env.contracts.yieldWithdraw deployment.yieldProtocol deployment.lpTokens =
        some withdrawnAmount ∧
      world.leases.lookup leaseId = some lease ∧
      Commits (saveLeaseInstance leaseId
        { lease with securityDeposit := lease.securityDeposit + withdrawnAmount }) world () w1 ∧
      Commits (saveYieldDeployment leaseId { deployment with active := false, lpTokens := 0 })
        w1 () w2 ∧
      Commits (adjustLiquidityBuffer withdrawnAmount) w2 result after := by
  simp only [withdrawFromYield, loadActiveDeployment, commits_bind, commits_inspect,
    commits_okOr, commits_require, commits_pure, commits_expect, commits_loadLeaseInstanceById,
    commits_checkedI128] at run
  obtain ⟨deployment, _, ⟨_, _, ⟨rfl, rfl⟩, _, _, ⟨stored, rfl⟩, _, _, ⟨active, rfl⟩, rfl, rfl⟩,
    withdrawnAmount, _, ⟨answered, rfl⟩, _, _, ⟨_, rfl⟩, _, _, ⟨_, rfl⟩, rest⟩ := run
  obtain ⟨lease, _, ⟨found, rfl⟩, _, _, ⟨_, rfl, rfl⟩, _, w1, saved, _, w2, closed,
    adjusted⟩ := rest
  exact ⟨deployment, withdrawnAmount, lease, w1, w2, stored, active, answered, found, saved,
    closed, adjusted⟩

/-- A withdrawal adds whatever the protocol returned, provided it covers the principal. -/
theorem withdrawFromYield_commits {maxSlippageBps : U32} {result : Unit}
    (run : Commits (withdrawFromYield env leaseId maxSlippageBps) world result after) :
    world.toEscrow.SecurityMoved leaseId (world.yieldReturn env leaseId) after.toEscrow := by
  obtain ⟨deployment, withdrawnAmount, lease, w1, w2, stored, _, answered, found, saved, closed,
    adjusted⟩ := withdrawFromYield_steps run
  refine ⟨lease, found, ?_⟩
  rw [escrow_kept adjusted (by simp), escrow_kept closed (by simp),
    saveLeaseInstance_escrow saved, World.yieldReturn, stored]
  simp [answered]

/-- What a harvest that goes through does after its checks. -/
theorem harvestYield_steps {result : Unit}
    (run : Commits (harvestYield env leaseId) world result after) :
    ∃ deployment lease totalYield w1 w2 w3 w4,
      world.yield.yieldDeployment leaseId = some deployment ∧
      world.leases.lookup leaseId = some lease ∧
      env.contracts.claimRewards deployment.yieldProtocol = some totalYield ∧ 0 < totalYield ∧
      Commits (payYieldShare env lease.paymentToken lease.tenant
        (calculateYieldDistribution totalYield).1) world () w1 ∧
      Commits (payYieldShare env lease.paymentToken lease.landlord
        (calculateYieldDistribution totalYield).2.1) w1 () w2 ∧
      Commits (payDaoShare env lease.paymentToken (calculateYieldDistribution totalYield).2.2)
        w2 () w3 ∧
      Commits (accumulateYield leaseId totalYield) w3 () w4 ∧
      Commits (publish (.escrowYieldHarvested leaseId totalYield
        (calculateYieldDistribution totalYield).1 (calculateYieldDistribution totalYield).2.1
        (calculateYieldDistribution totalYield).2.2 deployment.yieldProtocol env.timestamp))
        w4 result after := by
  simp only [harvestYield, loadActiveDeployment, commits_bind, commits_inspect, commits_okOr,
    commits_require, commits_pure, commits_expect, commits_loadLeaseInstanceById] at run
  obtain ⟨deployment, _, ⟨_, _, ⟨rfl, rfl⟩, _, _, ⟨stored, rfl⟩, _, _, ⟨_, rfl⟩, rfl, rfl⟩, rest⟩ :=
    run
  obtain ⟨lease, _, ⟨found, rfl⟩, totalYield, _, ⟨answered, rfl⟩, _, _, ⟨positive, rfl⟩, paid⟩ :=
    rest
  obtain ⟨_, w1, lessee, _, w2, lessor, _, w3, dao, _, w4, accumulated, published⟩ := paid
  exact ⟨deployment, lease, totalYield, w1, w2, w3, w4, stored, found, answered, positive, lessee,
    lessor, dao, accumulated, published⟩

theorem accumulateYield_commits {totalYield : I128} {result : Unit}
    (run : Commits (accumulateYield leaseId totalYield) world result after) :
    after.yield = { world.yield with
      yieldAccumulated := Function.update world.yield.yieldAccumulated leaseId
        (some ((world.yield.yieldAccumulated leaseId).getD 0 + totalYield)) } := by
  simp only [accumulateYield, updateYield, commits_bind, commits_inspect, commits_checkedI128,
    commits_modify] at run
  obtain ⟨_, _, ⟨rfl, rfl⟩, _, _, ⟨_, rfl, rfl⟩, rfl⟩ := run
  rfl

/-- A harvest pays the three shares, books the whole yield and leaves the deployments. -/
theorem harvestYield_commits {result : Unit}
    (run : Commits (harvestYield env leaseId) world result after) :
    ∃ deployment lease totalYield w1 w2 w3,
      world.yield.yieldDeployment leaseId = some deployment ∧
      world.leases.lookup leaseId = some lease ∧
      env.contracts.claimRewards deployment.yieldProtocol = some totalYield ∧ 0 < totalYield ∧
      Commits (payYieldShare env lease.paymentToken lease.tenant
        (calculateYieldDistribution totalYield).1) world () w1 ∧
      Commits (payYieldShare env lease.paymentToken lease.landlord
        (calculateYieldDistribution totalYield).2.1) w1 () w2 ∧
      Commits (payDaoShare env lease.paymentToken (calculateYieldDistribution totalYield).2.2)
        w2 () w3 ∧
      after.outbox.payments = w3.outbox.payments ∧
      after.yield = { world.yield with
        yieldAccumulated := Function.update world.yield.yieldAccumulated leaseId
          (some ((world.yield.yieldAccumulated leaseId).getD 0 + totalYield)) } := by
  obtain ⟨deployment, lease, totalYield, w1, w2, w3, w4, stored, found, answered, positive, lessee,
    lessor, dao, accumulated, published⟩ := harvestYield_steps run
  have paid : w3.yield = world.yield :=
    (part_kept .yield dao (by simp)).trans ((part_kept .yield lessor (by simp)).trans
      (part_kept .yield lessee (by simp)))
  have kept : after.outbox.payments = w3.outbox.payments :=
    (part_kept .payments published (by simp)).trans (part_kept .payments accumulated (by simp))
  refine ⟨deployment, lease, totalYield, w1, w2, w3, stored, found, answered, positive, lessee,
    lessor, dao, kept, ?_⟩
  have booked : after.yield = w4.yield := part_kept .yield published (by simp)
  rw [booked, accumulateYield_commits accumulated, paid]

end Yield

end LeaseFlow
