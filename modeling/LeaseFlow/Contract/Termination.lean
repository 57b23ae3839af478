import LeaseFlow.Contract.Creation
import LeaseFlow.Contract.Settlement

/-!
# Taking a lease out of live storage

Regular and early termination, the read-only simulation of the latter, and the
sweep of expired proposals.
-/

set_option autoImplicit false

namespace LeaseFlow

open Transaction

/-! ## Regular termination -/

/-- Pay a caller a share of the platform fee, out of the fee recipient's funds. -/
def payBounty (env : Env) (feeToken feeRecipient caller : Address) (bounty : I128)
    (announcement : Contract Unit) : Contract Unit :=
  if 0 < bounty then do
    transfer env ⟨feeToken, feeRecipient, caller, bounty⟩
    announcement
  else
    pure ()

def payTerminationBounty (env : Env) (leaseId : LeaseId) (caller : Address) : Contract Unit := do
  let fee ← platformFee
  match fee with
  | some (feeAmount, feeToken, feeRecipient) => do
      let scaled ← checkedI128 (feeAmount * 1000)
      payBounty env feeToken feeRecipient caller (scaled.tdiv 10000)
        (publish (.terminateBountyPaid leaseId caller (scaled.tdiv 10000)))
  | none => pure ()

/-- Hand the lease's root access token to the burn cascade, whose result is dropped. -/
def burnAccessTokens (leaseId : LeaseId) (tokenId : Option U128) : Contract Unit :=
  match tokenId with
  | some accessTokenId => modify fun world => { world with
      outbox := { world.outbox with
        burnedAccessTokens := (leaseId, accessTokenId) :: world.outbox.burnedAccessTokens } }
  | none => pure ()

def terminateLease (env : Env) (leaseId : LeaseId) (caller : Address) : Contract Unit := do
  let lease ← loadLeaseInstanceById leaseId
  let admin ← isAdmin caller
  require (caller = lease.landlord ∨ caller = lease.tenant ∨ admin = true) .unauthorised
  requireAuth env caller
  require (lease.endDate ≤ env.timestamp) .leaseNotExpired
  require (lease.depositStatus ≠ .held ∧ lease.depositStatus ≠ .disputed) .depositNotSettled
  payTerminationBounty env leaseId caller
  burnAccessTokens leaseId lease.tokenId
  thawLeaseAsset env leaseId lease
  archiveLease env leaseId lease caller
  publish (.leaseTerminated leaseId)

/-! ## Early termination -/

def percentagePenalty (lease : LeaseInstance) (feeBps : U32) (remainingTime : U64) :
    Contract I128 :=
  if 0 < feeBps ∧ 0 < remainingTime then do
    let remainingValue ← checkedI128 (remainingTime * lease.rentPerSec)
    let scaled ← checkedI128 (remainingValue * feeBps)
    pure (scaled.tdiv 10000)
  else
    pure 0

/-- With both penalties configured the higher one counts. -/
def earlyTerminationPenalty (lease : LeaseInstance) (remainingTime : U64) : Contract I128 :=
  match lease.earlyTerminationFeeBps, lease.fixedPenalty with
  | some feeBps, some fixedPenalty => do
      let penalty ← percentagePenalty lease feeBps remainingTime
      pure (max penalty fixedPenalty)
  | some feeBps, none => percentagePenalty lease feeBps remainingTime
  | none, some fixedPenalty => pure fixedPenalty
  | none, none => pure 0

/-- Everything before the penalty is computed. -/
def admitEarlyTermination (env : Env) (leaseId : LeaseId) (caller : Address) :
    Contract LeaseInstance := do
  requireAuth env caller
  let lease ← loadLeaseInstanceById leaseId
  require (caller = lease.tenant ∨ caller = lease.landlord) .unauthorised
  require (lease.status ≠ .terminated) .leaseNotTerminated
  VelocityGuard.initializeLessor lease.landlord
  VelocityGuard.checkVelocityLimits env lease.landlord
  pure lease

/-- The penalty, capped by the total deposit, goes to the landlord and the rest of the
deposit to the tenant. -/
def payEarlyTermination (env : Env) (leaseId : LeaseId) (lease : LeaseInstance) :
    Contract Unit := do
  let _totalDuration ← checkedSubU64 lease.endDate lease.startDate
  let _elapsedTime ← checkedSubU64 env.timestamp lease.startDate
  let remainingTime ← checkedSubU64 lease.endDate env.timestamp
  let penaltyAmount ← earlyTerminationPenalty lease remainingTime
  let totalDeposit ← checkedI128 lease.totalDeposit
  let finalPenalty := min penaltyAmount totalDeposit
  let tenantRefund ← checkedI128 (totalDeposit - finalPenalty)
  payShares env leaseId lease tenantRefund finalPenalty

def closeEarlyTermination (env : Env) (leaseId : LeaseId) (lease : LeaseInstance)
    (caller : Address) : Contract Unit := do
  sendLeaseNft env lease.nftContract lease.tokenId lease.landlord
  VelocityGuard.recordTermination env lease.landlord
  VelocityGuard.updatePortfolioSize lease.landlord (-1)
  thawLeaseAsset env leaseId lease
  archiveLease env leaseId lease.settledOut caller
  let (portfolioSize, velocity24h, _, _) ← VelocityGuard.getVelocityStats lease.landlord
  publish (.leaseTerminated leaseId)
  publish (.leaseTerminatedWithVelocityGuard leaseId lease.landlord lease.tenant caller
    env.timestamp portfolioSize velocity24h)

def executeEarlyTermination (env : Env) (leaseId : LeaseId) (caller : Address) :
    Contract Unit := do
  let lease ← admitEarlyTermination env leaseId caller
  payEarlyTermination env leaseId lease
  closeEarlyTermination env leaseId lease caller

/-! ## Simulation -/

/-- Ten per cent of the remaining rent, whatever penalty the lease configures. -/
def simulatedPenalty (lease : LeaseInstance) (totalDeposit : I128) (remainingTime : U64) :
    Contract I128 :=
  if 0 < remainingTime ∧ 0 < lease.rentPerSec then do
    let remainingValue ← checkedI128 (remainingTime * lease.rentPerSec)
    let scaled ← checkedI128 (remainingValue * 1000)
    pure (min (scaled.tdiv 10000) totalDeposit)
  else
    pure 0

def simulateTermination (leaseId : LeaseId) (terminationTimestamp : U64) :
    Contract TerminationSimulation := do
  let lease ← loadLeaseInstanceById leaseId
  let totalDeposit ← checkedI128 lease.totalDeposit
  let remainingTime := lease.endDate - terminationTimestamp
  let penaltyAmount ← simulatedPenalty lease totalDeposit remainingTime
  let outstandingDebt := max lease.debt 0
  let deduction ← checkedI128 (penaltyAmount + outstandingDebt)
  let totalDeduction := min deduction totalDeposit
  let projectedRefund ← checkedI128 (totalDeposit - totalDeduction)
  pure ⟨totalDeposit, totalDeduction, projectedRefund⟩

/-! ## Sweeping expired proposals -/

def initTimeoutSecs : U64 := 7 * 24 * 60 * 60

def paySweepBounty (env : Env) (relayer : Address) : Contract Unit := do
  let fee ← platformFee
  match fee with
  | some (feeAmount, feeToken, feeRecipient) =>
      payBounty env feeToken feeRecipient relayer ((saturatingI128 (feeAmount * 50)).tdiv 10000)
        (pure ())
  | none => pure ()

/-- Refunds the security deposit only; the other part of the recorded total stays. -/
def sweepExpiredProposals (env : Env) (relayer : Address) (leaseId : LeaseId) :
    Contract Unit := do
  let lease ← loadLeaseInstanceById leaseId
  require (lease.status = .pending) .invalidState
  require (saturatingAddU64 lease.startDate initTimeoutSecs ≤ env.timestamp) .leaseNotExpired
  payDeposit env leaseId .tenantRefund lease.paymentToken lease.tenant lease.securityDeposit
  paySweepBounty env relayer
  deleteLeaseInstance leaseId
  removeFromActiveLeasesIndex env leaseId
  publish (.proposalSwept leaseId relayer env.timestamp)

/-! ## Footprints -/

section Footprints

variable {parts : List Part} {env : Env} {leaseId : LeaseId}

theorem writes_payBounty (may : .payments ∈ parts) {announcement : Contract Unit}
    (announces : Writes parts announcement) (feeToken feeRecipient caller : Address)
    (bounty : I128) :
    Writes parts (payBounty env feeToken feeRecipient caller bounty announcement) :=
  writes_ite _ (writes_bind (writes_transfer may _) fun _ => announces) (writes_pure ())

@[simp] theorem writes_payTerminationBounty (may : [.payments, .events] ⊆ parts)
    (caller : Address) : Writes parts (payTerminationBounty env leaseId caller) := by
  refine Writes.mono (writes_bind writes_platformFee fun fee => ?_) may
  split
  · exact writes_bind (by simp) fun _ => writes_payBounty (by simp) (by simp) _ _ _ _
  · exact writes_pure ()

@[simp] theorem writes_paySweepBounty (may : .payments ∈ parts) (relayer : Address) :
    Writes parts (paySweepBounty env relayer) := by
  refine writes_bind writes_platformFee fun fee => ?_
  split
  · exact writes_payBounty may (writes_pure ()) _ _ _ _
  · exact writes_pure ()

@[simp] theorem writes_burnAccessTokens (may : .burnedAccessTokens ∈ parts)
    (tokenId : Option U128) : Writes parts (burnAccessTokens leaseId tokenId) := by
  cases tokenId with
  | none => exact writes_pure ()
  | some accessTokenId =>
      refine writes_modify fun state part aside => ?_
      cases part <;> first | rfl | exact absurd may aside

@[simp] theorem writes_terminateLease
    (may : [.leases, .history, .frozenAssets, .payments, .burnedAccessTokens, .events] ⊆ parts)
    (caller : Address) : Writes parts (terminateLease env leaseId caller) := by
  refine Writes.mono ?_ may
  unfold terminateLease
  repeat refine writes_bind (by simp) fun _ => ?_
  simp

@[simp] theorem writes_admitEarlyTermination (may : [.velocity, .events] ⊆ parts)
    (caller : Address) : Writes parts (admitEarlyTermination env leaseId caller) := by
  refine Writes.mono ?_ may
  unfold admitEarlyTermination
  repeat refine writes_bind (by simp) fun _ => ?_
  simp

@[simp] theorem writes_earlyTerminationPenalty (lease : LeaseInstance) (remainingTime : U64) :
    Writes parts (earlyTerminationPenalty lease remainingTime) := by
  have percentage (feeBps : U32) : Writes parts (percentagePenalty lease feeBps remainingTime) :=
    writes_ite _ (writes_bind (by simp) fun _ => writes_bind (by simp) fun _ => by simp) (by simp)
  unfold earlyTerminationPenalty
  split
  · exact writes_bind (percentage _) fun _ => writes_pure _
  · exact percentage _
  · exact writes_pure _
  · exact writes_pure _

@[simp] theorem writes_payEarlyTermination (may : .deposits ∈ parts) (lease : LeaseInstance) :
    Writes parts (payEarlyTermination env leaseId lease) := by
  unfold payEarlyTermination
  repeat refine writes_bind (by simp) fun _ => ?_
  simp [may]

@[simp] theorem writes_closeEarlyTermination
    (may : [.leases, .velocity, .history, .frozenAssets, .nftTransfers, .events] ⊆ parts)
    (lease : LeaseInstance) (caller : Address) :
    Writes parts (closeEarlyTermination env leaseId lease caller) := by
  refine Writes.mono ?_ may
  unfold closeEarlyTermination
  repeat refine writes_bind (by simp) fun _ => ?_
  simp

@[simp] theorem writes_executeEarlyTermination
    (may : [.leases, .deposits, .velocity, .history, .frozenAssets, .nftTransfers, .events] ⊆ parts)
    (caller : Address) : Writes parts (executeEarlyTermination env leaseId caller) := by
  refine Writes.mono ?_ may
  unfold executeEarlyTermination
  repeat refine writes_bind (by simp) fun _ => ?_
  simp

@[simp] theorem writes_sweepExpiredProposals
    (may : [.leases, .deposits, .activeLeasesIndex, .payments, .events] ⊆ parts)
    (relayer : Address) : Writes parts (sweepExpiredProposals env relayer leaseId) := by
  refine Writes.mono ?_ may
  unfold sweepExpiredProposals
  repeat refine writes_bind (by simp) fun _ => ?_
  simp

end Footprints

/-! ## Effect on the escrow -/

/-- The penalty a lease configures for ending with the given time remaining. -/
def LeaseInstance.configuredPenalty (lease : LeaseInstance) (remainingTime : U64) : Int :=
  let percentage (feeBps : U32) : Int :=
    if 0 < feeBps ∧ 0 < remainingTime then
      (remainingTime * lease.rentPerSec * feeBps : Int).tdiv 10000
    else 0
  match lease.earlyTerminationFeeBps, lease.fixedPenalty with
  | some feeBps, some fixedPenalty => max (percentage feeBps) fixedPenalty
  | some feeBps, none => percentage feeBps
  | none, some fixedPenalty => fixedPenalty
  | none, none => 0

section Termination

variable {world after : World} {env : Env} {leaseId : LeaseId}

/-- What a regular termination that goes through does after its checks. -/
theorem terminateLease_steps {caller : Address} {result : Unit}
    (run : Commits (terminateLease env leaseId caller) world result after) :
    ∃ lease w1 w2 w3 w4, world.leases.lookup leaseId = some lease ∧
      (lease.depositStatus ≠ .held ∧ lease.depositStatus ≠ .disputed) ∧
      Commits (payTerminationBounty env leaseId caller) world () w1 ∧
      Commits (burnAccessTokens leaseId lease.tokenId) w1 () w2 ∧
      Commits (thawLeaseAsset env leaseId lease) w2 () w3 ∧
      Commits (archiveLease env leaseId lease caller) w3 () w4 ∧
      Commits (publish (.leaseTerminated leaseId)) w4 result after := by
  simp only [terminateLease, commits_bind, commits_loadLeaseInstanceById, commits_isAdmin,
    commits_require, commits_requireAuth] at run
  obtain ⟨lease, _, ⟨found, rfl⟩, _, _, ⟨_, rfl⟩, _, _, ⟨_, rfl⟩, _, _, ⟨_, rfl⟩, _, _,
    ⟨_, rfl⟩, _, _, ⟨closed, rfl⟩, _, w1, bounty, _, w2, burned, _, w3, thawed, _, w4,
    archived, published⟩ := run
  exact ⟨lease, w1, w2, w3, w4, found, closed, bounty, burned, thawed, archived, published⟩

/-- A regular termination archives a lease whose deposit is settled and pays nothing
out of it. -/
theorem terminateLease_commits {caller : Address} {result : Unit}
    (run : Commits (terminateLease env leaseId caller) world result after) :
    ∃ lease, world.leases.lookup leaseId = some lease ∧ lease.depositStatus = .settled ∧
      world.toEscrow.Replaced leaseId none [] after.toEscrow := by
  obtain ⟨lease, w1, w2, w3, w4, found, closed, bounty, burned, thawed, archived, published⟩ :=
    terminateLease_steps run
  refine ⟨lease, found, ?_, ?_⟩
  · cases deposit : lease.depositStatus with
    | settled => rfl
    | held => exact absurd deposit closed.1
    | disputed => exact absurd deposit closed.2
  · rw [Escrow.Replaced, escrow_kept published (by simp), archiveLease_escrow archived,
      escrow_kept thawed (by simp), escrow_kept burned (by simp),
      escrow_kept bounty (by simp)]
    rfl

/-! ### Penalties -/

theorem percentagePenalty_commits {lease : LeaseInstance} {feeBps : U32} {remainingTime : U64}
    {penalty : I128}
    (run : Commits (percentagePenalty lease feeBps remainingTime) world penalty after) :
    penalty = (if 0 < feeBps ∧ 0 < remainingTime then
      (remainingTime * lease.rentPerSec * feeBps : Int).tdiv 10000 else 0) ∧ after = world := by
  simp only [percentagePenalty, commits_ite, commits_bind, commits_checkedI128,
    commits_pure] at run
  split at run
  · next charged =>
      obtain ⟨_, _, ⟨_, rfl, rfl⟩, _, _, ⟨_, rfl, rfl⟩, rfl, rfl⟩ := run
      exact ⟨(if_pos charged).symm, rfl⟩
  · next free =>
      exact ⟨run.1.trans (if_neg free).symm, run.2⟩

theorem earlyTerminationPenalty_commits {lease : LeaseInstance} {remainingTime : U64}
    {penalty : I128}
    (run : Commits (earlyTerminationPenalty lease remainingTime) world penalty after) :
    penalty = lease.configuredPenalty remainingTime ∧ after = world := by
  unfold earlyTerminationPenalty at run
  unfold LeaseInstance.configuredPenalty
  split at run
  · simp only [commits_bind, commits_pure] at run
    obtain ⟨percentage, _, charged, rfl, rfl⟩ := run
    obtain ⟨rfl, rfl⟩ := percentagePenalty_commits charged
    simp [*]
  · obtain ⟨rfl, rfl⟩ := percentagePenalty_commits run
    simp [*]
  · obtain ⟨rfl, rfl⟩ := (commits_pure _ _).mp run
    simp [*]
  · obtain ⟨rfl, rfl⟩ := (commits_pure _ _).mp run
    simp [*]

/-! ### Early termination -/

/-- What an early termination pays the landlord, before transfers of nothing are
skipped: the configured penalty, capped by the total deposit. -/
def LeaseInstance.finalPenalty (lease : LeaseInstance) (now : U64) : Int :=
  min (lease.configuredPenalty (lease.endDate - now)) lease.totalDeposit

theorem admitEarlyTermination_commits {caller : Address} {lease : LeaseInstance}
    (run : Commits (admitEarlyTermination env leaseId caller) world lease after) :
    world.leases.lookup leaseId = some lease ∧ lease.status ≠ .terminated ∧
      (∀ tracker, world.velocity.velocityTracker lease.landlord = some tracker →
        ¬ tracker.Exceeded env.timestamp) ∧
      world.toEscrow.Retracked after.toEscrow := by
  simp only [admitEarlyTermination, commits_bind, commits_requireAuth,
    commits_loadLeaseInstanceById, commits_require, commits_pure] at run
  obtain ⟨_, _, ⟨_, rfl⟩, found, _, ⟨stored, rfl⟩, _, _, ⟨_, rfl⟩, _, _, ⟨running, rfl⟩, _, _,
    initialised, _, _, checked, rfl, rfl⟩ := run
  obtain ⟨_, allows, admitted⟩ := VelocityGuard.commits_admitLessor initialised checked
  refine ⟨stored, running, fun _ => VelocityGuard.not_exceeded_of_allows allows, ?_⟩
  rw [admitted]
  exact ⟨_, rfl⟩

/-- The times and amounts with which an early termination can go through. -/
structure LeaseInstance.EndsEarly (lease : LeaseInstance) (now : U64) : Prop where
  started : lease.startDate ≤ now
  unfinished : now ≤ lease.endDate
  totalRange : i128Min ≤ lease.totalDeposit ∧ lease.totalDeposit ≤ i128Max

theorem payEarlyTermination_commits {lease : LeaseInstance} {result : Unit}
    (run : Commits (payEarlyTermination env leaseId lease) world result after) :
    lease.EndsEarly env.timestamp ∧
      after.toEscrow = world.toEscrow.enter (shareEntries env leaseId lease
        (lease.totalDeposit - lease.finalPenalty env.timestamp)
        (lease.finalPenalty env.timestamp)) := by
  simp only [payEarlyTermination, commits_bind, commits_checkedSubU64,
    commits_checkedI128] at run
  obtain ⟨_, _, ⟨_, _, rfl⟩, _, _, ⟨started, _, rfl⟩, _, _, ⟨unfinished, rfl, rfl⟩, penalty, _,
    charged, _, _, ⟨range, rfl, rfl⟩, _, _, ⟨_, rfl, rfl⟩, paid⟩ := run
  obtain ⟨rfl, rfl⟩ := earlyTerminationPenalty_commits charged
  exact ⟨⟨started, unfinished, range⟩, payShares_escrow paid⟩

theorem closeEarlyTermination_commits {lease : LeaseInstance} {caller : Address} {result : Unit}
    (run : Commits (closeEarlyTermination env leaseId lease caller) world result after) :
    (world.toEscrow.store leaseId none).Retracked after.toEscrow := by
  simp only [closeEarlyTermination, commits_bind] at run
  obtain ⟨_, w1, sent, _, w2, recorded, _, w3, resized, _, w4, thawed, _, w5, archived, _, w6,
    read, _, w7, announced, published⟩ := run
  have tracked := (VelocityGuard.recordTermination_retracks recorded).trans
    (VelocityGuard.updatePortfolioSize_retracks resized)
  rw [escrow_kept sent (by simp)] at tracked
  rw [escrow_kept published (by simp), escrow_kept announced (by simp),
    escrow_kept read (by simp), archiveLease_escrow archived,
    escrow_kept thawed (by simp)]
  exact tracked.store leaseId none

/-- A committed early termination pays the two shares and removes the record.  It asks
for a lease that is not terminated, but does not look at the deposit status. -/
theorem executeEarlyTermination_commits {caller : Address} {result : Unit}
    (run : Commits (executeEarlyTermination env leaseId caller) world result after) :
    ∃ lease, world.leases.lookup leaseId = some lease ∧ lease.status ≠ .terminated ∧
      (∀ tracker, world.velocity.velocityTracker lease.landlord = some tracker →
        ¬ tracker.Exceeded env.timestamp) ∧
      lease.EndsEarly env.timestamp ∧
      ((world.toEscrow.enter (shareEntries env leaseId lease
        (lease.totalDeposit - lease.finalPenalty env.timestamp)
        (lease.finalPenalty env.timestamp))).store leaseId none).Retracked after.toEscrow := by
  simp only [executeEarlyTermination, commits_bind] at run
  obtain ⟨lease, w1, admitted, _, w2, paid, closed⟩ := run
  obtain ⟨found, running, untripped, tracked⟩ := admitEarlyTermination_commits admitted
  obtain ⟨timely, settled⟩ := payEarlyTermination_commits paid
  have archived := closeEarlyTermination_commits closed
  rw [settled] at archived
  exact ⟨lease, found, running, untripped, timely,
    ((tracked.enter _).store leaseId none).trans archived⟩

/-! ### Simulation -/

/-- The deduction the simulation reports. -/
def LeaseInstance.simulatedDeduction (lease : LeaseInstance) (remainingTime : U64) : Int :=
  let penalty : Int :=
    if 0 < remainingTime ∧ 0 < lease.rentPerSec then
      min ((remainingTime * lease.rentPerSec * 1000 : Int).tdiv 10000) lease.totalDeposit
    else 0
  penalty + max lease.debt 0

/-- The intermediate results of the simulation stay within their type. -/
structure LeaseInstance.SimulationFits (lease : LeaseInstance) (remainingTime : U64) : Prop where
  scaled : 0 < remainingTime → 0 < lease.rentPerSec →
    remainingTime * lease.rentPerSec * 1000 ≤ i128Max
  deduction : lease.simulatedDeduction remainingTime ≤ i128Max

/-! ### Sweeping -/

theorem sweepExpiredProposals_commits {relayer : Address} {result : Unit}
    (run : Commits (sweepExpiredProposals env relayer leaseId) world result after) :
    ∃ lease, world.leases.lookup leaseId = some lease ∧ lease.status = .pending ∧
      world.toEscrow.Replaced leaseId none
        (depositPayout env leaseId .tenantRefund lease.paymentToken lease.tenant
          lease.securityDeposit) after.toEscrow := by
  simp only [sweepExpiredProposals, commits_bind, commits_loadLeaseInstanceById,
    commits_require] at run
  obtain ⟨lease, _, ⟨found, rfl⟩, _, _, ⟨pending, rfl⟩, _, before, ⟨_, rfl⟩, _, w1, paid, _,
    w2, bounty, _, w3, deleted, _, w4, reduced, published⟩ := run
  refine ⟨lease, found, pending, ?_⟩
  rw [Escrow.Replaced, escrow_kept published (by simp), escrow_kept reduced (by simp),
    deleteLeaseInstance_escrow deleted, escrow_kept bounty (by simp), payDeposit_escrow paid]

end Termination

end LeaseFlow
