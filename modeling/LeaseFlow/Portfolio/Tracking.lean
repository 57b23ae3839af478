import LeaseFlow.Safeguards.VelocityPause

/-!
# The portfolio a landlord's tracker follows

The leases a landlord holds in live storage, the total its velocity tracker keeps of them,
and what a committed call does to the tracker.  Proposals count up; early terminations and
slashes record their time and count down; no other call touches a tracker.
-/

set_option autoImplicit false

namespace LeaseFlow

open Transaction

/-- A lease of the landlord that is not terminated. -/
def LeaseInstance.heldBy (landlord : Address) (lease : LeaseInstance) : Bool :=
  decide (lease.landlord = landlord ∧ lease.status ≠ .terminated)

/-- How many leases of the landlord are in live storage and not terminated. -/
def Escrow.heldLeases (escrow : Escrow) (landlord : Address) : Nat :=
  escrow.leases.count (LeaseInstance.heldBy landlord)

/-- The portfolio size the velocity guard reckons with. -/
def VelocityStore.totalLeases (velocity : VelocityStore) (landlord : Address) : U64 :=
  (velocity.trackerOf landlord).totalLeases

/-- The tracker after a lease was added to the portfolio. -/
def VelocityTracker.enlarged (tracker : VelocityTracker) : VelocityTracker :=
  { tracker with totalLeases := tracker.totalLeases + 1 }

/-- The landlord of a proposal. -/
def Call.proposes : Call → Option Address
  | .createLeaseInstance _ landlord _ => some landlord
  | _ => none

/-- The request a resume answers. -/
def Call.resumed : Call → Option U64
  | .daoApproveResume _ _ requestId => some requestId
  | _ => none

/-- What a committed call does to the velocity store. -/
inductive Tracking (env : Env) (call : Call) (world after : World) : Prop where
  | kept (unproposed : call.proposes = none) (unended : call.endedLease = none)
      (velocity : after.velocity = world.velocity)
  | enlarged {landlord : Address} (proposes : call.proposes = some landlord)
      (velocity : after.velocity =
        world.velocity.track landlord (world.velocity.trackerOf landlord).enlarged)
  | terminated {leaseId : LeaseId} {lease : LeaseInstance} (ends : call.endedLease = some leaseId)
      (found : world.leases.lookup leaseId = some lease)
      (allows : (world.velocity.trackerOf lease.landlord).Allows env.timestamp)
      (velocity : after.velocity = world.velocity.track lease.landlord
        ((world.velocity.trackerOf lease.landlord).terminated env.timestamp))

section Trackers

variable {velocity : VelocityStore} {landlord other : Address} {tracker : VelocityTracker}

@[simp] theorem VelocityStore.trackerOf_track :
    (velocity.track landlord tracker).trackerOf landlord = tracker := by
  rw [VelocityStore.trackerOf, VelocityStore.velocityTracker_track, Option.getD_some]

theorem VelocityStore.trackerOf_track_of_ne (differs : other ≠ landlord) :
    (velocity.track landlord tracker).trackerOf other = velocity.trackerOf other := by
  show (Function.update velocity.velocityTracker landlord (some tracker) other).getD _ = _
  rw [Function.update_of_ne differs]
  rfl

end Trackers

section Tracking

variable {world after : World} {env : Env} {leaseId : LeaseId}

theorem velocity_kept {α : Type} {body : Contract α} {value : α}
    (run : Commits body world value after) (writes : Writes (besides .velocity) body) :
    after.velocity = world.velocity :=
  part_kept .velocity run writes

theorem VelocityGuard.commits_updatePortfolioSize_succ {landlord : Address} (result : Unit) :
    Commits (updatePortfolioSize landlord 1) world result after ↔
      ∃ tracker, world.velocity.velocityTracker landlord = some tracker ∧
        tracker.totalLeases + 1 ≤ u64Max ∧
        after = { world with velocity := world.velocity.track landlord tracker.enlarged } := by
  simp [updatePortfolioSize, resizedPortfolio, VelocityTracker.enlarged, and_assoc, and_left_comm]

theorem createLeaseInstance_velocity {landlord : Address} {params : CreateLeaseParams}
    {result : Unit}
    (run : Commits (createLeaseInstance env leaseId landlord params) world result after) :
    after.velocity =
      world.velocity.track landlord (world.velocity.trackerOf landlord).enlarged := by
  obtain ⟨_, locked, w1, w2, w3, w4, w5, w6, w7, w8, acquired, _, verified, swapped, opened,
    indexed, initialised, sized, released, published⟩ := createLeaseInstance_steps run
  have start : w5.velocity = world.velocity := by
    rw [velocity_kept indexed (by simp), velocity_kept opened (by simp),
      velocity_kept swapped (by simp), velocity_kept verified (by simp),
      velocity_kept acquired (by simp)]
  rw [(VelocityGuard.commits_initializeLessor ()).mp initialised] at sized
  obtain ⟨tracker, found, _, rfl⟩ :=
    (VelocityGuard.commits_updatePortfolioSize_succ ()).mp sized
  rw [VelocityStore.velocityTracker_track, Option.some.injEq] at found
  rw [velocity_kept published (by simp), velocity_kept released (by simp), ← found, ← start]
  exact VelocityStore.track_track ..

theorem VelocityGuard.countTermination_velocity {landlord : Address} {middle : World}
    {first second : Unit}
    (admitted : world.velocity.velocityTracker landlord =
      some (world.velocity.trackerOf landlord))
    (recorded : Commits (recordTermination env landlord) world first middle)
    (resized : Commits (updatePortfolioSize landlord (-1)) middle second after) :
    after.velocity = world.velocity.track landlord
      ((world.velocity.trackerOf landlord).terminated env.timestamp) := by
  obtain ⟨_, rfl⟩ := (commits_countTermination admitted).mp ⟨_, _, _, recorded, resized⟩
  rfl

theorem executeEarlyTermination_velocity {caller : Address} {result : Unit}
    (run : Commits (executeEarlyTermination env leaseId caller) world result after) :
    ∃ lease, world.leases.lookup leaseId = some lease ∧
      (world.velocity.trackerOf lease.landlord).Allows env.timestamp ∧
      after.velocity = world.velocity.track lease.landlord
        ((world.velocity.trackerOf lease.landlord).terminated env.timestamp) := by
  simp only [executeEarlyTermination, admitEarlyTermination, closeEarlyTermination, commits_bind,
    commits_requireAuth, commits_loadLeaseInstanceById, commits_require, commits_pure] at run
  obtain ⟨lease, w1, ⟨_, _, ⟨_, rfl⟩, _, _, ⟨found, rfl⟩, _, _, ⟨_, rfl⟩, _, start, ⟨_, rfl⟩, _, _,
    initialised, _, _, checked, rfl, rfl⟩, _, w2, paid, _, w3, sent, _, w4, recorded, _, w5,
    resized, _, w6, thawed, _, w7, archived, _, w8, read, _, w9, announced, published⟩ := run
  obtain ⟨_, allows, rfl⟩ := VelocityGuard.commits_admitLessor initialised checked
  refine ⟨lease, found, allows, ?_⟩
  have middle : w3.velocity =
      start.velocity.track lease.landlord (start.velocity.trackerOf lease.landlord) :=
    (velocity_kept sent (by simp)).trans (velocity_kept paid (by simp))
  have counted := VelocityGuard.countTermination_velocity (by rw [middle]; simp) recorded resized
  rw [velocity_kept published (by simp), velocity_kept announced (by simp),
    velocity_kept read (by simp),
    velocity_kept archived (by simp), velocity_kept thawed (by simp), counted, middle]
  simp

theorem executeDepositSlash_velocity {payload : OraclePayload} {result : Unit}
    (run : Commits (executeDepositSlash env payload) world result after) :
    ∃ lease, world.leases.lookup payload.leaseId = some lease ∧
      (world.velocity.trackerOf lease.landlord).Allows env.timestamp ∧
      after.velocity = world.velocity.track lease.landlord
        ((world.velocity.trackerOf lease.landlord).terminated env.timestamp) := by
  simp only [executeDepositSlash, commits_bind, commits_question] at run
  obtain ⟨_, w1, acquired, _, w2, slashed, _, w3, released, rfl, rfl⟩ := run
  rw [commits_resultOf_ok] at slashed
  simp only [executeDepositSlashInner, commits_bind, commits_checkedI128, commits_inspect,
    commits_ite] at slashed
  obtain ⟨lease, w4, admitted, _, _, ⟨_, rfl, rfl⟩, _, _, ⟨rfl, rfl⟩, slashed⟩ := slashed
  obtain ⟨admits, oracle, _, reached⟩ := admitSlash_commits admitted
  have entered : w1.toEscrow = world.toEscrow := escrow_kept acquired (by simp)
  rw [entered] at admits reached
  refine ⟨lease, admits.found, admits.allowed, ?_⟩
  split at slashed
  · exact absurd slashed (not_commits_queueSlash _ _ _ _)
  · simp only [settleSlash, commits_bind] at slashed
    obtain ⟨_, w5, flagged, _, w6, paid, _, w7, saved, _, w8, recorded, _, w9, resized, _, w10,
      sent, stats, w11, read, published⟩ := slashed
    have middle : w7.velocity =
        world.velocity.track lease.landlord (world.velocity.trackerOf lease.landlord) := by
      rw [velocity_kept saved (by simp), velocity_kept paid (by simp),
        velocity_kept flagged (by simp)]
      exact congrArg Escrow.velocity reached
    have counted := VelocityGuard.countTermination_velocity (by rw [middle]; simp) recorded resized
    rw [velocity_kept released (by simp), velocity_kept published (by simp),
      velocity_kept read (by simp), velocity_kept sent (by simp),
      counted, middle]
    simp

/-- What a committed call other than a resume does to the trackers. -/
theorem dispatch_tracking_of_ne {call : Call} (unresumed : call.resumed = none)
    (run : Commits (dispatch env call) world () after) : Tracking env call world after := by
  cases call with
  | createLeaseInstance leaseId landlord params =>
      exact .enlarged rfl (createLeaseInstance_velocity run)
  | executeEarlyTermination leaseId caller =>
      obtain ⟨lease, found, allows, velocity⟩ := executeEarlyTermination_velocity run
      exact .terminated rfl found allows velocity
  | executeDepositSlash payload =>
      obtain ⟨lease, found, allows, velocity⟩ := executeDepositSlash_velocity run
      exact .terminated rfl found allows velocity
  | daoApproveResume daoMember lessor requestId => cases unresumed
  | updateAssetConditionMetadata payload assetRegistryAddress =>
      have velocity : Part.velocity.read after = Part.velocity.read world :=
        updateAssetConditionMetadata_kept run (by simp)
      exact .kept rfl rfl velocity
  | _ => exact .kept rfl rfl (velocity_kept run ((dispatch_writes env _).mono (by simp)))

/-- In a store in which nobody asked for a resume, no resume commits. -/
theorem dispatch_tracking {call : Call} (quiet : world.velocity.Quiet)
    (run : Commits (dispatch env call) world () after) : Tracking env call world after := by
  cases asked : call.resumed with
  | none => exact dispatch_tracking_of_ne asked run
  | some requestId =>
      cases call with
      | daoApproveResume daoMember lessor other =>
          exact absurd (quiet.unasked other) (daoApproveResume_commits run).1
      | _ => cases asked

end Tracking

end LeaseFlow
