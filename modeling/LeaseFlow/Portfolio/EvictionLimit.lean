import LeaseFlow.Foundations.RateLimit
import LeaseFlow.Portfolio.Tracking

/-!
# The mass-eviction limit

The velocity check compares a landlord's recent closings with its tracked total.  Where that
total covers no more than the leases held and is never zero, a day's closings are at most
one more than a tenth of the leases held at its start or created in it.  A total of zero
switches the check off.
-/

set_option autoImplicit false

namespace LeaseFlow

open Transaction

/-- The limit of the velocity guard, in basis points. -/
def velocityLimit : RateLimit.Limit where
  window := velocityWindow
  threshold := velocityThresholdPercent
  scale := 10000

/-- What the check reads of a tracker. -/
def VelocityTracker.meter (tracker : VelocityTracker) : RateLimit.Meter :=
  ⟨tracker.totalLeases, tracker.lastTerminationTimes⟩

/-- The landlord a call creates a lease for. -/
def Call.createsFor : Call → Option Address
  | .createLeaseInstance _ landlord _ => some landlord
  | .createLeaseWithContinuousBilling params => some params.landlord
  | _ => none

namespace Invocation

/-- The call creates a lease of the landlord. -/
def createsLeaseOf (landlord : Address) (invocation : Invocation) (world : World) : Bool :=
  invocation.body.succeeds world && decide (invocation.call.createsFor = some landlord)

/-- The call is an early termination or a slash that closes a lease of the landlord. -/
def closesLeaseOf (landlord : Address) (invocation : Invocation) (world : World) : Bool :=
  invocation.body.succeeds world &&
    (invocation.call.endedLease.bind world.leases.lookup).any fun lease =>
      decide (lease.landlord = landlord)

/-- What the call is to the landlord's limit. -/
def limitEvent (landlord : Address) (invocation : Invocation) (world : World) :
    RateLimit.Event :=
  if invocation.closesLeaseOf landlord world = true then .closed invocation.env.timestamp
  else if invocation.createsLeaseOf landlord world = true then .opened
  else .quiet

end Invocation

section Limit

variable {landlord : Address} {invocation : Invocation} {world : World}

theorem velocityLimit_coarse : velocityLimit.Coarse :=
  ⟨by decide, by decide⟩

theorem Invocation.limitEvent_closes :
    (invocation.limitEvent landlord world).closes = invocation.closesLeaseOf landlord world := by
  unfold Invocation.limitEvent
  cases invocation.closesLeaseOf landlord world with
  | true => rfl
  | false => cases invocation.createsLeaseOf landlord world <;> rfl

theorem Call.createsFor_of_proposes {call : Call} (proposes : call.proposes = some landlord) :
    call.createsFor = some landlord := by
  cases call <;> first | exact proposes | cases proposes

theorem Call.unended_of_createsFor {call : Call} (creates : call.createsFor = some landlord) :
    call.endedLease = none := by
  cases call <;> first | rfl | cases creates

theorem Invocation.passes_of_unended (unended : invocation.call.endedLease = none) :
    invocation.closesLeaseOf landlord world = false := by
  simp [Invocation.closesLeaseOf, unended]

theorem Invocation.passes_of_creates (creates : invocation.createsLeaseOf landlord world = true) :
    invocation.closesLeaseOf landlord world = false := by
  have names : invocation.call.createsFor = some landlord := by
    simpa using (Bool.and_eq_true_iff.mp creates).2
  exact Invocation.passes_of_unended (Call.unended_of_createsFor names)

theorem Invocation.limitEvent_opens :
    (invocation.limitEvent landlord world).opens = invocation.createsLeaseOf landlord world := by
  unfold Invocation.limitEvent
  cases creates : invocation.createsLeaseOf landlord world with
  | true => simp [Invocation.passes_of_creates creates, RateLimit.Event.opens]
  | false => cases invocation.closesLeaseOf landlord world <;> rfl

theorem Invocation.limitEvent_of_refused (refused : ¬ invocation.Committed world) :
    invocation.limitEvent landlord world = .quiet := by
  have fails : invocation.body.succeeds world = false := Bool.not_eq_true _ ▸ refused
  simp [Invocation.limitEvent, Invocation.closesLeaseOf, Invocation.createsLeaseOf, fails]

theorem VelocityTracker.Allows.within_limit {tracker : VelocityTracker} {now : U64}
    (allows : tracker.Allows now) (stocked : 0 < tracker.totalLeases) :
    tracker.meter.recent velocityLimit now * velocityLimit.scale / tracker.meter.total ≤
      velocityLimit.threshold :=
  Nat.not_lt.mp fun exceeded => allows.within ⟨stocked, exceeded⟩

theorem next_of_passing {before after : RateLimit.Meter}
    (passes : invocation.closesLeaseOf landlord world = false)
    (opened : invocation.createsLeaseOf landlord world = true → after.total ≤ before.total + 1)
    (quiet : invocation.createsLeaseOf landlord world = false → after.total = before.total)
    (times : after.times = before.times) :
    RateLimit.Next velocityLimit before (invocation.limitEvent landlord world) after := by
  unfold Invocation.limitEvent
  rw [if_neg (Bool.not_eq_true _ ▸ passes)]
  cases creates : invocation.createsLeaseOf landlord world with
  | true => exact .opened (opened creates) times
  | false =>
      obtain ⟨total, listed⟩ := before
      obtain ⟨_, _⟩ := after
      obtain rfl : _ = total := quiet creates
      obtain rfl : _ = listed := times
      exact .quiet _

theorem next_of_same {meter : RateLimit.Meter}
    (passes : invocation.closesLeaseOf landlord world = false) :
    RateLimit.Next velocityLimit meter (invocation.limitEvent landlord world) meter :=
  next_of_passing passes (fun _ => Nat.le_succ _) (fun _ => rfl) rfl

/-- What a call does to the tracker of one landlord. -/
inductive TrackerStep (landlord : Address) (invocation : Invocation) (world : World)
    (before : VelocityTracker) : VelocityTracker → Prop where
  | kept (passes : invocation.closesLeaseOf landlord world = false) :
      TrackerStep landlord invocation world before before
  | enlarged (creates : invocation.createsLeaseOf landlord world = true) :
      TrackerStep landlord invocation world before before.enlarged
  | closed (closes : invocation.closesLeaseOf landlord world = true)
      (allows : before.Allows invocation.env.timestamp) :
      TrackerStep landlord invocation world before (before.terminated invocation.env.timestamp)

/-- A committed call touches the tracker of a landlord only where it opens or closes one of its
leases. -/
theorem trackerStep_of_committed (landlord : Address) (committed : invocation.Committed world)
    (tracking : Tracking invocation.env invocation.call world (step invocation world)) :
    TrackerStep landlord invocation world (world.velocity.trackerOf landlord)
      ((step invocation world).velocity.trackerOf landlord) := by
  have succeeds : invocation.body.succeeds world = true := committed
  cases tracking with
  | kept _ unended velocity =>
      rw [velocity]
      exact .kept (Invocation.passes_of_unended unended)
  | @enlarged proposer proposes velocity =>
      have creates := Call.createsFor_of_proposes proposes
      rw [velocity]
      by_cases same : landlord = proposer
      · subst same
        rw [VelocityStore.trackerOf_track]
        refine .enlarged ?_
        simp [Invocation.createsLeaseOf, succeeds, creates]
      · rw [VelocityStore.trackerOf_track_of_ne same]
        exact .kept (Invocation.passes_of_unended (Call.unended_of_createsFor creates))
  | @terminated leaseId lease ends found allows velocity =>
      have closes : invocation.closesLeaseOf landlord world =
          decide (lease.landlord = landlord) := by
        simp [Invocation.closesLeaseOf, succeeds, ends, found]
      rw [velocity]
      by_cases same : landlord = lease.landlord
      · subst same
        rw [VelocityStore.trackerOf_track]
        exact .closed (closes.trans (decide_eq_true rfl)) allows
      · rw [VelocityStore.trackerOf_track_of_ne same]
        exact .kept (closes.trans (decide_eq_false fun owns => same owns.symm))

theorem TrackerStep.next {before after : VelocityTracker}
    (moves : TrackerStep landlord invocation world before after)
    (stocked : invocation.closesLeaseOf landlord world = true → 0 < before.totalLeases) :
    RateLimit.Next velocityLimit before.meter (invocation.limitEvent landlord world)
      after.meter := by
  cases moves with
  | kept passes => exact next_of_same passes
  | enlarged creates =>
      refine next_of_passing (Invocation.passes_of_creates creates) (fun _ => Nat.le_refl _)
        (fun silent => ?_) rfl
      cases creates.symm.trans silent
  | closed closes allows =>
      have positive := stocked closes
      unfold Invocation.limitEvent
      rw [if_pos closes]
      exact .closed positive (allows.within_limit positive)

/-- Every call of a run follows the limit, if it closes no lease while the tracked total is
zero. -/
theorem Reachable.follows_limit {start : U64} (reached : Reachable world)
    (stocked : invocation.closesLeaseOf landlord world = true →
      0 < world.velocity.totalLeases landlord)
    (within : start ≤ invocation.env.timestamp ∧
      invocation.env.timestamp ≤ start + velocityWindow) :
    RateLimit.Follows velocityLimit step (fun world => (world.velocity.trackerOf landlord).meter)
      (Invocation.limitEvent landlord) start invocation world := by
  constructor
  · by_cases committed : invocation.Committed world
    · exact (trackerStep_of_committed landlord committed
        (dispatch_tracking reached.safeguards.quiet committed.commits)).next stocked
    · rw [step_of_not_committed committed, Invocation.limitEvent_of_refused committed]
      exact .quiet _
  · intro now closed
    unfold Invocation.limitEvent at closed
    split at closed
    · cases closed
      exact within
    · split at closed <;> cases closed

end Limit

/-! ## Windows -/

/-- In any stretch of a run that lies within one window, the leases of a landlord closed by
early terminations and slashes are at most one more than a tenth of the leases it held at
the start and those created in the stretch, if the tracked total covers no more than the
leases held and no closing is checked against a total of zero. -/
theorem closings_limited (config : ConfigStore) (billing : BillingStore)
    (securityCouncil : Option SecurityCouncil) (landlord : Address) (start : U64)
    (before window : List Invocation)
    (within : ∀ invocation ∈ window, start ≤ invocation.env.timestamp ∧
      invocation.env.timestamp ≤ start + velocityWindow) :
    let opening := Run.run step before (World.genesis config billing securityCouncil)
    opening.velocity.totalLeases landlord ≤ opening.heldLeases landlord →
    Run.MeetsAlong step (fun invocation world =>
      invocation.closesLeaseOf landlord world = true →
        0 < world.velocity.totalLeases landlord) window opening →
    Run.count step (Invocation.closesLeaseOf landlord) window opening ≤
      1 + (opening.heldLeases landlord +
          Run.count step (Invocation.createsLeaseOf landlord) window opening) *
        velocityThresholdPercent / 10000 := by
  intro opening covered stocked
  have reached : Reachable opening := (Reachable.genesis config billing securityCouncil).run before
  have follows : Run.MeetsAlong step (RateLimit.Follows velocityLimit step
      (fun world => (world.velocity.trackerOf landlord).meter) (Invocation.limitEvent landlord)
      start) window opening := by
    have conditions := (Run.meetsAlong_and window opening).mpr
      ⟨stocked, Run.meetsAlong_of_forall within opening⟩
    refine @Run.meetsAlong_of_invariant _ _ step Reachable _ _ ?_ ?_ window opening conditions
      reached
    · exact fun call _ _ reached => reached.next call
    · exact fun call _ condition reached => reached.follows_limit condition.1 condition.2
  have limited := RateLimit.closings_le velocityLimit_coarse follows
  simp only [Invocation.limitEvent_closes, Invocation.limitEvent_opens] at limited
  refine limited.trans (Nat.add_le_add_left (Nat.div_le_div_right (Nat.mul_le_mul_right _ ?_)) 1)
  exact Nat.add_le_add_right covered _

/-- Landlord 1 ends one of two proposed leases. -/
theorem one_of_two_closed :
    Run.count step (Invocation.closesLeaseOf ⟨1⟩) [callAt 100001 (.executeEarlyTermination 7 ⟨1⟩)]
      (Run.run step [propose 100000 7 200 50, propose 100000 8 200 50] freshWorld) ≤ 1 := by
  refine closings_limited openSettings openBilling none ⟨1⟩ 100001
    [propose 100000 7 200 50, propose 100000 8 200 50]
    [callAt 100001 (.executeEarlyTermination 7 ⟨1⟩)] (fun invocation listed => ?_) ?_ ?_
  · obtain rfl := List.mem_singleton.mp listed
    decide
  · decide
  · exact ⟨fun _ => by decide, trivial⟩

/-- Landlord 1 concludes nine of eleven proposed leases. -/
def concludedPortfolio : List Invocation :=
  [1, 2, 3, 4, 5, 6, 7, 8, 9, 10, 11].map (fun leaseId => propose 100000 leaseId 200 50) ++
    [1, 2, 3, 4, 5, 6, 7, 8, 9].map fun leaseId => callAt 100000 (.concludeLease leaseId ⟨1⟩ 0)

/-- And ends the other two within seconds. -/
def evictions : List Invocation :=
  [callAt 100001 (.executeEarlyTermination 10 ⟨1⟩), callAt 100002 (.executeEarlyTermination 11 ⟨1⟩)]

/-- The concluded leases are still tracked, so both closings pass the check. -/
theorem concluded_portfolio_evicted :
    let opening := Run.run step concludedPortfolio freshWorld
    opening.heldLeases ⟨1⟩ = 2 ∧ opening.velocity.totalLeases ⟨1⟩ = 11 ∧
      Run.count step (Invocation.createsLeaseOf ⟨1⟩) evictions opening = 0 ∧
      ¬ Run.count step (Invocation.closesLeaseOf ⟨1⟩) evictions opening ≤
        1 + (opening.heldLeases ⟨1⟩ +
          Run.count step (Invocation.createsLeaseOf ⟨1⟩) evictions opening) *
            velocityThresholdPercent / 10000 := by
  decide +kernel

end LeaseFlow
