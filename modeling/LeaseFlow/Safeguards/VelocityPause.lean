import LeaseFlow.Escrow.Effect

/-!
# The velocity pause

A lessor is paused by the check that then ends the call with an `Err`, so the pause and
its resume request are rolled back with the call.  No run ever pauses a lessor.
-/

set_option autoImplicit false

namespace LeaseFlow

open Transaction

/-- The lease an early termination or a slash checks the velocity of. -/
def Call.endedLease : Call → Option LeaseId
  | .executeEarlyTermination leaseId _ => some leaseId
  | .executeDepositSlash payload => some payload.leaseId
  | _ => none

/-- The call terminates or slashes a stored lease of the lessor. -/
def Invocation.EndsLeaseOf (lessor : Address) (invocation : Invocation) (world : World) : Prop :=
  ∃ leaseId lease, invocation.call.endedLease = some leaseId ∧
    world.leases.lookup leaseId = some lease ∧ lease.landlord = lessor

/-- The call is made while the lessor's recent terminations exceed the allowed fraction of
its portfolio. -/
structure Invocation.Trips (lessor : Address) (invocation : Invocation) (world : World) :
    Prop where
  ends : invocation.EndsLeaseOf lessor world
  exceeded : ∃ tracker, world.velocity.velocityTracker lessor = some tracker ∧
    tracker.Exceeded invocation.env.timestamp

/-- The DAO resumes the lessor. -/
def Invocation.Resumes (lessor : Address) (invocation : Invocation) (world : World) : Prop :=
  (∃ daoMember requestId, invocation.call = .daoApproveResume daoMember lessor requestId) ∧
    invocation.Committed world

/-- The lessor is paused, a resume is requested, and until one succeeds no lease of the
lessor is terminated or slashed. -/
structure World.PausedUntilResume (lessor : Address) (world : World) : Prop where
  paused : world.velocity.pausedLessor lessor = true
  requested : ∃ requestId request, world.velocity.daoApprovalRequest requestId = some request ∧
    request.lessor = lessor
  refuses : ∀ (calls : List Invocation) (invocation : Invocation),
    Run.MeetsAlong step (fun call state => ¬ call.Resumes lessor state) calls world →
    invocation.EndsLeaseOf lessor (Run.run step calls world) →
    ¬ invocation.Committed (Run.run step calls world)

section Pause

variable {lessor : Address} {invocation : Invocation} {world : World}

theorem Invocation.Committed.not_trips (committed : invocation.Committed world) :
    ¬ invocation.Trips lessor world := by
  rintro ⟨⟨leaseId, lease, ends, found, rfl⟩, tracker, tracked, exceeded⟩
  have run := committed.commits
  obtain ⟨env, call⟩ := invocation
  cases call with
  | executeEarlyTermination other caller =>
      obtain rfl : other = leaseId := Option.some.inj ends
      obtain ⟨stored, lookup, _, untripped, _⟩ := executeEarlyTermination_commits run
      cases found.symm.trans lookup
      exact untripped tracker tracked exceeded
  | executeDepositSlash payload =>
      obtain rfl : payload.leaseId = leaseId := Option.some.inj ends
      obtain ⟨stored, slashed⟩ := executeDepositSlash_commits run
      cases found.symm.trans slashed.found
      exact slashed.untripped tracked exceeded
  | _ => cases ends

/-- A call that trips the guard leaves no trace. -/
theorem Invocation.Trips.rolled_back (trips : invocation.Trips lessor world) :
    step invocation world = world := by
  rcases step_cases invocation world with run | same
  · exact absurd trips (Invocation.Committed.of_commits run).not_trips
  · exact same

theorem Reachable.not_pausedUntilResume (reached : Reachable world) :
    ¬ world.PausedUntilResume lessor := by
  intro paused
  cases (reached.safeguards.quiet.unpaused lessor).symm.trans paused.paused

end Pause

/-- The pause lasts in a run exactly when no call of the run trips the guard. -/
theorem pauses_last_iff (config : ConfigStore) (billing : BillingStore)
    (securityCouncil : Option SecurityCouncil) (calls : List Invocation) :
    Run.MeetsAlong step (fun call state => ∀ lessor, call.Trips lessor state →
        (step call state).PausedUntilResume lessor)
      calls (World.genesis config billing securityCouncil) ↔
    Run.MeetsAlong step (fun call state => ∀ lessor, ¬ call.Trips lessor state)
      calls (World.genesis config billing securityCouncil) := by
  have next : ∀ call state, Reachable state → Reachable (step call state) :=
    fun call _ reached => reached.next call
  refine Run.meetsAlong_congr next (fun call state reached => ?_)
    (.genesis config billing securityCouncil)
  refine forall_congr' fun lessor => imp_congr_right fun _ => iff_false_intro ?_
  exact (reached.next call).not_pausedUntilResume

/-- Landlord 1 lets two leases and ends one of them early. -/
def halvedPortfolio : List Invocation :=
  [propose 100000 7 200 50, propose 100000 8 200 50,
    callAt 100001 (.executeEarlyTermination 7 ⟨1⟩)]

/-- Ending the second lease trips the guard, which pauses the landlord inside the call and
in no store.  A day later the same call goes through, with no resume in between. -/
theorem tripped_lessor_not_paused :
    let world := Run.run step halvedPortfolio freshWorld
    let trip := callAt 100002 (.executeEarlyTermination 8 ⟨1⟩)
    trip.Trips ⟨1⟩ world ∧
      (∃ attempted, Faults trip.body world (.err .velocityLimitExceeded) attempted ∧
        attempted.velocity.pausedLessor ⟨1⟩ = true) ∧
      (step trip world).velocity.pausedLessor ⟨1⟩ = false ∧
      ¬ Run.MeetsAlong step (fun call state => ∀ lessor, call.Trips lessor state →
        (step call state).PausedUntilResume lessor) (halvedPortfolio ++ [trip]) freshWorld ∧
      (callAt 200000 (.executeEarlyTermination 8 ⟨1⟩)).Committed (step trip world) := by
  have tripped : (callAt 100002 (.executeEarlyTermination 8 ⟨1⟩)).Trips ⟨1⟩
      (Run.run step halvedPortfolio freshWorld) :=
    ⟨⟨8, proposedLease ⟨1⟩ (sampleProposal 200 50) 200, rfl, rfl, rfl⟩,
      ⟨⟨1⟩, 1, 1, [100001], false, none⟩, rfl, by decide, by decide⟩
  refine ⟨tripped, ⟨_, rfl, rfl⟩, rfl, fun lasting => ?_, show _ = true by decide⟩
  have paused := (((Run.meetsAlong_append _ _ _).mp lasting).2.1 ⟨1⟩ tripped).paused
  cases paused

end LeaseFlow
