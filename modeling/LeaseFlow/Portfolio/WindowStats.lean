import LeaseFlow.Portfolio.EvictionLimit

/-!
# Statistics of the last day

The velocity statistics read the stored counter of a tracker.  Every termination adds to it, and
the cleanup that drops the old ones works on a copy that no path stores, so the counter is the
number of all terminations of a landlord ever recorded.
-/

set_option autoImplicit false

namespace LeaseFlow

open Transaction

namespace Invocation

/-- The time at which a call records the termination of a lease of the landlord. -/
def recordsTermination (landlord : Address) (invocation : Invocation) (world : World) :
    Option U64 :=
  if invocation.closesLeaseOf landlord world = true then some invocation.env.timestamp else none

end Invocation

/-- The times at which a run records terminations of a landlord's leases, in its order. -/
def recordedTerminations (landlord : Address) (calls : List Invocation) (world : World) :
    List U64 :=
  Run.emissions step (Invocation.recordsTermination landlord) calls world

/-- The times of the last day. -/
def lastDay (now : U64) (times : List U64) : List U64 :=
  times.filter fun time => decide (now - velocityWindow ≤ time) && decide (time ≤ now)

/-- The statistics of the landlord name the terminations of the last day, and the fraction of the
portfolio they are. -/
def World.ReportsLastDay (world : World) (landlord : Address) (now : U64) (times : List U64) :
    Prop :=
  ∃ totalLeases terminations24h percentage isPaused,
    Commits (VelocityGuard.getVelocityStats landlord) world
      (totalLeases, terminations24h, percentage, isPaused) world ∧
    terminations24h = (lastDay now times).length ∧
    percentage = if 0 < totalLeases then (lastDay now times).length * 10000 / totalLeases else 0

/-- The tracker of the landlord holds exactly the recorded terminations. -/
structure World.Recalls (landlord : Address) (world : World) (times : List U64) : Prop where
  reachable : Reachable world
  recorded : (world.velocity.trackerOf landlord).lastTerminationTimes = times
  counted : (world.velocity.trackerOf landlord).terminations24h = times.length

section Statistics

variable {landlord : Address} {invocation : Invocation} {world : World} {times : List U64}
  {now : U64}

theorem Invocation.recordsTermination_of_passes
    (passes : invocation.closesLeaseOf landlord world = false) :
    invocation.recordsTermination landlord world = none :=
  if_neg (Bool.eq_false_iff.mp passes)

theorem TrackerStep.recorded {before after : VelocityTracker}
    (moves : TrackerStep landlord invocation world before after) :
    after.lastTerminationTimes =
        before.lastTerminationTimes ++ (invocation.recordsTermination landlord world).toList ∧
      after.terminations24h = before.terminations24h +
        (invocation.recordsTermination landlord world).toList.length := by
  cases moves with
  | kept passes =>
      rw [Invocation.recordsTermination_of_passes passes]
      exact ⟨(List.append_nil _).symm, rfl⟩
  | enlarged creates =>
      rw [Invocation.recordsTermination_of_passes (Invocation.passes_of_creates creates)]
      exact ⟨(List.append_nil _).symm, rfl⟩
  | closed closes =>
      rw [Invocation.recordsTermination, if_pos closes]
      exact ⟨rfl, rfl⟩

theorem World.Recalls.next (recalls : world.Recalls landlord times) :
    (step invocation world).Recalls landlord
      (times ++ (invocation.recordsTermination landlord world).toList) := by
  have next : Reachable (step invocation world) := recalls.reachable.next invocation
  by_cases committed : invocation.Committed world
  · obtain ⟨recorded, counted⟩ := (trackerStep_of_committed landlord committed
      (dispatch_tracking recalls.reachable.safeguards.quiet committed.commits)).recorded
    refine ⟨next, ?_, ?_⟩
    · rw [recorded, recalls.recorded]
    · rw [counted, recalls.counted, List.length_append]
  · have refused : invocation.body.succeeds world = false := Bool.not_eq_true _ ▸ committed
    have passes : invocation.closesLeaseOf landlord world = false := by
      rw [Invocation.closesLeaseOf, refused, Bool.false_and]
    rw [Invocation.recordsTermination_of_passes passes, Option.toList_none, List.append_nil,
      step_of_not_committed committed]
    exact recalls

theorem lastDay_length_iff :
    (lastDay now times).length = times.length ↔
      ∀ time ∈ times, now - velocityWindow ≤ time ∧ time ≤ now := by
  rw [lastDay, List.length_filter_eq_length_iff]
  simp

/-- A tracker that holds the recorded terminations reports those of the last day exactly when all
of them are. -/
theorem World.Recalls.reports_iff (recalls : world.Recalls landlord times) :
    world.ReportsLastDay landlord now times ↔
      (∃ tracker, world.velocity.velocityTracker landlord = some tracker ∧
        (0 < tracker.totalLeases → times.length * 10000 ≤ u64Max)) ∧
        ∀ time ∈ times, now - velocityWindow ≤ time ∧ time ≤ now := by
  have counted (tracker : VelocityTracker)
      (found : world.velocity.velocityTracker landlord = some tracker) :
      tracker.terminations24h = times.length := by
    have recalled := recalls.counted
    rwa [VelocityStore.trackerOf, found, Option.getD_some] at recalled
  constructor
  · rintro ⟨_, _, _, _, run, reported, _⟩
    obtain ⟨tracker, found, scaled, stats, _⟩ := (VelocityGuard.commits_getVelocityStats _).mp run
    cases stats
    rw [counted tracker found] at scaled reported
    exact ⟨⟨tracker, found, scaled⟩, lastDay_length_iff.mp reported.symm⟩
  · rintro ⟨⟨tracker, found, scaled⟩, recent⟩
    have all := lastDay_length_iff.mpr recent
    have count := counted tracker found
    refine ⟨tracker.totalLeases, tracker.terminations24h, _, tracker.isPaused,
      (VelocityGuard.commits_getVelocityStats _).mpr ⟨tracker, found, count ▸ scaled, rfl, rfl⟩,
      count.trans all.symm, ?_⟩
    rw [all, count]
    split
    · rfl
    · next empty => rw [Nat.eq_zero_of_not_pos empty, Nat.div_zero]

/-- Every run leaves the tracker of a landlord with the terminations it recorded. -/
theorem run_recalls (config : ConfigStore) (billing : BillingStore)
    (securityCouncil : Option SecurityCouncil) (landlord : Address) (calls : List Invocation) :
    (Run.run step calls (World.genesis config billing securityCouncil)).Recalls landlord
      (recordedTerminations landlord calls (World.genesis config billing securityCouncil)) := by
  have initially : (World.genesis config billing securityCouncil).Recalls landlord [] :=
    ⟨.genesis config billing securityCouncil, rfl, rfl⟩
  exact @Run.invariant_emissions _ _ step _ (Invocation.recordsTermination landlord)
    (World.Recalls landlord) (fun _ _ _ recalls => recalls.next) calls _ [] initially

end Statistics

/-- After any run, the statistics of a landlord are those of the last day exactly when the landlord
has a tracker, its terminations can be scaled, and none of them was recorded outside that day. -/
theorem velocity_window_iff (config : ConfigStore) (billing : BillingStore)
    (securityCouncil : Option SecurityCouncil) (landlord : Address) (calls : List Invocation)
    (now : U64) :
    let start := World.genesis config billing securityCouncil
    (Run.run step calls start).ReportsLastDay landlord now
        (recordedTerminations landlord calls start) ↔
      (∃ tracker, (Run.run step calls start).velocity.velocityTracker landlord = some tracker ∧
        (0 < tracker.totalLeases →
          (recordedTerminations landlord calls start).length * 10000 ≤ u64Max)) ∧
        ∀ time ∈ recordedTerminations landlord calls start,
          now - velocityWindow ≤ time ∧ time ≤ now :=
  (run_recalls config billing securityCouncil landlord calls).reports_iff

/-- Landlord 1 proposes two leases and ends one of them. -/
def oneEnded : List Invocation :=
  [propose 100000 7 200 50, propose 100000 8 200 50,
    callAt 100001 (.executeEarlyTermination 7 ⟨1⟩)]

/-- A second later the statistics are those of the last day. -/
theorem recent_termination_reported :
    (Run.run step oneEnded freshWorld).ReportsLastDay ⟨1⟩ 100002
      (recordedTerminations ⟨1⟩ oneEnded freshWorld) := by
  refine (velocity_window_iff openSettings openBilling none ⟨1⟩ oneEnded 100002).mpr
    ⟨⟨_, rfl, fun _ => ?_⟩, ?_⟩ <;> decide

/-- Days later they still count the termination. -/
theorem old_termination_reported :
    recordedTerminations ⟨1⟩ oneEnded freshWorld = [100001] ∧
      Commits (VelocityGuard.getVelocityStats ⟨1⟩) (Run.run step oneEnded freshWorld)
        (1, 1, 10000, false) (Run.run step oneEnded freshWorld) ∧
      lastDay 300000 (recordedTerminations ⟨1⟩ oneEnded freshWorld) = [] ∧
      ¬ (Run.run step oneEnded freshWorld).ReportsLastDay ⟨1⟩ 300000
        (recordedTerminations ⟨1⟩ oneEnded freshWorld) := by
  have recorded : recordedTerminations ⟨1⟩ oneEnded freshWorld = [100001] := by decide
  have recalls : (Run.run step oneEnded freshWorld).Recalls ⟨1⟩
      (recordedTerminations ⟨1⟩ oneEnded freshWorld) :=
    run_recalls openSettings openBilling none ⟨1⟩ oneEnded
  refine ⟨recorded, rfl, by decide, fun reports => ?_⟩
  obtain ⟨_, recent⟩ := recalls.reports_iff.mp reports
  rw [recorded] at recent
  exact absurd (recent 100001 (List.mem_singleton_self _)).1 (by decide)

end LeaseFlow
