import LeaseFlow.Contract.Footprint

/-!
# Velocity guard

Per-lessor trackers of recent terminations, and the soft pause the guard sets
when a lessor terminates more than a tenth of its portfolio within a day.
-/

set_option autoImplicit false

namespace LeaseFlow

open Transaction

def velocityWindow : U64 := 86400
def velocityThresholdPercent : U64 := 1000

def updateVelocity (change : VelocityStore → VelocityStore) : Contract Unit :=
  modify fun world => { world with velocity := change world.velocity }

namespace VelocityGuard

def getVelocityTracker (lessor : Address) : Contract VelocityTracker := do
  let found ← inspect fun world => world.velocity.velocityTracker lessor
  okOr found .leaseNotFound

def saveVelocityTracker (lessor : Address) (tracker : VelocityTracker) : Contract Unit :=
  updateVelocity fun velocity => { velocity with
    velocityTracker := Function.update velocity.velocityTracker lessor (some tracker) }

def isLessorPaused (lessor : Address) : Contract Bool :=
  inspect fun world => world.velocity.pausedLessor lessor

def initializeLessor (lessor : Address) : Contract Unit := do
  let known ← inspect fun world => world.velocity.velocityTracker lessor
  match known with
  | some _ => pure ()
  | none => saveVelocityTracker lessor ⟨lessor, 0, 0, [], false, none⟩

/-- The termination times the cleanup keeps. -/
def recentTerminations (cutoffTime : U64) (times : List U64) : List U64 :=
  times.filter fun time => cutoffTime ≤ time

/-- The cleaned tracker is used for the check and never stored. -/
def cleanupOldTerminations (env : Env) (tracker : VelocityTracker) :
    Contract VelocityTracker := do
  let cutoffTime ← checkedSubU64 env.timestamp velocityWindow
  let recent := recentTerminations cutoffTime tracker.lastTerminationTimes
  pure { tracker with lastTerminationTimes := recent, terminations24h := recent.length }

def pauseLessor (env : Env) (lessor : Address) (reason : String) : Contract Unit := do
  updateVelocity fun velocity => { velocity with
    pausedLessor := Function.update velocity.pausedLessor lessor true }
  let tracker ← getVelocityTracker lessor
  saveVelocityTracker lessor { tracker with
    isPaused := true, pauseTimestamp := some env.timestamp }
  publish (.lessorPaused lessor reason env.timestamp)

/-- The topics of its two events have more than the nine characters of `Symbol::short` and are
read as plain names. -/
def triggerVelocityAnomaly (env : Env) (lessor : Address) (tracker : VelocityTracker)
    (velocityPercentage : U64) : Contract Unit := do
  publish (.terminationVelocityAnomalyDetected lessor tracker.terminations24h
    tracker.totalLeases velocityPercentage env.timestamp)
  let requestId := env.sequence.toNat
  updateVelocity fun velocity => { velocity with
    daoApprovalRequest := Function.update velocity.daoApprovalRequest requestId
      (some ⟨lessor, requestId, env.timestamp, "Velocity anomaly detected",
        tracker.terminations24h, false, []⟩) }
  pauseLessor env lessor "Velocity anomaly - pending DAO review"

/-- The comparison of the check, once the old terminations are dropped. -/
def enforceLimit (env : Env) (lessor : Address) (tracker : VelocityTracker) : Contract Unit :=
  if 0 < tracker.totalLeases then do
    let scaled ← checkedU64 (tracker.terminations24h * 10000)
    if velocityThresholdPercent < scaled / tracker.totalLeases then do
      triggerVelocityAnomaly env lessor tracker (scaled / tracker.totalLeases)
      throw (.err .velocityLimitExceeded)
    else
      pure ()
  else
    pure ()

def checkVelocityLimits (env : Env) (lessor : Address) : Contract Unit := do
  let paused ← isLessorPaused lessor
  require (paused = false) .velocityLimitExceeded
  let stored ← getVelocityTracker lessor
  let tracker ← cleanupOldTerminations env stored
  enforceLimit env lessor tracker

def recordTermination (env : Env) (lessor : Address) : Contract Unit := do
  let tracker ← getVelocityTracker lessor
  let terminations24h ← checkedU64 (tracker.terminations24h + 1)
  saveVelocityTracker lessor { tracker with
    lastTerminationTimes := tracker.lastTerminationTimes ++ [env.timestamp]
    terminations24h := terminations24h }

/-- Growing is checked for overflow, shrinking saturates at an empty portfolio. -/
def resizedPortfolio (totalLeases : U64) (delta : Int) : Contract U64 :=
  if 0 < delta then checkedU64 (totalLeases + delta.toNat)
  else pure (totalLeases - (-delta).toNat)

def updatePortfolioSize (lessor : Address) (delta : Int) : Contract Unit := do
  let tracker ← getVelocityTracker lessor
  let totalLeases ← resizedPortfolio tracker.totalLeases delta
  saveVelocityTracker lessor { tracker with totalLeases := totalLeases }

def velocityPercentage (tracker : VelocityTracker) : Contract U64 :=
  if 0 < tracker.totalLeases then do
    let scaled ← checkedU64 (tracker.terminations24h * 10000)
    pure (scaled / tracker.totalLeases)
  else
    pure 0

def getVelocityStats (lessor : Address) : Contract (U64 × U64 × U64 × Bool) := do
  let tracker ← getVelocityTracker lessor
  let percentage ← velocityPercentage tracker
  pure (tracker.totalLeases, tracker.terminations24h, percentage, tracker.isPaused)

def resumeLessor (lessor : Address) : Contract Unit := do
  updateVelocity fun velocity => { velocity with
    pausedLessor := Function.update velocity.pausedLessor lessor false }
  let tracker ← getVelocityTracker lessor
  saveVelocityTracker lessor { tracker with isPaused := false, pauseTimestamp := none }

def saveRequest (requestId : U64) (request : DaoApprovalRequest) : Contract Unit :=
  updateVelocity fun velocity => { velocity with
    daoApprovalRequest := Function.update velocity.daoApprovalRequest requestId (some request) }

/-- One approval suffices, so the approval and the resume are one call. -/
def daoApproveResume (daoMember lessor : Address) (requestId : U64) : Contract Unit := do
  let stored ← inspect fun world => world.config.admin
  let daoMultisig ← okOr stored .unauthorised
  require (daoMember = daoMultisig) .unauthorised
  let found ← inspect fun world => world.velocity.daoApprovalRequest requestId
  let request ← okOr found .leaseNotFound
  let approvals := if daoMember ∈ request.approvals then request.approvals
    else request.approvals ++ [daoMember]
  saveRequest requestId { request with approvals := approvals }
  resumeLessor lessor
  saveRequest requestId { request with approvals := approvals, approved := true }

end VelocityGuard

def daoApproveResume (env : Env) (daoMember lessor : Address) (requestId : U64) :
    Contract Unit := do
  requireAuth env daoMember
  VelocityGuard.daoApproveResume daoMember lessor requestId

/-! ## Footprints -/

section Footprints

variable {parts : List Part} {env : Env} {lessor : Address}

@[simp] theorem writes_updateVelocity (may : .velocity ∈ parts)
    (change : VelocityStore → VelocityStore) : Writes parts (updateVelocity change) := by
  refine writes_modify fun state part aside => ?_
  cases part <;> first | rfl | exact absurd may aside

namespace VelocityGuard

@[simp] theorem writes_getVelocityTracker : Writes parts (getVelocityTracker lessor) :=
  writes_bind (writes_inspect _) fun _ => writes_okOr _ _

@[simp] theorem writes_saveVelocityTracker (may : .velocity ∈ parts) (tracker : VelocityTracker) :
    Writes parts (saveVelocityTracker lessor tracker) :=
  writes_updateVelocity may _

@[simp] theorem writes_initializeLessor (may : .velocity ∈ parts) :
    Writes parts (initializeLessor lessor) := by
  refine writes_bind (writes_inspect _) fun known => ?_
  cases known with
  | none => exact writes_saveVelocityTracker may _
  | some _ => exact writes_pure ()

@[simp] theorem writes_triggerVelocityAnomaly (may : [.velocity, .events] ⊆ parts)
    (tracker : VelocityTracker) (velocityPercentage : U64) :
    Writes parts (triggerVelocityAnomaly env lessor tracker velocityPercentage) := by
  refine Writes.mono ?_ may
  unfold triggerVelocityAnomaly pauseLessor
  repeat refine writes_bind (by simp) fun _ => ?_
  simp

@[simp] theorem writes_checkVelocityLimits (may : [.velocity, .events] ⊆ parts) :
    Writes parts (checkVelocityLimits env lessor) := by
  have cleaned (tracker : VelocityTracker) :
      Writes parts (cleanupOldTerminations env tracker) :=
    writes_bind (by simp) fun _ => writes_pure _
  unfold checkVelocityLimits isLessorPaused enforceLimit
  iterate 3 refine writes_bind (by simp) fun _ => ?_
  refine writes_bind (cleaned _) fun tracker => writes_ite _ ?_ (writes_pure ())
  refine writes_bind (by simp) fun scaled => writes_ite _ ?_ (writes_pure ())
  exact writes_bind (writes_triggerVelocityAnomaly may _ _) fun _ => writes_throw _

@[simp] theorem writes_recordTermination (may : .velocity ∈ parts) :
    Writes parts (recordTermination env lessor) := by
  unfold recordTermination
  repeat refine writes_bind (by simp) fun _ => ?_
  simp [may]

@[simp] theorem writes_updatePortfolioSize (may : .velocity ∈ parts) (delta : Int) :
    Writes parts (updatePortfolioSize lessor delta) := by
  have resized (tracker : VelocityTracker) :
      Writes parts (resizedPortfolio tracker.totalLeases delta) :=
    writes_ite _ (writes_checkedU64 _) (writes_pure _)
  refine writes_bind (by simp) fun tracker => writes_bind (resized tracker) fun _ => ?_
  simp [may]

@[simp] theorem writes_getVelocityStats : Writes parts (getVelocityStats lessor) := by
  refine writes_bind (by simp) fun tracker => writes_bind ?_ fun _ => writes_pure _
  exact writes_ite _ (writes_bind (by simp) fun _ => writes_pure _) (writes_pure 0)

end VelocityGuard

@[simp] theorem writes_daoApproveResume (may : .velocity ∈ parts) (daoMember lessor : Address)
    (requestId : U64) : Writes parts (daoApproveResume env daoMember lessor requestId) := by
  unfold daoApproveResume VelocityGuard.daoApproveResume VelocityGuard.saveRequest
  have resumed : Writes parts (VelocityGuard.resumeLessor lessor) := by
    unfold VelocityGuard.resumeLessor
    repeat refine writes_bind (by simp [may]) fun _ => ?_
    simp [may]
  repeat refine writes_bind (by simp [may, resumed]) fun _ => ?_
  simp [may]

end Footprints

/-! ## Effect on the escrow -/

def Escrow.withVelocity (velocity : VelocityStore) (escrow : Escrow) : Escrow :=
  { escrow with velocity := velocity }

/-- Nothing but the velocity trackers differs. -/
def Escrow.Retracked (before after : Escrow) : Prop :=
  ∃ trackers, after = { before with
    velocity := { before.velocity with velocityTracker := trackers } }

theorem Escrow.Retracked.refl (escrow : Escrow) : escrow.Retracked escrow :=
  ⟨escrow.velocity.velocityTracker, rfl⟩

theorem Escrow.Retracked.trans {first second third : Escrow} (one : first.Retracked second)
    (two : second.Retracked third) : first.Retracked third := by
  obtain ⟨_, rfl⟩ := one
  obtain ⟨trackers, rfl⟩ := two
  exact ⟨trackers, rfl⟩

theorem Escrow.Retracked.enter {before after : Escrow} (retracked : before.Retracked after)
    (entries : List DepositEntry) : (before.enter entries).Retracked (after.enter entries) := by
  obtain ⟨trackers, rfl⟩ := retracked
  exact ⟨trackers, rfl⟩

theorem Escrow.Retracked.store {before after : Escrow} (retracked : before.Retracked after)
    (leaseId : LeaseId) (record : Option LeaseInstance) :
    (before.store leaseId record).Retracked (after.store leaseId record) := by
  obtain ⟨trackers, rfl⟩ := retracked
  exact ⟨trackers, rfl⟩

/-- The tracker of a lessor, a fresh one if none is stored. -/
def VelocityStore.trackerOf (velocity : VelocityStore) (lessor : Address) : VelocityTracker :=
  (velocity.velocityTracker lessor).getD ⟨lessor, 0, 0, [], false, none⟩

def VelocityStore.track (velocity : VelocityStore) (lessor : Address)
    (tracker : VelocityTracker) : VelocityStore :=
  { velocity with
    velocityTracker := Function.update velocity.velocityTracker lessor (some tracker) }

@[simp] theorem VelocityStore.velocityTracker_track (velocity : VelocityStore) (lessor : Address)
    (tracker : VelocityTracker) :
    (velocity.track lessor tracker).velocityTracker lessor = some tracker :=
  Function.update_self ..

@[simp] theorem VelocityStore.track_track (velocity : VelocityStore) (lessor : Address)
    (first second : VelocityTracker) :
    (velocity.track lessor first).track lessor second = velocity.track lessor second := by
  simp [VelocityStore.track]

/-- The tracker after a termination was recorded and its lease left the portfolio. -/
def VelocityTracker.terminated (tracker : VelocityTracker) (now : U64) : VelocityTracker :=
  { tracker with
    totalLeases := tracker.totalLeases - 1
    lastTerminationTimes := tracker.lastTerminationTimes ++ [now]
    terminations24h := tracker.terminations24h + 1 }

/-- More terminations in the window than the threshold allows. -/
def VelocityTracker.Exceeded (tracker : VelocityTracker) (now : U64) : Prop :=
  0 < tracker.totalLeases ∧
    velocityThresholdPercent <
      (VelocityGuard.recentTerminations (now - velocityWindow)
        tracker.lastTerminationTimes).length * 10000 / tracker.totalLeases

/-- The check lets a termination of the tracked lessor pass. -/
structure VelocityTracker.Allows (tracker : VelocityTracker) (now : U64) : Prop where
  window : velocityWindow ≤ now
  counted : 0 < tracker.totalLeases →
    (VelocityGuard.recentTerminations (now - velocityWindow)
      tracker.lastTerminationTimes).length * 10000 ≤ u64Max
  within : ¬ tracker.Exceeded now

/-- The counters of the tracker have room for another termination. -/
structure VelocityTracker.CountsNext (tracker : VelocityTracker) : Prop where
  counted : tracker.terminations24h + 1 ≤ u64Max
  scaled : 0 < tracker.totalLeases - 1 → (tracker.terminations24h + 1) * 10000 ≤ u64Max

namespace VelocityGuard

variable {world after : World} {lessor : Address}

@[simp] theorem commits_getVelocityTracker (tracker : VelocityTracker) :
    Commits (getVelocityTracker lessor) world tracker after ↔
      world.velocity.velocityTracker lessor = some tracker ∧ after = world := by
  simp [getVelocityTracker, eq_comm, and_comm]

@[simp] theorem commits_updateVelocity (change : VelocityStore → VelocityStore) (result : Unit) :
    Commits (updateVelocity change) world result after ↔
      after = { world with velocity := change world.velocity } :=
  commits_modify _ result

@[simp] theorem commits_saveVelocityTracker (tracker : VelocityTracker) (result : Unit) :
    Commits (saveVelocityTracker lessor tracker) world result after ↔
      after = { world with velocity := world.velocity.track lessor tracker } :=
  commits_updateVelocity _ result

theorem saveVelocityTracker_retracks {tracker : VelocityTracker} {result : Unit}
    (run : Commits (saveVelocityTracker lessor tracker) world result after) :
    world.toEscrow.Retracked after.toEscrow := by
  rw [(commits_saveVelocityTracker tracker result).mp run]
  exact ⟨_, rfl⟩

theorem commits_initializeLessor (result : Unit) :
    Commits (initializeLessor lessor) world result after ↔
      after = { world with
        velocity := world.velocity.track lessor (world.velocity.trackerOf lessor) } := by
  simp only [initializeLessor, commits_bind, commits_inspect, VelocityStore.trackerOf]
  cases known : world.velocity.velocityTracker lessor with
  | none => simp
  | some tracker =>
      have same : world.velocity.track lessor tracker = world.velocity := by
        rw [VelocityStore.track, ← known, Function.update_eq_self]
      simp [same]

theorem initializeLessor_retracks {result : Unit}
    (run : Commits (initializeLessor lessor) world result after) :
    world.toEscrow.Retracked after.toEscrow := by
  rw [(commits_initializeLessor result).mp run]
  exact ⟨_, rfl⟩

theorem commits_recordTermination {env : Env} (result : Unit) :
    Commits (recordTermination env lessor) world result after ↔
      ∃ tracker, world.velocity.velocityTracker lessor = some tracker ∧
        tracker.terminations24h + 1 ≤ u64Max ∧
        after = { world with velocity := world.velocity.track lessor { tracker with
          lastTerminationTimes := tracker.lastTerminationTimes ++ [env.timestamp]
          terminations24h := tracker.terminations24h + 1 } } := by
  simp [recordTermination, and_assoc, and_left_comm]

theorem recordTermination_retracks {env : Env} {result : Unit}
    (run : Commits (recordTermination env lessor) world result after) :
    world.toEscrow.Retracked after.toEscrow := by
  obtain ⟨_, _, _, rfl⟩ := (commits_recordTermination result).mp run
  exact ⟨_, rfl⟩

/-- A termination takes one lease out of the portfolio. -/
theorem commits_updatePortfolioSize_pred (result : Unit) :
    Commits (updatePortfolioSize lessor (-1)) world result after ↔
      ∃ tracker, world.velocity.velocityTracker lessor = some tracker ∧
        after = { world with velocity := world.velocity.track lessor { tracker with
          totalLeases := tracker.totalLeases - 1 } } := by
  simp [updatePortfolioSize, resizedPortfolio, and_assoc, and_left_comm]

theorem updatePortfolioSize_retracks {delta : Int} {result : Unit}
    (run : Commits (updatePortfolioSize lessor delta) world result after) :
    world.toEscrow.Retracked after.toEscrow := by
  simp only [updatePortfolioSize, resizedPortfolio, commits_bind, commits_getVelocityTracker,
    commits_ite, commits_checkedU64, commits_pure] at run
  obtain ⟨_, before, ⟨_, rfl⟩, _, middle, sized, run⟩ := run
  have same : middle = before := by
    split at sized
    · exact sized.2.2
    · exact sized.2
  exact same ▸ saveVelocityTracker_retracks run

/-- Both steps that count a termination. -/
theorem commits_countTermination {env : Env} {tracker : VelocityTracker}
    (tracked : world.velocity.velocityTracker lessor = some tracker) :
    (∃ first second middle, Commits (recordTermination env lessor) world first middle ∧
        Commits (updatePortfolioSize lessor (-1)) middle second after) ↔
      tracker.terminations24h + 1 ≤ u64Max ∧
        after = { world with
          velocity := world.velocity.track lessor (tracker.terminated env.timestamp) } := by
  simp [commits_recordTermination, commits_updatePortfolioSize_pred, tracked,
    VelocityTracker.terminated]

@[simp] theorem commits_velocityPercentage (tracker : VelocityTracker) (percentage : U64) :
    Commits (velocityPercentage tracker) world percentage after ↔
      (0 < tracker.totalLeases → tracker.terminations24h * 10000 ≤ u64Max) ∧
        percentage = tracker.terminations24h * 10000 / tracker.totalLeases ∧ after = world := by
  unfold velocityPercentage
  by_cases managed : 0 < tracker.totalLeases
  · simp [managed, and_assoc, and_left_comm, and_comm]
  · simp [Nat.eq_zero_of_not_pos managed]

theorem commits_getVelocityStats (stats : U64 × U64 × U64 × Bool) :
    Commits (getVelocityStats lessor) world stats after ↔
      ∃ tracker, world.velocity.velocityTracker lessor = some tracker ∧
        (0 < tracker.totalLeases → tracker.terminations24h * 10000 ≤ u64Max) ∧
        stats = (tracker.totalLeases, tracker.terminations24h,
          tracker.terminations24h * 10000 / tracker.totalLeases, tracker.isPaused) ∧
        after = world := by
  simp only [getVelocityStats, commits_bind, commits_getVelocityTracker,
    commits_velocityPercentage, commits_pure]
  constructor
  · rintro ⟨tracker, _, ⟨found, rfl⟩, _, _, ⟨scaled, rfl, rfl⟩, rfl, rfl⟩
    exact ⟨tracker, found, scaled, rfl, rfl⟩
  · rintro ⟨tracker, found, scaled, rfl, rfl⟩
    exact ⟨tracker, after, ⟨found, rfl⟩, _, after, ⟨scaled, rfl, rfl⟩, rfl, rfl⟩

@[simp] theorem commits_cleanupOldTerminations {env : Env} (tracker cleaned : VelocityTracker) :
    Commits (cleanupOldTerminations env tracker) world cleaned after ↔
      velocityWindow ≤ env.timestamp ∧
      cleaned = { tracker with
        lastTerminationTimes :=
          recentTerminations (env.timestamp - velocityWindow) tracker.lastTerminationTimes
        terminations24h :=
          (recentTerminations (env.timestamp - velocityWindow)
            tracker.lastTerminationTimes).length } ∧
      after = world := by
  simp only [cleanupOldTerminations, commits_bind, commits_checkedSubU64, commits_pure]
  constructor
  · rintro ⟨cutoff, middle, ⟨enough, same, kept⟩, result, last⟩
    rw [same] at result
    exact ⟨enough, result, last.trans kept⟩
  · rintro ⟨enough, result, last⟩
    exact ⟨_, world, ⟨enough, rfl, rfl⟩, result, last⟩

/-- The comparison lets a call pass only below the limit, and then writes nothing. -/
theorem commits_enforceLimit {env : Env} (tracker : VelocityTracker) (result : Unit) :
    Commits (enforceLimit env lessor tracker) world result after ↔
      ((0 < tracker.totalLeases → tracker.terminations24h * 10000 ≤ u64Max) ∧
        ¬ (0 < tracker.totalLeases ∧
          velocityThresholdPercent < tracker.terminations24h * 10000 / tracker.totalLeases)) ∧
      after = world := by
  unfold enforceLimit
  by_cases managed : 0 < tracker.totalLeases
  · simp [managed, and_assoc]
  · simp [managed]

/-- The check lets a call pass only for a lessor that is not paused and is within
its limit, and then writes nothing. -/
theorem commits_checkVelocityLimits {env : Env} (result : Unit) :
    Commits (checkVelocityLimits env lessor) world result after ↔
      (world.velocity.pausedLessor lessor = false ∧
        ∃ tracker, world.velocity.velocityTracker lessor = some tracker ∧
          tracker.Allows env.timestamp) ∧ after = world := by
  simp only [checkVelocityLimits, isLessorPaused, commits_bind, commits_inspect,
    commits_require, commits_getVelocityTracker, commits_cleanupOldTerminations,
    commits_enforceLimit]
  constructor
  · rintro ⟨_, _, ⟨rfl, rfl⟩, _, _, ⟨running, rfl⟩, stored, _, ⟨found, rfl⟩, _, _,
      ⟨window, rfl, rfl⟩, ⟨counted, within⟩, same⟩
    exact ⟨⟨running, stored, found, window, counted, within⟩, same⟩
  · rintro ⟨⟨running, stored, found, window, counted, within⟩, rfl⟩
    exact ⟨_, after, ⟨rfl, rfl⟩, (), after, ⟨running, rfl⟩, stored, after, ⟨found, rfl⟩, _, after,
      ⟨window, rfl, rfl⟩, ⟨counted, within⟩, rfl⟩

/-- Both steps of an admission: the lessor is not paused, its tracker allows the call, and
only that tracker may have been written. -/
theorem commits_admitLessor {env : Env} {middle : World} {first second : Unit}
    (initialised : Commits (initializeLessor lessor) world first middle)
    (checked : Commits (checkVelocityLimits env lessor) middle second after) :
    world.velocity.pausedLessor lessor = false ∧
      (world.velocity.trackerOf lessor).Allows env.timestamp ∧
      after = { world with
        velocity := world.velocity.track lessor (world.velocity.trackerOf lessor) } := by
  rw [(commits_initializeLessor first).mp initialised] at checked
  obtain ⟨⟨running, tracker, found, allows⟩, rfl⟩ := (commits_checkVelocityLimits second).mp checked
  rw [VelocityStore.velocityTracker_track, Option.some.injEq] at found
  exact ⟨running, found ▸ allows, rfl⟩

theorem not_exceeded_of_allows {tracker : VelocityTracker} {velocity : VelocityStore} {now : U64}
    (allows : (velocity.trackerOf lessor).Allows now)
    (known : velocity.velocityTracker lessor = some tracker) : ¬ tracker.Exceeded now := by
  rw [VelocityStore.trackerOf, known] at allows
  exact allows.within

theorem saveRequest_escrow {requestId : U64} {request : DaoApprovalRequest} {result : Unit}
    (run : Commits (saveRequest requestId request) world result after) :
    ∃ velocity, after.toEscrow = world.toEscrow.withVelocity velocity := by
  rw [(commits_updateVelocity _ result).mp run]
  exact ⟨_, rfl⟩

theorem resumeLessor_escrow {result : Unit}
    (run : Commits (resumeLessor lessor) world result after) :
    ∃ velocity, after.toEscrow = world.toEscrow.withVelocity velocity := by
  simp only [resumeLessor, saveVelocityTracker, commits_bind, commits_updateVelocity,
    commits_getVelocityTracker] at run
  obtain ⟨_, _, rfl, _, _, ⟨_, rfl⟩, rfl⟩ := run
  exact ⟨_, rfl⟩

end VelocityGuard

/-- A resume needs a stored request, and writes only the velocity guard's part. -/
theorem daoApproveResume_commits {world after : World} {env : Env} {daoMember lessor : Address}
    {requestId : U64} {result : Unit}
    (run : Commits (daoApproveResume env daoMember lessor requestId) world result after) :
    world.velocity.daoApprovalRequest requestId ≠ none ∧
      ∃ velocity, after.toEscrow = world.toEscrow.withVelocity velocity := by
  simp only [daoApproveResume, VelocityGuard.daoApproveResume, commits_bind, commits_requireAuth,
    commits_inspect, commits_okOr, commits_require] at run
  obtain ⟨_, _, ⟨_, rfl⟩, _, _, ⟨_, rfl⟩, _, _, ⟨_, rfl⟩, _, _, ⟨_, rfl⟩, _, start, ⟨rfl, rfl⟩,
    _, _, ⟨found, rfl⟩, _, _, asked, _, _, resumed, approved⟩ := run
  obtain ⟨_, first⟩ := VelocityGuard.saveRequest_escrow asked
  obtain ⟨_, second⟩ := VelocityGuard.resumeLessor_escrow resumed
  obtain ⟨velocity, third⟩ := VelocityGuard.saveRequest_escrow approved
  refine ⟨by simp [found], velocity, ?_⟩
  rw [third, second, first]
  rfl

end LeaseFlow
