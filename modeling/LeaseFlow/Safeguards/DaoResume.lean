import LeaseFlow.Portfolio.Tracking

/-!
# Resumes and their requests

`dao_approve_resume` looks its request up by id and reads neither the lessor the request
names nor whether it was approved before.
-/

set_option autoImplicit false

namespace LeaseFlow

open Transaction

/-- The request with the approval of a member. -/
def DaoApprovalRequest.approvedBy (request : DaoApprovalRequest) (daoMember : Address) :
    DaoApprovalRequest :=
  { request with
    approvals := if daoMember ∈ request.approvals then request.approvals
      else request.approvals ++ [daoMember]
    approved := true }

/-- The checks of `dao_approve_resume`. -/
structure World.AdmitsResume (env : Env) (daoMember lessor : Address) (requestId : U64)
    (world : World) : Prop where
  signed : env.authorised daoMember = true
  multisig : world.config.admin = some daoMember
  requested : world.velocity.daoApprovalRequest requestId ≠ none
  tracked : world.velocity.velocityTracker lessor ≠ none

/-- The stored request names the lessor and was not approved before. -/
def VelocityStore.Awaits (velocity : VelocityStore) (lessor : Address) (requestId : U64) : Prop :=
  ∃ request, velocity.daoApprovalRequest requestId = some request ∧ request.lessor = lessor ∧
    request.approved = false

/-- The call is a resume that goes through. -/
def Invocation.resumesBy (requestId : U64) (invocation : Invocation) (world : World) : Bool :=
  decide (invocation.call.resumed = some requestId) && invocation.body.succeeds world

/-- A resume that goes through answers a request of the lessor that was not approved
before. -/
def Invocation.BoundToRequest (invocation : Invocation) (world : World) : Prop :=
  ∀ daoMember lessor requestId, invocation.call = .daoApproveResume daoMember lessor requestId →
    invocation.Committed world → world.velocity.Awaits lessor requestId

/-- A resume that passes the code's checks answers no open request of the lessor. -/
def Invocation.Misdirected (invocation : Invocation) (world : World) : Prop :=
  ∃ daoMember lessor requestId, invocation.call = .daoApproveResume daoMember lessor requestId ∧
    world.AdmitsResume invocation.env daoMember lessor requestId ∧
    ¬ world.velocity.Awaits lessor requestId

section Resume

variable {env : Env} {world after : World} {daoMember lessor : Address} {requestId : U64}

theorem commits_daoApproveResume :
    Commits (daoApproveResume env daoMember lessor requestId) world () after ↔
      env.authorised daoMember = true ∧ world.config.admin = some daoMember ∧
        ∃ request, world.velocity.daoApprovalRequest requestId = some request ∧
          ∃ tracker, world.velocity.velocityTracker lessor = some tracker ∧
            after = { world with velocity := {
              velocityTracker := Function.update world.velocity.velocityTracker lessor
                (some { tracker with isPaused := false, pauseTimestamp := none })
              pausedLessor := Function.update world.velocity.pausedLessor lessor false
              daoApprovalRequest := Function.update world.velocity.daoApprovalRequest requestId
                (some (request.approvedBy daoMember)) } } := by
  simp [daoApproveResume, VelocityGuard.daoApproveResume, VelocityGuard.saveRequest,
    VelocityGuard.resumeLessor, DaoApprovalRequest.approvedBy, VelocityStore.track]

theorem committed_daoApproveResume :
    (⟨env, .daoApproveResume daoMember lessor requestId⟩ : Invocation).Committed world ↔
      world.AdmitsResume env daoMember lessor requestId := by
  constructor
  · intro committed
    obtain ⟨signed, multisig, request, requested, tracker, tracked, _⟩ :=
      commits_daoApproveResume.mp committed.commits
    exact ⟨signed, multisig, by simp [requested], by simp [tracked]⟩
  · intro admits
    obtain ⟨request, requested⟩ := Option.ne_none_iff_exists'.mp admits.requested
    obtain ⟨tracker, tracked⟩ := Option.ne_none_iff_exists'.mp admits.tracked
    exact .of_commits (commits_daoApproveResume.mpr
      ⟨admits.signed, admits.multisig, request, requested, tracker, tracked, rfl⟩)

theorem Invocation.boundToRequest_iff (invocation : Invocation) (world : World) :
    invocation.BoundToRequest world ↔ ¬ invocation.Misdirected world := by
  obtain ⟨env, call⟩ := invocation
  constructor
  · intro bound
    rintro ⟨daoMember, lessor, requestId, rfl, admits, other⟩
    exact other (bound daoMember lessor requestId rfl (committed_daoApproveResume.mpr admits))
  · intro directed daoMember lessor requestId same committed
    obtain rfl : call = .daoApproveResume daoMember lessor requestId := same
    by_contra other
    exact directed ⟨daoMember, lessor, requestId, rfl, committed_daoApproveResume.mp committed,
      other⟩

theorem Invocation.resumesBy_iff {invocation : Invocation} :
    invocation.resumesBy requestId world = true ↔
      invocation.call.resumed = some requestId ∧ invocation.Committed world := by
  simp [Invocation.resumesBy, Invocation.Committed]

theorem request_kept {call : Call} (unresumed : call.resumed = none)
    (run : Commits (dispatch env call) world () after) :
    after.velocity.daoApprovalRequest = world.velocity.daoApprovalRequest := by
  cases dispatch_tracking_of_ne unresumed run with
  | kept _ _ velocity => rw [velocity]
  | enlarged _ velocity =>
      rw [velocity]
      rfl
  | terminated _ _ _ velocity =>
      rw [velocity]
      rfl

theorem request_resumed
    (run : Commits (daoApproveResume env daoMember lessor requestId) world () after) :
    ∃ request, world.velocity.daoApprovalRequest requestId = some request ∧
      after.velocity.daoApprovalRequest = Function.update world.velocity.daoApprovalRequest
        requestId (some (request.approvedBy daoMember)) := by
  obtain ⟨_, _, request, requested, _, _, rfl⟩ := commits_daoApproveResume.mp run
  exact ⟨request, requested, rfl⟩

theorem step_request (invocation : Invocation) (world : World) (requestId : U64) :
    ((step invocation world).velocity.daoApprovalRequest requestId =
        world.velocity.daoApprovalRequest requestId ∧
      invocation.resumesBy requestId world = false) ∨
    ∃ request daoMember, invocation.resumesBy requestId world = true ∧
      world.velocity.daoApprovalRequest requestId = some request ∧
      (step invocation world).velocity.daoApprovalRequest requestId =
        some (request.approvedBy daoMember) := by
  obtain ⟨env, call⟩ := invocation
  by_cases committed : (⟨env, call⟩ : Invocation).Committed world
  · have run := committed.commits
    cases asked : call.resumed with
    | none =>
        left
        refine ⟨by rw [request_kept asked run], ?_⟩
        simp [Invocation.resumesBy, asked]
    | some other =>
        cases call with
        | daoApproveResume daoMember lessor answered =>
            obtain ⟨request, requested, stored⟩ := request_resumed run
            by_cases same : requestId = answered
            · subst same
              right
              refine ⟨request, daoMember, Invocation.resumesBy_iff.mpr ⟨rfl, committed⟩,
                requested, ?_⟩
              rw [stored, Function.update_self]
            · left
              refine ⟨by rw [stored, Function.update_of_ne same], ?_⟩
              simp [Invocation.resumesBy, Call.resumed, Ne.symm same]
        | _ => cases asked
  · left
    have refused : (⟨env, call⟩ : Invocation).body.succeeds world = false :=
      Bool.eq_false_iff.mpr committed
    refine ⟨?_, by simp [Invocation.resumesBy, refused]⟩
    rw [step_of_not_committed committed]

/-! ## Runs -/

theorem Invocation.BoundToRequest.unapproved {invocation : Invocation}
    {request : DaoApprovalRequest} (bound : invocation.BoundToRequest world)
    (requested : world.velocity.daoApprovalRequest requestId = some request)
    (approved : request.approved = true) : invocation.resumesBy requestId world = false := by
  by_contra resumes
  obtain ⟨asked, committed⟩ := resumesBy_iff.mp (Bool.eq_true_of_not_eq_false resumes)
  obtain ⟨env, call⟩ := invocation
  cases call with
  | daoApproveResume daoMember lessor other =>
      obtain rfl : other = requestId := Option.some.inj asked
      obtain ⟨awaited, stored, _, unapproved⟩ := bound daoMember lessor _ rfl committed
      cases requested.symm.trans stored
      cases approved.symm.trans unapproved
  | _ => cases asked

theorem count_resumes_of_approved {calls : List Invocation} {request : DaoApprovalRequest}
    (bound : Run.MeetsAlong step Invocation.BoundToRequest calls world)
    (requested : world.velocity.daoApprovalRequest requestId = some request)
    (approved : request.approved = true) :
    Run.count step (Invocation.resumesBy requestId) calls world = 0 := by
  induction calls generalizing world with
  | nil => rfl
  | cons call rest ih =>
      have idle := bound.1.unapproved requested approved
      rcases step_request call world requestId with ⟨same, _⟩ | ⟨_, _, resumes, _⟩
      · rw [Run.count, idle, ih bound.2 (same.trans requested)]
        rfl
      · cases idle.symm.trans resumes

/-- Each request resumes a lessor once at most. -/
theorem count_resumes_le {calls : List Invocation}
    (bound : Run.MeetsAlong step Invocation.BoundToRequest calls world) :
    Run.count step (Invocation.resumesBy requestId) calls world ≤ 1 := by
  induction calls generalizing world with
  | nil => exact Nat.zero_le 1
  | cons call rest ih =>
      rw [Run.count]
      rcases step_request call world requestId with ⟨_, idle⟩ | ⟨request, member, _, _, stored⟩
      · rw [idle]
        simpa using ih bound.2
      · rw [count_resumes_of_approved bound.2 stored rfl]
        exact Bool.toNat_le _

theorem request_lessor_kept (calls : List Invocation) {request : DaoApprovalRequest}
    (requested : world.velocity.daoApprovalRequest requestId = some request) :
    ∃ later, (Run.run step calls world).velocity.daoApprovalRequest requestId = some later ∧
      later.lessor = request.lessor := by
  refine @Run.invariant _ _ step (fun state => ∃ later,
    state.velocity.daoApprovalRequest requestId = some later ∧ later.lessor = request.lessor)
    ?_ calls world ⟨request, requested, rfl⟩
  rintro call state ⟨later, stored, names⟩
  rcases step_request call state requestId with ⟨same, _⟩ | ⟨before, member, _, found, approved⟩
  · exact ⟨later, same.trans stored, names⟩
  · cases stored.symm.trans found
    exact ⟨_, approved, names⟩

end Resume

/-- The resumes of a run are bound to their requests exactly when none is misdirected.  Then each
request resumes a lessor once at most, and whatever the calls of a run, no request passes to
another lessor. -/
theorem dao_resume_bound_iff (calls : List Invocation) (world : World) :
    (Run.MeetsAlong step Invocation.BoundToRequest calls world ↔
      Run.MeetsAlong step (fun call state => ¬ call.Misdirected state) calls world) ∧
    (∀ requestId, Run.MeetsAlong step (fun call state => ¬ call.Misdirected state) calls world →
      Run.count step (Invocation.resumesBy requestId) calls world ≤ 1) ∧
    ∀ (requestId : U64) (request : DaoApprovalRequest),
      world.velocity.daoApprovalRequest requestId = some request →
      ∃ later, (Run.run step calls world).velocity.daoApprovalRequest requestId = some later ∧
        later.lessor = request.lessor := by
  have directed : Run.MeetsAlong step Invocation.BoundToRequest calls world ↔
      Run.MeetsAlong step (fun call state => ¬ call.Misdirected state) calls world :=
    @Run.meetsAlong_congr _ _ step (fun _ => True) _ _ (fun _ _ _ => trivial)
      (fun call state _ => call.boundToRequest_iff state) calls world trivial
  refine ⟨directed, fun requestId none => ?_,
    fun requestId request requested => request_lessor_kept calls requested⟩
  exact count_resumes_le (directed.mpr none)

/-- A store in which admin 7 finds every lessor paused and one request. -/
def pausedWorld (request : DaoApprovalRequest) : World :=
  { freshWorld with
    config := { openSettings with admin := some ⟨7⟩ }
    velocity := ⟨fun lessor => some ⟨lessor, 3, 1, [], true, some 0⟩, fun _ => true,
      fun requestId => if requestId = 5 then some request else none⟩ }

/-- A request of lessor 1 that is approved already. -/
def answeredRequest : DaoApprovalRequest :=
  ⟨⟨1⟩, 5, 0, "Velocity anomaly detected", 1, true, [⟨7⟩]⟩

def openRequest : DaoApprovalRequest :=
  { answeredRequest with approved := false }

/-- The answered request resumes lessor 2. -/
theorem answered_request_resumes_other_lessor :
    let resume := callAt 0 (.daoApproveResume ⟨7⟩ ⟨2⟩ 5)
    resume.Committed (pausedWorld answeredRequest) ∧
      (step resume (pausedWorld answeredRequest)).velocity.pausedLessor ⟨2⟩ = false ∧
      ¬ resume.BoundToRequest (pausedWorld answeredRequest) := by
  have committed : (callAt 0 (.daoApproveResume ⟨7⟩ ⟨2⟩ 5)).Committed
      (pausedWorld answeredRequest) := show _ = true by decide
  refine ⟨committed, rfl, fun bound => ?_⟩
  obtain ⟨request, stored, names, _⟩ := bound ⟨7⟩ ⟨2⟩ 5 rfl committed
  cases stored
  exact absurd names (by decide)

/-- An open request of lessor 1 resumes it once. -/
theorem open_request_resumes_once :
    let resume := callAt 0 (.daoApproveResume ⟨7⟩ ⟨1⟩ 5)
    Run.count step (Invocation.resumesBy 5) [resume] (pausedWorld openRequest) ≤ 1 ∧
      ∃ later, (Run.run step [resume] (pausedWorld openRequest)).velocity.daoApprovalRequest 5 =
        some later ∧ later.lessor = ⟨1⟩ := by
  refine ⟨(dao_resume_bound_iff _ _).2.1 5 ⟨?_, trivial⟩,
    (dao_resume_bound_iff _ _).2.2 5 openRequest rfl⟩
  rintro ⟨_, _, _, same, _, other⟩
  cases same
  exact other ⟨_, rfl, rfl, rfl⟩

end LeaseFlow
