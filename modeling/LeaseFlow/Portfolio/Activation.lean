import LeaseFlow.Holdings.Amendments

/-!
# Activation of proposals

A proposal is stored as pending.  The operation that activates a lease looks for it under a
symbol, and no other operation moves a stored lease instance to active, so a proposal stays
closed to everything that asks for an active lease.
-/

set_option autoImplicit false

namespace LeaseFlow

open Transaction

/-- The call opens no new lease under the id. -/
def Invocation.KeepsLease (leaseId : LeaseId) (invocation : Invocation) (world : World) : Prop :=
  invocation.Committed world → invocation.call.creates invocation.env ≠ some leaseId

/-- Some run after which the lease now stored under the id is live and active.  Its calls open
no other lease under the id. -/
def World.Activatable (world : World) (leaseId : LeaseId) : Prop :=
  ∃ calls lease, Run.MeetsAlong step (Invocation.KeepsLease leaseId) calls world ∧
    (Run.run step calls world).leases.lookup leaseId = some lease ∧ lease.status = .active

/-- The lease under the id, if it is live, is not active. -/
def World.Inactive (leaseId : LeaseId) (world : World) : Prop :=
  ∀ lease, world.leases.lookup leaseId = some lease → lease.status ≠ .active

section Activation

variable {world after : World} {leaseId : LeaseId} {lease : LeaseInstance}

/-- No committed call activates a lease instance it did not create. -/
theorem World.Inactive.kept {env : Env} {call : Call} (inactive : world.Inactive leaseId)
    (run : Commits (dispatch env call) world () after)
    (keeps : call.creates env ≠ some leaseId) : after.Inactive leaseId := by
  intro next stored active
  obtain ⟨lease, found⟩ := dispatch_appears run stored keeps
  rcases dispatch_status run keeps found stored with same | terminated | disputed
  · exact inactive lease found (same.symm.trans active)
  · cases active.symm.trans terminated
  · cases active.symm.trans disputed

theorem World.Inactive.along {calls : List Invocation} (inactive : world.Inactive leaseId)
    (keeps : Run.MeetsAlong step (Invocation.KeepsLease leaseId) calls world) :
    (Run.run step calls world).Inactive leaseId := by
  refine @run_invariant world (World.Inactive leaseId)
    (fun invocation _ => invocation.call.creates invocation.env ≠ some leaseId) ?_ calls keeps
    inactive
  intro invocation before after run creates inactive
  exact inactive.kept run creates

theorem World.inactive_of_pending (found : world.leases.lookup leaseId = some lease)
    (pending : lease.status = .pending) : world.Inactive leaseId := by
  intro stored held active
  obtain rfl := Option.some.inj (found.symm.trans held)
  cases pending.symm.trans active

end Activation

/-- No pending lease instance can be activated, in any store. -/
theorem pending_not_activatable {world : World} {leaseId : LeaseId} {lease : LeaseInstance}
    (found : world.leases.lookup leaseId = some lease) (pending : lease.status = .pending) :
    ¬ world.Activatable leaseId := by
  rintro ⟨calls, next, keeps, stored, active⟩
  exact (World.inactive_of_pending found pending).along keeps next stored active

/-- The store after landlord 1 proposed lease 7. -/
def proposedWorld : World :=
  step (propose 50 7 200 50) freshWorld

theorem proposedWorld_lease : proposedWorld.leases.lookup 7 =
    some (proposedLease ⟨1⟩ (sampleProposal 200 50) 200) :=
  rfl

theorem proposedWorld_not_activatable : ¬ proposedWorld.Activatable 7 :=
  pending_not_activatable proposedWorld_lease rfl

/-- Not every pending lease whose end date is ahead can be activated. -/
theorem proposal_cannot_be_activated :
    ¬ ∀ world leaseId lease now, Reachable world → world.leases.lookup leaseId = some lease →
      lease.status = .pending → now < lease.endDate → world.Activatable leaseId := by
  intro activates
  have reached : Reachable proposedWorld :=
    (Reachable.genesis openSettings openBilling none).next (propose 50 7 200 50)
  have ahead : 60 < (proposedLease ⟨1⟩ (sampleProposal 200 50) 200).endDate := by decide
  obtain ⟨calls, next, keeps, stored, active⟩ :=
    activates proposedWorld 7 _ 60 reached proposedWorld_lease rfl ahead
  exact (World.inactive_of_pending proposedWorld_lease rfl).along keeps next stored active

end LeaseFlow
