import LeaseFlow.Foundations.PartialMap
import LeaseFlow.Escrow.Effect

/-!
# Creations and the records they meet

Four calls create a lease.  Two store it under a symbol, one under an id of the caller's
choice and one under the ledger sequence, and only the third looks whether the key is
taken.
-/

set_option autoImplicit false

namespace LeaseFlow

open Transaction

/-! ## Lease records -/

/-- The keys a lease is stored under, live or archived. -/
inductive LeaseKey where
  | lease (leaseId : Symbol)
  | leaseInstance (leaseId : LeaseId)
  | historicalLease (leaseId : LeaseId)
  deriving DecidableEq

inductive LeaseRecord where
  | lease (record : Lease)
  | leaseInstance (record : LeaseInstance)
  | historicalLease (record : HistoricalLease)

def World.leaseRecord (world : World) : LeaseKey → Option LeaseRecord
  | .lease leaseId => (world.symbols.lease leaseId).map .lease
  | .leaseInstance leaseId => (world.leases.lookup leaseId).map .leaseInstance
  | .historicalLease leaseId => (world.archive.historicalLease leaseId).map .historicalLease

/-- The key a creation stores its lease under. -/
def Call.createdKey (env : Env) : Call → Option LeaseKey
  | .createLease .. => some (.lease "lease")
  | .initializeLease leaseId .. => some (.lease leaseId)
  | .createLeaseInstance leaseId .. => some (.leaseInstance leaseId)
  | .createLeaseWithContinuousBilling _ => some (.leaseInstance (billingLeaseId env))
  | _ => none

section Records

variable {env : Env} {call : Call} {world after : World}

theorem leaseRecord_of_symbol {leaseId : Symbol} {lease : Lease}
    (run : Commits (dispatch env call) world () after)
    (escrow : Part.leases ∉ call.footprint) (archive : Part.history ∉ call.footprint)
    (stored : after.symbols.lease = Function.update world.symbols.lease leaseId (some lease)) :
    after.leaseRecord =
      Function.update world.leaseRecord (.lease leaseId) (some (.lease lease)) := by
  have leases : after.leases = world.leases := dispatch_kept run escrow
  have history := dispatch_kept run archive
  have archived : after.archive.historicalLease = world.archive.historicalLease :=
    congrArg Prod.fst history
  funext key
  cases key with
  | lease other =>
      by_cases same : other = leaseId
      · subst same
        simp [World.leaseRecord, stored]
      · simp [World.leaseRecord, stored, same]
  | leaseInstance other => simp [World.leaseRecord, leases]
  | historicalLease other => simp [World.leaseRecord, archived]

theorem leaseRecord_of_instance {leaseId : LeaseId} {lease : LeaseInstance}
    (run : Commits (dispatch env call) world () after)
    (symbols : Part.symbolLeases ∉ call.footprint) (archive : Part.history ∉ call.footprint)
    (stored : after.leases = world.leases.set leaseId (some lease)) :
    after.leaseRecord =
      Function.update world.leaseRecord (.leaseInstance leaseId) (some (.leaseInstance lease)) := by
  have kept : after.symbols.lease = world.symbols.lease := dispatch_kept run symbols
  have history := dispatch_kept run archive
  have archived : after.archive.historicalLease = world.archive.historicalLease :=
    congrArg Prod.fst history
  funext key
  cases key with
  | lease other => simp [World.leaseRecord, kept]
  | leaseInstance other =>
      by_cases same : other = leaseId
      · subst same
        simp [World.leaseRecord, stored]
      · simp [World.leaseRecord, stored, Table.lookup_set_ne _ _ same, same]
  | historicalLease other => simp [World.leaseRecord, archived]

theorem leaseRecord_of_creation {key : LeaseKey} (creates : call.createdKey env = some key)
    (run : Commits (dispatch env call) world () after) :
    ∃ record, after.leaseRecord = Function.update world.leaseRecord key (some record) := by
  cases call with
  | createLease landlord tenant paymentToken =>
      cases creates
      obtain ⟨_, created⟩ := (commits_dropResult _ _).mp run
      exact ⟨_, leaseRecord_of_symbol run (by simp) (by simp) (createLease_lease created)⟩
  | initializeLease leaseId landlord tenant depositAmount duration propertyUri paymentToken =>
      cases creates
      obtain ⟨_, created⟩ := (commits_dropResult _ _).mp run
      exact ⟨_, leaseRecord_of_symbol run (by simp) (by simp) (initializeLease_lease created)⟩
  | createLeaseInstance leaseId landlord params =>
      cases creates
      obtain ⟨_, _, moved⟩ := (dispatch_effect run).movement.opening rfl
      exact ⟨_, leaseRecord_of_instance run (by simp) (by simp) moved.leases⟩
  | createLeaseWithContinuousBilling params =>
      cases creates
      obtain ⟨_, _, moved⟩ := (dispatch_effect run).movement.opening rfl
      exact ⟨_, leaseRecord_of_instance run (by simp) (by simp) moved.leases⟩
  | _ => cases creates

end Records

/-! ## Creations -/

/-- A creation that goes through keeps every stored record and adds exactly one, exactly
when its key was not stored. -/
theorem creation_adds_one_iff {invocation : Invocation} {world : World} {key : LeaseKey}
    (creates : invocation.call.createdKey invocation.env = some key)
    (committed : invocation.Committed world) :
    PartialMap.AddsOne world.leaseRecord (step invocation world).leaseRecord ↔
      world.leaseRecord key = none := by
  obtain ⟨record, written⟩ := leaseRecord_of_creation creates committed.commits
  rw [written]
  exact PartialMap.addsOne_update_iff

theorem first_proposal_adds_one :
    PartialMap.AddsOne freshWorld.leaseRecord
      (step (propose 50 7 200 50) freshWorld).leaseRecord :=
  (@creation_adds_one_iff (propose 50 7 200 50) freshWorld (.leaseInstance 7) rfl
    (show _ = true by decide)).mpr rfl

/-- The creation of a symbol-keyed lease between the given parties. -/
def register (landlord tenant : Nat) : Invocation :=
  callAt 50 (.createLease ⟨landlord⟩ ⟨tenant⟩ ⟨3⟩)

/-- The second `create_lease` goes through and overwrites the record of the first. -/
theorem second_creation_overwrites :
    (register 6 8).Committed (step (register 1 2) freshWorld) ∧
      ¬ PartialMap.AddsOne (step (register 1 2) freshWorld).leaseRecord
        (step (register 6 8) (step (register 1 2) freshWorld)).leaseRecord := by
  refine ⟨show _ = true by decide, fun added => ?_⟩
  have kept := added.preserved (.lease "lease") _ rfl
  cases kept

end LeaseFlow
