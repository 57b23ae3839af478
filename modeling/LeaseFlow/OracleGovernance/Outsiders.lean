import LeaseFlow.OracleGovernance.Effect
import LeaseFlow.Foundations.Run

/-!
# Outsiders and the oracle governance

Every operation on the oracles and the admins asks for the signature of an admin.  The migration
of a lease asks for anybody's, and the initialiser for that of the admin it enters.
-/

set_option autoImplicit false

namespace LeaseFlow.OracleGovernance

open Transaction

/-- What outsiders must not touch. -/
structure Governance where
  admins : Address → Bool
  oracleRecord : Table OracleKey OracleGovernanceRecord
  whitelistCount : Option U64
  blacklistCount : Option U64
  activeLeaseOracle : U64 → Option OracleKey

def Store.governance (store : Store) : Governance where
  admins := store.isAdmin
  oracleRecord := store.oracleRecord
  whitelistCount := store.whitelistCount
  blacklistCount := store.blacklistCount
  activeLeaseOracle := store.activeLeaseOracle

/-- No admin of the store authorises the call. -/
def Call.ByOutsiders (start : Store) (call : Call) : Prop :=
  ∀ address, start.isAdmin address = true → call.env.authorised address = false

/-- Nobody enters himself as an admin, and a lease is migrated only to the oracle it has. -/
def Operation.SparesGovernance (store : Store) : Operation → Prop
  | .initializeGovernance _ => False
  | .migrateLeaseOracle _ leaseId _ newOracle => store.activeLeaseOracle leaseId = some newOracle
  | _ => True

def Call.SparesGovernance (call : Call) (store : Store) : Prop :=
  call.Goes store → call.operation.SparesGovernance store

section Outside

variable {before after : Store}

theorem SignedByAdmin.not_byOutsiders {call : Call} {admin : Address}
    (byAdmin : SignedByAdmin call.env before admin) : ¬ call.ByOutsiders before := by
  intro outside
  cases byAdmin.signed.symm.trans (outside admin byAdmin.member)

/-- What outsiders get through changes the governance unless it spares it. -/
theorem Effect.governance_iff {call : Call}
    (effect : Effect call.env before after call.operation) (outside : call.ByOutsiders before) :
    after.governance = before.governance ↔ call.operation.SparesGovernance before := by
  obtain ⟨env, operation⟩ := call
  cases effect with
  | whitelisted byAdmin _ _ | blacklisted byAdmin _ | suspended byAdmin _ _ _
  | reactivated byAdmin _ _ _ | adminAdded byAdmin _ | adminRemoved byAdmin _ =>
      exact absurd outside byAdmin.not_byOutsiders
  | @migrated caller leaseId oldOracle newOracle entries =>
      constructor
      · intro same
        have oracles := congrFun (congrArg Governance.activeLeaseOracle same) leaseId
        change after.activeLeaseOracle leaseId = before.activeLeaseOracle leaseId at oracles
        simp only [entries.activeLeaseOracle, Store.migrate, Function.update_self] at oracles
        exact oracles.symm
      · intro active
        change before.activeLeaseOracle leaseId = some newOracle at active
        have admins : after.isAdmin = before.isAdmin := by
          funext address
          rw [Store.isAdmin, entries.governanceAdmin]
          rfl
        have oracles : after.activeLeaseOracle = before.activeLeaseOracle := by
          rw [entries.activeLeaseOracle]
          exact Function.update_eq_self_iff.mpr active.symm
        unfold Store.governance
        rw [admins, oracles, entries.oracleRecord, entries.whitelistCount,
          entries.blacklistCount]
        rfl
  | @initialized admin unregistered entries =>
      refine iff_of_false (fun same => ?_) id
      have member := congrFun (congrArg Governance.admins same) admin
      change after.isAdmin admin = before.isAdmin admin at member
      rw [Store.isAdmin, Store.isAdmin, entries.governanceAdmin, unregistered] at member
      simp [Store.putAdmin] at member
  | queried query same =>
      rw [same]
      cases query <;> exact iff_of_true rfl trivial

end Outside

/-- Along a run of calls that no admin authorised, the governance stays as it was exactly if
nobody is entered by the initialiser and no lease is migrated to another oracle. -/
theorem outsiders_along_iff (start : Store) (calls : List Call)
    (outside : ∀ call ∈ calls, call.ByOutsiders start) :
    (∀ earlier, earlier <+: calls → (Run.run step earlier start).governance = start.governance) ↔
      Run.MeetsAlong step Call.SparesGovernance calls start := by
  refine @Run.invariant_along_iff_given _ _ step (fun call _ => call.ByOutsiders start)
    (fun _ => True) (fun store => store.governance = start.governance) _
    (fun _ _ _ _ => trivial) (fun call store strangers _ same => ?_) _ _
    (Run.meetsAlong_of_forall outside start) trivial rfl
  refine @Machine.step_keeps_iff _ _ _ Call.body call store
    (fun store => store.governance = start.governance) _ same fun next run => ?_
  have strangersNow : call.ByOutsiders store := by
    intro address member
    have admins : store.isAdmin = start.isAdmin := congrArg Governance.admins same
    exact strangers address (admins ▸ member)
  rw [← same]
  exact (call_effect run).governance_iff strangersNow

/-! ## A governance with one admin -/

def callBy (account : Nat) (operation : Operation) : Call where
  env := ⟨0, fun address => address == ⟨account⟩⟩
  operation := operation

def governed : Store :=
  Store.empty.putAdmin ⟨1⟩ (some true)

theorem byOutsiders_callBy (operation : Operation) :
    (callBy 9 operation).ByOutsiders governed := by
  intro address member
  by_contra signed
  rw [Bool.not_eq_false] at signed
  obtain rfl : address = ⟨9⟩ := beq_iff_eq.mp signed
  exact absurd member (by decide)

theorem outsiders_along_governed :
    (∀ earlier, earlier <+: [callBy 9 (.whitelistOracle ⟨9⟩ (.repeated 32 1) "mine")] →
        (Run.run step earlier governed).governance = governed.governance) ↔
      Run.MeetsAlong step Call.SparesGovernance
        [callBy 9 (.whitelistOracle ⟨9⟩ (.repeated 32 1) "mine")] governed :=
  outsiders_along_iff governed _
    (List.forall_mem_singleton.mpr (byOutsiders_callBy _))

/-- A stranger enters himself beside the admin. -/
theorem stranger_becomes_admin :
    ¬ ∀ start : Store, (∃ admin, start.isAdmin admin = true) → ∀ calls : List Call,
      (∀ call ∈ calls, call.ByOutsiders start) →
        (Run.run step calls start).governance = start.governance := by
  intro untouched
  have same := untouched governed ⟨⟨1⟩, by decide⟩ [callBy 9 (.initializeGovernance ⟨9⟩)]
    (List.forall_mem_singleton.mpr (byOutsiders_callBy _))
  have entered := congrFun (congrArg Governance.admins same) ⟨9⟩
  exact absurd entered (by decide +kernel)

end LeaseFlow.OracleGovernance
