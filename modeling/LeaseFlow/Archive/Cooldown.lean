import LeaseFlow.Archive.AppendOnly
import LeaseFlow.Archive.Pruning
import LeaseFlow.Holdings.Amendments

/-!
# The cooldown of a pruning

The cooldown of a pruning starts at the end date of the lease, whenever the lease was closed.
`Endings` keeps the time of the operation that closed it.
-/

set_option autoImplicit false

namespace LeaseFlow

open Transaction StorageCleanup

/-- The latest ledger time so far, and the time at which each lease last became terminated or
expired. -/
structure Endings where
  now : U64
  endedAt : LeaseId → Option U64

/-- Before the first operation. -/
def Endings.start : Endings where
  now := 0
  endedAt _ := none

def LedgerInvocation.timestamp : LedgerInvocation → U64
  | .contract invocation => invocation.env.timestamp
  | .cleanup env _ => env.timestamp

def Ledger.statusOf (ledger : Ledger) (leaseId : LeaseId) : Option LeaseStatus :=
  (ledger.leases.lookup leaseId).map LeaseInstance.status

/-- The operation changes the status of the lease to terminated or expired. -/
def LedgerInvocation.Ends (invocation : LedgerInvocation) (ledger : Ledger) (leaseId : LeaseId) :
    Prop :=
  (Ledger.step invocation ledger).statusOf leaseId ≠ ledger.statusOf leaseId ∧
    ((Ledger.step invocation ledger).statusOf leaseId = some .terminated ∨
      (Ledger.step invocation ledger).statusOf leaseId = some .expired)

instance (invocation : LedgerInvocation) (ledger : Ledger) (leaseId : LeaseId) :
    Decidable (invocation.Ends ledger leaseId) :=
  inferInstanceAs (Decidable (_ ∧ _))

def LedgerInvocation.recordEndings (invocation : LedgerInvocation) (ledger : Ledger)
    (endings : Endings) : Endings where
  now := max endings.now invocation.timestamp
  endedAt leaseId :=
    if invocation.Ends ledger leaseId then some invocation.timestamp else endings.endedAt leaseId

/-- The ledger with the endings beside it. -/
abbrev endingStep : LedgerInvocation → Ledger × Endings → Ledger × Endings :=
  Run.annotate Ledger.step LedgerInvocation.recordEndings

/-- A lease that is pruned from now on ended the cooldown before. -/
def CoolsDown (state : Ledger × Endings) : Prop :=
  ∀ (env : CleanupEnv) (leaseId : LeaseId) (caller : Address) (time : U64),
    state.2.now ≤ env.timestamp →
    (LedgerInvocation.cleanup env (.pruneFinalizedLease leaseId caller)).Committed state.1 →
    state.2.endedAt leaseId = some time → time + pruneCooldownSeconds ≤ env.timestamp

/-- A lease that somebody may prune ended no later than its end date, or the cooldown ago. -/
def EndedInTime (state : Ledger × Endings) : Prop :=
  ∀ (leaseId : LeaseId) (lease : LeaseInstance) (caller : Address) (time : U64),
    state.1.Prunable leaseId lease → state.1.MayPrune caller →
    state.2.endedAt leaseId = some time →
    time ≤ lease.endDate ∨ time + pruneCooldownSeconds ≤ state.2.now

/-- The operation ends no lease after its end date. -/
def LedgerInvocation.EndsInTime (invocation : LedgerInvocation) (ledger : Ledger) : Prop :=
  ∀ leaseId lease, invocation.Ends ledger leaseId →
    (Ledger.step invocation ledger).leases.lookup leaseId = some lease →
    invocation.timestamp ≤ lease.endDate

section Cooldown

variable {state : Ledger × Endings}

/-- The cooldown holds from now on exactly if what may be pruned ended in time. -/
theorem coolsDown_iff : CoolsDown state ↔ EndedInTime state := by
  constructor
  · intro cools leaseId lease caller time prunable allowed ended
    -- the first time at which the pruning goes through
    let due := max state.2.now (lease.endDate + pruneCooldownSeconds)
    have pruned : Commits ((CleanupCall.pruneFinalizedLease leaseId caller).dispatch
        (openCleanup due)) state.1 () _ :=
      prune_commits_iff.mpr ⟨lease, prunable, allowed, le_max_right _ _, rfl⟩
    have passed := cools (openCleanup due) leaseId caller time (le_max_left _ _)
      (succeeds_iff.mpr ⟨(), _, pruned⟩) ended
    rcases le_max_iff.mp passed with already | dated
    · exact .inr already
    · exact .inl (Nat.le_of_add_le_add_right dated)
  · intro inTime env leaseId caller time later committed ended
    obtain ⟨lease, prunable, allowed, due, _⟩ := prune_commits_iff.mp (commits_attempt committed)
    rcases inTime leaseId lease caller time prunable allowed ended with dated | already
    · exact (Nat.add_le_add_right dated _).trans due
    · exact already.trans later

end Cooldown

/-! ## Endings in time -/

/-- The ended leases ended no later than their end dates. -/
def EndedByDate (state : Ledger × Endings) : Prop :=
  ∀ leaseId lease time, state.1.leases.lookup leaseId = some lease →
    lease.status = .terminated ∨ lease.status = .expired →
    state.2.endedAt leaseId = some time → time ≤ lease.endDate

section Endings

variable {ledger after : Ledger} {invocation : LedgerInvocation} {leaseId : LeaseId}
  {lease next : LeaseInstance}

theorem EndedByDate.endedInTime {state : Ledger × Endings} (ended : EndedByDate state) :
    EndedInTime state :=
  fun leaseId lease _ time prunable _ at' =>
    .inl (ended leaseId lease time prunable.found prunable.final at')

theorem cleanup_lookup {env : CleanupEnv} {call : CleanupCall}
    (run : Commits (call.dispatch env) ledger () after)
    (stored : after.leases.lookup leaseId = some next) :
    ledger.leases.lookup leaseId = some next := by
  cases call with
  | pruneFinalizedLease pruned caller =>
      obtain ⟨lease, _, _, _, rfl⟩ := prune_commits_iff.mp run
      change (ledger.leases.set pruned none).lookup leaseId = some next at stored
      by_cases same : leaseId = pruned
      · rw [same, Table.lookup_set_self] at stored
        cases stored
      · rwa [Table.lookup_set_ne _ _ same] at stored
  | placeLegalHold =>
      obtain ⟨_, rfl⟩ := (commits_placeLegalHold _).mp run
      exact stored
  | releaseLegalHold =>
      obtain ⟨_, rfl⟩ := (commits_releaseLegalHold _).mp run
      exact stored
  | addPruneWhitelist | removePruneWhitelist =>
      obtain ⟨_, rfl⟩ := (commits_setPruneWhitelist _).mp run
      exact stored

theorem Opening.not_final {env : Env} {world : World} {call : Call}
    (opening : Opening env world call leaseId lease) :
    ¬ (lease.status = .terminated ∨ lease.status = .expired) := by
  cases opening <;> rintro (ended | ended) <;> cases ended

theorem Ledger.step_endDate (found : ledger.leases.lookup leaseId = some lease)
    (stored : (Ledger.step invocation ledger).leases.lookup leaseId = some next)
    (final : next.status = .terminated ∨ next.status = .expired) :
    next.endDate = lease.endDate := by
  by_cases committed : invocation.Committed ledger
  · cases invocation with
    | contract invocation =>
        have run : Commits (dispatch invocation.env invocation.call) ledger.toWorld () _ :=
          Invocation.Committed.commits committed
        by_cases creates : invocation.call.creates invocation.env = some leaseId
        · obtain ⟨opened, opening, moved⟩ := (dispatch_effect run).movement.opening creates
          obtain rfl := Option.some.inj (moved.lookup_self.symm.trans stored)
          exact absurd final opening.not_final
        · exact congrArg (·.1.2) (dispatch_standing run creates found stored)
    | cleanup env call =>
        have kept := cleanup_lookup (commits_attempt committed) stored
        exact congrArg _ (Option.some.inj (kept.symm.trans found))
  · rw [Ledger.step_of_not_committed committed] at stored
    exact congrArg _ (Option.some.inj (stored.symm.trans found))

/-- Operations that end leases in time leave only leases that ended in time. -/
theorem EndedByDate.step {state : Ledger × Endings} (ended : EndedByDate state)
    (inTime : invocation.EndsInTime state.1) : EndedByDate (endingStep invocation state) := by
  intro leaseId next time stored final at'
  change (if invocation.Ends state.1 leaseId then some invocation.timestamp
    else state.2.endedAt leaseId) = some time at at'
  by_cases ends : invocation.Ends state.1 leaseId
  · rw [if_pos ends] at at'
    exact Option.some.inj at' ▸ inTime leaseId next ends stored
  · rw [if_neg ends] at at'
    have now : (Ledger.step invocation state.1).statusOf leaseId = some next.status :=
      congrArg (Option.map LeaseInstance.status) stored
    have before : state.1.statusOf leaseId = some next.status := by
      by_contra changed
      refine ends ⟨fun same => changed (same.symm.trans now), ?_⟩
      rw [now]
      exact final.imp (congrArg some) (congrArg some)
    obtain ⟨lease, found, status⟩ := Option.map_eq_some_iff.mp before
    rw [Ledger.step_endDate found stored final]
    exact ended leaseId lease time found (status ▸ final) at'

end Endings

/-! ## Runs -/

/-- In every state of a run the cooldown holds from then on exactly if what may be pruned ended in
time; and it does if the operations of the run end no lease after its end date. -/
theorem prunings_coolDown_iff (calls : List LedgerInvocation) (start : Ledger) :
    ((∀ earlier, earlier <+: calls → CoolsDown (Run.run endingStep earlier (start, .start))) ↔
      ∀ earlier, earlier <+: calls → EndedInTime (Run.run endingStep earlier (start, .start))) ∧
    (Run.MeetsAlong Ledger.step LedgerInvocation.EndsInTime calls start →
      ∀ earlier, earlier <+: calls →
        CoolsDown (Run.run endingStep earlier (start, .start))) := by
  refine ⟨forall₂_congr fun _ _ => coolsDown_iff, fun inTime earlier within => ?_⟩
  have along := (@Run.meetsAlong_annotate _ _ Ledger.step _ LedgerInvocation.recordEndings
    LedgerInvocation.EndsInTime earlier (start, .start)).mpr (inTime.of_prefix within)
  have initially : EndedByDate (start, .start) := fun _ _ _ _ _ at' => by cases at'
  exact coolsDown_iff.mpr (Run.invariant_along (fun _ _ ends ended => ended.step ends) along
    initially).endedInTime

theorem LedgerInvocation.endsInTime_of_all {invocation : LedgerInvocation} {ledger : Ledger}
    (all : (Ledger.step invocation ledger).leases.entries.all
      (fun entry => decide (invocation.timestamp ≤ entry.2.endDate)) = true) :
    invocation.EndsInTime ledger := by
  intro leaseId lease _ stored
  exact of_decide_eq_true (List.all_eq_true.mp all _ (AList.mem_lookup_iff.mp stored))

theorem prunings_coolDown_pruned :
    CoolsDown (Run.run endingStep pruneOnce
      (Ledger.genesis openSettings openBilling none, .start)) := by
  refine (prunings_coolDown_iff pruneOnce _).2 ⟨?_, ?_, ?_, ?_, trivial⟩ _ (List.prefix_refl _) <;>
    exact LedgerInvocation.endsInTime_of_all (by decide +kernel)

/-- Lease 8 is closed sixty days after its end date, and pruned at once. -/
def pruneAtOnce : List LedgerInvocation :=
  [contractCall 50 (.initializeContract ⟨9⟩), .contract (propose 50 8 200 50),
    contractCall 6184000 (.concludeLease 8 ⟨1⟩ 0)]

theorem pruned_without_cooldown :
    ¬ ∀ calls start earlier, earlier <+: calls →
      CoolsDown (Run.run endingStep earlier (start, .start)) := by
  intro cools
  have passed := cools pruneAtOnce (Ledger.genesis openSettings openBilling none) _
    (List.prefix_refl _) (openCleanup 6184000) 8 ⟨9⟩ 6184000 (by decide +kernel)
    (by show _ = true; decide +kernel) (by decide +kernel)
  exact absurd passed (by decide)

end LeaseFlow
