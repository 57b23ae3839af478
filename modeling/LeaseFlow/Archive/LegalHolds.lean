import LeaseFlow.Archive.AppendOnly
import LeaseFlow.Archive.Pruning

/-!
# The metrics of the cleanup

Prunings and legal holds keep their counts in one record.  A hold is placed only where none is
stored and released only where one is, so the count of the active ones is exact.
-/

set_option autoImplicit false

namespace LeaseFlow

open Transaction StorageCleanup

/-- What the pruning of the stored lease recovers. -/
def Ledger.recoverable (ledger : Ledger) (leaseId : LeaseId) : U32 :=
  (ledger.leases.lookup leaseId).elim 0 LeaseInstance.bytesRecovered

/-- The bytes recovered by a pruning that goes through. -/
def LedgerInvocation.recovery (invocation : LedgerInvocation) (ledger : Ledger) : Option U32 :=
  match invocation with
  | .cleanup env (.pruneFinalizedLease leaseId caller) =>
      if ((CleanupCall.pruneFinalizedLease leaseId caller).dispatch env).succeeds ledger then
        some (ledger.recoverable leaseId)
      else none
  | _ => none

/-- The recoveries of a run, one for each pruning that goes through. -/
def Ledger.recoveries (calls : List LedgerInvocation) (ledger : Ledger) : List U32 :=
  Run.emissions Ledger.step LedgerInvocation.recovery calls ledger

/-- No lease is pruned under a hold, and a released hold is among those counted. -/
structure LedgerInvocation.HonoursHolds (invocation : LedgerInvocation) (ledger : Ledger) :
    Prop where
  unheld : ∀ env leaseId caller, invocation = .cleanup env (.pruneFinalizedLease leaseId caller) →
    invocation.Committed ledger → ledger.cleanup.legalHold leaseId = none
  counted : ∀ env leaseId caller, invocation = .cleanup env (.releaseLegalHold leaseId caller) →
    invocation.Committed ledger → 0 < ledger.storageMetrics.activeLegalHolds

/-- The count of the active holds is exact. -/
def Ledger.HoldsCounted (ledger : Ledger) : Prop :=
  PartialMap.Counts ledger.cleanup.legalHold ledger.storageMetrics.activeLegalHolds

/-- The counts of the prunings are those of the recoveries so far. -/
structure Ledger.PruningsCounted (ledger : Ledger) (recoveries : List U32) : Prop where
  leases : ledger.storageMetrics.totalLeasesPruned = recoveries.length
  tombstones : ledger.storageMetrics.totalTombstonesCreated = recoveries.length
  bytes : ledger.storageMetrics.totalBytesRecovered = recoveries.sum

section Steps

variable {ledger after : Ledger} {env : CleanupEnv}

theorem cleanup_holdsCounted {call : CleanupCall} (run : Commits (call.dispatch env) ledger () after)
    (counted : ledger.HoldsCounted) : after.HoldsCounted := by
  cases call with
  | pruneFinalizedLease leaseId caller =>
      obtain ⟨lease, prunable, allowed, due, rfl⟩ := prune_commits_iff.mp run
      exact counted
  | placeLegalHold leaseId holdType reason expiresAt caller =>
      obtain ⟨⟨_, _, unheld, _⟩, rfl⟩ := (commits_placeLegalHold _).mp run
      exact PartialMap.Counts.insert counted unheld
  | releaseLegalHold leaseId caller =>
      obtain ⟨⟨_, hold, held⟩, rfl⟩ := (commits_releaseLegalHold _).mp run
      exact PartialMap.Counts.remove counted held
  | addPruneWhitelist | removePruneWhitelist =>
      obtain ⟨_, rfl⟩ := (commits_setPruneWhitelist _).mp run
      exact counted

theorem Ledger.step_holdsCounted (invocation : LedgerInvocation) (counted : ledger.HoldsCounted) :
    (Ledger.step invocation ledger).HoldsCounted := by
  cases invocation with
  | contract invocation => exact counted
  | cleanup env call =>
      rcases attempt_cases (call.dispatch env) ledger with ⟨_, run⟩ | same
      · exact cleanup_holdsCounted run counted
      · change ((call.dispatch env).attempt ledger).HoldsCounted
        rwa [same]

theorem Ledger.HoldsCounted.honours (counted : ledger.HoldsCounted)
    (invocation : LedgerInvocation) : invocation.HonoursHolds ledger := by
  constructor
  · rintro env leaseId caller rfl committed
    obtain ⟨lease, prunable, _⟩ := prune_commits_iff.mp (commits_attempt committed)
    exact prunable.unheld
  · rintro env leaseId caller rfl committed
    obtain ⟨⟨_, hold, held⟩, _⟩ := (commits_releaseLegalHold _).mp (commits_attempt committed)
    exact PartialMap.Counts.pos counted held

theorem Ledger.PruningsCounted.next {recoveries : List U32} {lease : LeaseInstance}
    {leaseId : LeaseId} {caller : Address}
    (counted : ledger.PruningsCounted recoveries) :
    (ledger.pruned env leaseId caller lease).PruningsCounted
      (recoveries ++ [lease.bytesRecovered]) := by
  constructor
  · rw [List.length_append, ← counted.leases]
    rfl
  · rw [List.length_append, ← counted.tombstones]
    rfl
  · rw [List.sum_append, List.sum_singleton, ← counted.bytes]
    rfl

theorem cleanup_pruningsCounted {call : CleanupCall} {recoveries : List U32}
    (run : Commits (call.dispatch env) ledger () after)
    (counted : ledger.PruningsCounted recoveries) :
    after.PruningsCounted
      (recoveries ++ ((LedgerInvocation.cleanup env call).recovery ledger).toList) := by
  cases call with
  | pruneFinalizedLease leaseId caller =>
      have committed := succeeds_iff.mpr ⟨(), after, run⟩
      obtain ⟨lease, prunable, allowed, due, rfl⟩ := prune_commits_iff.mp run
      have recovered : ledger.recoverable leaseId = lease.bytesRecovered := by
        rw [Ledger.recoverable, prunable.found, Option.elim_some]
      rw [LedgerInvocation.recovery, if_pos committed, recovered, Option.toList_some]
      exact counted.next
  | placeLegalHold leaseId holdType reason expiresAt caller =>
      obtain ⟨_, rfl⟩ := (commits_placeLegalHold _).mp run
      change Ledger.PruningsCounted _ (recoveries ++ [])
      rw [List.append_nil]
      exact ⟨counted.leases, counted.tombstones, counted.bytes⟩
  | releaseLegalHold leaseId caller =>
      obtain ⟨_, rfl⟩ := (commits_releaseLegalHold _).mp run
      change Ledger.PruningsCounted _ (recoveries ++ [])
      rw [List.append_nil]
      exact ⟨counted.leases, counted.tombstones, counted.bytes⟩
  | addPruneWhitelist | removePruneWhitelist =>
      obtain ⟨_, rfl⟩ := (commits_setPruneWhitelist _).mp run
      change Ledger.PruningsCounted _ (recoveries ++ [])
      rw [List.append_nil]
      exact ⟨counted.leases, counted.tombstones, counted.bytes⟩

theorem Ledger.step_pruningsCounted (invocation : LedgerInvocation) {recoveries : List U32}
    (counted : ledger.PruningsCounted recoveries) :
    (Ledger.step invocation ledger).PruningsCounted
      (recoveries ++ (invocation.recovery ledger).toList) := by
  cases invocation with
  | contract invocation =>
      change Ledger.PruningsCounted _ (recoveries ++ [])
      rw [List.append_nil]
      exact ⟨counted.leases, counted.tombstones, counted.bytes⟩
  | cleanup env call =>
      by_cases committed : (call.dispatch env).succeeds ledger = true
      · exact cleanup_pruningsCounted (commits_attempt committed) counted
      · have refused : (LedgerInvocation.cleanup env call).recovery ledger = none := by
          cases call with
          | pruneFinalizedLease leaseId caller => exact if_neg committed
          | _ => rfl
        have same : (call.dispatch env).attempt ledger = ledger :=
          attempt_of_not_succeeds (Bool.not_eq_true _ ▸ committed)
        rw [refused, Option.toList_none, List.append_nil]
        change ((call.dispatch env).attempt ledger).PruningsCounted recoveries
        rwa [same]

end Steps

/-! ## Runs -/

/-- In a run from empty metrics and no holds, no lease is pruned under a hold and no released hold
is uncounted; and then the metrics count the stored holds, the prunings and what they
recovered. -/
theorem metrics_counted (calls : List LedgerInvocation) (start : Ledger)
    (empty : start.storageMetrics = ⟨0, 0, 0, 0, 0, 0⟩)
    (unheld : ∀ leaseId, start.cleanup.legalHold leaseId = none) :
    Run.MeetsAlong Ledger.step LedgerInvocation.HonoursHolds calls start ∧
      (Run.run Ledger.step calls start).HoldsCounted ∧
      (Run.run Ledger.step calls start).PruningsCounted (start.recoveries calls) := by
  have holds : start.HoldsCounted := by
    rw [Ledger.HoldsCounted, empty]
    exact PartialMap.counts_of_empty unheld
  have prunings : start.PruningsCounted [] := by
    constructor <;> rw [empty] <;> rfl
  refine ⟨?_, ?_, ?_⟩
  · exact Run.meetsAlong_of_inv (fun invocation _ => Ledger.step_holdsCounted invocation)
      (fun invocation _ counted => counted.honours invocation) calls holds
  · exact Run.invariant (fun invocation _ => Ledger.step_holdsCounted invocation) calls holds
  · exact Run.invariant_emissions
      (fun invocation _ _ counted => Ledger.step_pruningsCounted invocation counted) calls prunings

theorem metrics_counted_pruned :
    Run.MeetsAlong Ledger.step LedgerInvocation.HonoursHolds pruneOnce
        (Ledger.genesis openSettings openBilling none) ∧
      (Run.run Ledger.step pruneOnce (Ledger.genesis openSettings openBilling none)).HoldsCounted ∧
      (Run.run Ledger.step pruneOnce
        (Ledger.genesis openSettings openBilling none)).PruningsCounted
          ((Ledger.genesis openSettings openBilling none).recoveries pruneOnce) :=
  metrics_counted pruneOnce _ rfl fun _ => rfl

end LeaseFlow
