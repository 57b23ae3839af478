import LeaseFlow.Foundations.PartialMap
import LeaseFlow.Archive.Entries
import LeaseFlow.Archive.StorageCleanup

/-!
# The archive as a log

Archived leases and tombstones are meant to stay.  Nothing stops a lease id from being
used again after its record is gone, and then the second archiving, or the second pruning,
overwrites what the first one stored.
-/

set_option autoImplicit false

namespace LeaseFlow

open Transaction

/-- The entries of the archive and the tombstones keep their values. -/
structure Ledger.Appends (before after : Ledger) : Prop where
  entries : PartialMap.Preserved before.archive.historicalLease after.archive.historicalLease
  tombstones : PartialMap.Preserved before.cleanup.leaseTombstone after.cleanup.leaseTombstone

/-- The archive or the tombstones have no other entry where the call will store one: an id
that is archived has none, and an id that is pruned has none or the same one. -/
def LedgerInvocation.FilesFresh (ledger : Ledger) : LedgerInvocation → Prop
  | .contract invocation => ∀ leaseId, invocation.call.archives ledger.toWorld = some leaseId →
      ledger.archive.historicalLease leaseId = none
  | .cleanup env (.pruneFinalizedLease leaseId caller) =>
      ∀ lease, ledger.leases.lookup leaseId = some lease →
        ∀ tombstone, ledger.cleanup.leaseTombstone leaseId = some tombstone →
          tombstone = StorageCleanup.tombstoneOf env lease leaseId caller
  | .cleanup _ _ => True

section Steps

variable {ledger after : Ledger} {invocation : LedgerInvocation} {env : CleanupEnv}

theorem cleanup_records {call : CleanupCall}
    (run : Commits (call.dispatch env) ledger () after) :
    (StorageCleanup.records after = StorageCleanup.records ledger ∧
      (LedgerInvocation.cleanup env call).FilesFresh ledger) ∨
    ∃ leaseId caller lease, call = .pruneFinalizedLease leaseId caller ∧
      ledger.leases.lookup leaseId = some lease ∧
      StorageCleanup.records after = (ledger.archive, Function.update
        ledger.cleanup.leaseTombstone leaseId
        (some (StorageCleanup.tombstoneOf env lease leaseId caller))) := by
  cases call with
  | pruneFinalizedLease leaseId caller =>
      simp only [CleanupCall.dispatch, commits_bind, commits_pure] at run
      obtain ⟨_, _, pruned, _, rfl⟩ := run
      obtain ⟨lease, found, stored⟩ := StorageCleanup.pruneFinalizedLease_records pruned
      exact .inr ⟨leaseId, caller, lease, rfl, found, stored⟩
  | placeLegalHold leaseId holdType reason expiresAt caller =>
      exact .inl ⟨StorageCleanup.steady_placeLegalHold.keeps run, trivial⟩
  | releaseLegalHold leaseId caller =>
      exact .inl ⟨StorageCleanup.steady_releaseLegalHold.keeps run, trivial⟩
  | addPruneWhitelist admin address =>
      exact .inl ⟨StorageCleanup.steady_setPruneWhitelist.keeps run, trivial⟩
  | removePruneWhitelist admin address =>
      exact .inl ⟨StorageCleanup.steady_setPruneWhitelist.keeps run, trivial⟩

theorem Ledger.step_of_not_committed (refused : ¬ invocation.Committed ledger) :
    Ledger.step invocation ledger = ledger := by
  cases invocation with
  | contract invocation =>
      rw [Ledger.step, LeaseFlow.step_of_not_committed refused]
  | cleanup env call => exact attempt_of_not_succeeds (Bool.not_eq_true _ ▸ refused)

theorem cleanup_archive {call : CleanupCall}
    (run : Commits (call.dispatch env) ledger () after) : after.archive = ledger.archive := by
  rcases cleanup_records run with ⟨same, _⟩ | ⟨_, _, _, _, _, stored⟩
  · exact congrArg Prod.fst same
  · exact congrArg Prod.fst stored

theorem Ledger.step_indexed (invocation : LedgerInvocation)
    (indexed : ledger.archive.Indexed) : (Ledger.step invocation ledger).archive.Indexed := by
  cases invocation with
  | contract invocation => exact LeaseFlow.step_indexed invocation indexed
  | cleanup env call =>
      rcases attempt_cases (call.dispatch env) ledger with ⟨_, run⟩ | same
      · show ((call.dispatch env).attempt ledger).archive.Indexed
        rw [cleanup_archive run]
        exact indexed
      · show ((call.dispatch env).attempt ledger).archive.Indexed
        rwa [same]

theorem ArchiveStore.Filed.preserved_iff {before later : ArchiveStore} {leaseId : LeaseId}
    {record : HistoricalLease} (filed : before.Filed leaseId record later)
    (indexed : before.Indexed) (distinct : before.historicalLeasesIndex.Nodup) :
    (PartialMap.Preserved before.historicalLease later.historicalLease ∧
      later.historicalLeasesIndex.Nodup) ↔ before.historicalLease leaseId = none := by
  have listed : later.historicalLeasesIndex.Nodup ↔ leaseId ∉ before.historicalLeasesIndex := by
    rw [filed.historicalLeasesIndex, List.nodup_append_comm, List.singleton_append,
      List.nodup_cons, and_iff_left distinct]
  rw [listed, indexed leaseId, not_not, filed.historicalLease]
  constructor
  · exact And.right
  · intro absent
    refine ⟨PartialMap.preserved_update_iff.mpr fun stored found => ?_, absent⟩
    cases absent.symm.trans found

/-- From a ledger whose index lists no id twice, a committed call appends exactly when it
files under fresh ids. -/
theorem Ledger.appends_iff (committed : invocation.Committed ledger)
    (indexed : ledger.archive.Indexed) (distinct : ledger.archive.historicalLeasesIndex.Nodup) :
    (ledger.Appends (Ledger.step invocation ledger) ∧
      (Ledger.step invocation ledger).archive.historicalLeasesIndex.Nodup) ↔
      invocation.FilesFresh ledger := by
  cases invocation with
  | contract invocation =>
      have tombstones : PartialMap.Preserved ledger.cleanup.leaseTombstone
          (Ledger.step (.contract invocation) ledger).cleanup.leaseTombstone :=
        PartialMap.preserved_refl _
      rcases dispatch_archive (Invocation.Committed.commits committed) with
        ⟨silent, same⟩ | ⟨leaseId, record, archives, filed⟩
      · refine iff_of_true ⟨⟨?_, tombstones⟩, ?_⟩ fun leaseId archives => ?_
        · show PartialMap.Preserved _ (LeaseFlow.step invocation ledger.toWorld).archive.historicalLease
          rw [same.historicalLease]
          exact PartialMap.preserved_refl _
        · show (LeaseFlow.step invocation ledger.toWorld).archive.historicalLeasesIndex.Nodup
          rwa [same.historicalLeasesIndex]
        · cases silent.symm.trans archives
      · have decided := filed.preserved_iff indexed distinct
        constructor
        · rintro ⟨⟨entries, _⟩, listed⟩ other names
          obtain rfl : leaseId = other := Option.some.inj (archives.symm.trans names)
          exact decided.mp ⟨entries, listed⟩
        · intro fresh
          obtain ⟨entries, listed⟩ := decided.mpr (fresh leaseId archives)
          exact ⟨⟨entries, tombstones⟩, listed⟩
  | cleanup env call =>
      have run : Commits (call.dispatch env) ledger () (Ledger.step (.cleanup env call) ledger) :=
        commits_attempt committed
      have archive := cleanup_archive run
      have entries : PartialMap.Preserved ledger.archive.historicalLease
          (Ledger.step (.cleanup env call) ledger).archive.historicalLease := by
        rw [archive]
        exact PartialMap.preserved_refl _
      rw [archive, and_iff_left distinct]
      rcases cleanup_records run with ⟨same, fresh⟩ | ⟨leaseId, caller, lease, rfl, found, stored⟩
      · refine iff_of_true ⟨entries, ?_⟩ fresh
        rw [show (Ledger.step _ ledger).cleanup.leaseTombstone = _ from congrArg Prod.snd same]
        exact PartialMap.preserved_refl _
      · have decided := @PartialMap.preserved_update_iff _ _ _ ledger.cleanup.leaseTombstone leaseId
          (StorageCleanup.tombstoneOf env lease leaseId caller)
        constructor
        · rintro ⟨_, tombstones⟩ other refound
          rw [show (Ledger.step _ ledger).cleanup.leaseTombstone = _ from
            congrArg Prod.snd stored] at tombstones
          obtain rfl : lease = other := Option.some.inj (found.symm.trans refound)
          exact decided.mp tombstones
        · intro fresh
          refine ⟨entries, ?_⟩
          rw [show (Ledger.step _ ledger).cleanup.leaseTombstone = _ from congrArg Prod.snd stored]
          exact decided.mpr (fresh lease found)

theorem Ledger.Appends.refl (ledger : Ledger) : ledger.Appends ledger :=
  ⟨PartialMap.preserved_refl _, PartialMap.preserved_refl _⟩

theorem Ledger.Appends.trans {first second third : Ledger} (one : first.Appends second)
    (two : second.Appends third) : first.Appends third :=
  ⟨one.entries.trans two.entries, one.tombstones.trans two.tombstones⟩

end Steps

/-! ## Runs -/

/-- In a run from a new deployment every archived lease and every tombstone keeps its value
and the index lists no id twice, exactly when every committed call files under fresh ids. -/
theorem archive_appends_iff (config : ConfigStore) (billing : BillingStore)
    (securityCouncil : Option SecurityCouncil) (calls : List LedgerInvocation) :
    (Run.Progresses Ledger.step Ledger.Appends calls
        (Ledger.genesis config billing securityCouncil) ∧
      Run.MeetsAlong Ledger.step (fun invocation ledger =>
        (Ledger.step invocation ledger).archive.historicalLeasesIndex.Nodup) calls
        (Ledger.genesis config billing securityCouncil)) ↔
    Run.MeetsAlong Ledger.step (fun invocation ledger =>
      invocation.Committed ledger → invocation.FilesFresh ledger) calls
      (Ledger.genesis config billing securityCouncil) := by
  rw [Run.progresses_iff Ledger.Appends.refl fun _ _ _ => Ledger.Appends.trans,
    ← Run.meetsAlong_and]
  have agree : ∀ (invocation : LedgerInvocation) (ledger : Ledger), ledger.archive.Indexed →
      ledger.archive.historicalLeasesIndex.Nodup →
      ((ledger.Appends (Ledger.step invocation ledger) ∧
        (Ledger.step invocation ledger).archive.historicalLeasesIndex.Nodup) ↔
      (invocation.Committed ledger → invocation.FilesFresh ledger)) := by
    intro invocation ledger indexed distinct
    by_cases committed : invocation.Committed ledger
    · rw [Ledger.appends_iff committed indexed distinct]
      exact ⟨fun fresh _ => fresh, fun fresh => fresh committed⟩
    · rw [Ledger.step_of_not_committed committed]
      exact iff_of_true ⟨.refl ledger, distinct⟩ fun commits => absurd commits committed
  exact Run.meetsAlong_iff (fun invocation _ => Ledger.step_indexed invocation) agree
    (fun _ _ _ _ appended => appended.2) (World.genesis_indexed config billing securityCouncil)
    List.nodup_nil

/-! ## Ids used again -/

/-- A cleanup environment on an open ledger, whose hash does not look at its input. -/
def openCleanup (timestamp : U64) : CleanupEnv :=
  { openLedger timestamp 0 with
    sha256 := fun _ => .repeated 32 0, randomPayer := ⟨0⟩, randomRoommate := ⟨0⟩ }

def contractCall (timestamp : U64) (call : Call) : LedgerInvocation :=
  .contract (callAt timestamp call)

/-- Lease 7 is proposed, ended early and archived. -/
def archiveOnce : List LedgerInvocation :=
  [.contract (propose 50 7 200 50), contractCall 100001 (.executeEarlyTermination 7 ⟨1⟩)]

/-- The same id once more, a day later. -/
def archiveAgain : List LedgerInvocation :=
  [.contract (propose 150000 7 900 50), contractCall 200000 (.executeEarlyTermination 7 ⟨1⟩)]

/-- Lease 8 is proposed, concluded and pruned by the admin. -/
def pruneOnce : List LedgerInvocation :=
  [contractCall 50 (.initializeContract ⟨9⟩), .contract (propose 50 8 200 50),
    contractCall 60 (.concludeLease 8 ⟨1⟩ 0),
    .cleanup (openCleanup 7000000) (.pruneFinalizedLease 8 ⟨9⟩)]

/-- The same id once more, proposed and concluded on the next ledger. -/
def pruneAgain : List LedgerInvocation :=
  [.contract (propose 7000001 8 900 50), contractCall 7000001 (.concludeLease 8 ⟨1⟩ 0),
    .cleanup (openCleanup 7000002) (.pruneFinalizedLease 8 ⟨9⟩)]

/-- A reused id overwrites the archived lease and is listed twice, and a reused id
overwrites the tombstone. -/
theorem reused_id_overwrites :
    let fresh : Ledger := Ledger.genesis openSettings openBilling none
    (Run.run Ledger.step (archiveOnce ++ archiveAgain) fresh).archive.historicalLeasesIndex =
        [7, 7] ∧
      ¬ Run.Progresses Ledger.step Ledger.Appends (archiveOnce ++ archiveAgain) fresh ∧
      ¬ Run.Progresses Ledger.step Ledger.Appends (pruneOnce ++ pruneAgain) fresh := by
  refine ⟨rfl, fun progresses => ?_, fun progresses => ?_⟩
  · have kept := (progresses archiveOnce archiveAgain (List.prefix_refl _)).entries 7 _ rfl
    cases kept
  · have kept := (progresses pruneOnce pruneAgain (List.prefix_refl _)).tombstones 8 _ rfl
    cases kept

end LeaseFlow
