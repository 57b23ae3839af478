import LeaseFlow.Escrow.Effect

/-!
# What a call does to the archive

A committed call leaves the archive alone or files one entry.  Three operations file one:
the regular and the early termination, and the rent payment that completes a buyout.
-/

set_option autoImplicit false

namespace LeaseFlow

open Transaction

/-- One entry was stored under the id, and the id went to the end of the index. -/
structure ArchiveStore.Filed (leaseId : LeaseId) (record : HistoricalLease)
    (before after : ArchiveStore) : Prop where
  historicalLease : after.historicalLease =
    Function.update before.historicalLease leaseId (some record)
  historicalLeasesIndex : after.historicalLeasesIndex = before.historicalLeasesIndex ++ [leaseId]

/-- The entries and their index are as they were. -/
structure ArchiveStore.Unfiled (before after : ArchiveStore) : Prop where
  historicalLease : after.historicalLease = before.historicalLease
  historicalLeasesIndex : after.historicalLeasesIndex = before.historicalLeasesIndex

/-- The lease with a payment counted on it. -/
def LeaseInstance.paid (paymentAmount : I128) (lease : LeaseInstance) : LeaseInstance :=
  { lease with
    cumulativePayments := lease.cumulativePayments + paymentAmount
    rentPaid := lease.rentPaid + paymentAmount }

/-- The lease as a completed buyout closes it. -/
def LeaseInstance.closedOut (lease : LeaseInstance) : LeaseInstance :=
  { lease with flags := lease.flags.clear .active, status := .terminated }

/-- A payment of the amount completes the buyout of the stored lease. -/
def World.boughtOutBy (world : World) (leaseId : LeaseId) (paymentAmount : I128) : Bool :=
  (world.leases.lookup leaseId).any fun lease => (lease.paid paymentAmount).boughtOut

/-- The lease a call archives if it goes through. -/
def Call.archives (world : World) : Call → Option LeaseId
  | .payLeaseInstanceRent leaseId _ paymentAmount =>
      if world.boughtOutBy leaseId paymentAmount = true then some leaseId else none
  | .terminateLease leaseId _ => some leaseId
  | .executeEarlyTermination leaseId _ => some leaseId
  | _ => none

section Entries

variable {world middle after : World} {env : Env} {leaseId : LeaseId}

theorem ArchiveStore.Unfiled.of_history (same : Part.history.read after = Part.history.read world) :
    world.archive.Unfiled after.archive :=
  ⟨congrArg Prod.fst same, congrArg Prod.snd same⟩

theorem ArchiveStore.Filed.of_unfiled {record : HistoricalLease} {first second third : ArchiveStore}
    (before : first.Unfiled second) (filed : second.Filed leaseId record third) :
    first.Filed leaseId record third :=
  ⟨by rw [filed.historicalLease, before.historicalLease],
    by rw [filed.historicalLeasesIndex, before.historicalLeasesIndex]⟩

theorem ArchiveStore.Filed.unfiled {record : HistoricalLease} {first second third : ArchiveStore}
    (filed : first.Filed leaseId record second) (later : second.Unfiled third) :
    first.Filed leaseId record third :=
  ⟨by rw [later.historicalLease, filed.historicalLease],
    by rw [later.historicalLeasesIndex, filed.historicalLeasesIndex]⟩

theorem unfiled {α : Type} {body : Contract α} {value : α}
    (run : Commits body world value after) (writes : Writes (besides .history) body) :
    world.archive.Unfiled after.archive :=
  .of_history (part_kept .history run writes)

theorem ArchiveStore.Unfiled.trans {first second third : ArchiveStore}
    (one : first.Unfiled second) (two : second.Unfiled third) : first.Unfiled third :=
  ⟨two.historicalLease.trans one.historicalLease,
    two.historicalLeasesIndex.trans one.historicalLeasesIndex⟩

theorem archiveLease_filed {lease : LeaseInstance} {caller : Address} {result : Unit}
    (run : Commits (archiveLease env leaseId lease caller) world result after) :
    world.archive.Filed leaseId ⟨lease, caller, env.timestamp⟩ after.archive := by
  simp only [archiveLease, deleteLeaseInstance, commits_bind, commits_modify] at run
  obtain ⟨_, _, rfl, rfl⟩ := run
  exact ⟨rfl, rfl⟩

theorem terminateLease_filed {caller : Address} {result : Unit}
    (run : Commits (terminateLease env leaseId caller) world result after) :
    ∃ lease, world.leases.lookup leaseId = some lease ∧
      world.archive.Filed leaseId ⟨lease, caller, env.timestamp⟩ after.archive := by
  obtain ⟨lease, w1, w2, w3, w4, found, _, bounty, burned, thawed, archived, published⟩ :=
    terminateLease_steps run
  have start := (unfiled bounty (by simp)).trans
    ((unfiled burned (by simp)).trans (unfiled thawed (by simp)))
  have filed := (archiveLease_filed archived).of_unfiled start
  exact ⟨lease, found, filed.unfiled (unfiled published (by simp))⟩

theorem executeEarlyTermination_filed {caller : Address} {result : Unit}
    (run : Commits (executeEarlyTermination env leaseId caller) world result after) :
    ∃ lease, world.leases.lookup leaseId = some lease ∧
      world.archive.Filed leaseId ⟨lease.settledOut, caller, env.timestamp⟩ after.archive := by
  simp only [executeEarlyTermination, closeEarlyTermination, commits_bind] at run
  obtain ⟨lease, w1, admitted, _, w2, paid, _, w3, sent, _, w4, recorded, _, w5, resized, _, w6,
    thawed, _, w7, archived, _, w8, read, _, w9, announced, published⟩ := run
  have found := (admitEarlyTermination_commits admitted).1
  have closing := (unfiled recorded (by simp)).trans
    ((unfiled resized (by simp)).trans (unfiled thawed (by simp)))
  have start := (unfiled admitted (by simp)).trans ((unfiled paid (by simp)).trans
    ((unfiled sent (by simp)).trans closing))
  have finish := (unfiled read (by simp)).trans
    ((unfiled announced (by simp)).trans (unfiled published (by simp)))
  exact ⟨lease, found, ((archiveLease_filed archived).of_unfiled start).unfiled finish⟩

theorem payLeaseInstanceRent_archive {payer : Address} {paymentAmount : I128} {result : Unit}
    (run : Commits (payLeaseInstanceRent env leaseId payer paymentAmount) world result after) :
    if world.boughtOutBy leaseId paymentAmount = true then
      ∃ lease, world.leases.lookup leaseId = some lease ∧
        world.archive.Filed leaseId
          ⟨(lease.paid paymentAmount).closedOut, env.currentContractAddress, env.timestamp⟩
          after.archive
    else world.archive.Unfiled after.archive := by
  obtain ⟨lease, settled, found, _, collected, closing⟩ := payLeaseInstanceRent_steps run
  have start := unfiled collected (by simp)
  simp only [World.boughtOutBy, found, Option.any_some]
  change Commits (storePaidInstance env leaseId (lease.paid paymentAmount)) _ _ _ at closing
  simp only [storePaidInstance, commits_ite] at closing
  split at closing
  · next reached =>
      simp only [completeBuyout, commits_bind] at closing
      obtain ⟨_, w5, sent, archived⟩ := closing
      rw [if_pos reached]
      refine ⟨lease, rfl, ?_⟩
      exact (archiveLease_filed archived).of_unfiled (start.trans (unfiled sent (by simp)))
  · next short =>
      rw [if_neg short]
      exact start.trans (unfiled closing (by simp))

/-- What a committed call does to the archive. -/
theorem dispatch_archive {call : Call} (run : Commits (dispatch env call) world () after) :
    (call.archives world = none ∧ world.archive.Unfiled after.archive) ∨
      ∃ leaseId record, call.archives world = some leaseId ∧
        world.archive.Filed leaseId record after.archive := by
  cases call with
  | terminateLease leaseId caller =>
      obtain ⟨_, _, filed⟩ := terminateLease_filed run
      exact .inr ⟨leaseId, _, rfl, filed⟩
  | executeEarlyTermination leaseId caller =>
      obtain ⟨_, _, filed⟩ := executeEarlyTermination_filed run
      exact .inr ⟨leaseId, _, rfl, filed⟩
  | payLeaseInstanceRent leaseId payer paymentAmount =>
      have outcome := payLeaseInstanceRent_archive run
      split at outcome
      · next reached =>
          obtain ⟨_, _, filed⟩ := outcome
          exact .inr ⟨leaseId, _, if_pos reached, filed⟩
      · next short => exact .inl ⟨if_neg short, outcome⟩
  | updateAssetConditionMetadata payload assetRegistryAddress =>
      exact .inl ⟨rfl, .of_history (updateAssetConditionMetadata_kept run (by simp))⟩
  | _ => exact .inl ⟨rfl, unfiled run ((dispatch_writes env _).mono (by simp))⟩

end Entries

/-! ## The index -/

/-- The index lists exactly the ids that have an entry. -/
def ArchiveStore.Indexed (archive : ArchiveStore) : Prop :=
  ∀ leaseId, leaseId ∈ archive.historicalLeasesIndex ↔ archive.historicalLease leaseId ≠ none

section Index

variable {before after : ArchiveStore} {leaseId : LeaseId} {record : HistoricalLease}

theorem ArchiveStore.Unfiled.indexed (same : before.Unfiled after) (indexed : before.Indexed) :
    after.Indexed := by
  intro other
  rw [same.historicalLease, same.historicalLeasesIndex]
  exact indexed other

theorem ArchiveStore.Filed.indexed (filed : before.Filed leaseId record after)
    (indexed : before.Indexed) : after.Indexed := by
  intro other
  rw [filed.historicalLease, filed.historicalLeasesIndex]
  by_cases same : other = leaseId
  · simp [same]
  · simp [same, indexed other]

theorem World.genesis_indexed (config : ConfigStore) (billing : BillingStore)
    (securityCouncil : Option SecurityCouncil) :
    (World.genesis config billing securityCouncil).archive.Indexed := by
  intro leaseId
  simp [World.genesis]

theorem step_indexed (invocation : Invocation) {world : World} (indexed : world.archive.Indexed) :
    (step invocation world).archive.Indexed := by
  rcases step_cases invocation world with run | same
  · rcases dispatch_archive run with ⟨_, unfiled⟩ | ⟨_, _, _, filed⟩
    · exact unfiled.indexed indexed
    · exact filed.indexed indexed
  · rwa [same]

end Index

end LeaseFlow
