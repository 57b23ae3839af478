import LeaseFlow.Foundations.Register
import LeaseFlow.Escrow.History
import LeaseFlow.Holdings.RentBalance

/-!
# Lives of leases

What the store keeps under the id of a lease is touched by the calls about that lease only.
From one opening of its record to the next a lease keeps its terms, is never reopened, and what
the archive holds of it is the record it had.
-/

set_option autoImplicit false

namespace LeaseFlow

open Transaction

/-! ## Everything under one id -/

def DepositEntry.lease : DepositEntry → LeaseId
  | .opened leaseId => leaseId
  | .received leaseId _ => leaseId
  | .paid leaseId _ _ => leaseId

/-- What the store keeps under the id of a lease outside the escrow.  The billing module's leases
lie together in one entry, which `initialize_lease` can displace, and are left out. -/
structure Folder where
  authorizedPayer : Address → Bool
  roommateBalance : Address → Option I128
  historicalLease : Option HistoricalLease
  tenantFlag : Bool
  assetCondition : Option AssetCondition
  assetFreezeProof : Address × U128 → Option (BytesN 32)
  frozenAsset : Address × U128 → Bool
  yieldDeployment : Option YieldDeployment
  yieldAccumulated : Option I128

/-- All that the store keeps in entries of its own for a lease. -/
structure Dossier extends Folder where
  record : Option LeaseInstance
  pendingSlash : Option PendingSlashVeto
  deposits : List DepositEntry

def World.folder (leaseId : LeaseId) (world : World) : Folder where
  authorizedPayer payer := world.rent.authorizedPayer (leaseId, payer)
  roommateBalance roommate := world.rent.roommateBalance (leaseId, roommate)
  historicalLease := world.archive.historicalLease leaseId
  tenantFlag := world.assets.tenantFlag leaseId
  assetCondition := world.assets.assetCondition leaseId
  assetFreezeProof asset := world.assets.assetFreezeProof (leaseId, asset)
  frozenAsset asset := world.assets.frozenAsset (leaseId, asset)
  yieldDeployment := world.yield.yieldDeployment leaseId
  yieldAccumulated := world.yield.yieldAccumulated leaseId

def World.dossier (leaseId : LeaseId) (world : World) : Dossier where
  toFolder := world.folder leaseId
  record := world.leases.lookup leaseId
  pendingSlash := world.pendingSlash leaseId
  deposits := world.deposits.filter fun entry => entry.lease = leaseId

/-- The parts of the store that hold nothing of a folder. -/
@[simp] def elsewhere : List Part :=
  [.leases, .deposits, .oracle, .velocity, .pendingSlash, .securityCouncil, .admin, .settings,
    .symbolLeases, .receipts, .usageRights, .activeLeasesIndex, .billing, .reentrancyLock, .payments,
    .nftTransfers, .burnedAccessTokens, .events]

/-- The lease that a call is about. -/
def Call.about (env : Env) : Call → Option LeaseId
  | .addAuthorizedPayer leaseId _ _ => some leaseId
  | .harvestYield leaseId => some leaseId
  | .updateAssetConditionMetadata payload _ => some payload.leaseId
  | call => call.subject env

/-! ## Calls about another lease -/

section Aside

variable {α : Type} {env : Env} {leaseId other : LeaseId} {body : Contract α}

theorem steady_folder (writes : Writes elsewhere body) : Steady (World.folder other) body := by
  intro before
  have kept (part : Part) (aside : part ∉ elsewhere) :
      part.read (body.execute before).2 = part.read before :=
    writes part aside before
  have payers := kept .authorizedPayers (by simp)
  have balances := kept .roommateBalances (by simp)
  have history := congrArg Prod.fst (kept .history (by simp))
  have flags := kept .tenantFlags (by simp)
  have conditions := congrArg Prod.fst (kept .assetConditions (by simp))
  have proofs := congrArg Prod.fst (kept .frozenAssets (by simp))
  have frozen := congrArg Prod.snd (kept .frozenAssets (by simp))
  have yields := kept .yield (by simp)
  simp only [Part.read] at payers balances history flags conditions proofs frozen yields
  simp only [World.folder, payers, balances, history, flags, conditions, proofs, frozen, yields]

theorem archiveLease_aside (aside : leaseId ≠ other) (lease : LeaseInstance) (caller : Address) :
    Steady (World.folder other) (archiveLease env leaseId lease caller) := by
  refine steady_bind (steady_modify fun world => ?_) fun _ => steady_folder (by simp)
  simp [World.folder, aside.symm]

theorem thawLeaseAsset_aside (aside : leaseId ≠ other) (lease : LeaseInstance) :
    Steady (World.folder other) (thawLeaseAsset env leaseId lease) := by
  have thawed (registryAddress : Address) (assetId : U128) :
      Steady (World.folder other) (thawAsset env leaseId registryAddress assetId) := by
    unfold thawAsset
    repeat
      refine steady_bind (steady_folder ?_) fun _ => ?_
      · simp
    refine steady_modify fun world => ?_
    simp [World.folder, aside.symm]
  unfold thawLeaseAsset
  split
  · exact steady_bind (steady_capture _ (thawed _ _)) fun _ => steady_folder (by simp)
  · exact steady_folder (by simp)

theorem verifyLeaseAsset_aside (aside : leaseId ≠ other) (landlord : Address)
    (params : CreateLeaseParams) :
    Steady (World.folder other) (verifyLeaseAsset env leaseId landlord params) := by
  have verified (registryAddress : Address) (assetId : U128) :
      Steady (World.folder other)
        (verifyAssetOwnership env leaseId landlord registryAddress assetId) := by
    unfold verifyAssetOwnership
    repeat
      refine steady_bind (steady_folder ?_) fun _ => ?_
      · simp
    refine steady_bind (steady_modify fun world => ?_) fun _ => ?_
    · simp [World.folder, aside.symm]
    · exact steady_bind (steady_folder (by simp)) fun _ => steady_folder (by simp)
  unfold verifyLeaseAsset
  split
  · exact steady_bind (verified _ _) fun _ => steady_folder (by simp)
  · exact steady_folder (by simp)

theorem createLeaseInstance_aside (aside : leaseId ≠ other) (landlord : Address)
    (params : CreateLeaseParams) :
    Steady (World.folder other) (createLeaseInstance env leaseId landlord params) := by
  unfold createLeaseInstance
  repeat
    refine steady_bind (steady_folder ?_) fun _ => ?_
    · simp
  refine steady_ite _ ?_ ?_
  · exact steady_bind (steady_folder (by simp)) fun _ => steady_throw _
  · repeat
   refine steady_bind (steady_folder ?_) fun _ => ?_
   · simp
    refine steady_bind (verifyLeaseAsset_aside aside landlord params) fun _ => ?_
    repeat
      refine steady_bind (steady_folder ?_) fun _ => ?_
      · simp
    exact steady_folder (by simp)

theorem addAuthorizedPayer_aside (aside : leaseId ≠ other) (landlord roommate : Address) :
    Steady (World.folder other) (addAuthorizedPayer env leaseId landlord roommate) := by
  unfold addAuthorizedPayer
  repeat
    refine steady_bind (steady_folder ?_) fun _ => ?_
    · simp
  refine steady_bind (steady_modify fun world => ?_) fun _ => steady_folder (by simp)
  simp [World.folder, aside.symm]

theorem creditPayer_aside (aside : leaseId ≠ other) (payer : Address) (paymentAmount : I128) :
    Steady (World.folder other) (creditPayer leaseId payer paymentAmount) := by
  unfold creditPayer
  repeat
    refine steady_bind (steady_folder ?_) fun _ => ?_
    · simp
  refine steady_modify fun world => ?_
  simp [World.folder, aside.symm]

theorem payLeaseInstanceRent_aside (aside : leaseId ≠ other) (payer : Address)
    (paymentAmount : I128) :
    Steady (World.folder other) (payLeaseInstanceRent env leaseId payer paymentAmount) := by
  unfold payLeaseInstanceRent
  repeat
    refine steady_bind (steady_folder ?_) fun _ => ?_
    · simp
  refine steady_bind (creditPayer_aside aside payer paymentAmount) fun _ => ?_
  repeat
    refine steady_bind (steady_folder ?_) fun _ => ?_
    · simp
  unfold storePaidInstance completeBuyout
  refine steady_ite _ ?_ (steady_folder (by simp))
  exact steady_bind (steady_folder (by simp)) fun _ => archiveLease_aside aside _ _

theorem terminateLease_aside (aside : leaseId ≠ other) (caller : Address) :
    Steady (World.folder other) (terminateLease env leaseId caller) := by
  unfold terminateLease
  repeat
    refine steady_bind (steady_folder ?_) fun _ => ?_
    · simp
  refine steady_bind (thawLeaseAsset_aside aside _) fun _ => ?_
  exact steady_bind (archiveLease_aside aside _ caller) fun _ => steady_folder (by simp)

theorem executeEarlyTermination_aside (aside : leaseId ≠ other) (caller : Address) :
    Steady (World.folder other) (executeEarlyTermination env leaseId caller) := by
  unfold executeEarlyTermination closeEarlyTermination
  repeat
    refine steady_bind (steady_folder ?_) fun _ => ?_
    · simp
  refine steady_bind (thawLeaseAsset_aside aside _) fun _ => ?_
  refine steady_bind (archiveLease_aside aside _ caller) fun _ => ?_
  repeat
    refine steady_bind (steady_folder ?_) fun _ => ?_
    · simp
  exact steady_folder (by simp)

theorem executeDepositSlash_aside {payload : OraclePayload} (aside : payload.leaseId ≠ other) :
    Steady (World.folder other) (executeDepositSlash env payload) := by
  have flagged (lease : LeaseInstance) (totalDeposit penaltyAmount : I128) :
      Steady (World.folder other) (flagSevereDamage payload lease totalDeposit penaltyAmount) := by
    refine steady_ite _ (steady_bind (steady_modify fun world => ?_) fun _ => ?_) ?_
    · simp [World.folder, aside.symm]
    · exact steady_folder (by simp)
    · exact steady_folder (by simp)
  have inner : Steady (World.folder other) (executeDepositSlashInner env payload) := by
    unfold executeDepositSlashInner settleSlash
    repeat
      refine steady_bind (steady_folder ?_) fun _ => ?_
      · simp
    refine steady_ite _ (steady_folder (by simp)) (steady_bind (flagged _ _ _) fun _ => ?_)
    repeat
      refine steady_bind (steady_folder ?_) fun _ => ?_
      · simp
    exact steady_folder (by simp)
  refine steady_bind (steady_folder (by simp)) fun _ => ?_
  refine steady_bind (steady_capture _ inner) fun _ => ?_
  exact steady_bind (steady_folder (by simp)) fun _ => steady_folder (by simp)

theorem updateAssetConditionMetadata_aside {payload : AssetConditionMetadataPayload}
    (aside : payload.leaseId ≠ other) (assetRegistryAddress : Address) :
    Steady (World.folder other)
      (updateAssetConditionMetadata env payload assetRegistryAddress) := by
  have stored : Steady (World.folder other) (storeAssetCondition env payload) :=
    steady_modify fun world => by simp [World.folder, aside.symm]
  have terminated (caller : Address) :
      Steady (World.folder other) (terminateDestroyedLease env payload.leaseId caller) := by
    unfold terminateDestroyedLease
    repeat
      refine steady_bind (steady_folder ?_) fun _ => ?_
      · simp
    exact steady_bind (archiveLease_aside aside _ caller) fun _ => steady_folder (by simp)
  have slashed : Steady (World.folder other) (slashDestroyedAsset env payload) := by
    refine steady_bind (steady_folder (by simp)) fun lease => ?_
    refine steady_ite _ (steady_bind (terminated _) fun _ => ?_) (steady_folder (by simp))
    exact steady_bind (steady_folder (by simp)) fun _ => executeDepositSlash_aside aside
  unfold updateAssetConditionMetadata
  repeat
    refine steady_bind (steady_folder ?_) fun _ => ?_
    · simp
  refine steady_bind stored fun _ => ?_
  repeat
    refine steady_bind (steady_folder ?_) fun _ => ?_
    · simp
  exact steady_ite _ slashed (steady_folder (by simp))

theorem saveYieldDeployment_aside (aside : leaseId ≠ other) (deployment : YieldDeployment) :
    Steady (World.folder other) (saveYieldDeployment leaseId deployment) :=
  steady_modify fun world => by simp [World.folder, aside.symm]

theorem deployEscrowToYield_aside (aside : leaseId ≠ other) (yieldProtocol : Address)
    (deployAmount : I128) (maxSlippageBps : U32) :
    Steady (World.folder other)
      (deployEscrowToYield env leaseId yieldProtocol deployAmount maxSlippageBps) := by
  unfold deployEscrowToYield isYieldProtocolWhitelisted verifyLiquidityBuffer
  repeat
    refine steady_bind (steady_folder ?_) fun _ => ?_
    · simp
  refine steady_bind (saveYieldDeployment_aside aside _) fun _ => ?_
  repeat
    refine steady_bind (steady_folder ?_) fun _ => ?_
    · simp
  exact steady_folder (by simp)

theorem harvestYield_aside (aside : leaseId ≠ other) :
    Steady (World.folder other) (harvestYield env leaseId) := by
  have accumulated (totalYield : I128) :
      Steady (World.folder other) (accumulateYield leaseId totalYield) := by
    unfold accumulateYield
    repeat
      refine steady_bind (steady_folder ?_) fun _ => ?_
      · simp
    refine steady_modify fun world => ?_
    simp [World.folder, aside.symm]
  unfold harvestYield
  repeat
    refine steady_bind (steady_folder ?_) fun _ => ?_
    · simp
  exact steady_bind (accumulated _) fun _ => steady_folder (by simp)

theorem withdrawFromYield_aside (aside : leaseId ≠ other) (maxSlippageBps : U32) :
    Steady (World.folder other) (withdrawFromYield env leaseId maxSlippageBps) := by
  unfold withdrawFromYield
  repeat
    refine steady_bind (steady_folder ?_) fun _ => ?_
    · simp
  exact steady_bind (saveYieldDeployment_aside aside _) fun _ => steady_folder (by simp)

theorem dispatch_aside {call : Call} (aside : call.about env ≠ some other) :
    Steady (World.folder other) (dispatch env call) := by
  have apart {leaseId : LeaseId} (differs : some leaseId ≠ some other) : leaseId ≠ other :=
    fun same => differs (congrArg some same)
  cases call with
  | createLeaseInstance leaseId landlord params =>
      exact createLeaseInstance_aside (apart aside) landlord params
  | payLeaseInstanceRent leaseId payer paymentAmount =>
      exact payLeaseInstanceRent_aside (apart aside) payer paymentAmount
  | addAuthorizedPayer leaseId landlord roommate =>
      exact addAuthorizedPayer_aside (apart aside) landlord roommate
  | terminateLease leaseId caller => exact terminateLease_aside (apart aside) caller
  | executeEarlyTermination leaseId caller =>
      exact executeEarlyTermination_aside (apart aside) caller
  | executeDepositSlash payload => exact executeDepositSlash_aside (apart aside)
  | updateAssetConditionMetadata payload assetRegistryAddress =>
      exact updateAssetConditionMetadata_aside (apart aside) assetRegistryAddress
  | deployEscrowToYield leaseId yieldProtocol deployAmount maxSlippageBps =>
      exact deployEscrowToYield_aside (apart aside) yieldProtocol deployAmount maxSlippageBps
  | harvestYield leaseId => exact harvestYield_aside (apart aside)
  | withdrawFromYield leaseId maxSlippageBps =>
      exact withdrawFromYield_aside (apart aside) maxSlippageBps
  | _ => exact steady_folder ((dispatch_writes env _).mono (by simp))

theorem Call.subject_of_about {call : Call} (aside : call.about env ≠ some other) :
    call.subject env ≠ some other := by
  cases call with
  | addAuthorizedPayer | harvestYield | updateAssetConditionMetadata => nofun
  | _ => exact aside

theorem DepositEntry.lease_of_names {entry : DepositEntry} (names : entry.names leaseId) :
    entry.lease = leaseId := by
  cases entry with
  | paid => exact names
  | opened | received => exact names.elim

theorem Movement.entries_aside {call : Call} {world : World} {after : Escrow}
    (movement : Movement env call world after) (aside : call.subject env ≠ some other) :
    (after.deposits.filter fun entry => entry.lease = other) =
      world.deposits.filter fun entry => entry.lease = other := by
  have skipped {subject : LeaseId} {entries : List DepositEntry}
      (about : call.subject env = some subject)
      (named : ∀ entry ∈ entries, entry.lease = subject) :
      (entries ++ world.deposits).filter (fun entry => entry.lease = other) =
        world.deposits.filter fun entry => entry.lease = other := by
    rw [List.filter_append, List.filter_eq_nil_iff.mpr, List.nil_append]
    intro entry listed same
    rw [decide_eq_true_eq, named entry listed] at same
    exact aside (same ▸ about)
  cases movement with
  | still _ _ deposits => rw [deposits]
  | opened opening moved =>
      rw [moved.deposits]
      refine skipped opening.subject fun entry listed => ?_
      rw [List.mem_singleton.mp listed]
      rfl
  | changed _ change moved =>
      rw [moved.deposits]
      exact skipped change.subject fun entry listed =>
        DepositEntry.lease_of_names (change.names entry listed)

/-- A committed call about one lease leaves all that is kept of the others as it was. -/
theorem dispatch_dossier {call : Call} {world after : World}
    (run : Commits (dispatch env call) world () after) (aside : call.about env ≠ some other) :
    after.dossier other = world.dossier other := by
  have spared := Call.subject_of_about aside
  have effect := dispatch_effect run
  have folder := (dispatch_aside aside).keeps run
  have record := effect.movement.frame spared
  have pending := congrFun effect.safeguarded.pendingSlash other
  have entries := effect.movement.entries_aside spared
  simp only [World.dossier, folder, record, pending, entries]

end Aside

/-- However many calls go through, what the store keeps under the id of a lease that none of them
is about stays as it was. -/
theorem leases_kept_apart {leaseId : LeaseId} {calls : List Invocation} {start : World}
    (apart : Run.MeetsAlong step (fun invocation world =>
      invocation.Committed world → invocation.call.about invocation.env ≠ some leaseId)
      calls start) :
    (Run.run step calls start).dossier leaseId = start.dossier leaseId := by
  refine @run_invariant start (fun world => world.dossier leaseId = start.dossier leaseId)
    (fun invocation _ => invocation.call.about invocation.env ≠ some leaseId) ?_ calls apart rfl
  intro invocation before after run aside same
  exact (dispatch_dossier run aside).trans same

theorem leases_kept_apart_rented :
    (Run.run step [propose 5 1 100 50, callAt 6 (.payLeaseInstanceRent 1 ⟨2⟩ 10)]
      freshWorld).dossier 2 = freshWorld.dossier 2 :=
  leases_kept_apart ⟨fun _ => by decide, fun _ => by decide, trivial⟩

/-! ## From one opening to the next -/

/-- The later record of a lease: what was agreed is as it was, and the lease was not reopened. -/
structure LeaseInstance.GoesOn (lease next : LeaseInstance) : Prop where
  agreed : next = { lease with
    securityDeposit := next.securityDeposit
    rentPaid := next.rentPaid
    cumulativePayments := next.cumulativePayments
    debt := next.debt
    rentWithdrawn := next.rentWithdrawn
    withheldRent := next.withheldRent
    buyoutPrice := next.buyoutPrice
    withdrawalAddress := next.withdrawalAddress
    inspector := next.inspector
    secondsLateCharged := next.secondsLateCharged
    status := next.status
    depositStatus := next.depositStatus
    maintenanceStatus := next.maintenanceStatus
    repairProofHash := next.repairProofHash
    flags := next.flags
    lessorReferenceId := next.lessorReferenceId }
  status : next.status = lease.status ∨ next.status = .terminated ∨ next.status = .disputed
  active : next.flags.has .active = true → lease.flags.has .active = true
  withheld : lease.withheldRent = 0 → next.withheldRent = 0

/-- A lease is filed as terminated, except by `terminate_lease`, which files the record as it
stands once its deposit is settled. -/
def HistoricalLease.Closed (entry : HistoricalLease) : Prop :=
  entry.lease.status = .terminated ∨ entry.lease.depositStatus = .settled

/-- The later store holds the record the earlier one held, gone on or closed in the archive. -/
structure World.Succeeds (leaseId : LeaseId) (before after : World) : Prop where
  stored : ∀ next, after.leases.lookup leaseId = some next →
    ∃ lease, before.leases.lookup leaseId = some lease ∧ lease.GoesOn next
  filed : after.archive.historicalLease leaseId = before.archive.historicalLease leaseId ∨
    after.leases.lookup leaseId = none ∧ ∃ lease entry,
      before.leases.lookup leaseId = some lease ∧
      after.archive.historicalLease leaseId = some entry ∧ lease.GoesOn entry.lease ∧ entry.Closed

/-- Unless a record of the lease was opened in between, the later store succeeds the earlier. -/
def World.Ages (leaseId : LeaseId) (before after : World) : Prop :=
  ∃ entries, after.deposits = entries ++ before.deposits ∧
    (.opened leaseId ∉ entries → before.Succeeds leaseId after)

section Lives

variable {env : Env} {world after : World} {leaseId : LeaseId} {lease next : LeaseInstance}
  {call : Call}

theorem LeaseInstance.goesOn_refl (lease : LeaseInstance) : lease.GoesOn lease :=
  ⟨rfl, .inl rfl, id, id⟩

theorem LeaseInstance.GoesOn.trans {first second third : LeaseInstance}
    (one : first.GoesOn second) (two : second.GoesOn third) : first.GoesOn third where
  agreed := by
    have later := two.agreed
    rw [one.agreed] at later
    exact later
  status := by
    rcases two.status with same | ended | disputed
    · rw [same]
      exact one.status
    · exact .inr (.inl ended)
    · exact .inr (.inr disputed)
  active running := one.active (two.active running)
  withheld none := two.withheld (one.withheld none)

theorem World.succeeds_refl (world : World) : world.Succeeds leaseId world :=
  ⟨fun next found => ⟨next, found, next.goesOn_refl⟩, .inl rfl⟩

/-- What is gone from live storage is gone from then on. -/
theorem World.Succeeds.gone (succeeds : world.Succeeds leaseId after)
    (gone : world.leases.lookup leaseId = none) : after.leases.lookup leaseId = none := by
  cases stored : after.leases.lookup leaseId with
  | none => rfl
  | some next =>
      obtain ⟨_, found, _⟩ := succeeds.stored next stored
      cases gone.symm.trans found

theorem World.Succeeds.trans {first second third : World} (one : first.Succeeds leaseId second)
    (two : second.Succeeds leaseId third) : first.Succeeds leaseId third where
  stored next found := by
    obtain ⟨middle, kept, further⟩ := two.stored next found
    obtain ⟨lease, held, goesOn⟩ := one.stored middle kept
    exact ⟨lease, held, goesOn.trans further⟩
  filed := by
    rcases two.filed with same | ⟨gone, middle, entry, kept, filed, further, closed⟩
    · rw [same]
      rcases one.filed with before | ⟨left, filed⟩
      · exact .inl before
      · exact .inr ⟨two.gone left, filed⟩
    · obtain ⟨lease, held, goesOn⟩ := one.stored middle kept
      exact .inr ⟨gone, lease, entry, held, filed, goesOn.trans further, closed⟩

theorem World.ages_refl (world : World) : world.Ages leaseId world :=
  ⟨[], rfl, fun _ => world.succeeds_refl⟩

theorem World.Ages.trans {first second third : World} (one : first.Ages leaseId second)
    (two : second.Ages leaseId third) : first.Ages leaseId third := by
  obtain ⟨earlier, grown, begun⟩ := one
  obtain ⟨later, further, ended⟩ := two
  refine ⟨later ++ earlier, ?_, fun unopened => ?_⟩
  · rw [further, grown, List.append_assoc]
  · rw [List.mem_append, not_or] at unopened
    exact (begun unopened.2).trans (ended unopened.1)

/-! ### One call -/

theorem LeaseChange.active {record : Option LeaseInstance} {entries : List DepositEntry}
    (change : LeaseChange env world leaseId lease call record entries)
    (kept : record = some next) (running : next.flags.has .active = true) :
    lease.flags.has .active = true := by
  cases change with
  | amended _ terms =>
      cases kept
      exact terms.active.symm.trans running
  | boughtOut | terminated | endedEarly | swept => cases kept
  | released | reclaimed | slashed =>
      cases kept
      cases (LeaseFlags.has_clear _ _).symm.trans running
  | _ =>
      cases kept
      exact running

theorem dispatch_goesOn (run : Commits (dispatch env call) world () after)
    (keeps : call.creates env ≠ some leaseId) (found : world.leases.lookup leaseId = some lease)
    (stored : after.leases.lookup leaseId = some next) : lease.GoesOn next where
  agreed := by
    rcases dispatch_keeps_record run keeps found stored with
      ⟨_, rfl⟩ | amendment | ⟨still, _, change⟩
    · rfl
    · cases amendment with
      | charged fees => rw [fees]
      | _ => rfl
    · cases change with
      | amended amends => cases still.symm.trans amends
      | _ => rfl
  status := dispatch_status run keeps found stored
  active := by
    intro running
    have movement := (dispatch_effect run).movement
    by_cases subject : call.subject env = some leaseId
    · cases movement with
      | still silent => cases silent.symm.trans subject
      | opened opening =>
          obtain rfl := Option.some.inj (opening.subject.symm.trans subject)
          exact absurd opening.creates keeps
      | changed held change moved =>
          obtain rfl := Option.some.inj (change.subject.symm.trans subject)
          obtain rfl := Option.some.inj (found.symm.trans held)
          exact change.active (moved.lookup_self.symm.trans stored) running
    · rw [movement.frame subject] at stored
      obtain rfl := Option.some.inj (found.symm.trans stored)
      exact running
  withheld := dispatch_unwithheld run keeps found stored

theorem LeaseInstance.goesOn_settledOut (lease : LeaseInstance) :
    lease.GoesOn lease.settledOut where
  agreed := rfl
  status := .inr (.inl rfl)
  active running := by cases (LeaseFlags.has_clear _ _).symm.trans running
  withheld := id

theorem LeaseInstance.goesOn_closedOut (lease : LeaseInstance) (paymentAmount : I128) :
    lease.GoesOn (lease.paid paymentAmount).closedOut where
  agreed := rfl
  status := .inr (.inl rfl)
  active running := by cases (LeaseFlags.has_clear _ _).symm.trans running
  withheld := id

theorem terminateLease_settled {caller : Address}
    (run : Commits (dispatch env (.terminateLease leaseId caller)) world () after)
    (found : world.leases.lookup leaseId = some lease) : lease.depositStatus = .settled := by
  cases (dispatch_effect run).movement with
  | still silent => cases silent
  | opened opening => cases opening
  | changed held change =>
      obtain rfl := Option.some.inj change.subject
      obtain rfl := Option.some.inj (found.symm.trans held)
      cases change with
      | amended amends => cases amends
      | terminated closed => exact closed

/-- A committed call leaves the entry of a lease in the archive, or files the record it removes. -/
theorem dispatch_files (run : Commits (dispatch env call) world () after) (leaseId : LeaseId) :
    after.archive.historicalLease leaseId = world.archive.historicalLease leaseId ∨
      after.leases.lookup leaseId = none ∧ ∃ lease entry,
        world.leases.lookup leaseId = some lease ∧
        after.archive.historicalLease leaseId = some entry ∧ lease.GoesOn entry.lease ∧
          entry.Closed := by
  have settled {other : LeaseId} {lease : LeaseInstance} {entry : HistoricalLease}
      (found : world.leases.lookup other = some lease)
      (removes : call.removes world = some other)
      (filed : world.archive.Filed other entry after.archive) (goesOn : lease.GoesOn entry.lease)
      (closed : entry.Closed) :
      after.archive.historicalLease leaseId = world.archive.historicalLease leaseId ∨
        after.leases.lookup leaseId = none ∧ ∃ lease entry,
          world.leases.lookup leaseId = some lease ∧
          after.archive.historicalLease leaseId = some entry ∧ lease.GoesOn entry.lease ∧
            entry.Closed := by
    rw [filed.historicalLease]
    by_cases same : leaseId = other
    · subst same
      refine .inr ⟨(dispatch_removes_iff run found).mpr removes, lease, entry, found, ?_, goesOn,
        closed⟩
      exact Function.update_self ..
    · exact .inl (Function.update_of_ne same _ _)
  cases call with
  | terminateLease other caller =>
      obtain ⟨lease, found, filed⟩ := terminateLease_filed run
      exact settled found rfl filed lease.goesOn_refl (.inr (terminateLease_settled run found))
  | executeEarlyTermination other caller =>
      obtain ⟨lease, found, filed⟩ := executeEarlyTermination_filed run
      exact settled found rfl filed lease.goesOn_settledOut (.inl rfl)
  | payLeaseInstanceRent other payer paymentAmount =>
      have outcome := payLeaseInstanceRent_archive run
      split at outcome
      · next reached =>
          obtain ⟨lease, found, filed⟩ := outcome
          exact settled found (if_pos reached) filed (lease.goesOn_closedOut paymentAmount) (.inl rfl)
      · next short => exact .inl (congrFun outcome.historicalLease leaseId)
  | _ =>
      rcases dispatch_archive run with ⟨_, same⟩ | ⟨_, _, archives, _⟩
      · exact .inl (congrFun same.historicalLease leaseId)
      · cases archives

theorem dispatch_ages (run : Commits (dispatch env call) world () after) (leaseId : LeaseId) :
    world.Ages leaseId after := by
  have movement := (dispatch_effect run).movement
  have succeeds (keeps : call.creates env ≠ some leaseId) : world.Succeeds leaseId after := by
    refine ⟨fun next stored => ?_, dispatch_files run leaseId⟩
    obtain ⟨lease, found⟩ := dispatch_appears run stored keeps
    exact ⟨lease, found, dispatch_goesOn run keeps found stored⟩
  by_cases creates : call.creates env = some leaseId
  · obtain ⟨_, _, moved⟩ := movement.opening creates
    exact ⟨_, moved.deposits, fun unopened => absurd (List.mem_singleton_self _) unopened⟩
  · cases movement with
    | still _ _ deposits => exact ⟨[], deposits, fun _ => succeeds creates⟩
    | opened _ moved => exact ⟨_, moved.deposits, fun _ => succeeds creates⟩
    | changed _ _ moved => exact ⟨_, moved.deposits, fun _ => succeeds creates⟩

end Lives

/-- From one opening of its record to the next a lease keeps what was agreed, is never reopened,
does not come back to live storage once it is gone, and enters the archive closed, as the record
it had. -/
theorem leases_live_once (leaseId : LeaseId) (calls : List Invocation) (start : World) :
    Run.Progresses step (World.Ages leaseId) calls start := by
  refine @Register.progresses_of_commits _ _ _ Invocation.body (World.Ages leaseId)
    (fun _ => True) World.ages_refl (fun _ _ _ => World.Ages.trans) (fun _ _ _ _ _ => trivial)
    (fun _ _ _ run _ => dispatch_ages run leaseId) calls start trivial

end LeaseFlow
