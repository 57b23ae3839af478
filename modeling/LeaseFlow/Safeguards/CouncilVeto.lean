import LeaseFlow.Safeguards.Demotion

/-!
# The veto window of a massive slash

The branch that queues a massive slash ends in an `Err`, so the queued record is rolled
back with the call.  With a council configured a massive slash is refused for good;
without one it is settled at once.
-/

set_option autoImplicit false

namespace LeaseFlow

open Transaction

/-- A slash report that everything but the veto lets through, with a landlord's payout at or
above the threshold. -/
structure World.MassiveSlash (env : Env) (payload : OraclePayload) (lease : LeaseInstance)
    (world : World) : Prop where
  unlocked : world.nonReentrant = false
  ready : world.toEscrow.ReadyToSlash env payload lease
  massive : massiveSlashThreshold ≤ slashPenalty lease.totalDeposit payload.damageSeverity

def slashCall (env : Env) (payload : OraclePayload) : Invocation :=
  ⟨env, .executeDepositSlash payload⟩

/-- The slash waits for its veto: it is recorded with a time lock that is still running,
nothing is transferred, and the deposit is not settled. -/
structure Escrow.Queues (env : Env) (payload : OraclePayload) (before after : Escrow) : Prop where
  recorded : ∃ pending, after.pendingSlash payload.leaseId = some pending ∧
    env.timestamp < pending.timelockEnd
  untransferred : after.deposits = before.deposits
  unsettled : ∃ lease, after.leases.lookup payload.leaseId = some lease ∧
    lease.depositStatus ≠ .settled

/-- A landlord's share at or above the threshold was paid on account of the lease. -/
def Escrow.PaysMassively (leaseId : LeaseId) (before after : Escrow) : Prop :=
  ∃ entries transfer, after.deposits = entries ++ before.deposits ∧
    .paid leaseId .landlordPayout transfer ∈ entries ∧ massiveSlashThreshold ≤ transfer.amount

/-- Some earlier store of the run held a record of the lease whose time lock has elapsed. -/
def WaitedAlong (calls : List Invocation) (start : World) (leaseId : LeaseId) (now : U64) : Prop :=
  ∃ earlier pending, earlier <+: calls ∧
    (Run.run step earlier start).pendingSlash leaseId = some pending ∧ pending.timelockEnd ≤ now

/-- A massive slash is queued where a council is configured. -/
def QueuesMassive (env : Env) (payload : OraclePayload) (world : World) : Prop :=
  ∀ lease, world.securityCouncil ≠ none → world.MassiveSlash env payload lease →
    world.toEscrow.Queues env payload (step (slashCall env payload) world).toEscrow

/-- After a run, no massive payout of a slash is made before its record has waited. -/
def WithholdsMassive (env : Env) (payload : OraclePayload) (calls : List Invocation)
    (start : World) : Prop :=
  (Run.run step calls start).toEscrow.PaysMassively payload.leaseId
      (step (slashCall env payload) (Run.run step calls start)).toEscrow →
    WaitedAlong calls start payload.leaseId env.timestamp

/-! ## What a slash pays -/

section Payout

variable {env : Env} {payload : OraclePayload} {lease : LeaseInstance} {world : World}
variable {before after : Escrow} {leaseId : LeaseId}

theorem landlordPayout_mem_shareEntries {tenantRefund landlordPayout : I128}
    {payout : TokenTransfer} :
    DepositEntry.paid leaseId .landlordPayout payout ∈
        shareEntries env leaseId lease tenantRefund landlordPayout ↔
      0 < landlordPayout ∧
        payout = ⟨lease.paymentToken, env.currentContractAddress, lease.landlord,
          landlordPayout⟩ := by
  unfold shareEntries depositPayout
  split <;> split <;> simp [*]

theorem Escrow.not_paysMassively_of_same (same : after.deposits = before.deposits) :
    ¬ before.PaysMassively leaseId after := by
  rintro ⟨entries, transfer, history, paid, _⟩
  rw [same] at history
  rw [List.self_eq_append_left.mp history] at paid
  cases paid

theorem Escrow.Slashed.paysMassively_iff (slashed : before.Slashed env payload lease after) :
    before.PaysMassively payload.leaseId after ↔
      massiveSlashThreshold ≤ slashPenalty lease.totalDeposit payload.damageSeverity := by
  have history : after.deposits = shareEntries env payload.leaseId lease
      (slashRefund lease.totalDeposit payload.damageSeverity)
      (slashPenalty lease.totalDeposit payload.damageSeverity) ++ before.deposits := by
    obtain ⟨_, _, _, rfl⟩ := slashed.effect
    rfl
  constructor
  · rintro ⟨entries, payout, appended, paid, massive⟩
    obtain rfl := List.append_cancel_right (appended.symm.trans history)
    obtain ⟨_, rfl⟩ := landlordPayout_mem_shareEntries.mp paid
    exact massive
  · intro massive
    have threshold : 0 < massiveSlashThreshold := by decide
    exact ⟨_, _, history,
      landlordPayout_mem_shareEntries.mpr ⟨threshold.trans_le massive, rfl⟩, massive⟩

theorem massiveSlash_of_paysMassively
    (pays : world.toEscrow.PaysMassively payload.leaseId
      (step (slashCall env payload) world).toEscrow) :
    world.securityCouncil = none ∧ ∃ lease, world.MassiveSlash env payload lease := by
  rcases step_cases (slashCall env payload) world with run | same
  · obtain ⟨lease, slashed⟩ := executeDepositSlash_commits run
    have massive := slashed.paysMassively_iff.mp pays
    refine ⟨?_, lease, unlocked_of_executeDepositSlash run, slashed.toReadyToSlash, massive⟩
    by_contra configured
    exact absurd massive (not_le.mpr (slashed.unvetoed configured))
  · rw [same] at pays
    exact absurd pays (Escrow.not_paysMassively_of_same rfl)

theorem World.MassiveSlash.paysMassively (slash : world.MassiveSlash env payload lease)
    (uncouncilled : world.securityCouncil = none) :
    world.toEscrow.PaysMassively payload.leaseId
      (step (slashCall env payload) world).toEscrow := by
  obtain ⟨after, run⟩ := exists_commits_executeDepositSlash slash.unlocked slash.ready
    (absurd uncouncilled)
  rw [step_of_commits (show Commits (slashCall env payload).body world () after from run)]
  obtain ⟨stored, slashed⟩ := executeDepositSlash_commits run
  cases slash.ready.found.symm.trans slashed.found
  exact slashed.paysMassively_iff.mpr slash.massive

/-- The slash a condition report triggers is part of no committed call and pays nothing. -/
theorem conditionReport_pays_nothing {report : AssetConditionMetadataPayload}
    {assetRegistryAddress : Address} :
    ¬ world.toEscrow.PaysMassively report.leaseId (step
      ⟨env, .updateAssetConditionMetadata report assetRegistryAddress⟩ world).toEscrow := by
  refine Escrow.not_paysMassively_of_same ?_
  rcases step_cases ⟨env, .updateAssetConditionMetadata report assetRegistryAddress⟩ world
    with run | same
  · obtain ⟨_, _, heard⟩ := (updateAssetConditionMetadata_commits run).1
    exact (congrArg Escrow.deposits heard :)
  · rw [same]

end Payout

/-! ## When the window is kept -/

section Window

variable {env : Env} {payload : OraclePayload} {world : World}

theorem Reachable.not_queues (reached : Reachable world) {before : Escrow} :
    ¬ before.Queues env payload world.toEscrow := by
  rintro ⟨⟨_, recorded, _⟩, _, _⟩
  cases (reached.safeguards.unqueued payload.leaseId).symm.trans recorded

theorem Reachable.not_waitedAlong (reached : Reachable world) (calls : List Invocation)
    (leaseId : LeaseId) (now : U64) : ¬ WaitedAlong calls world leaseId now := by
  rintro ⟨earlier, _, _, recorded, _⟩
  cases ((reached.run earlier).safeguards.unqueued leaseId).symm.trans recorded

/-- No massive slash is ever queued. -/
theorem queuesMassive_iff (reached : Reachable world) :
    QueuesMassive env payload world ↔
      ¬ (world.securityCouncil ≠ none ∧ ∃ lease, world.MassiveSlash env payload lease) := by
  constructor
  · rintro queues ⟨configured, lease, slash⟩
    exact (reached.next _).not_queues (queues lease configured slash)
  · exact fun unasked lease configured slash => absurd ⟨configured, lease, slash⟩ unasked

/-- No record ever waits, so a run pays massively exactly where a massive slash finds no
council. -/
theorem withholdsMassive_iff (reached : Reachable world) (calls : List Invocation) :
    WithholdsMassive env payload calls world ↔
      ¬ ((Run.run step calls world).securityCouncil = none ∧
        ∃ lease, (Run.run step calls world).MassiveSlash env payload lease) := by
  constructor
  · rintro withholds ⟨uncouncilled, lease, slash⟩
    exact reached.not_waitedAlong calls _ _ (withholds (slash.paysMassively uncouncilled))
  · exact fun unpaid pays => absurd (massiveSlash_of_paysMassively pays) unpaid

end Window

/-- After any run, a submission respects the veto window exactly when it is no massive slash:
with a council such a slash is not queued, and without one it does not wait. -/
theorem veto_window_iff (config : ConfigStore) (billing : BillingStore)
    (securityCouncil : Option SecurityCouncil) (calls : List Invocation) (env : Env)
    (payload : OraclePayload) :
    (QueuesMassive env payload
        (Run.run step calls (World.genesis config billing securityCouncil)) ∧
      WithholdsMassive env payload calls (World.genesis config billing securityCouncil)) ↔
    ∀ lease, ¬ (Run.run step calls
      (World.genesis config billing securityCouncil)).MassiveSlash env payload lease := by
  have reached := Reachable.genesis config billing securityCouncil
  rw [queuesMassive_iff (reached.run calls), withholdsMassive_iff reached]
  constructor
  · rintro ⟨unqueued, unpaid⟩ lease slash
    by_cases uncouncilled : (Run.run step calls
        (World.genesis config billing securityCouncil)).securityCouncil = none
    · exact unpaid ⟨uncouncilled, lease, slash⟩
    · exact unqueued ⟨uncouncilled, lease, slash⟩
  · intro small
    exact ⟨fun ⟨_, lease, slash⟩ => small lease slash, fun ⟨_, lease, slash⟩ => small lease slash⟩

/-- A council of one member, a proposal over twice the threshold, and its reclaim. -/
def councilledRun : List Invocation :=
  installation (.repeated 32 1) (.repeated 32 2) ++
    [propose 0 0 200000000000 0, callAt 0 (.reclaim 0 ⟨1⟩)]

def councilledWorld : World :=
  Run.run step councilledRun (administeredWorld (some ⟨[⟨⟨6⟩, 1, true⟩], 5000, 1⟩))

/-- The record the reclaim leaves. -/
def councilledLease : LeaseInstance :=
  let lease := proposedLease ⟨1⟩ (sampleProposal 200000000000 0) 200000000000
  { lease with status := .terminated, flags := lease.flags.clear .active }

theorem councilled_massiveSlash : councilledWorld.MassiveSlash (openLedger 100000 0)
    (sampleReport .catastrophic 1) councilledLease where
  unlocked := rfl
  massive := by decide
  ready :=
    { admitted :=
        { past := by decide
          fresh := by decide
          whitelisted := rfl
          available := ⟨_, rfl, rfl⟩
          entitled := fun hierarchy installed active => by cases installed; cases active }
      fresh := by decide
      recent := by decide
      signed := rfl
      found := rfl
      ended := .inl rfl
      unsettled := by decide
      unpaused := rfl
      allowed := ⟨by decide, by decide, fun exceeded => absurd exceeded.2 (by decide)⟩
      range := by decide
      accepted := ⟨⟨fun _ => rfl, fun _ => rfl⟩, ⟨by decide, by decide⟩, fun _ _ _ _ => rfl⟩ }

/-- A catastrophic report is recorded by the body, which then fails; the store keeps no
record, so the slash can never be executed. -/
theorem massive_slash_not_queued :
    councilledWorld.securityCouncil ≠ none ∧
      councilledWorld.MassiveSlash (openLedger 100000 0) (sampleReport .catastrophic 1)
        councilledLease ∧
      (∃ attempted, Faults (slashCall (openLedger 100000 0) (sampleReport .catastrophic 1)).body
          councilledWorld (.err .pendingVeto) attempted ∧
        attempted.pendingSlash 0 ≠ none) ∧
      ¬ QueuesMassive (openLedger 100000 0) (sampleReport .catastrophic 1) councilledWorld := by
  have configured : councilledWorld.securityCouncil ≠ none := nofun
  refine ⟨configured, councilled_massiveSlash, ⟨_, rfl, nofun⟩, fun queues => ?_⟩
  obtain ⟨_, recorded, _⟩ := (queues councilledLease configured councilled_massiveSlash).recorded
  cases recorded

end LeaseFlow
