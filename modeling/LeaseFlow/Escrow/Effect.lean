import LeaseFlow.Escrow.Movement

/-!
# The effect of a committed call

The faithful model refines the abstract machine: `dispatch_effect` derives, for
every entry point, the movement of the escrow, the reports it accepted, and that
the safeguards which only error paths set stay as they were.
-/

set_option autoImplicit false

namespace LeaseFlow

open Transaction

/-! ## Reports and safeguards -/

/-- The oracle and the nonce of the report a call submits. -/
def Call.report : Call → Option (BytesN 32 × U64)
  | .executeDepositSlash payload => some (payload.oraclePubkey, payload.nonce)
  | .updateAssetConditionMetadata payload _ => some (payload.oraclePubkey, payload.nonce)
  | _ => none

/-- No lessor is paused and no resume is requested. -/
structure VelocityStore.Quiet (velocity : VelocityStore) : Prop where
  unpaused : ∀ lessor, velocity.pausedLessor lessor = false
  unasked : ∀ requestId, velocity.daoApprovalRequest requestId = none

/-- What no committed call does: demote an oracle, pause a lessor, queue a slash, or
replace the council. -/
structure Escrow.Safeguarded (before after : Escrow) : Prop where
  calm : before.oracle.Calm → after.oracle.Calm
  quiet : before.velocity.Quiet → after.velocity.Quiet
  pendingSlash : after.pendingSlash = before.pendingSlash
  securityCouncil : after.securityCouncil = before.securityCouncil

/-- The nonces change by the accepted report, if the call submits one. -/
structure Escrow.Reported (report : Option (BytesN 32 × U64)) (before after : Escrow) : Prop where
  silent : report = none → after.oracle.oracleNonce = before.oracle.oracleNonce
  accepted : ∀ oraclePubkey nonce, report = some (oraclePubkey, nonce) →
    before.oracle.nonceOf oraclePubkey < nonce ∧
      after.oracle.oracleNonce =
        Function.update before.oracle.oracleNonce oraclePubkey (some nonce)

structure Effect (env : Env) (call : Call) (world : World) (after : Escrow) : Prop where
  movement : Movement env call world after
  safeguarded : world.toEscrow.Safeguarded after
  reported : world.toEscrow.Reported call.report after

theorem Escrow.Safeguarded.refl (escrow : Escrow) : escrow.Safeguarded escrow :=
  ⟨id, id, rfl, rfl⟩

theorem Escrow.Reported.of_same {before after : Escrow} {call : Call}
    (silent : call.report = none) (same : after.oracle.oracleNonce = before.oracle.oracleNonce) :
    before.Reported call.report after := by
  refine ⟨fun _ => same, fun oraclePubkey nonce submits => ?_⟩
  rw [silent] at submits
  cases submits

/-! ## From the commits of an operation to its effect -/

namespace Effect

variable {env : Env} {call : Call} {world : World} {after : Escrow} {leaseId : LeaseId}

theorem of_kept (aside : call.subject env = none) (silent : call.report = none)
    (kept : after = world.toEscrow) : Effect env call world after := by
  subst kept
  exact ⟨.still aside rfl rfl, .refl _, .of_same silent rfl⟩

/-- A call that may write no part of the escrow. -/
theorem of_outside {final : World} (aside : call.subject env = none) (silent : call.report = none)
    (run : Commits (dispatch env call) world () final)
    (footprint : call.footprint ⊆ outside) : Effect env call world final.toEscrow :=
  of_kept aside silent (escrow_kept run ((dispatch_writes env call).mono footprint))

theorem of_administered (aside : call.subject env = none) (silent : call.report = none)
    (administered : ∃ oracle, after = world.toEscrow.withOracle oracle ∧
      world.oracle.Administered oracle) : Effect env call world after := by
  obtain ⟨oracle, rfl, kept⟩ := administered
  exact ⟨.still aside rfl rfl, ⟨kept.calm, id, rfl, rfl⟩, .of_same silent kept.nonces⟩

theorem of_change {lease : LeaseInstance} {record : Option LeaseInstance}
    {entries : List DepositEntry} (silent : call.report = none)
    (found : world.leases.lookup leaseId = some lease)
    (change : LeaseChange env world leaseId lease call record entries)
    (moved : ((world.toEscrow.enter entries).store leaseId record).Retracked after) :
    Effect env call world after := by
  obtain ⟨_, rfl⟩ := moved
  exact ⟨.changed found change ⟨rfl, rfl⟩,
    ⟨id, fun quiet => ⟨quiet.unpaused, quiet.unasked⟩, rfl, rfl⟩, .of_same silent rfl⟩

theorem of_replaced {lease : LeaseInstance} {record : Option LeaseInstance}
    {entries : List DepositEntry} (silent : call.report = none)
    (found : world.leases.lookup leaseId = some lease)
    (change : LeaseChange env world leaseId lease call record entries)
    (moved : world.toEscrow.Replaced leaseId record entries after) :
    Effect env call world after := by
  subst moved
  exact of_change silent found change (.refl _)

theorem of_amended (silent : call.report = none) (amends : call.amended = some leaseId)
    (moved : world.toEscrow.Amended leaseId after) : Effect env call world after := by
  obtain ⟨lease, amended, found, terms, rfl⟩ := moved
  exact of_change silent found (.amended amends terms) (.refl _)

theorem of_opening {lease : LeaseInstance} (silent : call.report = none)
    (opening : Opening env world call leaseId lease)
    (moved : ((world.toEscrow.enter [.opened leaseId]).store leaseId (some lease)).Retracked
      after) : Effect env call world after := by
  obtain ⟨_, rfl⟩ := moved
  exact ⟨.opened opening ⟨rfl, rfl⟩,
    ⟨id, fun quiet => ⟨quiet.unpaused, quiet.unasked⟩, rfl, rfl⟩, .of_same silent rfl⟩

theorem of_securityMoved {amount : I128} (silent : call.report = none)
    (change : ∀ lease, LeaseChange env world leaseId lease call
      (some { lease with securityDeposit := lease.securityDeposit + amount }) [])
    (moved : world.toEscrow.SecurityMoved leaseId amount after) :
    Effect env call world after := by
  obtain ⟨lease, found, rfl⟩ := moved
  exact of_change silent found (change lease) (.refl _)

theorem of_accepted {oraclePubkey : BytesN 32} {nonce : U64} {oracle : OracleStore}
    (submits : call.report = some (oraclePubkey, nonce))
    (accepted : world.oracle.Accepted oraclePubkey nonce oracle)
    (heard : after.oracle = oracle) : world.toEscrow.Reported call.report after := by
  rw [submits]
  refine ⟨nofun, fun _ _ same => ?_⟩
  cases same
  rw [heard]
  exact ⟨accepted.fresh, accepted.nonces⟩

theorem of_slash {payload : OraclePayload} {lease : LeaseInstance}
    (slashed : world.toEscrow.Slashed env payload lease after) :
    Effect env (.executeDepositSlash payload) world after := by
  obtain ⟨oracle, accepted, _, rfl⟩ := slashed.effect
  refine ⟨.changed slashed.found (.slashed rfl slashed.ended slashed.unsettled slashed.range.2)
    ⟨rfl, rfl⟩, ?_,
    of_accepted rfl accepted rfl⟩
  exact ⟨accepted.calm, fun quiet => ⟨quiet.unpaused, quiet.unasked⟩, rfl, rfl⟩

theorem of_report {oraclePubkey : BytesN 32} {nonce : U64} (aside : call.subject env = none)
    (submits : call.report = some (oraclePubkey, nonce))
    (heard : ∃ oracle, world.oracle.Accepted oraclePubkey nonce oracle ∧
      after = world.toEscrow.withOracle oracle) : Effect env call world after := by
  obtain ⟨oracle, accepted, rfl⟩ := heard
  exact ⟨.still aside rfl rfl, ⟨accepted.calm, id, rfl, rfl⟩,
    of_accepted submits accepted rfl⟩

theorem of_resume {requestId : U64} (aside : call.subject env = none)
    (silent : call.report = none)
    (resumed : world.velocity.daoApprovalRequest requestId ≠ none ∧
      ∃ velocity, after = world.toEscrow.withVelocity velocity) :
    Effect env call world after := by
  obtain ⟨asked, velocity, rfl⟩ := resumed
  refine ⟨.still aside rfl rfl, ⟨id, fun quiet => ?_, rfl, rfl⟩, .of_same silent rfl⟩
  exact absurd (quiet.unasked requestId) asked

end Effect

/-! ## Refinement -/

/-- A rent payment either archives the lease at its buyout price or amends it. -/
theorem payLeaseInstanceRent_effect {env : Env} {world after : World} {leaseId : LeaseId}
    {payer : Address} {paymentAmount : I128} {result : Unit}
    (run : Commits (payLeaseInstanceRent env leaseId payer paymentAmount) world result after) :
    Effect env (.payLeaseInstanceRent leaseId payer paymentAmount) world after.toEscrow := by
  obtain ⟨lease, found, outcome⟩ := payLeaseInstanceRent_commits run
  split at outcome
  · next reached =>
      obtain ⟨price, priced, enough⟩ := reached
      exact .of_replaced rfl found (.boughtOut priced enough) outcome
  · exact .of_amended rfl rfl outcome

/-- Every committed call is a step of the abstract machine. -/
theorem dispatch_effect {env : Env} {call : Call} {world after : World}
    (run : Commits (dispatch env call) world () after) :
    Effect env call world after.toEscrow := by
  cases call with
  | createLeaseInstance leaseId landlord params =>
      obtain ⟨fresh, stored⟩ := createLeaseInstance_commits run
      exact .of_opening rfl (.proposed fresh) stored
  | createLeaseWithContinuousBilling params =>
      obtain ⟨id, created⟩ := (commits_dropResult _ _).mp run
      exact .of_opening rfl .billed
        (createLeaseWithContinuousBilling_commits created ▸ Escrow.Retracked.refl _)
  | setLeaseInstanceBuyoutPrice leaseId landlord buyoutPrice =>
      exact .of_amended rfl rfl (setLeaseInstanceBuyoutPrice_commits run)
  | payLeaseInstanceRent leaseId payer paymentAmount => exact payLeaseInstanceRent_effect run
  | setWithdrawalAddress leaseId withdrawalAddress =>
      exact .of_amended rfl rfl (setWithdrawalAddress_commits run)
  | withdrawRent leaseId => exact .of_amended rfl rfl (withdrawRent_commits run)
  | setInspector leaseId landlord inspector =>
      exact .of_amended rfl rfl (setInspector_commits run)
  | reportMaintenanceIssue leaseId tenant =>
      exact .of_amended rfl rfl (reportMaintenanceIssue_commits run)
  | submitRepairProof leaseId landlord proofHash =>
      exact .of_amended rfl rfl (submitRepairProof_commits run)
  | verifyRepair leaseId inspector => exact .of_amended rfl rfl (verifyRepair_commits run)
  | checkTenantDefault leaseId =>
      obtain ⟨debt, checked⟩ := (commits_dropResult _ _).mp run
      exact .of_amended rfl rfl (checkTenantDefault_commits checked)
  | setLessorReferenceId leaseId landlord referenceId =>
      exact .of_amended rfl rfl (setLessorReferenceId_commits run)
  | settleDeposit leaseId caller =>
      obtain ⟨lease, found, moved⟩ := settleDeposit_commits run
      exact .of_replaced rfl found .settled moved
  | concludeLease leaseId landlord damageDeduction =>
      obtain ⟨refund, concluded⟩ := (commits_dropResult _ _).mp run
      obtain ⟨lease, found, moved⟩ := concludeLease_commits concluded
      exact .of_replaced rfl found .concluded moved
  | resolveDispute leaseId arbitrator damageDeduction =>
      obtain ⟨refund, resolved⟩ := (commits_dropResult _ _).mp run
      obtain ⟨lease, found, moved⟩ := resolveDispute_commits resolved
      exact .of_replaced rfl found .resolved moved
  | disputeDeposit leaseId caller =>
      obtain ⟨lease, found, moved⟩ := disputeDeposit_commits run
      exact .of_replaced rfl found .disputed moved
  | mutualDepositRelease leaseId lesseePubkey lessorPubkey returnAmount slashAmount =>
      obtain ⟨lease, found, running, split, returned, slashed, moved⟩ :=
        mutualDepositRelease_commits run
      exact .of_replaced rfl found (.released running split returned slashed) moved
  | initMutualReleaseFb leaseId initiatorPubkey proposedReturnAmount proposedSlashAmount =>
      obtain ⟨lease, found, running, moved⟩ := initMutualReleaseFb_commits run
      exact .of_replaced rfl found (.fallbackDisputed running) moved
  | reclaim leaseId caller =>
      obtain ⟨lease, found, empty, moved⟩ := reclaim_commits run
      exact .of_replaced rfl found (.reclaimed empty) moved
  | terminateLease leaseId caller =>
      obtain ⟨lease, found, closed, moved⟩ := terminateLease_commits run
      exact .of_replaced rfl found (.terminated closed) moved
  | executeEarlyTermination leaseId caller =>
      obtain ⟨lease, found, running, _, timely, moved⟩ := executeEarlyTermination_commits run
      exact .of_change rfl found (.endedEarly running timely) moved
  | sweepExpiredProposals relayer leaseId =>
      obtain ⟨lease, found, pending, moved⟩ := sweepExpiredProposals_commits run
      exact .of_replaced rfl found (.swept pending) moved
  | whitelistOracle admin oraclePubkey =>
      exact .of_administered rfl rfl (whitelistOracle_commits run)
  | removeOracle admin oraclePubkey =>
      exact .of_administered rfl rfl (removeOracle_commits run)
  | setFallbackHierarchy admin primaryOracle backupOracle daoArbitrationEnabled =>
      exact .of_administered rfl rfl (setFallbackHierarchy_commits run)
  | resetOracleStatus admin oraclePubkey =>
      exact .of_administered rfl rfl (resetOracleStatus_commits run)
  | executeDepositSlash payload =>
      obtain ⟨lease, slashed⟩ := executeDepositSlash_commits run
      exact .of_slash slashed
  | updateAssetConditionMetadata payload assetRegistryAddress =>
      exact .of_report rfl rfl (updateAssetConditionMetadata_commits run).1
  | daoApproveResume daoMember lessor requestId =>
      exact .of_resume rfl rfl (daoApproveResume_commits run)
  | deployEscrowToYield leaseId yieldProtocol deployAmount maxSlippageBps =>
      exact .of_securityMoved rfl (fun _ => .deployed) (deployEscrowToYield_commits run)
  | withdrawFromYield leaseId maxSlippageBps =>
      exact .of_securityMoved rfl (fun _ => .withdrawn) (withdrawFromYield_commits run)
  | _ => exact .of_outside rfl rfl run (by simp)

/-- Nothing that only an error path sets is set. -/
structure World.Safe (world : World) : Prop where
  calm : world.oracle.Calm
  quiet : world.velocity.Quiet
  unqueued : ∀ leaseId, world.pendingSlash leaseId = none

/-- The safeguards hold of every reachable store. -/
theorem Reachable.safeguards {world : World} (reached : Reachable world) : world.Safe := by
  have initially (config : ConfigStore) (billing : BillingStore)
      (securityCouncil : Option SecurityCouncil) :
      (World.genesis config billing securityCouncil).Safe :=
    ⟨⟨fun _ _ found => (by cases found), fun _ found => (by cases found)⟩,
      ⟨fun _ => rfl, fun _ => rfl⟩, fun _ => rfl⟩
  refine reached.invariant initially ?_
  rintro invocation before after run ⟨calm, quiet, empty⟩
  have kept := (dispatch_effect run).safeguarded
  refine ⟨kept.calm calm, kept.quiet quiet, fun leaseId => ?_⟩
  exact (congrFun kept.pendingSlash leaseId).trans (empty leaseId)

end LeaseFlow
