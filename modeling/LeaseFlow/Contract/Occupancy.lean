import LeaseFlow.Contract.Administration

/-!
# Running a lease

Rent, maintenance, late fees and the other operations that amend a stored
`LeaseInstance` without touching its deposit.  Each is summarised by `Amended`;
a rent payment that reaches the buyout price archives the lease instead.
-/

set_option autoImplicit false

namespace LeaseFlow

open Transaction

def updateRent (change : RentStore → RentStore) : Contract Unit :=
  modify fun world => { world with rent := change world.rent }

/-! ## Rent -/

def setLeaseInstanceBuyoutPrice (env : Env) (leaseId : LeaseId) (landlord : Address)
    (buyoutPrice : I128) : Contract Unit := do
  let lease ← loadLeaseInstanceById leaseId
  require (lease.landlord = landlord) .unauthorised
  requireAuth env landlord
  saveLeaseInstance leaseId { lease with buyoutPrice := some buyoutPrice }

/-- The payments of a lease have reached its buyout price. -/
def LeaseInstance.boughtOut (lease : LeaseInstance) : Bool :=
  match lease.buyoutPrice with
  | some price => decide (price ≤ lease.cumulativePayments)
  | none => false

def creditPayer (leaseId : LeaseId) (payer : Address) (paymentAmount : I128) : Contract Unit := do
  let stored ← inspect fun world => world.rent.roommateBalance (leaseId, payer)
  let balance ← checkedI128 (stored.getD 0 + paymentAmount)
  updateRent fun rent => { rent with
    roommateBalance := Function.update rent.roommateBalance (leaseId, payer) (some balance) }

/-- What a payment does between its checks and the write of the record. -/
def collectRent (env : Env) (leaseId : LeaseId) (lease : LeaseInstance) (payer : Address)
    (paymentAmount : I128) : Contract Unit := do
  transfer env ⟨lease.paymentToken, payer, env.currentContractAddress, paymentAmount⟩
  creditPayer leaseId payer paymentAmount
  publish (.rentPaidPartial leaseId payer paymentAmount)
  publish (.rentPaymentExecuted leaseId payer paymentAmount env.timestamp lease.lessorReferenceId)

def completeBuyout (env : Env) (leaseId : LeaseId) (lease : LeaseInstance) : Contract Unit := do
  let closed := { lease with flags := lease.flags.clear .active, status := .terminated }
  sendLeaseNft env closed.nftContract closed.tokenId closed.tenant
  archiveLease env leaseId closed env.currentContractAddress

/-- Store the lease a payment was counted on, or archive it once it is bought out. -/
def storePaidInstance (env : Env) (leaseId : LeaseId) (lease : LeaseInstance) : Contract Unit :=
  if lease.boughtOut = true then completeBuyout env leaseId lease
  else saveLeaseInstance leaseId lease

def payLeaseInstanceRent (env : Env) (leaseId : LeaseId) (payer : Address)
    (paymentAmount : I128) : Contract Unit := do
  requireAuth env payer
  let stored ← loadLeaseInstanceById leaseId
  demand (stored.flags.has .active = true) "Lease is not active"
  let isAuthorized ← inspect fun world => world.rent.authorizedPayer (leaseId, payer)
  require (payer = stored.tenant ∨ isAuthorized = true) .unauthorised
  transfer env ⟨stored.paymentToken, payer, env.currentContractAddress, paymentAmount⟩
  creditPayer leaseId payer paymentAmount
  let cumulativePayments ← checkedI128 (stored.cumulativePayments + paymentAmount)
  let rentPaid ← checkedI128 (stored.rentPaid + paymentAmount)
  publish (.rentPaidPartial leaseId payer paymentAmount)
  publish (.rentPaymentExecuted leaseId payer paymentAmount env.timestamp stored.lessorReferenceId)
  storePaidInstance env leaseId
    { stored with cumulativePayments := cumulativePayments, rentPaid := rentPaid }

def setWithdrawalAddress (env : Env) (leaseId : LeaseId) (withdrawalAddress : Address) :
    Contract Unit := do
  let lease ← loadLeaseInstanceById leaseId
  requireAuth env lease.landlord
  saveLeaseInstance leaseId { lease with withdrawalAddress := some withdrawalAddress }

/-- Marks the rent as withdrawn; no tokens move. -/
def withdrawRent (env : Env) (leaseId : LeaseId) : Contract Unit := do
  let lease ← loadLeaseInstanceById leaseId
  requireAuth env lease.landlord
  let _withdrawalAddress ← okOr lease.withdrawalAddress .withdrawalAddressNotSet
  let withdrawableAmount ← checkedI128 (lease.rentPaid - lease.rentWithdrawn)
  let rentWithdrawn ← checkedI128 (lease.rentWithdrawn + withdrawableAmount)
  saveLeaseInstance leaseId { lease with rentWithdrawn := rentWithdrawn }

def addAuthorizedPayer (env : Env) (leaseId : LeaseId) (landlord roommate : Address) :
    Contract Unit := do
  let lease ← loadLeaseInstanceById leaseId
  require (lease.landlord = landlord) .unauthorised
  requireAuth env landlord
  updateRent fun rent => { rent with
    authorizedPayer := Function.update rent.authorizedPayer (leaseId, roommate) true }
  publish (.roommateAdded leaseId roommate)

/-! ## Maintenance -/

def setInspector (env : Env) (leaseId : LeaseId) (landlord inspector : Address) :
    Contract Unit := do
  let lease ← loadLeaseInstanceById leaseId
  require (lease.landlord = landlord) .unauthorised
  requireAuth env landlord
  saveLeaseInstance leaseId { lease with inspector := some inspector }

def reportMaintenanceIssue (env : Env) (leaseId : LeaseId) (tenant : Address) :
    Contract Unit := do
  let lease ← loadLeaseInstanceById leaseId
  require (lease.tenant = tenant) .unauthorised
  requireAuth env tenant
  saveLeaseInstance leaseId { lease with maintenanceStatus := .reported }
  publish (.maintenanceIssueReported leaseId tenant)

def submitRepairProof (env : Env) (leaseId : LeaseId) (landlord : Address)
    (proofHash : BytesN 32) : Contract Unit := do
  let lease ← loadLeaseInstanceById leaseId
  require (lease.landlord = landlord) .unauthorised
  requireAuth env landlord
  demand (lease.maintenanceStatus = .reported) "No issue reported"
  saveLeaseInstance leaseId { lease with
    maintenanceStatus := .fixed
    repairProofHash := some proofHash }
  publish (.repairProofSubmitted leaseId landlord proofHash)

def verifyRepair (env : Env) (leaseId : LeaseId) (inspector : Address) : Contract Unit := do
  let lease ← loadLeaseInstanceById leaseId
  require (lease.inspector = some inspector) .unauthorised
  requireAuth env inspector
  demand (lease.maintenanceStatus = .fixed) "Repair not marked as fixed"
  let released := lease.withheldRent
  let cumulativePayments ← checkedI128 (lease.cumulativePayments + released)
  let rentPaid ← checkedI128 (lease.rentPaid + released)
  saveLeaseInstance leaseId { lease with
    cumulativePayments := cumulativePayments
    rentPaid := rentPaid
    withheldRent := 0
    maintenanceStatus := .verified }
  publish (.maintenanceVerified leaseId inspector released)

/-! ## Tenant default -/

def applyFlatFee (lease : LeaseInstance) : Contract LeaseInstance :=
  if lease.flags.has .flatFeeApplied = false then do
    let debt ← checkedI128 (lease.debt + lease.lateFeeFlat)
    pure { lease with debt := debt, flags := lease.flags.raise .flatFeeApplied }
  else
    pure lease

def chargeLateSeconds (secondsLate : U64) (lease : LeaseInstance) : Contract LeaseInstance :=
  if lease.secondsLateCharged < secondsLate then do
    let newlyAccrued := secondsLate - lease.secondsLateCharged
    let charge ← checkedI128 (newlyAccrued * lease.lateFeePerSec)
    let debt ← checkedI128 (lease.debt + charge)
    pure { lease with debt := debt, secondsLateCharged := secondsLate }
  else
    pure lease

def accrueLateFees (env : Env) (leaseId : LeaseId) (lease : LeaseInstance) :
    Contract LeaseInstance :=
  if lease.gracePeriodEnd < env.timestamp then do
    let secondsLate := env.timestamp - lease.gracePeriodEnd
    let flat ← applyFlatFee lease
    let charged ← chargeLateSeconds secondsLate flat
    publish (.paymentLate leaseId (secondsLate / 86400) charged.debt)
    pure charged
  else
    pure lease

def unpaidRent (env : Env) (lease : LeaseInstance) : I128 :=
  let elapsedSecs := env.timestamp - lease.startDate
  let expectedRent := saturatingI128 (elapsedSecs * lease.rentPerSec)
  max (saturatingI128 (expectedRent - lease.rentPaid)) 0

/-- Two months of unpaid rent make the tenant eligible for eviction. -/
def flagEviction (leaseId : LeaseId) (lease : LeaseInstance) (totalDebt : I128) : Contract Unit :=
  if saturatingI128 (lease.rentAmount * 2) ≤ totalDebt then
    publish (.evictionEligible leaseId lease.tenant totalDebt)
  else
    pure ()

def checkTenantDefault (env : Env) (leaseId : LeaseId) : Contract I128 := do
  let stored ← loadLeaseInstanceById leaseId
  let lease ← accrueLateFees env leaseId stored
  let totalDebt ← checkedI128 (unpaidRent env stored + lease.debt)
  flagEviction leaseId lease totalDebt
  saveLeaseInstance leaseId lease
  pure totalDebt

/-! ## References and reclaims -/

/-- Printable ASCII only. -/
def isSanitised (referenceId : String) : Bool :=
  referenceId.toUTF8.toList.all fun byte => 0x20 ≤ byte && byte ≤ 0x7e

def setLessorReferenceId (env : Env) (leaseId : LeaseId) (landlord : Address)
    (referenceId : String) : Contract Unit := do
  let lease ← loadLeaseInstanceById leaseId
  require (lease.landlord = landlord) .unauthorised
  requireAuth env landlord
  require (isSanitised referenceId = true) .invalidParameters
  saveLeaseInstance leaseId { lease with lessorReferenceId := some referenceId }

def reclaimAsset (env : Env) (leaseId : LeaseId) (caller : Address) (reason : String) :
    Contract Unit := do
  let lease ← loadLeaseInstanceById leaseId
  require (caller = lease.landlord ∨ caller = lease.tenant) .unauthorised
  requireAuth env caller
  publish (.assetReclaimed leaseId reason)

/-! ## Terms of a record -/

/-- The part of a record that decides about its deposit. -/
structure LeaseInstance.SameTerms (before after : LeaseInstance) : Prop where
  landlord : after.landlord = before.landlord
  tenant : after.tenant = before.tenant
  paymentToken : after.paymentToken = before.paymentToken
  securityDeposit : after.securityDeposit = before.securityDeposit
  depositAmount : after.depositAmount = before.depositAmount
  status : after.status = before.status
  depositStatus : after.depositStatus = before.depositStatus
  active : after.flags.has .active = before.flags.has .active
  earlyTerminationFeeBps : after.earlyTerminationFeeBps = before.earlyTerminationFeeBps
  fixedPenalty : after.fixedPenalty = before.fixedPenalty

/-- The fields `SameTerms` compares. -/
def LeaseInstance.terms (lease : LeaseInstance) :=
  (lease.landlord, lease.tenant, lease.paymentToken, lease.securityDeposit, lease.depositAmount,
    lease.status, lease.depositStatus, lease.flags.has .active, lease.earlyTerminationFeeBps,
    lease.fixedPenalty)

theorem LeaseInstance.SameTerms.of_terms {before after : LeaseInstance}
    (same : after.terms = before.terms) : before.SameTerms after := by
  simp only [LeaseInstance.terms, Prod.mk.injEq] at same
  obtain ⟨landlord, tenant, token, security, amount, status, deposit, active, fee, penalty⟩ := same
  exact ⟨landlord, tenant, token, security, amount, status, deposit, active, fee, penalty⟩

theorem LeaseInstance.SameTerms.totalDeposit {before after : LeaseInstance}
    (same : before.SameTerms after) : after.totalDeposit = before.totalDeposit := by
  rw [LeaseInstance.totalDeposit, LeaseInstance.totalDeposit, same.securityDeposit,
    same.depositAmount]

theorem LeaseInstance.SameTerms.trans {first second third : LeaseInstance}
    (one : first.SameTerms second) (two : second.SameTerms third) : first.SameTerms third where
  landlord := two.landlord.trans one.landlord
  tenant := two.tenant.trans one.tenant
  paymentToken := two.paymentToken.trans one.paymentToken
  securityDeposit := two.securityDeposit.trans one.securityDeposit
  depositAmount := two.depositAmount.trans one.depositAmount
  status := two.status.trans one.status
  depositStatus := two.depositStatus.trans one.depositStatus
  active := two.active.trans one.active
  earlyTerminationFeeBps := two.earlyTerminationFeeBps.trans one.earlyTerminationFeeBps
  fixedPenalty := two.fixedPenalty.trans one.fixedPenalty

/-! ## Footprints -/

section Footprints

variable {parts : List Part} {env : Env} {leaseId : LeaseId}

@[simp] theorem writes_setLeaseInstanceBuyoutPrice (may : .leases ∈ parts) (landlord : Address)
    (buyoutPrice : I128) :
    Writes parts (setLeaseInstanceBuyoutPrice env leaseId landlord buyoutPrice) := by
  unfold setLeaseInstanceBuyoutPrice
  repeat refine writes_bind (by simp) fun _ => ?_
  simp [may]

@[simp] theorem writes_creditPayer (may : .roommateBalances ∈ parts) (payer : Address)
    (paymentAmount : I128) : Writes parts (creditPayer leaseId payer paymentAmount) := by
  unfold creditPayer
  repeat refine writes_bind (by simp) fun _ => ?_
  refine writes_modify fun state part aside => ?_
  cases part <;> first | rfl | exact absurd may aside

@[simp] theorem writes_collectRent (may : [.payments, .roommateBalances, .events] ⊆ parts)
    (leaseId : LeaseId) (lease : LeaseInstance) (payer : Address) (paymentAmount : I128) :
    Writes parts (collectRent env leaseId lease payer paymentAmount) := by
  refine Writes.mono ?_ may
  iterate 3 refine writes_bind (by simp) fun _ => ?_
  exact writes_publish (by simp) _

@[simp] theorem writes_storePaidInstance (may : [.leases, .history, .nftTransfers] ⊆ parts)
    (lease : LeaseInstance) : Writes parts (storePaidInstance env leaseId lease) := by
  refine Writes.mono (writes_ite _ ?_ (by simp)) may
  unfold completeBuyout
  exact writes_bind (by simp) fun _ => by simp

@[simp] theorem writes_payLeaseInstanceRent
    (may : [.leases, .history, .roommateBalances, .payments, .nftTransfers, .events] ⊆ parts)
    (payer : Address) (paymentAmount : I128) :
    Writes parts (payLeaseInstanceRent env leaseId payer paymentAmount) := by
  refine Writes.mono ?_ may
  unfold payLeaseInstanceRent
  repeat refine writes_bind (by simp) fun _ => ?_
  simp

@[simp] theorem writes_setWithdrawalAddress (may : .leases ∈ parts)
    (withdrawalAddress : Address) :
    Writes parts (setWithdrawalAddress env leaseId withdrawalAddress) := by
  unfold setWithdrawalAddress
  repeat refine writes_bind (by simp) fun _ => ?_
  simp [may]

@[simp] theorem writes_withdrawRent (may : .leases ∈ parts) :
    Writes parts (withdrawRent env leaseId) := by
  unfold withdrawRent
  repeat refine writes_bind (by simp) fun _ => ?_
  simp [may]

@[simp] theorem writes_addAuthorizedPayer (may : [.authorizedPayers, .events] ⊆ parts)
    (landlord roommate : Address) :
    Writes parts (addAuthorizedPayer env leaseId landlord roommate) := by
  refine Writes.mono ?_ may
  unfold addAuthorizedPayer
  iterate 3 refine writes_bind (by simp) fun _ => ?_
  refine writes_bind (writes_modify fun state part aside => ?_) fun _ => by simp
  cases part <;> first | rfl | exact absurd (by simp) aside

@[simp] theorem writes_setInspector (may : .leases ∈ parts) (landlord inspector : Address) :
    Writes parts (setInspector env leaseId landlord inspector) := by
  unfold setInspector
  repeat refine writes_bind (by simp) fun _ => ?_
  simp [may]

@[simp] theorem writes_reportMaintenanceIssue (may : [.leases, .events] ⊆ parts)
    (tenant : Address) : Writes parts (reportMaintenanceIssue env leaseId tenant) := by
  refine Writes.mono ?_ may
  unfold reportMaintenanceIssue
  repeat refine writes_bind (by simp) fun _ => ?_
  simp

@[simp] theorem writes_submitRepairProof (may : [.leases, .events] ⊆ parts) (landlord : Address)
    (proofHash : BytesN 32) :
    Writes parts (submitRepairProof env leaseId landlord proofHash) := by
  refine Writes.mono ?_ may
  unfold submitRepairProof
  repeat refine writes_bind (by simp) fun _ => ?_
  simp

@[simp] theorem writes_verifyRepair (may : [.leases, .events] ⊆ parts) (inspector : Address) :
    Writes parts (verifyRepair env leaseId inspector) := by
  refine Writes.mono ?_ may
  unfold verifyRepair
  repeat refine writes_bind (by simp) fun _ => ?_
  simp

@[simp] theorem writes_accrueLateFees (may : .events ∈ parts) (lease : LeaseInstance) :
    Writes parts (accrueLateFees env leaseId lease) := by
  have flat : Writes parts (applyFlatFee lease) :=
    writes_ite _ (writes_bind (by simp) fun _ => by simp) (by simp)
  have late (charged : LeaseInstance) :
      Writes parts (chargeLateSeconds (env.timestamp - lease.gracePeriodEnd) charged) :=
    writes_ite _ (writes_bind (by simp) fun _ => writes_bind (by simp) fun _ => by simp) (by simp)
  refine writes_ite _ (writes_bind flat fun charged => writes_bind (late charged) fun _ => ?_)
    (by simp)
  exact writes_bind (by simp [may]) fun _ => by simp

@[simp] theorem writes_flagEviction (may : .events ∈ parts) (lease : LeaseInstance)
    (totalDebt : I128) : Writes parts (flagEviction leaseId lease totalDebt) := by
  simp [flagEviction, may]

@[simp] theorem writes_checkTenantDefault (may : [.leases, .events] ⊆ parts) :
    Writes parts (checkTenantDefault env leaseId) := by
  refine Writes.mono ?_ may
  unfold checkTenantDefault
  repeat refine writes_bind (by simp) fun _ => ?_
  simp

@[simp] theorem writes_setLessorReferenceId (may : .leases ∈ parts) (landlord : Address)
    (referenceId : String) :
    Writes parts (setLessorReferenceId env leaseId landlord referenceId) := by
  unfold setLessorReferenceId
  repeat refine writes_bind (by simp) fun _ => ?_
  simp [may]

@[simp] theorem writes_reclaimAsset (may : .events ∈ parts) (caller : Address)
    (reason : String) : Writes parts (reclaimAsset env leaseId caller reason) := by
  unfold reclaimAsset
  repeat refine writes_bind (by simp) fun _ => ?_
  simp [may]

end Footprints

/-! ## Effect on the escrow -/

/-- One record was replaced by one with the same terms. -/
def Escrow.Amended (leaseId : LeaseId) (before after : Escrow) : Prop :=
  ∃ lease amended, before.leases.lookup leaseId = some lease ∧ lease.SameTerms amended ∧
    after = before.store leaseId (some amended)

theorem Escrow.Amended.of_save {leaseId : LeaseId} {before after : Escrow}
    {lease amended : LeaseInstance} (found : before.leases.lookup leaseId = some lease)
    (saved : after = before.store leaseId (some amended))
    (terms : lease.SameTerms amended) : before.Amended leaseId after :=
  ⟨lease, amended, found, terms, saved⟩

section Occupancy

variable {world after : World} {env : Env} {leaseId : LeaseId}

theorem setLeaseInstanceBuyoutPrice_commits {landlord : Address} {buyoutPrice : I128}
    {result : Unit}
    (run : Commits (setLeaseInstanceBuyoutPrice env leaseId landlord buyoutPrice) world result
      after) : world.toEscrow.Amended leaseId after.toEscrow := by
  simp only [setLeaseInstanceBuyoutPrice, commits_bind, commits_loadLeaseInstanceById,
    commits_require, commits_requireAuth, commits_saveLeaseInstance] at run
  obtain ⟨lease, _, ⟨found, rfl⟩, _, _, ⟨_, rfl⟩, _, _, ⟨_, rfl⟩, rfl⟩ := run
  exact .of_save found rfl (.of_terms rfl)

theorem setWithdrawalAddress_commits {withdrawalAddress : Address} {result : Unit}
    (run : Commits (setWithdrawalAddress env leaseId withdrawalAddress) world result after) :
    world.toEscrow.Amended leaseId after.toEscrow := by
  simp only [setWithdrawalAddress, commits_bind, commits_loadLeaseInstanceById,
    commits_requireAuth, commits_saveLeaseInstance] at run
  obtain ⟨lease, _, ⟨found, rfl⟩, _, _, ⟨_, rfl⟩, rfl⟩ := run
  exact .of_save found rfl (.of_terms rfl)

theorem withdrawRent_commits {result : Unit}
    (run : Commits (withdrawRent env leaseId) world result after) :
    world.toEscrow.Amended leaseId after.toEscrow := by
  simp only [withdrawRent, commits_bind, commits_loadLeaseInstanceById, commits_requireAuth,
    commits_okOr, commits_checkedI128, commits_saveLeaseInstance] at run
  obtain ⟨lease, _, ⟨found, rfl⟩, _, _, ⟨_, rfl⟩, _, _, ⟨_, rfl⟩, _, _, ⟨_, _, rfl⟩, _, _,
    ⟨_, _, rfl⟩, rfl⟩ := run
  exact .of_save found rfl (.of_terms rfl)

theorem setInspector_commits {landlord inspector : Address} {result : Unit}
    (run : Commits (setInspector env leaseId landlord inspector) world result after) :
    world.toEscrow.Amended leaseId after.toEscrow := by
  simp only [setInspector, commits_bind, commits_loadLeaseInstanceById, commits_require,
    commits_requireAuth, commits_saveLeaseInstance] at run
  obtain ⟨lease, _, ⟨found, rfl⟩, _, _, ⟨_, rfl⟩, _, _, ⟨_, rfl⟩, rfl⟩ := run
  exact .of_save found rfl (.of_terms rfl)

theorem setLessorReferenceId_commits {landlord : Address} {referenceId : String} {result : Unit}
    (run : Commits (setLessorReferenceId env leaseId landlord referenceId) world result after) :
    world.toEscrow.Amended leaseId after.toEscrow := by
  simp only [setLessorReferenceId, commits_bind, commits_loadLeaseInstanceById, commits_require,
    commits_requireAuth, commits_saveLeaseInstance] at run
  obtain ⟨lease, _, ⟨found, rfl⟩, _, _, ⟨_, rfl⟩, _, _, ⟨_, rfl⟩, _, _, ⟨_, rfl⟩, rfl⟩ := run
  exact .of_save found rfl (.of_terms rfl)

theorem reportMaintenanceIssue_commits {tenant : Address} {result : Unit}
    (run : Commits (reportMaintenanceIssue env leaseId tenant) world result after) :
    world.toEscrow.Amended leaseId after.toEscrow := by
  simp only [reportMaintenanceIssue, commits_bind, commits_loadLeaseInstanceById,
    commits_require, commits_requireAuth, commits_saveLeaseInstance] at run
  obtain ⟨lease, _, ⟨found, rfl⟩, _, _, ⟨_, rfl⟩, _, _, ⟨_, rfl⟩, _, _, rfl, published⟩ := run
  exact .of_save found (escrow_kept published (by simp)) (.of_terms rfl)

theorem submitRepairProof_commits {landlord : Address} {proofHash : BytesN 32} {result : Unit}
    (run : Commits (submitRepairProof env leaseId landlord proofHash) world result after) :
    world.toEscrow.Amended leaseId after.toEscrow := by
  simp only [submitRepairProof, commits_bind, commits_loadLeaseInstanceById, commits_require,
    commits_requireAuth, commits_demand, commits_saveLeaseInstance] at run
  obtain ⟨lease, _, ⟨found, rfl⟩, _, _, ⟨_, rfl⟩, _, _, ⟨_, rfl⟩, _, _, ⟨_, rfl⟩, _, _, rfl,
    published⟩ := run
  exact .of_save found (escrow_kept published (by simp)) (.of_terms rfl)

theorem verifyRepair_commits {inspector : Address} {result : Unit}
    (run : Commits (verifyRepair env leaseId inspector) world result after) :
    world.toEscrow.Amended leaseId after.toEscrow := by
  simp only [verifyRepair, commits_bind, commits_loadLeaseInstanceById, commits_require,
    commits_requireAuth, commits_demand, commits_checkedI128, commits_saveLeaseInstance] at run
  obtain ⟨lease, _, ⟨found, rfl⟩, _, _, ⟨_, rfl⟩, _, _, ⟨_, rfl⟩, _, _, ⟨_, rfl⟩, _, _,
    ⟨_, _, rfl⟩, _, _, ⟨_, _, rfl⟩, _, _, rfl, published⟩ := run
  exact .of_save found (escrow_kept published (by simp)) (.of_terms rfl)

/-! ### Late fees -/

theorem applyFlatFee_commits {lease charged : LeaseInstance}
    (run : Commits (applyFlatFee lease) world charged after) :
    lease.SameTerms charged ∧ after = world := by
  simp only [applyFlatFee, commits_ite, commits_bind, commits_checkedI128, commits_pure] at run
  split at run
  · obtain ⟨_, _, ⟨_, _, rfl⟩, rfl, rfl⟩ := run
    exact ⟨⟨rfl, rfl, rfl, rfl, rfl, rfl, rfl, LeaseFlags.has_raise _ (by decide), rfl, rfl⟩, rfl⟩
  · obtain ⟨rfl, rfl⟩ := run
    exact ⟨.of_terms rfl, rfl⟩

theorem chargeLateSeconds_commits {secondsLate : U64} {lease charged : LeaseInstance}
    (run : Commits (chargeLateSeconds secondsLate lease) world charged after) :
    lease.SameTerms charged ∧ after = world := by
  simp only [chargeLateSeconds, commits_ite, commits_bind, commits_checkedI128,
    commits_pure] at run
  split at run
  · obtain ⟨_, _, ⟨_, _, rfl⟩, _, _, ⟨_, _, rfl⟩, rfl, rfl⟩ := run
    exact ⟨.of_terms rfl, rfl⟩
  · obtain ⟨rfl, rfl⟩ := run
    exact ⟨.of_terms rfl, rfl⟩

theorem accrueLateFees_commits {lease charged : LeaseInstance}
    (run : Commits (accrueLateFees env leaseId lease) world charged after) :
    lease.SameTerms charged ∧ after.toEscrow = world.toEscrow := by
  simp only [accrueLateFees, commits_ite, commits_bind, commits_pure] at run
  split at run
  · obtain ⟨flat, _, flatRun, _, _, lateRun, _, _, published, rfl, rfl⟩ := run
    obtain ⟨flatTerms, rfl⟩ := applyFlatFee_commits flatRun
    obtain ⟨lateTerms, rfl⟩ := chargeLateSeconds_commits lateRun
    exact ⟨flatTerms.trans lateTerms, escrow_kept published (by simp)⟩
  · obtain ⟨rfl, rfl⟩ := run
    exact ⟨.of_terms rfl, rfl⟩

theorem checkTenantDefault_commits {result : I128}
    (run : Commits (checkTenantDefault env leaseId) world result after) :
    world.toEscrow.Amended leaseId after.toEscrow := by
  simp only [checkTenantDefault, commits_bind, commits_loadLeaseInstanceById,
    commits_checkedI128, commits_pure] at run
  obtain ⟨lease, _, ⟨found, rfl⟩, charged, w1, accrued, _, _, ⟨_, rfl, rfl⟩, _, w2, flagged, _,
    w3, saved, _, same⟩ := run
  obtain ⟨terms, kept⟩ := accrueLateFees_commits accrued
  refine .of_save found ?_ terms
  rw [same, saveLeaseInstance_escrow saved, escrow_kept flagged (by simp), kept]

/-! ### Rent payments -/

/-- A payment that goes through is collected, and then counted on the record. -/
theorem payLeaseInstanceRent_steps {payer : Address} {paymentAmount : I128} {result : Unit}
    (run : Commits (payLeaseInstanceRent env leaseId payer paymentAmount) world result after) :
    ∃ lease settled, world.leases.lookup leaseId = some lease ∧
      lease.flags.has .active = true ∧
      Commits (collectRent env leaseId lease payer paymentAmount) world () settled ∧
      Commits (storePaidInstance env leaseId { lease with
        cumulativePayments := lease.cumulativePayments + paymentAmount
        rentPaid := lease.rentPaid + paymentAmount }) settled result after := by
  simp only [payLeaseInstanceRent, commits_bind, commits_requireAuth,
    commits_loadLeaseInstanceById, commits_demand, commits_inspect, commits_require,
    commits_checkedI128] at run
  obtain ⟨_, _, ⟨_, rfl⟩, lease, _, ⟨found, rfl⟩, _, _, ⟨active, rfl⟩, _, _, ⟨_, rfl⟩, _, _,
    ⟨_, rfl⟩, _, _, paid, rest⟩ := run
  obtain ⟨_, _, credited, _, _, ⟨_, rfl, rfl⟩, _, _, ⟨_, rfl, rfl⟩, _, _, partially, _, settled,
    executed, closing⟩ := rest
  refine ⟨lease, settled, found, active, ?_, closing⟩
  simp only [collectRent, commits_bind]
  exact ⟨_, _, paid, _, _, credited, _, _, partially, executed⟩

/-- Rent is accepted for a lease flagged active only. -/
theorem payLeaseInstanceRent_active {payer : Address} {paymentAmount : I128} {result : Unit}
    {lease : LeaseInstance} (found : world.leases.lookup leaseId = some lease)
    (run : Commits (payLeaseInstanceRent env leaseId payer paymentAmount) world result after) :
    lease.flags.has .active = true := by
  obtain ⟨stored, _, loaded, active, _⟩ := payLeaseInstanceRent_steps run
  obtain rfl : lease = stored := Option.some.inj (found.symm.trans loaded)
  exact active

/-- A payment that reaches the buyout price takes the record out of live storage;
any other amends it. -/
theorem payLeaseInstanceRent_commits {payer : Address} {paymentAmount : I128} {result : Unit}
    (run : Commits (payLeaseInstanceRent env leaseId payer paymentAmount) world result after) :
    ∃ lease, world.leases.lookup leaseId = some lease ∧
      if (∃ price, lease.buyoutPrice = some price ∧
          price ≤ lease.cumulativePayments + paymentAmount) then
        after.toEscrow = world.toEscrow.store leaseId none
      else world.toEscrow.Amended leaseId after.toEscrow := by
  obtain ⟨lease, settled, found, _, collected, closing⟩ := payLeaseInstanceRent_steps run
  have kept : settled.toEscrow = world.toEscrow := escrow_kept collected (by simp)
  simp only [storePaidInstance, commits_ite] at closing
  refine ⟨lease, found, ?_⟩
  split at closing
  · next reached =>
      have price : ∃ price, lease.buyoutPrice = some price ∧
          price ≤ lease.cumulativePayments + paymentAmount := by
        cases set : lease.buyoutPrice with
        | none => simp [LeaseInstance.boughtOut, set] at reached
        | some price => exact ⟨price, rfl, by simpa [LeaseInstance.boughtOut, set] using reached⟩
      rw [if_pos price]
      simp only [completeBuyout, commits_bind] at closing
      obtain ⟨_, w5, sent, archived⟩ := closing
      rw [archiveLease_escrow archived, escrow_kept sent (by simp), kept]
  · next short =>
      have price : ¬ ∃ price, lease.buyoutPrice = some price ∧
          price ≤ lease.cumulativePayments + paymentAmount := by
        rintro ⟨price, set, enough⟩
        exact short (by simpa [LeaseInstance.boughtOut, set] using enough)
      rw [if_neg price]
      refine ⟨lease, { lease with
        cumulativePayments := lease.cumulativePayments + paymentAmount
        rentPaid := lease.rentPaid + paymentAmount }, found, .of_terms rfl, ?_⟩
      rw [saveLeaseInstance_escrow closing, kept]

end Occupancy

end LeaseFlow
