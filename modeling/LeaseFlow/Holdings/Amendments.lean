import LeaseFlow.Archive.Removal

/-!
# The records that calls amend

Ten operations amend a stored lease; `Amendment` gives the record each of them leaves.  Three
write its rent books: a payment, a withdrawal and a verified repair.  Every other call that
leaves the record in place leaves its books alone, and no call changes the asset, the dates or
the NFT the record names.
-/

set_option autoImplicit false

namespace LeaseFlow

open Transaction

/-- The rent accounts of a record. -/
structure RentBooks where
  rentPaid : I128
  rentWithdrawn : I128
  withheldRent : I128

def LeaseInstance.rentBooks (lease : LeaseInstance) : RentBooks :=
  ⟨lease.rentPaid, lease.rentWithdrawn, lease.withheldRent⟩

/-- The registry and the asset a record names. -/
def LeaseInstance.asset (lease : LeaseInstance) : Option Address × Option U128 :=
  (lease.assetRegistryAddress, lease.assetId)

/-- The books of a lease after a call that leaves its record in place. -/
def Call.rebook (leaseId : LeaseId) (books : RentBooks) : Call → RentBooks
  | .payLeaseInstanceRent paid _ paymentAmount =>
      if paid = leaseId then { books with rentPaid := books.rentPaid + paymentAmount } else books
  | .withdrawRent withdrawn =>
      if withdrawn = leaseId then { books with rentWithdrawn := books.rentPaid } else books
  | .verifyRepair repaired _ =>
      if repaired = leaseId then
        { books with rentPaid := books.rentPaid + books.withheldRent, withheldRent := 0 }
      else books
  | _ => books

/-- The record of the lease was replaced by one that names the same asset, with its books
rewritten. -/
def World.Rebooks (leaseId : LeaseId) (rewrite : RentBooks → RentBooks) (world after : World) :
    Prop :=
  ∃ lease next, world.leases.lookup leaseId = some lease ∧
    after.leases = world.leases.set leaseId (some next) ∧ next.asset = lease.asset ∧
    next.rentBooks = rewrite lease.rentBooks

/-- Late fees were charged: the debt, the seconds charged and a flag may differ. -/
def LeaseInstance.Charged (lease charged : LeaseInstance) : Prop :=
  charged = { lease with
    debt := charged.debt
    flags := charged.flags
    secondsLateCharged := charged.secondsLateCharged }

/-- The record a call leaves of a lease that it amends. -/
inductive Amendment (leaseId : LeaseId) (lease : LeaseInstance) : Call → LeaseInstance → Prop where
  | priced {landlord : Address} {buyoutPrice : I128} :
      Amendment leaseId lease (.setLeaseInstanceBuyoutPrice leaseId landlord buyoutPrice)
        { lease with buyoutPrice := some buyoutPrice }
  | paid {payer : Address} {paymentAmount : I128} :
      Amendment leaseId lease (.payLeaseInstanceRent leaseId payer paymentAmount)
        (lease.paid paymentAmount)
  | addressed {withdrawalAddress : Address} :
      Amendment leaseId lease (.setWithdrawalAddress leaseId withdrawalAddress)
        { lease with withdrawalAddress := some withdrawalAddress }
  | withdrawn :
      Amendment leaseId lease (.withdrawRent leaseId)
        { lease with rentWithdrawn := lease.rentPaid }
  | inspected {landlord inspector : Address} :
      Amendment leaseId lease (.setInspector leaseId landlord inspector)
        { lease with inspector := some inspector }
  | reported {tenant : Address} :
      Amendment leaseId lease (.reportMaintenanceIssue leaseId tenant)
        { lease with maintenanceStatus := .reported }
  | repaired {landlord : Address} {proofHash : BytesN 32} :
      Amendment leaseId lease (.submitRepairProof leaseId landlord proofHash)
        { lease with maintenanceStatus := .fixed, repairProofHash := some proofHash }
  | verified {inspector : Address} :
      Amendment leaseId lease (.verifyRepair leaseId inspector)
        { lease with
          cumulativePayments := lease.cumulativePayments + lease.withheldRent
          rentPaid := lease.rentPaid + lease.withheldRent
          withheldRent := 0
          maintenanceStatus := .verified }
  | charged {charged : LeaseInstance} (fees : lease.Charged charged) :
      Amendment leaseId lease (.checkTenantDefault leaseId) charged
  | referenced {landlord : Address} {referenceId : String} :
      Amendment leaseId lease (.setLessorReferenceId leaseId landlord referenceId)
        { lease with lessorReferenceId := some referenceId }

/-- The record of the lease was replaced by the one the call leaves. -/
def World.Amends (leaseId : LeaseId) (call : Call) (world after : World) : Prop :=
  ∃ lease next, world.leases.lookup leaseId = some lease ∧
    after.leases = world.leases.set leaseId (some next) ∧ Amendment leaseId lease call next

section Amendments

variable {env : Env} {world after : World} {leaseId : LeaseId} {lease next : LeaseInstance}
  {call : Call}

/-! ## The operations -/

theorem setLeaseInstanceBuyoutPrice_amends {landlord : Address} {buyoutPrice : I128}
    {result : Unit}
    (run : Commits (setLeaseInstanceBuyoutPrice env leaseId landlord buyoutPrice) world result
      after) :
    world.Amends leaseId (.setLeaseInstanceBuyoutPrice leaseId landlord buyoutPrice) after := by
  simp only [setLeaseInstanceBuyoutPrice, commits_bind, commits_loadLeaseInstanceById,
    commits_require, commits_requireAuth, commits_saveLeaseInstance] at run
  obtain ⟨lease, _, ⟨found, rfl⟩, _, _, ⟨_, rfl⟩, _, _, ⟨_, rfl⟩, rfl⟩ := run
  exact ⟨lease, _, found, rfl, .priced⟩

theorem setWithdrawalAddress_amends {withdrawalAddress : Address} {result : Unit}
    (run : Commits (setWithdrawalAddress env leaseId withdrawalAddress) world result after) :
    world.Amends leaseId (.setWithdrawalAddress leaseId withdrawalAddress) after := by
  simp only [setWithdrawalAddress, commits_bind, commits_loadLeaseInstanceById,
    commits_requireAuth, commits_saveLeaseInstance] at run
  obtain ⟨lease, _, ⟨found, rfl⟩, _, _, ⟨_, rfl⟩, rfl⟩ := run
  exact ⟨lease, _, found, rfl, .addressed⟩

theorem setInspector_amends {landlord inspector : Address} {result : Unit}
    (run : Commits (setInspector env leaseId landlord inspector) world result after) :
    world.Amends leaseId (.setInspector leaseId landlord inspector) after := by
  simp only [setInspector, commits_bind, commits_loadLeaseInstanceById, commits_require,
    commits_requireAuth, commits_saveLeaseInstance] at run
  obtain ⟨lease, _, ⟨found, rfl⟩, _, _, ⟨_, rfl⟩, _, _, ⟨_, rfl⟩, rfl⟩ := run
  exact ⟨lease, _, found, rfl, .inspected⟩

theorem setLessorReferenceId_amends {landlord : Address} {referenceId : String} {result : Unit}
    (run : Commits (setLessorReferenceId env leaseId landlord referenceId) world result after) :
    world.Amends leaseId (.setLessorReferenceId leaseId landlord referenceId) after := by
  simp only [setLessorReferenceId, commits_bind, commits_loadLeaseInstanceById, commits_require,
    commits_requireAuth, commits_saveLeaseInstance] at run
  obtain ⟨lease, _, ⟨found, rfl⟩, _, _, ⟨_, rfl⟩, _, _, ⟨_, rfl⟩, _, _, ⟨_, rfl⟩, rfl⟩ := run
  exact ⟨lease, _, found, rfl, .referenced⟩

theorem reportMaintenanceIssue_amends {tenant : Address} {result : Unit}
    (run : Commits (reportMaintenanceIssue env leaseId tenant) world result after) :
    world.Amends leaseId (.reportMaintenanceIssue leaseId tenant) after := by
  simp only [reportMaintenanceIssue, commits_bind, commits_loadLeaseInstanceById,
    commits_require, commits_requireAuth, commits_saveLeaseInstance] at run
  obtain ⟨lease, _, ⟨found, rfl⟩, _, _, ⟨_, rfl⟩, _, _, ⟨_, rfl⟩, _, _, rfl, published⟩ := run
  exact ⟨lease, _, found, part_kept .leases published (by simp), .reported⟩

theorem submitRepairProof_amends {landlord : Address} {proofHash : BytesN 32} {result : Unit}
    (run : Commits (submitRepairProof env leaseId landlord proofHash) world result after) :
    world.Amends leaseId (.submitRepairProof leaseId landlord proofHash) after := by
  simp only [submitRepairProof, commits_bind, commits_loadLeaseInstanceById, commits_require,
    commits_requireAuth, commits_demand, commits_saveLeaseInstance] at run
  obtain ⟨lease, _, ⟨found, rfl⟩, _, _, ⟨_, rfl⟩, _, _, ⟨_, rfl⟩, _, _, ⟨_, rfl⟩, _, _, rfl,
    published⟩ := run
  exact ⟨lease, _, found, part_kept .leases published (by simp), .repaired⟩

theorem withdrawRent_amends {result : Unit}
    (run : Commits (withdrawRent env leaseId) world result after) :
    world.Amends leaseId (.withdrawRent leaseId) after := by
  simp only [withdrawRent, commits_bind, commits_loadLeaseInstanceById, commits_requireAuth,
    commits_okOr, commits_checkedI128, commits_saveLeaseInstance] at run
  obtain ⟨lease, _, ⟨found, rfl⟩, _, _, ⟨_, rfl⟩, _, _, ⟨_, rfl⟩, _, _, ⟨_, rfl, rfl⟩, _, _,
    ⟨_, rfl, rfl⟩, rfl⟩ := run
  have drained : lease.rentWithdrawn + (lease.rentPaid - lease.rentWithdrawn) = lease.rentPaid :=
    add_sub_cancel ..
  refine ⟨lease, { lease with rentWithdrawn := lease.rentPaid }, found, ?_, .withdrawn⟩
  simp only [drained]

theorem verifyRepair_amends {inspector : Address} {result : Unit}
    (run : Commits (verifyRepair env leaseId inspector) world result after) :
    world.Amends leaseId (.verifyRepair leaseId inspector) after := by
  simp only [verifyRepair, commits_bind, commits_loadLeaseInstanceById, commits_require,
    commits_requireAuth, commits_demand, commits_checkedI128, commits_saveLeaseInstance] at run
  obtain ⟨lease, _, ⟨found, rfl⟩, _, _, ⟨_, rfl⟩, _, _, ⟨_, rfl⟩, _, _, ⟨_, rfl⟩, _, _,
    ⟨_, rfl, rfl⟩, _, _, ⟨_, rfl, rfl⟩, _, _, rfl, published⟩ := run
  exact ⟨lease, _, found, part_kept .leases published (by simp), .verified⟩

theorem payLeaseInstanceRent_amends {payer : Address} {paymentAmount : I128} {result : Unit}
    (run : Commits (payLeaseInstanceRent env leaseId payer paymentAmount) world result after)
    (stored : after.leases.lookup leaseId = some next) :
    world.Amends leaseId (.payLeaseInstanceRent leaseId payer paymentAmount) after := by
  have short : ¬ world.boughtOutBy leaseId paymentAmount = true := by
    rw [payLeaseInstanceRent_removes_iff run, stored]
    nofun
  obtain ⟨lease, settled, found, _, collected, closing⟩ := payLeaseInstanceRent_steps run
  have kept : settled.leases = world.leases := part_kept .leases collected (by simp)
  rw [World.boughtOutBy, found, Option.any_some] at short
  change Commits (storePaidInstance env leaseId (lease.paid paymentAmount)) _ _ _ at closing
  rw [storePaidInstance, if_neg short, commits_saveLeaseInstance] at closing
  refine ⟨lease, lease.paid paymentAmount, found, ?_, .paid⟩
  rw [closing, ← kept]

/-! ### Late fees -/

theorem LeaseInstance.Charged.refl (lease : LeaseInstance) : lease.Charged lease :=
  rfl

theorem LeaseInstance.Charged.trans {first second third : LeaseInstance}
    (one : first.Charged second) (two : second.Charged third) : first.Charged third := by
  rw [LeaseInstance.Charged] at one two ⊢
  rw [one] at two
  exact two

theorem applyFlatFee_charges {lease charged : LeaseInstance}
    (run : Commits (applyFlatFee lease) world charged after) : lease.Charged charged := by
  simp only [applyFlatFee, commits_ite, commits_bind, commits_checkedI128, commits_pure] at run
  split at run
  · obtain ⟨_, _, ⟨_, _, rfl⟩, rfl, rfl⟩ := run
    rfl
  · obtain ⟨rfl, rfl⟩ := run
    rfl

theorem chargeLateSeconds_charges {secondsLate : U64} {lease charged : LeaseInstance}
    (run : Commits (chargeLateSeconds secondsLate lease) world charged after) :
    lease.Charged charged := by
  simp only [chargeLateSeconds, commits_ite, commits_bind, commits_checkedI128,
    commits_pure] at run
  split at run
  · obtain ⟨_, _, ⟨_, _, rfl⟩, _, _, ⟨_, _, rfl⟩, rfl, rfl⟩ := run
    rfl
  · obtain ⟨rfl, rfl⟩ := run
    rfl

theorem accrueLateFees_charges {lease charged : LeaseInstance}
    (run : Commits (accrueLateFees env leaseId lease) world charged after) :
    lease.Charged charged := by
  simp only [accrueLateFees, commits_ite, commits_bind, commits_pure] at run
  split at run
  · obtain ⟨flat, _, flatRun, _, _, lateRun, _, _, _, rfl, _⟩ := run
    exact (applyFlatFee_charges flatRun).trans (chargeLateSeconds_charges lateRun)
  · obtain ⟨rfl, rfl⟩ := run
    exact .refl _

theorem checkTenantDefault_amends {result : I128}
    (run : Commits (checkTenantDefault env leaseId) world result after) :
    world.Amends leaseId (.checkTenantDefault leaseId) after := by
  simp only [checkTenantDefault, commits_bind, commits_loadLeaseInstanceById,
    commits_checkedI128, commits_pure, commits_saveLeaseInstance] at run
  obtain ⟨lease, _, ⟨found, rfl⟩, charged, w1, accrued, _, _, ⟨_, rfl, rfl⟩, _, w2, flagged, _,
    _, rfl, _, rfl⟩ := run
  have kept := (part_kept .leases flagged (by simp)).trans (part_kept .leases accrued (by simp))
  exact ⟨lease, charged, found, congrArg (Table.set · leaseId (some charged)) kept,
    .charged (accrueLateFees_charges accrued)⟩

/-! ## Every call -/

theorem dispatch_amends (amends : call.amended = some leaseId)
    (run : Commits (dispatch env call) world () after)
    (stored : after.leases.lookup leaseId = some next) : world.Amends leaseId call after := by
  cases call with
  | setLeaseInstanceBuyoutPrice other landlord buyoutPrice =>
      obtain rfl := Option.some.inj amends
      exact setLeaseInstanceBuyoutPrice_amends run
  | setWithdrawalAddress other withdrawalAddress =>
      obtain rfl := Option.some.inj amends
      exact setWithdrawalAddress_amends run
  | setInspector other landlord inspector =>
      obtain rfl := Option.some.inj amends
      exact setInspector_amends run
  | setLessorReferenceId other landlord referenceId =>
      obtain rfl := Option.some.inj amends
      exact setLessorReferenceId_amends run
  | reportMaintenanceIssue other tenant =>
      obtain rfl := Option.some.inj amends
      exact reportMaintenanceIssue_amends run
  | submitRepairProof other landlord proofHash =>
      obtain rfl := Option.some.inj amends
      exact submitRepairProof_amends run
  | checkTenantDefault other =>
      obtain rfl := Option.some.inj amends
      obtain ⟨debt, checked⟩ := (commits_dropResult _ _).mp run
      exact checkTenantDefault_amends checked
  | withdrawRent other =>
      obtain rfl := Option.some.inj amends
      exact withdrawRent_amends run
  | verifyRepair other inspector =>
      obtain rfl := Option.some.inj amends
      exact verifyRepair_amends run
  | payLeaseInstanceRent other payer paymentAmount =>
      obtain rfl := Option.some.inj amends
      exact payLeaseInstanceRent_amends run stored
  | _ => cases amends

/-- The record a committed call leaves of a lease that was stored before: the same, an amended
one, or what another change makes of it. -/
theorem dispatch_keeps_record (run : Commits (dispatch env call) world () after)
    (keeps : call.creates env ≠ some leaseId) (found : world.leases.lookup leaseId = some lease)
    (stored : after.leases.lookup leaseId = some next) :
    (call.subject env ≠ some leaseId ∧ next = lease) ∨ Amendment leaseId lease call next ∨
      (call.amended = none ∧
        ∃ entries, LeaseChange env world leaseId lease call (some next) entries) := by
  have movement := (dispatch_effect run).movement
  by_cases subject : call.subject env = some leaseId
  · right
    by_cases amends : call.amended = some leaseId
    · left
      obtain ⟨before, amended, held, saved, amendment⟩ := dispatch_amends amends run stored
      obtain rfl := Option.some.inj (found.symm.trans held)
      rw [saved, Table.lookup_set_self] at stored
      obtain rfl := Option.some.inj stored
      exact amendment
    · right
      cases movement with
      | still silent => cases silent.symm.trans subject
      | opened opening =>
          obtain rfl := Option.some.inj (opening.subject.symm.trans subject)
          exact absurd opening.creates keeps
      | changed held change moved =>
          obtain rfl := Option.some.inj (change.subject.symm.trans subject)
          obtain rfl := Option.some.inj (found.symm.trans held)
          rw [moved.lookup_self] at stored
          subst stored
          refine ⟨?_, _, change⟩
          cases change with
          | amended again => exact absurd again amends
          | _ => rfl
  · left
    rw [movement.frame subject] at stored
    exact ⟨subject, (Option.some.inj (found.symm.trans stored)).symm⟩

/-! ## Books -/

theorem Amendment.rebooks (amendment : Amendment leaseId lease call next) :
    next.asset = lease.asset ∧ next.rentBooks = call.rebook leaseId lease.rentBooks := by
  cases amendment with
  | paid | withdrawn | verified =>
      simp only [Call.rebook, if_true]
      exact ⟨rfl, rfl⟩
  | charged fees =>
      rw [fees]
      exact ⟨rfl, rfl⟩
  | _ => exact ⟨rfl, rfl⟩

theorem World.Amends.rebooks (amends : world.Amends leaseId call after) :
    world.Rebooks leaseId (fun books => call.rebook leaseId books) after := by
  obtain ⟨lease, next, found, saved, amendment⟩ := amends
  obtain ⟨asset, books⟩ := amendment.rebooks
  exact ⟨lease, next, found, saved, asset, books⟩

theorem withdrawRent_rebooks {result : Unit}
    (run : Commits (withdrawRent env leaseId) world result after) :
    world.Rebooks leaseId (fun books => { books with rentWithdrawn := books.rentPaid }) after := by
  simpa only [Call.rebook, if_true] using (withdrawRent_amends run).rebooks

theorem verifyRepair_rebooks {inspector : Address} {result : Unit}
    (run : Commits (verifyRepair env leaseId inspector) world result after) :
    world.Rebooks leaseId (fun books =>
      { books with rentPaid := books.rentPaid + books.withheldRent, withheldRent := 0 }) after := by
  simpa only [Call.rebook, if_true] using (verifyRepair_amends run).rebooks

theorem Call.rebook_of_amended_ne (aside : call.amended ≠ some leaseId) (books : RentBooks) :
    call.rebook leaseId books = books := by
  cases call with
  | payLeaseInstanceRent | withdrawRent | verifyRepair =>
      exact if_neg fun same => aside (congrArg some same)
  | _ => rfl

/-- A record that a committed call leaves in place names the same asset, and its books change
as the call rewrites them. -/
theorem dispatch_rebooks (run : Commits (dispatch env call) world () after)
    (keeps : call.creates env ≠ some leaseId) (found : world.leases.lookup leaseId = some lease)
    (stored : after.leases.lookup leaseId = some next) :
    next.asset = lease.asset ∧ next.rentBooks = call.rebook leaseId lease.rentBooks := by
  rcases dispatch_keeps_record run keeps found stored with
    ⟨aside, rfl⟩ | amendment | ⟨still, _, change⟩
  · rw [Call.rebook_of_amended_ne fun amends => aside (Call.subject_of_amended amends)]
    exact ⟨rfl, rfl⟩
  · exact amendment.rebooks
  · rw [Call.rebook_of_amended_ne (by rw [still]; nofun)]
    cases change with
    | amended amends => cases still.symm.trans amends
    | _ => exact ⟨rfl, rfl⟩

theorem Call.rebook_unwithheld {books : RentBooks} (unwithheld : books.withheldRent = 0) :
    (call.rebook leaseId books).withheldRent = 0 := by
  cases call with
  | payLeaseInstanceRent | withdrawRent | verifyRepair =>
      simp only [Call.rebook]
      split
      · first | rfl | exact unwithheld
      · exact unwithheld
  | _ => exact unwithheld

theorem dispatch_unwithheld (run : Commits (dispatch env call) world () after)
    (keeps : call.creates env ≠ some leaseId) (found : world.leases.lookup leaseId = some lease)
    (stored : after.leases.lookup leaseId = some next) (unwithheld : lease.withheldRent = 0) :
    next.withheldRent = 0 := by
  have books := (dispatch_rebooks run keeps found stored).2
  exact (congrArg RentBooks.withheldRent books).trans (Call.rebook_unwithheld unwithheld)

/-! ## Standing fields -/

/-- The dates of a record and the NFT it holds. -/
def LeaseInstance.standing (lease : LeaseInstance) :
    (U64 × U64) × Option Address × Option U128 :=
  ((lease.startDate, lease.endDate), lease.nftContract, lease.tokenId)

theorem Amendment.standing (amendment : Amendment leaseId lease call next) :
    next.standing = lease.standing := by
  cases amendment with
  | charged fees =>
      rw [fees]
      rfl
  | _ => rfl

theorem dispatch_standing (run : Commits (dispatch env call) world () after)
    (keeps : call.creates env ≠ some leaseId) (found : world.leases.lookup leaseId = some lease)
    (stored : after.leases.lookup leaseId = some next) : next.standing = lease.standing := by
  rcases dispatch_keeps_record run keeps found stored with
    ⟨_, rfl⟩ | amendment | ⟨still, _, change⟩
  · rfl
  · exact amendment.standing
  · cases change with
    | amended amends => cases still.symm.trans amends
    | _ => rfl

/-- A call that leaves a record in place keeps its status, terminates it or disputes it. -/
theorem dispatch_status (run : Commits (dispatch env call) world () after)
    (keeps : call.creates env ≠ some leaseId) (found : world.leases.lookup leaseId = some lease)
    (stored : after.leases.lookup leaseId = some next) :
    next.status = lease.status ∨ next.status = .terminated ∨ next.status = .disputed := by
  rcases dispatch_keeps_record run keeps found stored with
    ⟨_, rfl⟩ | amendment | ⟨still, _, change⟩
  · exact .inl rfl
  · left
    cases amendment with
    | charged fees => rw [fees]
    | _ => rfl
  · cases change with
    | amended amends => cases still.symm.trans amends
    | concluded | resolved | released | reclaimed => exact .inr (.inl rfl)
    | disputed | fallbackDisputed => exact .inr (.inr rfl)
    | _ => exact .inl rfl

/-- The payments counted on a record after a call that leaves it in place. -/
def Call.recount (leaseId : LeaseId) (lease : LeaseInstance) : Call → I128
  | .payLeaseInstanceRent paid _ paymentAmount =>
      if paid = leaseId then lease.cumulativePayments + paymentAmount
      else lease.cumulativePayments
  | .verifyRepair repaired _ =>
      if repaired = leaseId then lease.cumulativePayments + lease.withheldRent
      else lease.cumulativePayments
  | _ => lease.cumulativePayments

theorem Amendment.recounts (amendment : Amendment leaseId lease call next) :
    next.cumulativePayments = call.recount leaseId lease := by
  cases amendment with
  | paid | verified => exact (if_pos rfl).symm
  | charged fees =>
      rw [fees]
      rfl
  | _ => rfl

theorem Call.recount_of_amended_ne (aside : call.amended ≠ some leaseId) :
    call.recount leaseId lease = lease.cumulativePayments := by
  cases call with
  | payLeaseInstanceRent | verifyRepair => exact if_neg fun same => aside (congrArg some same)
  | _ => rfl

/-- Only a payment and a verified repair change what is counted. -/
theorem dispatch_recounts (run : Commits (dispatch env call) world () after)
    (keeps : call.creates env ≠ some leaseId) (found : world.leases.lookup leaseId = some lease)
    (stored : after.leases.lookup leaseId = some next) :
    next.cumulativePayments = call.recount leaseId lease := by
  rcases dispatch_keeps_record run keeps found stored with
    ⟨aside, rfl⟩ | amendment | ⟨still, _, change⟩
  · rw [Call.recount_of_amended_ne fun amends => aside (Call.subject_of_amended amends)]
  · exact amendment.recounts
  · rw [Call.recount_of_amended_ne (by rw [still]; nofun)]
    cases change with
    | amended amends => cases still.symm.trans amends
    | _ => rfl

/-! ## Records that appear -/

/-- A record appears by a creation only. -/
theorem dispatch_appears (run : Commits (dispatch env call) world () after)
    (stored : after.leases.lookup leaseId = some next) (keeps : call.creates env ≠ some leaseId) :
    ∃ lease, world.leases.lookup leaseId = some lease := by
  have movement := (dispatch_effect run).movement
  by_cases subject : call.subject env = some leaseId
  · cases movement with
    | still silent => cases silent.symm.trans subject
    | opened opening =>
        obtain rfl := Option.some.inj (opening.subject.symm.trans subject)
        exact absurd opening.creates keeps
    | changed found change =>
        obtain rfl := Option.some.inj (change.subject.symm.trans subject)
        exact ⟨_, found⟩
  · exact ⟨next, (movement.frame subject).symm.trans stored⟩

theorem dispatch_opens (run : Commits (dispatch env call) world () after)
    (creates : call.creates env = some leaseId) :
    ∃ next, after.leases.lookup leaseId = some next ∧ next.rentBooks = ⟨0, 0, 0⟩ ∧
      next.asset = (none, none) ∧ next.status ≠ .terminated := by
  obtain ⟨lease, opening, moved⟩ := (dispatch_effect run).movement.opening creates
  refine ⟨lease, moved.lookup_self, ?_⟩
  cases opening <;> exact ⟨rfl, rfl, nofun⟩

end Amendments

end LeaseFlow
