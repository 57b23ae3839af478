import LeaseFlow.Holdings.Amendments
import LeaseFlow.Holdings.YieldCollateral

/-!
# Abandoned and listed proposals

The sweeper takes a proposal for abandoned when its lease is pending and the start date on it
is a week past.  Neither says when the lease was created, what deposit it locked or whether
rent was paid for it; a file on every lease does.  A proposal also enters its lease in the index
that the listing of the active leases reads.
-/

set_option autoImplicit false

namespace LeaseFlow

open Transaction

/-! ## The files -/

/-- What is known of the lease now stored under an id: when it was created, the deposit it
locked then, and how many rent payments it accepted. -/
structure LeaseFile where
  createdAt : U64
  deposited : I128
  payments : Nat

/-- Nobody took the lease up within a week of its creation. -/
structure LeaseFile.Abandoned (file : LeaseFile) (now : U64) : Prop where
  stale : file.createdAt + initTimeoutSecs < now
  unpaid : file.payments = 0
  unfunded : file.deposited ≤ 0

/-- A creation opens the file of its lease anew, and a rent payment is entered in it. -/
def fileLease (env : Env) (_world : World) (call : Call) (files : LeaseId → LeaseFile) :
    LeaseId → LeaseFile :=
  match call with
  | .createLeaseInstance leaseId _ params =>
      Function.update files leaseId ⟨env.timestamp, lockedDeposit env params, 0⟩
  | .createLeaseWithContinuousBilling params =>
      Function.update files (billingLeaseId env) ⟨env.timestamp, params.depositAmount, 0⟩
  | .payLeaseInstanceRent leaseId _ _ =>
      Function.update files leaseId
        { files leaseId with payments := (files leaseId).payments + 1 }
  | _ => files

/-- A sweep that goes through removes an abandoned lease. -/
def Invocation.SweepsAbandoned (invocation : Invocation)
    (state : World × (LeaseId → LeaseFile)) : Prop :=
  invocation.Committed state.1 → ∀ relayer leaseId,
    invocation.call = .sweepExpiredProposals relayer leaseId →
    (state.2 leaseId).Abandoned invocation.env.timestamp

/-- A call after which the record of a pending lease still tells what became of it: no proposal
is dated back, and a payment for a pending lease is of more than nothing.  A sweep waits for the
timeout to be over, and finds no payment counted, no deposit, and no part of one ever lent. -/
def Call.Candid (env : Env) (world : World) : Call → Prop
  | .createLeaseInstance _ _ params => env.timestamp ≤ params.startDate
  | .payLeaseInstanceRent leaseId _ paymentAmount =>
      ∀ lease, world.leases.lookup leaseId = some lease → lease.status = .pending →
        0 < paymentAmount
  | .sweepExpiredProposals _ leaseId =>
      ∀ lease, world.leases.lookup leaseId = some lease →
        lease.startDate + initTimeoutSecs < env.timestamp ∧ lease.cumulativePayments = 0 ∧
          lease.securityDeposit ≤ 0 ∧ world.yield.yieldDeployment leaseId = none
  | _ => True

/-- What a record and the slot of its deployment tell of the file of their lease. -/
structure LeaseFile.Tells (file : LeaseFile) (lease : LeaseInstance)
    (deployment : Option YieldDeployment) : Prop where
  dated : file.createdAt ≤ lease.startDate
  withheld : lease.withheldRent = 0
  counted : 0 ≤ lease.cumulativePayments
  unpaid : lease.cumulativePayments = 0 → file.payments = 0
  deposited : deployment = none → lease.securityDeposit = file.deposited

/-- The record of every pending lease tells of its file. -/
def World.TellsPending (world : World) (files : LeaseId → LeaseFile) : Prop :=
  ∀ leaseId lease, world.leases.lookup leaseId = some lease → lease.status = .pending →
    (files leaseId).Tells lease (world.yield.yieldDeployment leaseId)

section Files

variable {env : Env} {world after : World} {call : Call} {files : LeaseId → LeaseFile}
  {leaseId : LeaseId} {lease next : LeaseInstance}

theorem fileLease_of_aside (creates : call.creates env ≠ some leaseId)
    (unpaid : ∀ payer paymentAmount, call ≠ .payLeaseInstanceRent leaseId payer paymentAmount) :
    fileLease env world call files leaseId = files leaseId := by
  cases call with
  | createLeaseInstance | createLeaseWithContinuousBilling =>
      exact Function.update_of_ne (fun same => creates (congrArg some same.symm)) ..
  | payLeaseInstanceRent paid payer paymentAmount =>
      apply Function.update_of_ne
      rintro rfl
      exact unpaid payer paymentAmount rfl
  | _ => rfl

/-- A record that a call leaves pending was pending before. -/
theorem dispatch_pending (run : Commits (dispatch env call) world () after)
    (keeps : call.creates env ≠ some leaseId) (found : world.leases.lookup leaseId = some lease)
    (stored : after.leases.lookup leaseId = some next) (pending : next.status = .pending) :
    lease.status = .pending := by
  rcases dispatch_status run keeps found stored with same | terminated | disputed
  · exact same.symm.trans pending
  · cases pending.symm.trans terminated
  · cases pending.symm.trans disputed

theorem LeaseFile.Tells.opened {deployment : Option YieldDeployment}
    (run : Commits (dispatch env call) world () after) (candid : call.Candid env world)
    (creates : call.creates env = some leaseId) (stored : after.leases.lookup leaseId = some next)
    (pending : next.status = .pending) :
    (fileLease env world call files leaseId).Tells next deployment := by
  obtain ⟨lease, opening, moved⟩ := (dispatch_effect run).movement.opening creates
  rw [moved.lookup_self] at stored
  obtain rfl := Option.some.inj stored
  cases opening with
  | proposed fresh =>
      rw [fileLease, Function.update_self]
      exact ⟨candid, rfl, le_rfl, fun _ => rfl, fun _ => rfl⟩
  | billed => cases pending

theorem dispatch_lent (run : Commits (dispatch env call) world () after)
    (idle : after.yield.yieldDeployment leaseId = none) :
    world.yield.yieldDeployment leaseId = none := by
  have untouched {other : LeaseId} {deployment : YieldDeployment}
      (written : after.yield.yieldDeployment =
        Function.update world.yield.yieldDeployment other (some deployment)) :
      world.yield.yieldDeployment leaseId = none := by
    rw [written, Function.update_apply] at idle
    split at idle
    · cases idle
    · exact idle
  cases call with
  | deployEscrowToYield =>
      obtain ⟨_, _, _, written⟩ := deployEscrowToYield_deployed run
      exact untouched written
  | withdrawFromYield =>
      obtain ⟨_, _, _, _, _, written⟩ := withdrawFromYield_closed run
      exact untouched written
  | _ => rwa [dispatch_yieldDeployment run rfl] at idle

/-- While nothing of it is lent, a record keeps its security deposit. -/
theorem dispatch_security (run : Commits (dispatch env call) world () after)
    (keeps : call.creates env ≠ some leaseId) (found : world.leases.lookup leaseId = some lease)
    (stored : after.leases.lookup leaseId = some next)
    (idle : after.yield.yieldDeployment leaseId = none) :
    next.securityDeposit = lease.securityDeposit := by
  rcases dispatch_keeps_record run keeps found stored with
    ⟨_, rfl⟩ | amendment | ⟨still, _, change⟩
  · rfl
  · cases amendment with
    | charged fees => rw [fees]
    | _ => rfl
  · cases change with
    | amended amends => cases still.symm.trans amends
    | deployed =>
        obtain ⟨_, _, _, written⟩ := deployEscrowToYield_deployed run
        rw [written, Function.update_self] at idle
        cases idle
    | withdrawn =>
        obtain ⟨_, _, _, _, _, written⟩ := withdrawFromYield_closed run
        rw [written, Function.update_self] at idle
        cases idle
    | _ => rfl

/-- After a candid call a record that was pending before tells of its file again. -/
theorem LeaseFile.Tells.kept
    (tells : (files leaseId).Tells lease (world.yield.yieldDeployment leaseId))
    (run : Commits (dispatch env call) world () after) (candid : call.Candid env world)
    (keeps : call.creates env ≠ some leaseId) (found : world.leases.lookup leaseId = some lease)
    (waiting : lease.status = .pending) (stored : after.leases.lookup leaseId = some next) :
    (fileLease env world call files leaseId).Tells next (after.yield.yieldDeployment leaseId) := by
  have dates := congrArg (fun standing => standing.1.1) (dispatch_standing run keeps found stored)
  change next.startDate = lease.startDate at dates
  have dated : (files leaseId).createdAt ≤ next.startDate := dates ▸ tells.dated
  have deposited (idle : after.yield.yieldDeployment leaseId = none) :
      next.securityDeposit = (files leaseId).deposited :=
    (dispatch_security run keeps found stored idle).trans (tells.deposited (dispatch_lent run idle))
  have withheld := dispatch_unwithheld run keeps found stored tells.withheld
  have count := dispatch_recounts run keeps found stored
  by_cases pays : ∃ payer paymentAmount, call = .payLeaseInstanceRent leaseId payer paymentAmount
  · obtain ⟨payer, paymentAmount, rfl⟩ := pays
    have positive : (0 : Int) < paymentAmount := candid lease found waiting
    have counted := tells.counted
    rw [Call.recount, if_pos rfl] at count
    rw [fileLease, Function.update_self]
    exact ⟨dated, withheld, by linarith, fun uncounted => by linarith, deposited⟩
  · have same : call.recount leaseId lease = lease.cumulativePayments := by
      cases call with
      | payLeaseInstanceRent paid payer paymentAmount =>
          apply if_neg
          rintro rfl
          exact pays ⟨payer, paymentAmount, rfl⟩
      | verifyRepair repaired inspector =>
          rw [Call.recount, tells.withheld, add_zero, ite_self]
      | _ => rfl
    rw [fileLease_of_aside keeps fun payer paymentAmount paid => pays ⟨payer, paymentAmount, paid⟩]
    rw [same] at count
    exact ⟨dated, withheld, count ▸ tells.counted, fun uncounted => tells.unpaid (count ▸ uncounted),
      deposited⟩

theorem World.TellsPending.kept (told : world.TellsPending files)
    (run : Commits (dispatch env call) world () after) (candid : call.Candid env world) :
    after.TellsPending (fileLease env world call files) := by
  intro leaseId next stored pending
  by_cases creates : call.creates env = some leaseId
  · exact .opened run candid creates stored pending
  · obtain ⟨lease, found⟩ := dispatch_appears run stored creates
    have waiting := dispatch_pending run creates found stored pending
    exact (told leaseId lease found waiting).kept run candid creates found waiting stored

/-- A candid sweep finds an abandoned lease. -/
theorem World.TellsPending.sweeps {relayer : Address} (told : world.TellsPending files)
    (run : Commits (dispatch env (.sweepExpiredProposals relayer leaseId)) world () after)
    (candid : Call.Candid env world (.sweepExpiredProposals relayer leaseId)) :
    (files leaseId).Abandoned env.timestamp := by
  obtain ⟨lease, found, pending, _⟩ := sweepExpiredProposals_commits run
  have tells := told leaseId lease found pending
  obtain ⟨late, uncounted, empty, idle⟩ := candid lease found
  exact ⟨(Nat.add_le_add_right tells.dated initTimeoutSecs).trans_lt late,
    tells.unpaid uncounted, (tells.deposited idle).symm.trans_le empty⟩

end Files

/-- In a run whose calls are all candid the sweeper removes abandoned leases only. -/
theorem sweeps_abandoned (calls : List Invocation) (config : ConfigStore) (billing : BillingStore)
    (securityCouncil : Option SecurityCouncil) (files : LeaseId → LeaseFile)
    (candid : Run.MeetsAlong step (fun invocation world => invocation.Committed world →
      invocation.call.Candid invocation.env world) calls
      (World.genesis config billing securityCouncil)) :
    Run.MeetsAlong (bookedStep fileLease) Invocation.SweepsAbandoned calls
      (World.genesis config billing securityCouncil, files) := by
  have kept (invocation : Invocation) (state : World × (LeaseId → LeaseFile))
      (candid : invocation.Committed state.1 → invocation.call.Candid invocation.env state.1)
      (told : state.1.TellsPending state.2) :
      (step invocation state.1).TellsPending (invocation.enter fileLease state.1 state.2) := by
    by_cases committed : invocation.Committed state.1
    · rw [enter_of_committed committed]
      exact told.kept committed.commits (candid committed)
    · rw [enter_of_refused committed, step_of_not_committed committed]
      exact told
  refine @Run.meetsAlong_of_invariant _ _ (bookedStep fileLease)
    (fun state => state.1.TellsPending state.2)
    (fun invocation state => invocation.Committed state.1 →
      invocation.call.Candid invocation.env state.1) _ kept ?_ calls _
    ((@Run.meetsAlong_annotate _ _ step _ _ (fun invocation world => invocation.Committed world →
      invocation.call.Candid invocation.env world) calls _).mpr candid) ?_
  · rintro ⟨env, call⟩ state candid told committed relayer leaseId rfl
    exact told.sweeps committed.commits (candid committed)
  · intro leaseId lease found
    cases found

/-- A proposal that locks nothing is swept a second after its timeout is over. -/
def idleProposal : List Invocation :=
  [propose 0 7 0 0, callAt 604801 (.sweepExpiredProposals ⟨9⟩ 7)]

theorem idleProposal_abandoned :
    Run.MeetsAlong (bookedStep fileLease) Invocation.SweepsAbandoned idleProposal
      (freshWorld, fun _ => ⟨0, 0, 0⟩) := by
  apply sweeps_abandoned
  refine ⟨fun _ => show _ ≤ _ by decide, fun _ lease found => ?_, trivial⟩
  obtain rfl := Option.some.inj found
  exact ⟨by decide, rfl, by decide, rfl⟩

/-- The sweeper removes a lease in the second it was created, one whose tenant has paid rent,
and one that locked a deposit. -/
theorem taken_proposals_swept :
    ¬ Run.MeetsAlong (bookedStep fileLease) Invocation.SweepsAbandoned
        [propose 604800 7 0 0, callAt 604800 (.sweepExpiredProposals ⟨9⟩ 7)]
        (freshWorld, fun _ => ⟨0, 0, 0⟩) ∧
      ¬ Run.MeetsAlong (bookedStep fileLease) Invocation.SweepsAbandoned
        [propose 0 7 0 0, callAt 10 (.payLeaseInstanceRent 7 ⟨2⟩ 10),
          callAt 604801 (.sweepExpiredProposals ⟨9⟩ 7)] (freshWorld, fun _ => ⟨0, 0, 0⟩) ∧
      ¬ Run.MeetsAlong (bookedStep fileLease) Invocation.SweepsAbandoned
        [propose 0 7 200 0, callAt 604801 (.sweepExpiredProposals ⟨9⟩ 7)]
        (freshWorld, fun _ => ⟨0, 0, 0⟩) := by
  refine ⟨?_, ?_, ?_⟩
  · rintro ⟨_, swept, _⟩
    have stale := (swept (show _ = true by decide) ⟨9⟩ 7 rfl).stale
    revert stale
    decide
  · rintro ⟨_, _, swept, _⟩
    have unpaid := (swept (show _ = true by decide) ⟨9⟩ 7 rfl).unpaid
    revert unpaid
    decide
  · rintro ⟨_, swept, _⟩
    have unfunded := (swept (show _ = true by decide) ⟨9⟩ 7 rfl).unfunded
    revert unfunded
    decide

/-! ## The listing of the active leases -/

structure ActiveLeaseSummary where
  leaseId : LeaseId
  landlord : Address
  tenant : Address
  rentAmount : I128
  rentPerSec : I128
  depositAmount : I128
  securityDeposit : I128
  startDate : U64
  endDate : U64
  propertyUri : String
  status : LeaseStatus
  paymentToken : Address
  rentPaid : I128
  cumulativePayments : I128
  debt : I128
  active : Bool
  yieldDelegationEnabled : Bool
  equityPercentageBps : U32
  deriving DecidableEq

def LeaseInstance.summary (leaseId : LeaseId) (lease : LeaseInstance) : ActiveLeaseSummary where
  leaseId := leaseId
  landlord := lease.landlord
  tenant := lease.tenant
  rentAmount := lease.rentAmount
  rentPerSec := lease.rentPerSec
  depositAmount := lease.depositAmount
  securityDeposit := lease.securityDeposit
  startDate := lease.startDate
  endDate := lease.endDate
  propertyUri := lease.propertyUri
  status := lease.status
  paymentToken := lease.paymentToken
  rentPaid := lease.rentPaid
  cumulativePayments := lease.cumulativePayments
  debt := lease.debt
  active := lease.flags.has .active
  yieldDelegationEnabled := lease.flags.has .yieldDelegationEnabled
  equityPercentageBps := lease.equityPercentageBps

/-- The summary of a lease on the index, unless it is gone or no longer runs. -/
def World.activeLeaseSummary (world : World) (leaseId : LeaseId) : Option ActiveLeaseSummary :=
  match world.leases.lookup leaseId with
  | some lease =>
      if lease.flags.has .active = true ∧ (lease.status = .active ∨ lease.status = .pending) then
        some (lease.summary leaseId)
      else none
  | none => none

def getActiveLeases : Contract (List ActiveLeaseSummary) :=
  inspect fun world => world.archive.activeLeasesIndex.filterMap world.activeLeaseSummary

/-- Adding to the index and removing from it do what their names say. -/
structure ExternalContracts.KeepsIndex (contracts : ExternalContracts) : Prop where
  adds : ∀ index leaseId extended, contracts.addToActiveLeasesIndex index leaseId = .ok extended →
    ∀ other, other ∈ extended ↔ other = leaseId ∨ other ∈ index
  removes : ∀ index leaseId reduced,
    contracts.removeFromActiveLeasesIndex index leaseId = .ok reduced →
    ∀ other, other ∈ reduced ↔ other ≠ leaseId ∧ other ∈ index

/-- The book of proposals: the ids that were proposed and not swept since. -/
def bookProposal (_env : Env) (_world : World) (call : Call) (proposed : LeaseId → Bool) :
    LeaseId → Bool :=
  match call with
  | .createLeaseInstance leaseId _ _ => Function.update proposed leaseId true
  | .sweepExpiredProposals _ leaseId => Function.update proposed leaseId false
  | _ => proposed

/-- The index holds the ids on the book, those of all pending leases among them. -/
structure World.Indexed (world : World) (proposed : LeaseId → Bool) : Prop where
  index : ∀ leaseId, leaseId ∈ world.archive.activeLeasesIndex ↔ proposed leaseId = true
  pending : ∀ leaseId lease, world.leases.lookup leaseId = some lease → lease.status = .pending →
    proposed leaseId = true

/-- The listing shows a lease exactly while it runs and is pending, or active under an id that was
also proposed. -/
def World.ListsLeases (world : World) (proposed : LeaseId → Bool) : Prop :=
  ∃ summaries, Commits getActiveLeases world summaries world ∧ ∀ summary, summary ∈ summaries ↔
    ∃ lease, world.leases.lookup summary.leaseId = some lease ∧
      summary = lease.summary summary.leaseId ∧ lease.flags.has .active = true ∧
      (lease.status = .pending ∨ lease.status = .active ∧ proposed summary.leaseId = true)

section Listing

variable {env : Env} {world after : World} {call : Call} {proposed : LeaseId → Bool}
  {leaseId : LeaseId} {summary : ActiveLeaseSummary}

theorem World.activeLeaseSummary_eq_some :
    world.activeLeaseSummary leaseId = some summary ↔
      ∃ lease, world.leases.lookup leaseId = some lease ∧ summary = lease.summary leaseId ∧
        lease.flags.has .active = true ∧ (lease.status = .active ∨ lease.status = .pending) := by
  unfold World.activeLeaseSummary
  split
  · next lease found =>
      rw [Option.ite_none_right_eq_some, found]
      constructor
      · intro ⟨⟨running, status⟩, shown⟩
        exact ⟨lease, rfl, (Option.some.inj shown).symm, running, status⟩
      · intro ⟨_, same, shown, running, status⟩
        obtain rfl := Option.some.inj same
        exact ⟨⟨running, status⟩, congrArg some shown.symm⟩
  · next absent =>
      apply iff_of_false nofun
      intro ⟨_, found, _⟩
      cases absent.symm.trans found

theorem index_kept {α : Type} {value : α} {body : Contract α}
    (run : Commits body world value after) (writes : Writes (besides .activeLeasesIndex) body) :
    after.archive.activeLeasesIndex = world.archive.activeLeasesIndex :=
  part_kept .activeLeasesIndex run writes

theorem createLeaseInstance_index {landlord : Address} {params : CreateLeaseParams}
    {result : Unit}
    (run : Commits (createLeaseInstance env leaseId landlord params) world result after) :
    env.contracts.addToActiveLeasesIndex world.archive.activeLeasesIndex leaseId =
      .ok after.archive.activeLeasesIndex := by
  obtain ⟨_, locked, w1, w2, w3, w4, w5, w6, w7, w8, acquired, _, verified, swapped, opened,
    indexed, initialised, sized, released, published⟩ := createLeaseInstance_steps run
  have start : w4.archive.activeLeasesIndex = world.archive.activeLeasesIndex := by
    rw [index_kept opened (by simp), index_kept swapped (by simp), index_kept verified (by simp),
      index_kept acquired (by simp)]
  have finish : after.archive.activeLeasesIndex = w5.archive.activeLeasesIndex := by
    rw [index_kept published (by simp), index_kept released (by simp), index_kept sized (by simp),
      index_kept initialised (by simp)]
  simp only [addToActiveLeasesIndex, updateArchive, commits_bind, commits_inspect,
    commits_question, commits_modify] at indexed
  obtain ⟨_, _, ⟨rfl, rfl⟩, extended, _, ⟨added, rfl⟩, rfl⟩ := indexed
  rw [finish, ← start]
  exact added

theorem sweepExpiredProposals_index {relayer : Address} {result : Unit}
    (run : Commits (sweepExpiredProposals env relayer leaseId) world result after) :
    env.contracts.removeFromActiveLeasesIndex world.archive.activeLeasesIndex leaseId =
      .ok after.archive.activeLeasesIndex := by
  simp only [sweepExpiredProposals, commits_bind, commits_loadLeaseInstanceById,
    commits_require] at run
  obtain ⟨lease, _, ⟨_, rfl⟩, _, _, ⟨_, rfl⟩, _, w0, ⟨_, rfl⟩, _, w1, paid, _, w2, bounty, _, w3,
    deleted, _, w4, swept, published⟩ := run
  have start : w3.archive.activeLeasesIndex = w0.archive.activeLeasesIndex := by
    rw [index_kept deleted (by simp), index_kept bounty (by simp), index_kept paid (by simp)]
  simp only [removeFromActiveLeasesIndex, updateArchive, commits_bind, commits_inspect,
    commits_question, commits_modify] at swept
  obtain ⟨_, _, ⟨rfl, rfl⟩, reduced, _, ⟨removed, rfl⟩, rfl⟩ := swept
  rw [index_kept published (by simp), ← start]
  exact removed

theorem dispatch_index (keeps : env.contracts.KeepsIndex) (indexed : world.Indexed proposed)
    (run : Commits (dispatch env call) world () after) (leaseId : LeaseId) :
    leaseId ∈ after.archive.activeLeasesIndex ↔
      bookProposal env world call proposed leaseId = true := by
  cases call with
  | createLeaseInstance other landlord params =>
      rw [keeps.adds _ _ _ (createLeaseInstance_index run), indexed.index, bookProposal,
        Function.update_apply]
      by_cases same : leaseId = other
      · simp [same]
      · simp [same]
  | sweepExpiredProposals relayer other =>
      rw [keeps.removes _ _ _ (sweepExpiredProposals_index run), indexed.index, bookProposal,
        Function.update_apply]
      by_cases same : leaseId = other
      · simp [same]
      · simp [same]
  | _ =>
      rw [index_kept run ((dispatch_writes env _).mono (by simp))]
      exact indexed.index leaseId

/-- What is pending after a committed call is on the book. -/
theorem dispatch_proposed {lease : LeaseInstance} (indexed : world.Indexed proposed)
    (run : Commits (dispatch env call) world () after)
    (stored : after.leases.lookup leaseId = some lease) (pending : lease.status = .pending) :
    bookProposal env world call proposed leaseId = true := by
  by_cases creates : call.creates env = some leaseId
  · obtain ⟨opened, opening, moved⟩ := (dispatch_effect run).movement.opening creates
    obtain rfl := Option.some.inj (moved.lookup_self.symm.trans stored)
    cases opening with
    | proposed fresh => exact Function.update_self ..
    | billed => cases pending
  · obtain ⟨before, found⟩ := dispatch_appears run stored creates
    have booked := indexed.pending leaseId before found
      (dispatch_pending run creates found stored pending)
    cases call with
    | createLeaseInstance other landlord params =>
        have aside : leaseId ≠ other := fun same => creates (congrArg some same.symm)
        exact (Function.update_of_ne aside _ _).trans booked
    | sweepExpiredProposals relayer other =>
        have aside : leaseId ≠ other := by
          intro same
          subst same
          cases ((dispatch_removes_iff run found).mpr rfl).symm.trans stored
        exact (Function.update_of_ne aside _ _).trans booked
    | _ => exact booked

theorem World.Indexed.kept (keeps : env.contracts.KeepsIndex) (indexed : world.Indexed proposed)
    (run : Commits (dispatch env call) world () after) :
    after.Indexed (bookProposal env world call proposed) :=
  ⟨dispatch_index keeps indexed run, fun _ _ => dispatch_proposed indexed run⟩

theorem World.Indexed.lists (indexed : world.Indexed proposed) : world.ListsLeases proposed := by
  refine ⟨_, (commits_inspect _ _).mpr ⟨rfl, rfl⟩, fun summary => ?_⟩
  rw [List.mem_filterMap]
  constructor
  · intro ⟨leaseId, listed, shown⟩
    obtain ⟨lease, found, rfl, running, status⟩ := World.activeLeaseSummary_eq_some.mp shown
    refine ⟨lease, found, rfl, running, ?_⟩
    rcases status with active | pending
    · exact .inr ⟨active, (indexed.index leaseId).mp listed⟩
    · exact .inl pending
  · intro ⟨lease, found, shown, running, status⟩
    refine ⟨summary.leaseId, (indexed.index _).mpr ?_, ?_⟩
    · rcases status with pending | ⟨_, proposed⟩
      · exact indexed.pending _ lease found pending
      · exact proposed
    · refine World.activeLeaseSummary_eq_some.mpr ⟨lease, found, shown, running, ?_⟩
      exact status.symm.imp_left And.left

end Listing

/-- In every state of a run the listing shows each running proposal, and a running lease with
continuous billing only where its id was proposed before. -/
theorem active_leases_listed (calls : List Invocation) (config : ConfigStore)
    (billing : BillingStore) (securityCouncil : Option SecurityCouncil)
    (keeps : ∀ invocation ∈ calls, invocation.env.contracts.KeepsIndex) :
    let state := Run.run (bookedStep bookProposal) calls
      (World.genesis config billing securityCouncil, fun _ => false)
    state.1.ListsLeases state.2 := by
  intro state
  apply World.Indexed.lists
  refine @Run.invariant_along _ _ (bookedStep bookProposal)
    (fun invocation _ => invocation.env.contracts.KeepsIndex)
    (fun state => state.1.Indexed state.2) ?_ calls _ (Run.meetsAlong_of_forall keeps _) ?_
  · intro invocation state keeps indexed
    change (step invocation state.1).Indexed (invocation.enter bookProposal state.1 state.2)
    by_cases committed : invocation.Committed state.1
    · rw [enter_of_committed committed]
      exact indexed.kept keeps committed.commits
    · rwa [enter_of_refused committed, step_of_not_committed committed]
  · refine ⟨fun leaseId => iff_of_false ?_ nofun, fun leaseId lease found => ?_⟩
    · exact List.not_mem_nil
    · simp [World.genesis] at found

/-- Of two proposals the one that is not swept stays listed. -/
theorem active_leases_listed_proposal :
    let state := Run.run (bookedStep bookProposal)
      [propose 5 1 100 50, propose 6 2 100 50, callAt 700000 (.sweepExpiredProposals ⟨9⟩ 1)]
      (freshWorld, fun _ => false)
    state.1.ListsLeases state.2 :=
  active_leases_listed _ openSettings openBilling none fun invocation listed => by
    have agreeable : agreeableContracts.KeepsIndex := by
      refine ⟨fun index leaseId extended added other => ?_,
        fun index leaseId reduced removed other => ?_⟩
      · obtain rfl := Except.ok.inj added
        simp [or_comm]
      · obtain rfl := Except.ok.inj removed
        simp [and_comm]
    simp only [List.mem_cons, List.not_mem_nil, or_false] at listed
    rcases listed with rfl | rfl | rfl
    all_goals exact agreeable

end LeaseFlow
