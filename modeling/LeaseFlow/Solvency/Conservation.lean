import LeaseFlow.Solvency.Outcome

/-!
# The tracker conserves value

What was deposited is in one of the components or has left by a settlement, a release or a slash.
Every call that goes through moves the total by exactly its amount, and the closing check then
says that the components make up the total.
-/

set_option autoImplicit false

namespace LeaseFlow.Solvency

open Transaction EscrowInvariant Run

/-! ## Calls that go through -/

section Completed

variable {operation : Operation} {self : EscrowInvariant}

/-- What a call that goes through has passed, and what it leaves. -/
structure Completed (operation : Operation) (tracker : EscrowInvariant) : Prop where
  admitted : operation.Admitted tracker
  counts : ¬ operation.Jams tracker
  fits : ¬ operation.Spills tracker
  solvent : (operation.target tracker).Solvent
  left : step operation tracker = operation.target tracker

theorem completed (sound : self.Sound) (succeeds : operation.body.succeeds self = true) :
    Completed operation self := by
  unfold Transaction.succeeds at succeeds
  cases outcome sound operation with
  | refused violation turned ran =>
      rw [ran] at succeeds
      cases succeeds
  | jammed after admitted jams ran =>
      rw [ran] at succeeds
      cases succeeds
  | spilt violation after admitted counts spills changed ran =>
      rw [ran] at succeeds
      cases succeeds
  | checked admitted counts fits ran =>
      by_cases solvent : (operation.target self).Solvent
      · rw [verify_of_solvent solvent] at ran
        have left : step operation self = operation.target self := by
          rw [step, leftBy, ran]
        exact ⟨admitted, counts, fits, solvent, left⟩
      · obtain ⟨violation, failed⟩ := verify_of_not_solvent solvent
        rw [ran, failed] at succeeds
        cases succeeds

theorem refused_of_not_admitted (sound : self.Sound) (turned : ¬ operation.Admitted self) :
    ∃ violation, operation.body.execute self = (.error (.err violation), self) := by
  cases outcome sound operation with
  | refused violation _ ran => exact ⟨violation, ran⟩
  | jammed after admitted jams ran => exact absurd admitted turned
  | spilt violation after admitted counts spills changed ran => exact absurd admitted turned
  | checked admitted counts fits ran => exact absurd admitted turned

theorem panics_of_jams (sound : self.Sound) (admitted : operation.Admitted self)
    (jams : operation.Jams self) :
    ∃ after, operation.body.execute self = (.error .panic, after) := by
  cases outcome sound operation with
  | refused violation turned ran => exact absurd admitted turned
  | jammed after _ _ ran => exact ⟨after, ran⟩
  | spilt violation after _ counts spills changed ran => exact absurd jams counts
  | checked _ counts fits ran => exact absurd jams counts

/-- A call that passes every check goes through. -/
theorem succeeds_of_passes (sound : self.Sound) (admitted : operation.Admitted self)
    (counts : ¬ operation.Jams self) (fits : ¬ operation.Spills self)
    (solvent : (operation.target self).Solvent) : operation.body.succeeds self = true := by
  unfold Transaction.succeeds
  cases outcome sound operation with
  | refused violation turned ran => exact absurd admitted turned
  | jammed after _ jams ran => exact absurd jams counts
  | spilt violation after _ _ spills changed ran => exact absurd spills fits
  | checked _ _ _ ran => rw [ran, verify_of_solvent solvent]

end Completed

/-! ## The two counters -/

/-- The counters of what is lost to precision and to dust do not go down. -/
structure Grows (before after : EscrowInvariant) : Prop where
  precision : before.precisionLossCumulative ≤ after.precisionLossCumulative
  dust : before.dustCumulative ≤ after.dustCumulative

theorem Grows.refl (self : EscrowInvariant) : Grows self self :=
  ⟨le_rfl, le_rfl⟩

theorem Grows.trans {first second third : EscrowInvariant} (start : Grows first second)
    (rest : Grows second third) : Grows first third :=
  ⟨start.precision.trans rest.precision, start.dust.trans rest.dust⟩

section Target

variable {self : EscrowInvariant}

theorem target_grows {operation : Operation}
    (admitted : operation.Admitted self) : Grows self (operation.target self) := by
  cases operation with
  | leaseCreation depositAmount =>
      have loss := simulateSorobanPrecisionLoss_nonneg depositAmount
      show Grows self (self.created depositAmount)
      unfold created
      split
      · exact ⟨le_add_of_nonneg_right loss, le_rfl⟩
      · exact ⟨le_rfl, le_rfl⟩
  | yieldAccumulation yieldAmount =>
      have loss := simulateSorobanPrecisionLoss_nonneg yieldAmount
      exact ⟨le_add_of_nonneg_right loss, le_rfl⟩
  | disputeInitiation disputeAmount => exact ⟨le_rfl, le_rfl⟩
  | leaseSettlement tenantRefund landlordPayout protocolFee =>
      have dust := sub_nonneg.mpr admitted.1.2
      constructor
      · exact settled_precisionLossCumulative.ge
      · exact (le_add_of_nonneg_right dust).trans settled_dustCumulative.ge
  | mutualRelease returnAmount slashAmount => exact ⟨le_rfl, le_rfl⟩
  | partialSlashing slashPercentageBps =>
      show Grows self (self.slashed slashPercentageBps)
      unfold slashed
      split
      · next truncated => exact ⟨le_rfl, le_add_of_nonneg_right (sub_nonneg.mpr truncated.le)⟩
      · exact ⟨le_rfl, le_rfl⟩

theorem target_precision_le (sound : self.Sound) {operation : Operation}
    (fits : ¬ operation.Spills self) :
    (operation.target self).precisionLossCumulative ≤ i128Max := by
  cases operation with
  | leaseCreation depositAmount =>
      show (self.created depositAmount).precisionLossCumulative ≤ i128Max
      unfold created
      split
      · next large => exact not_lt.mp fun exceeds => fits ⟨large, exceeds⟩
      · exact sound.precision_le
  | yieldAccumulation yieldAmount => exact not_lt.mp fits
  | disputeInitiation disputeAmount => exact sound.precision_le
  | leaseSettlement tenantRefund landlordPayout protocolFee =>
      exact settled_precisionLossCumulative.le.trans sound.precision_le
  | mutualRelease returnAmount slashAmount => exact sound.precision_le
  | partialSlashing slashPercentageBps =>
      exact slashed_precisionLossCumulative.le.trans sound.precision_le

theorem target_dust_le (sound : self.Sound) {operation : Operation}
    (admitted : operation.Admitted self) (fits : ¬ operation.Spills self) :
    (operation.target self).dustCumulative ≤ i128Max := by
  cases operation with
  | leaseCreation depositAmount => exact created_dustCumulative.le.trans sound.dust_le
  | yieldAccumulation yieldAmount => exact sound.dust_le
  | disputeInitiation disputeAmount => exact sound.dust_le
  | leaseSettlement tenantRefund landlordPayout protocolFee =>
      exact settled_dustCumulative.le.trans admitted.2
  | mutualRelease returnAmount slashAmount => exact sound.dust_le
  | partialSlashing slashPercentageBps =>
      show (self.slashed slashPercentageBps).dustCumulative ≤ i128Max
      unfold slashed
      split
      · next truncated => exact not_lt.mp fun exceeds => fits ⟨truncated, exceeds⟩
      · exact sound.dust_le

end Target

section Kept

variable {operation : Operation} {self : EscrowInvariant}

theorem Completed.grows (done : Completed operation self) :
    Grows self (step operation self) := by
  rw [done.left]
  exact target_grows done.admitted

/-- A call that goes through leaves a sound tracker. -/
theorem Completed.sound (done : Completed operation self) (sound : self.Sound) :
    (step operation self).Sound := by
  have grows := done.grows
  rw [done.left] at grows ⊢
  constructor
  · exact done.solvent
  · exact sound.precision_nonneg.trans grows.precision
  · exact target_precision_le sound done.fits
  · exact sound.dust_nonneg.trans grows.dust
  · exact target_dust_le sound done.admitted done.fits

end Kept

/-! ## Value -/

/-- What came in and what went out by each way. -/
structure Flows where
  created : Int
  settled : Int
  released : Int
  slashed : Int

def Flows.none : Flows :=
  ⟨0, 0, 0, 0⟩

def Flows.gone (flows : Flows) : Int :=
  flows.settled + flows.released + flows.slashed

/-- What a call adds to the flows; a slash counts by the total it finds. -/
def record : Operation → EscrowInvariant → Flows → Flows
  | .leaseCreation depositAmount, _, flows =>
      { flows with created := flows.created + depositAmount }
  | .yieldAccumulation _, _, flows => flows
  | .disputeInitiation _, _, flows => flows
  | .leaseSettlement tenantRefund landlordPayout protocolFee, _, flows =>
      { flows with settled := flows.settled + (tenantRefund + landlordPayout + protocolFee) }
  | .mutualRelease returnAmount slashAmount, _, flows =>
      { flows with released := flows.released + (returnAmount + slashAmount) }
  | .partialSlashing slashPercentageBps, self, flows =>
      { flows with slashed := flows.slashed + self.totalEscrowed * slashPercentageBps / 10000 }

/-- Every deposit is in a component or has gone, and no component is below zero. -/
structure Conserved (tracker : EscrowInvariant) (flows : Flows) : Prop where
  sum : flows.created = tracker.activeDeposits + tracker.pendingYield + tracker.disputedFunds +
    flows.settled + flows.released + flows.slashed
  total_nonneg : 0 ≤ tracker.totalEscrowed
  active_nonneg : 0 ≤ tracker.activeDeposits
  pending_nonneg : 0 ≤ tracker.pendingYield
  disputed_nonneg : 0 ≤ tracker.disputedFunds
  vault_nonneg : 0 ≤ tracker.vaultTotalLocked

/-- The total balances the flows. -/
def Balanced (state : EscrowInvariant × Flows) : Prop :=
  state.2.created = state.1.totalEscrowed + state.2.gone

theorem conserved {state : EscrowInvariant × Flows} (solvent : state.1.Solvent)
    (balanced : Balanced state) : Conserved state.1 state.2 := by
  constructor
  · unfold Balanced Flows.gone at balanced
    rw [solvent.sum]
    linarith
  · exact solvent.total_nonneg
  · exact solvent.active_nonneg
  · exact solvent.pending_nonneg
  · exact solvent.disputed_nonneg
  · rw [solvent.synchronized]
    exact solvent.total_nonneg

/-- The total of the target moves by what is recorded. -/
theorem target_balanced {operation : Operation} {self : EscrowInvariant} {flows : Flows}
    (admitted : operation.Admitted self) (balanced : Balanced (self, flows)) :
    Balanced (operation.target self, record operation self flows) := by
  unfold Balanced Flows.gone at *
  cases operation with
  | leaseCreation depositAmount =>
      simp only [Operation.target, record, created_totalEscrowed] at *
      linarith
  | yieldAccumulation yieldAmount => exact balanced
  | disputeInitiation disputeAmount => exact balanced
  | leaseSettlement tenantRefund landlordPayout protocolFee =>
      simp only [Operation.target, record, settled_totalEscrowed] at *
      linarith
  | mutualRelease returnAmount slashAmount =>
      have all : returnAmount + slashAmount = self.totalEscrowed := admitted.2
      have total : self.clear.totalEscrowed = 0 := rfl
      simp only [Operation.target, record, total] at *
      linarith
  | partialSlashing slashPercentageBps =>
      simp only [Operation.target, record, slashed_totalEscrowed, slashAmount] at *
      linarith

/-- What a run of calls that go through keeps. -/
def Kept (state : EscrowInvariant × Flows) : Prop :=
  state.1.Sound ∧ Balanced state

theorem new_kept : Kept (EscrowInvariant.new, Flows.none) :=
  ⟨new_sound, rfl⟩

theorem kept_annotate {operation : Operation} {state : EscrowInvariant × Flows}
    (succeeds : operation.body.succeeds state.1 = true) (kept : Kept state) :
    Kept (annotate step record operation state) := by
  obtain ⟨sound, balanced⟩ := kept
  have done := completed sound succeeds
  have moved := target_balanced done.admitted balanced
  rw [← done.left] at moved
  exact ⟨done.sound sound, moved⟩

/-- Along a run of calls that go through every deposit stays accounted for, no component goes
below zero and the two counters do not go down. -/
theorem value_conserved {calls : List Operation}
    (succeed : MeetsAlong step (fun operation self => operation.body.succeeds self = true) calls
      EscrowInvariant.new) :
    (∀ earlier, earlier <+: calls →
      Conserved (run (annotate step record) earlier (EscrowInvariant.new, Flows.none)).1
        (run (annotate step record) earlier (EscrowInvariant.new, Flows.none)).2) ∧
    Progresses step Grows calls EscrowInvariant.new := by
  constructor
  · intro earlier within
    have beside := (@meetsAlong_annotate _ _ _ _ record _ earlier
      (EscrowInvariant.new, Flows.none)).mpr (succeed.of_prefix within)
    have kept := invariant_along (fun operation state => kept_annotate) beside new_kept
    exact conserved kept.1.solvent kept.2
  · apply (progresses_iff Grows.refl fun first second third => Grows.trans).mpr
    apply meetsAlong_of_invariant _ _ succeed new_sound
    · intro operation self succeeds sound
      exact (completed sound succeeds).sound sound
    · intro operation self succeeds sound
      exact (completed sound succeeds).grows

/-- A lease that earns, is disputed, slashed and settled, and whose rest is released. -/
def disputedLease : List Operation :=
  [.leaseCreation 1000, .yieldAccumulation 300, .disputeInitiation 500, .partialSlashing 2000,
    .leaseSettlement 100 50 50, .mutualRelease 500 100]

theorem disputedLease_conserved :
    (∀ earlier, earlier <+: disputedLease →
      Conserved (run (annotate step record) earlier (EscrowInvariant.new, Flows.none)).1
        (run (annotate step record) earlier (EscrowInvariant.new, Flows.none)).2) ∧
    Progresses step Grows disputedLease EscrowInvariant.new :=
  value_conserved ⟨rfl, rfl, rfl, rfl, rfl, rfl, trivial⟩

/-! ## The tracker in storage -/

/-- The entry under `EscrowInvariant`. -/
structure Storage where
  escrowInvariant : Option EscrowInvariant

/-- What an integration function returns: every violation becomes `InvalidDeduction`. -/
inductive StorageFault where
  | invalidDeduction
  | panic
  deriving DecidableEq, Repr

/-- Where nothing is stored, a new tracker. -/
def Storage.load (storage : Storage) : EscrowInvariant :=
  storage.escrowInvariant.getD .new

def EscrowInvariant.save (self : EscrowInvariant) : Storage → Storage :=
  fun _ => ⟨some self⟩

/-- An operation that goes through saves what it leaves; a slash of an empty tracker returns
before the save. -/
def Operation.saves (self : EscrowInvariant) : Operation → Bool
  | .partialSlashing _ => self.totalEscrowed ≠ 0
  | _ => true

/-- Load the tracker and apply an operation to it. -/
def update (operation : Operation) : Transaction Storage StorageFault Unit := do
  let self ← inspect Storage.load
  match operation.body.execute self with
  | (.ok _, after) => if operation.saves self = true then modify after.save else pure ()
  | (.error (.err _), _) => throw .invalidDeduction
  | (.error .panic, _) => throw .panic

def initializeInvariantTracking : Transaction Storage StorageFault Unit :=
  modify EscrowInvariant.new.save

def verifyInvariant : Transaction Storage StorageFault Unit := do
  let self ← inspect Storage.load
  match self.verifyCoreInvariant with
  | .ok _ => pure ()
  | .error _ => throw .invalidDeduction

def updateInvariantLeaseCreation (depositAmount : I128) :
    Transaction Storage StorageFault Unit :=
  update (.leaseCreation depositAmount)

def updateInvariantLeaseSettlement (tenantRefund landlordPayout protocolFee : I128) :
    Transaction Storage StorageFault Unit :=
  update (.leaseSettlement tenantRefund landlordPayout protocolFee)

/-- `update` stands for any operation on the tracker as it is loaded. -/
inductive StorageCall where
  | initializeInvariantTracking
  | verifyInvariant
  | updateInvariantLeaseCreation (depositAmount : I128)
  | updateInvariantLeaseSettlement (tenantRefund landlordPayout protocolFee : I128)
  | update (operation : Operation)

def StorageCall.body : StorageCall → Transaction Storage StorageFault Unit
  | .initializeInvariantTracking => Solvency.initializeInvariantTracking
  | .verifyInvariant => Solvency.verifyInvariant
  | .updateInvariantLeaseCreation depositAmount =>
      Solvency.updateInvariantLeaseCreation depositAmount
  | .updateInvariantLeaseSettlement tenantRefund landlordPayout protocolFee =>
      Solvency.updateInvariantLeaseSettlement tenantRefund landlordPayout protocolFee
  | .update operation => Solvency.update operation

/-- What a call leaves in storage when no one rolls its failure back. -/
def StorageCall.step (call : StorageCall) (storage : Storage) : Storage :=
  (call.body.execute storage).2

/-- What an operation adds to the flows; one that fails adds nothing. -/
def tallyUpdate (operation : Operation) (storage : Storage) (flows : Flows) : Flows :=
  if operation.body.succeeds storage.load = true then record operation storage.load flows
  else flows

/-- The flows since tracking was last initialized. -/
def tally : StorageCall → Storage → Flows → Flows
  | .initializeInvariantTracking, _, _ => .none
  | .verifyInvariant, _, flows => flows
  | .updateInvariantLeaseCreation depositAmount, storage, flows =>
      tallyUpdate (.leaseCreation depositAmount) storage flows
  | .updateInvariantLeaseSettlement tenantRefund landlordPayout protocolFee, storage, flows =>
      tallyUpdate (.leaseSettlement tenantRefund landlordPayout protocolFee) storage flows
  | .update operation, storage, flows => tallyUpdate operation storage flows

section Stored

variable {operation : Operation} {storage : Storage}

theorem update_execute : (update operation).execute storage =
    match operation.body.execute storage.load with
    | (.ok _, after) =>
        if operation.saves storage.load = true then (.ok (), after.save storage)
        else (.ok (), storage)
    | (.error (.err _), _) => (.error .invalidDeduction, storage)
    | (.error .panic, _) => (.error .panic, storage) := by
  unfold update
  rw [execute_inspect_bind]
  split
  · split <;> rfl
  · rfl
  · rfl

/-- A failed operation leaves the storage alone, whatever it wrote to the tracker it loaded. -/
theorem update_failed (fails : ¬ operation.body.succeeds storage.load = true) :
    ((update operation).execute storage).2 = storage := by
  rw [update_execute]
  unfold Transaction.succeeds at fails
  split
  · next ran =>
      rw [ran] at fails
      exact absurd rfl fails
  · rfl
  · rfl

/-- An operation that does not save leaves the tracker it loaded. -/
theorem step_of_not_saves (skips : ¬ operation.saves storage.load = true) :
    step operation storage.load = storage.load := by
  cases operation with
  | partialSlashing slashPercentageBps =>
      have empty : storage.load.totalEscrowed = 0 := by
        simpa [Operation.saves] using skips
      show leftBy (applyPartialSlashing slashPercentageBps) storage.load = storage.load
      unfold leftBy applyPartialSlashing
      by_cases within : slashPercentageBps ≤ 10000
      · rw [execute_ensure_bind within, execute_get_bind, if_pos empty]
        rfl
      · rw [execute_ensure_bind_of_not within]
  | leaseCreation depositAmount => exact absurd rfl skips
  | yieldAccumulation yieldAmount => exact absurd rfl skips
  | disputeInitiation disputeAmount => exact absurd rfl skips
  | leaseSettlement tenantRefund landlordPayout protocolFee => exact absurd rfl skips
  | mutualRelease returnAmount slashAmount => exact absurd rfl skips

/-- An operation that goes through leaves in storage what it leaves of the tracker. -/
theorem update_succeeded (succeeds : operation.body.succeeds storage.load = true) :
    ((update operation).execute storage).2.load = step operation storage.load := by
  rw [update_execute]
  unfold Transaction.succeeds at succeeds
  split
  · next after ran =>
      have left : step operation storage.load = after := by
        rw [step, leftBy, ran]
      split
      · exact left.symm
      · next skips => exact (step_of_not_saves skips).symm
  · next ran =>
      rw [ran] at succeeds
      cases succeeds
  · next ran =>
      rw [ran] at succeeds
      cases succeeds

/-- The stored tracker is sound, and its total balances the flows since it was initialized. -/
def Filed (state : Storage × Flows) : Prop :=
  Kept (state.1.load, state.2)

theorem update_filed {flows : Flows} (filed : Filed (storage, flows)) :
    Filed (((update operation).execute storage).2, tallyUpdate operation storage flows) := by
  unfold Filed tallyUpdate
  by_cases succeeds : operation.body.succeeds storage.load = true
  · rw [if_pos succeeds, update_succeeded succeeds]
    exact kept_annotate succeeds filed
  · rw [if_neg succeeds, update_failed succeeds]
    exact filed

theorem verifyInvariant_reads : (verifyInvariant.execute storage).2 = storage := by
  unfold verifyInvariant
  rw [execute_inspect_bind]
  split <;> rfl

theorem verifyInvariant_succeeds (solvent : storage.load.Solvent) :
    verifyInvariant.succeeds storage = true := by
  unfold verifyInvariant Transaction.succeeds
  rw [execute_inspect_bind, verifyCoreInvariant_eq_ok.mpr solvent]
  rfl

theorem filed_annotate (call : StorageCall) (state : Storage × Flows) (filed : Filed state) :
    Filed (annotate StorageCall.step tally call state) := by
  cases call with
  | initializeInvariantTracking => exact new_kept
  | verifyInvariant =>
      show Kept ((verifyInvariant.execute state.1).2.load, state.2)
      rw [verifyInvariant_reads]
      exact filed
  | updateInvariantLeaseCreation depositAmount => exact update_filed filed
  | updateInvariantLeaseSettlement tenantRefund landlordPayout protocolFee =>
      exact update_filed filed
  | update operation => exact update_filed filed

end Stored

/-- After any calls, failed ones among them, the stored tracker passes its own check and accounts
for every deposit since tracking was last initialized. -/
theorem stored_tracker_accounted (calls : List StorageCall) :
    verifyInvariant.succeeds (run StorageCall.step calls ⟨none⟩) = true ∧
    Conserved (run StorageCall.step calls ⟨none⟩).load
      (run (annotate StorageCall.step tally) calls (⟨none⟩, Flows.none)).2 := by
  have start : Filed (⟨none⟩, Flows.none) := new_kept
  have filed := invariant filed_annotate calls start
  have reached : (run (annotate StorageCall.step tally) calls (⟨none⟩, Flows.none)).1 =
      run StorageCall.step calls ⟨none⟩ := run_annotate_fst calls _
  have solvent := filed.1.solvent
  have accounts := conserved solvent filed.2
  rw [reached] at solvent accounts
  exact ⟨verifyInvariant_succeeds solvent, accounts⟩

end LeaseFlow.Solvency
