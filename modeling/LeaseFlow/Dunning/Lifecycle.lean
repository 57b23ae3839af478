import LeaseFlow.Dunning.Effect

/-!
# The dunning lifecycle of a lease

What a committed call does to one lease record, the relation between state, dunning
start, balances and the processed flag that it keeps, and what must have happened
before a lease is evicted.
-/

set_option autoImplicit false

namespace LeaseFlow.Dunning

open Transaction Run

/-! ## Changes of one lease -/

/-- What a committed call does to the lease with the given id. -/
inductive LeaseStep (env : Env) : Operation → U64 → Lease → Lease → Prop where
  | activated {leaseId : U64} {lease : Lease} (pending : lease.state = .pending) :
      LeaseStep env (.activateLease leaseId lease.lessee) leaseId lease
        (lease.activate env.timestamp)
  | paid {leaseId : U64} {lease : Lease} {amount totalPaidRent : I64}
      (active : lease.state = .active) (enough : lease.rentAmount ≤ amount) :
      LeaseStep env (.processRentPayment leaseId amount) leaseId lease
        (lease.pay env.timestamp totalPaidRent)
  | recovered {leaseId : U64} {lease : Lease} {amount totalPaidRent : I64}
      (late : lease.state = .gracePeriod) :
      LeaseStep env (.processRentPayment leaseId amount) leaseId lease
        (lease.recover env.timestamp totalPaidRent)
  | enteredGracePeriod {leaseId : U64} {lease : Lease} {lateFeeAmount : I64}
      (active : lease.state = .active)
      (lateFee : calculateLateFee lease lease.rentAmount = .ok lateFeeAmount) :
      LeaseStep env (.handleRentPaymentFailure leaseId) leaseId lease
        (lease.enterGracePeriod env.timestamp lateFeeAmount)
  | evicted {operation : Operation} {leaseId dunningStart : U64} {lease : Lease}
      (asked : operation.checkedLease = some leaseId) (late : lease.state = .gracePeriod)
      (dunning : lease.dunningStartTimestamp = some dunningStart)
      (expired : dunningStart + lease.maxGracePeriod < env.timestamp) :
      LeaseStep env operation leaseId lease lease.evict.processArrears
  | deducted {leaseId : U64} {lease : Lease} (evicted : lease.state = .evictionPending) :
      LeaseStep env (.executeArrearsDeduction leaseId) leaseId lease lease.processArrears
  | billed {leaseId : U64} {lease : Lease} {price : PriceData} {totalPaidRent : I64}
      (active : lease.state = .active) :
      LeaseStep env (.processFiatPeggedRentPayment leaseId) leaseId lease
        (lease.bill env.timestamp price totalPaidRent)
  | closed {leaseId : U64} {lease : Lease} {caller : Address} (active : lease.state = .active) :
      LeaseStep env (.terminateLease leaseId caller) leaseId lease lease.close

/-- Every stored id has been issued. -/
def ContractData.Issued (data : ContractData) : Prop :=
  ∀ leaseId lease, data.leases.lookup leaseId = some lease → leaseId < data.nextLeaseId

theorem ContractData.Issued.put {data : ContractData} {leaseId : U64} {lease : Lease}
    (issued : data.Issued) (found : data.leases.lookup leaseId = some lease) (record : Lease) :
    (data.put leaseId record).Issued :=
  Table.forall_set issued fun _ _ => issued leaseId lease found

theorem ContractData.Issued.issue {data : ContractData} (issued : data.Issued) (lease : Lease) :
    (data.issue lease).Issued :=
  Table.forall_set (fun other stored found => Nat.lt_succ_of_lt (issued other stored found))
    fun _ _ => Nat.lt_succ_self data.nextLeaseId

theorem Deduction.leases {env : Env} {leaseId : U64} {lease : Lease} {data after : ContractData}
    (deduction : Deduction env leaseId lease data after) :
    after.leases = data.leases.set leaseId (some lease.processArrears) ∧
      after.nextLeaseId = data.nextLeaseId := by
  cases deduction
  exact ⟨rfl, rfl⟩

theorem ContractData.lookup_put {data : ContractData} {leaseId other : U64}
    {record found : Lease} (stored : (data.put leaseId record).leases.lookup other = some found) :
    (other = leaseId ∧ found = record) ∨
      (other ≠ leaseId ∧ data.leases.lookup other = some found) := by
  rw [ContractData.put, Table.lookup_set] at stored
  split at stored
  · next same =>
      cases stored
      exact .inl ⟨same, rfl⟩
  · next distinct => exact .inr ⟨distinct, stored⟩

/-- The lease record under an id. -/
def leaseAt (leaseId : U64) (data : Option ContractData) : Option Lease :=
  data.bind fun stored => stored.leases.lookup leaseId

/-- A property of the contract data, once there is any. -/
def Holds (property : ContractData → Prop) (data : Option ContractData) : Prop :=
  ∀ stored, data = some stored → property stored

/-- A record found after a call is new, as it was, or changed by the call. -/
inductive Traced (env : Env) (operation : Operation) (leaseId : U64)
    (before : Option ContractData) (lease : Lease) : Prop where
  | new (absent : leaseAt leaseId before = none) (new : lease.IsNew leaseId)
  | same (found : leaseAt leaseId before = some lease)
  | changed {prior : Lease} (found : leaseAt leaseId before = some prior)
      (change : LeaseStep env operation leaseId prior lease)

section Effects

variable {env : Env} {operation : Operation} {before after : Option ContractData}

theorem Traced.of_put {data : ContractData} {leaseId other : U64} {prior record lease : Lease}
    (found : data.leases.lookup leaseId = some prior)
    (change : LeaseStep env operation leaseId prior record)
    (stored : (data.put leaseId record).leases.lookup other = some lease) :
    Traced env operation other (some data) lease := by
  rcases ContractData.lookup_put stored with ⟨rfl, rfl⟩ | ⟨_, kept⟩
  · exact .changed found change
  · exact .same kept

theorem Effect.traced (effect : Effect env operation before after)
    (issued : Holds ContractData.Issued before) {leaseId : U64} {lease : Lease}
    (stored : leaseAt leaseId after = some lease) :
    Traced env operation leaseId before lease := by
  cases effect with
  | initialized oracleAddress before => simp [leaseAt, ContractData.initial] at stored
  | @created data created new prorated next =>
      have fresh : data.leases.lookup data.nextLeaseId = none := by
        cases found : data.leases.lookup data.nextLeaseId with
        | none => rfl
        | some other => exact absurd (issued data rfl _ other found) (lt_irrefl _)
      change (data.leases.set data.nextLeaseId (some created)).lookup leaseId = some lease at stored
      rw [Table.lookup_set] at stored
      split at stored
      · next same =>
          subst same
          cases stored
          exact .new fresh new
      · exact .same stored
  | activated found pending locked available => exact .of_put found (.activated pending) stored
  | paid found active enough total => exact .of_put found (.paid active enough) stored
  | recovered found late required enough total => exact .of_put found (.recovered late) stored
  | enteredGracePeriod found active lateFee within =>
      exact .of_put found (.enteredGracePeriod active lateFee) stored
  | @evicted _ data final evictedId dunningStart evicted asked found late dunning expired deducted =>
      change final.leases.lookup leaseId = some lease at stored
      rw [deducted.leases.1] at stored
      rcases ContractData.lookup_put stored with ⟨rfl, rfl⟩ | ⟨distinct, kept⟩
      · exact .changed found (.evicted asked late dunning expired)
      · rcases ContractData.lookup_put kept with ⟨same, _⟩ | ⟨_, kept⟩
        · exact absurd same distinct
        · exact .same kept
  | @deducted data final deductedId deducted found evicted unprocessed deduction =>
      change final.leases.lookup leaseId = some lease at stored
      rw [deduction.leases.1] at stored
      exact .of_put found (.deducted evicted) stored
  | billed found active pegged enabled first bill second total =>
      exact .of_put found (.billed active) stored
  | closed found active party refunded => exact .of_put found (.closed active) stored
  | idle asked => exact .same stored

theorem Effect.issued (effect : Effect env operation before after)
    (issued : Holds ContractData.Issued before) : Holds ContractData.Issued after := by
  intro data stored
  cases effect with
  | initialized oracleAddress before =>
      cases stored
      intro leaseId lease found
      simp [ContractData.initial] at found
  | created new prorated next =>
      cases stored
      exact (issued _ rfl).issue _
  | activated found pending locked available =>
      cases stored
      exact ContractData.Issued.put (issued _ rfl) found _
  | paid found active enough total =>
      cases stored
      exact (issued _ rfl).put found _
  | recovered found late required enough total =>
      cases stored
      exact (issued _ rfl).put found _
  | enteredGracePeriod found active lateFee within =>
      cases stored
      exact (issued _ rfl).put found _
  | evicted asked found late dunning expired deducted =>
      cases stored
      cases deducted
      exact ContractData.Issued.put ((issued _ rfl).put found _) (Table.lookup_set_self _ _ _) _
  | deducted found evicted unprocessed deduction =>
      cases stored
      cases deduction
      exact ContractData.Issued.put (issued _ rfl) found _
  | billed found active pegged enabled first bill second total =>
      cases stored
      exact (issued _ rfl).put found _
  | closed found active party refunded =>
      cases stored
      exact (issued _ rfl).put found _
  | idle asked => exact issued data stored

end Effects

theorem step_issued (call : Call) (store : Store) (issued : Holds ContractData.Issued store.data) :
    Holds ContractData.Issued (step call store).data := by
  rcases step_effect call store with effect | same
  · exact effect.issued issued
  · rwa [same]

theorem run_issued (calls : List Call) :
    Holds ContractData.Issued (run step calls newContract).data :=
  invariant step_issued calls nofun

/-- What a step does to the lease record under an id. -/
theorem step_traced {call : Call} {store : Store} (issued : Holds ContractData.Issued store.data)
    {leaseId : U64} {lease : Lease} (stored : leaseAt leaseId (step call store).data = some lease) :
    Traced call.env call.operation leaseId store.data lease := by
  rcases step_effect call store with effect | same
  · exact effect.traced issued stored
  · rw [same] at stored
    exact .same stored

/-! ## Consistent leases -/

/-- Rent is overdue. -/
def Lease.Overdue (lease : Lease) : Prop :=
  lease.state = .gracePeriod ∨ lease.state = .evictionPending

/-- What the fields of a lease say about each other. -/
structure Lease.Consistent (lease : Lease) : Prop where
  rent_pos : 0 < lease.rentAmount
  deposit_pos : 0 < lease.depositAmount
  dunning : lease.dunningStartTimestamp.isSome = true ↔ lease.Overdue
  owed : lease.Overdue → lease.outstandingBalance = lease.rentAmount ∧
    lease.accumulatedLateFees = lease.rentAmount * lease.lateFeeRate / 10000
  cleared : ¬ lease.Overdue → lease.outstandingBalance = 0 ∧ lease.accumulatedLateFees = 0
  processed : lease.arrearsProcessed = true ↔ lease.state = .evictionPending

theorem calculateLateFee_ok {lease : Lease} {baseAmount fee : I64}
    (ok : calculateLateFee lease baseAmount = .ok fee) :
    fee = baseAmount * lease.lateFeeRate / 10000 := by
  unfold calculateLateFee at ok
  split at ok
  · cases ok
  · cases ok
    rfl

/-- A lease with nothing overdue, nothing owed and no arrears processed. -/
structure Lease.Clear (lease : Lease) : Prop where
  settled : ¬ lease.Overdue
  dunning : lease.dunningStartTimestamp = none
  outstanding : lease.outstandingBalance = 0
  lateFees : lease.accumulatedLateFees = 0
  unprocessed : lease.arrearsProcessed = false

theorem Lease.Consistent.of_clear {lease : Lease} (rent_pos : 0 < lease.rentAmount)
    (deposit_pos : 0 < lease.depositAmount) (clear : lease.Clear) : lease.Consistent where
  rent_pos := rent_pos
  deposit_pos := deposit_pos
  dunning := by simp [clear.dunning, clear.settled]
  owed overdue := absurd overdue clear.settled
  cleared _ := ⟨clear.outstanding, clear.lateFees⟩
  processed := by
    rw [clear.unprocessed]
    exact ⟨nofun, fun evicted => absurd (.inr evicted) clear.settled⟩

theorem Lease.Consistent.unprocessed {lease : Lease} (consistent : lease.Consistent)
    (early : lease.state ≠ .evictionPending) : lease.arrearsProcessed = false :=
  (Bool.not_eq_true _).mp (mt consistent.processed.mp early)

theorem Lease.Consistent.clear {lease : Lease} (consistent : lease.Consistent)
    (settled : ¬ lease.Overdue) : lease.Clear where
  settled := settled
  dunning := by
    have absent := mt consistent.dunning.mp settled
    rwa [Option.isSome_iff_ne_none, not_not] at absent
  outstanding := (consistent.cleared settled).1
  lateFees := (consistent.cleared settled).2
  unprocessed := consistent.unprocessed fun evicted => settled (.inr evicted)

theorem Lease.Consistent.lateFees_nonneg {lease : Lease} (consistent : lease.Consistent)
    (overdue : lease.Overdue) : 0 ≤ lease.accumulatedLateFees := by
  rw [(consistent.owed overdue).2]
  have rent_pos := consistent.rent_pos
  positivity

theorem Lease.not_overdue {lease : Lease} {state : LeaseState} (same : lease.state = state)
    (timely : state ≠ .gracePeriod ∧ state ≠ .evictionPending) : ¬ lease.Overdue := by
  rintro (late | evicted)
  · exact timely.1 (same.symm.trans late)
  · exact timely.2 (same.symm.trans evicted)

theorem Lease.activate_timely (timestamp : U64) (lease : Lease) :
    ¬ (lease.activate timestamp).Overdue :=
  Lease.not_overdue rfl ⟨LeaseState.noConfusion, LeaseState.noConfusion⟩

theorem Lease.recover_timely (timestamp : U64) (totalPaidRent : I64) (lease : Lease) :
    ¬ (lease.recover timestamp totalPaidRent).Overdue :=
  Lease.not_overdue rfl ⟨LeaseState.noConfusion, LeaseState.noConfusion⟩

theorem Lease.close_timely (lease : Lease) : ¬ lease.close.Overdue :=
  Lease.not_overdue rfl ⟨LeaseState.noConfusion, LeaseState.noConfusion⟩

theorem Lease.IsNew.consistent {leaseId : U64} {lease : Lease} (new : lease.IsNew leaseId) :
    lease.Consistent :=
  .of_clear new.rent_pos new.deposit_pos
    ⟨Lease.not_overdue new.state (by decide), new.dunningStart, new.outstanding, new.lateFees,
      new.unprocessed⟩

theorem LeaseStep.consistent {env : Env} {operation : Operation} {leaseId : U64}
    {prior lease : Lease} (change : LeaseStep env operation leaseId prior lease)
    (consistent : prior.Consistent) : lease.Consistent := by
  have rent_pos := consistent.rent_pos
  have deposit_pos := consistent.deposit_pos
  cases change with
  | activated pending =>
      have clear := consistent.clear (Lease.not_overdue pending (by decide))
      exact .of_clear rent_pos deposit_pos ⟨prior.activate_timely env.timestamp, clear.dunning,
        clear.outstanding, clear.lateFees, clear.unprocessed⟩
  | paid active enough =>
      have clear := consistent.clear (Lease.not_overdue active (by decide))
      exact .of_clear rent_pos deposit_pos
        ⟨Lease.not_overdue active (by decide), clear.dunning, rfl, rfl, clear.unprocessed⟩
  | recovered late =>
      have unprocessed := consistent.unprocessed (by simp [late])
      exact .of_clear rent_pos deposit_pos
        ⟨prior.recover_timely env.timestamp _, rfl, rfl, rfl, unprocessed⟩
  | enteredGracePeriod active lateFee =>
      have clear := consistent.clear (Lease.not_overdue active (by decide))
      exact {
        rent_pos, deposit_pos
        dunning := by simp [Lease.enterGracePeriod, Lease.Overdue]
        owed := fun _ => ⟨rfl, calculateLateFee_ok lateFee⟩
        cleared := fun settled => absurd (.inl rfl) settled
        processed := by simp [Lease.enterGracePeriod, clear.unprocessed] }
  | evicted asked late dunning expired =>
      exact {
        rent_pos, deposit_pos
        dunning := by simp [Lease.evict, Lease.processArrears, Lease.Overdue, dunning]
        owed := fun _ => consistent.owed (.inl late)
        cleared := fun settled => absurd (.inr rfl) settled
        processed := by simp [Lease.evict, Lease.processArrears] }
  | deducted evicted =>
      exact {
        rent_pos, deposit_pos
        dunning := consistent.dunning
        owed := consistent.owed
        cleared := consistent.cleared
        processed := by simp [Lease.processArrears, evicted] }
  | billed active =>
      have clear := consistent.clear (Lease.not_overdue active (by decide))
      exact .of_clear rent_pos deposit_pos ⟨Lease.not_overdue active (by decide), clear.dunning,
        clear.outstanding, clear.lateFees, clear.unprocessed⟩
  | closed active =>
      have clear := consistent.clear (Lease.not_overdue active (by decide))
      exact .of_clear rent_pos deposit_pos
        ⟨prior.close_timely, clear.dunning, clear.outstanding, clear.lateFees, clear.unprocessed⟩

theorem step_consistent {call : Call} {store : Store}
    (issued : Holds ContractData.Issued store.data)
    (consistent : ∀ leaseId lease, leaseAt leaseId store.data = some lease → lease.Consistent) :
    ∀ leaseId lease, leaseAt leaseId (step call store).data = some lease → lease.Consistent := by
  intro leaseId lease stored
  cases step_traced issued stored with
  | new absent new => exact new.consistent
  | same found => exact consistent leaseId lease found
  | changed found change => exact change.consistent (consistent leaseId _ found)

theorem run_consistent (calls : List Call) :
    ∀ leaseId lease, leaseAt leaseId (run step calls newContract).data = some lease →
      lease.Consistent := by
  have both : Holds ContractData.Issued (run step calls newContract).data ∧
      ∀ leaseId lease, leaseAt leaseId (run step calls newContract).data = some lease →
        lease.Consistent :=
    @invariant _ _ step
      (fun store => Holds ContractData.Issued store.data ∧
        ∀ leaseId lease, leaseAt leaseId store.data = some lease → lease.Consistent)
      (fun call store inv => ⟨step_issued call store inv.1, step_consistent inv.1 inv.2⟩)
      calls newContract ⟨nofun, fun leaseId lease found => by simp [leaseAt, newContract] at found⟩
  exact both.2

/-! ## State changes -/

inductive StateChange : LeaseState → LeaseState → Prop where
  | activation : StateChange .pending .active
  | delinquency : StateChange .active .gracePeriod
  | recovery : StateChange .gracePeriod .active
  | eviction : StateChange .gracePeriod .evictionPending
  | closure : StateChange .active .closed

section Changes

variable {env : Env} {operation : Operation} {leaseId : U64} {prior lease : Lease}

theorem LeaseStep.state (change : LeaseStep env operation leaseId prior lease) :
    lease.state = prior.state ∨ StateChange prior.state lease.state := by
  cases change with
  | activated pending =>
      rw [pending]
      exact .inr .activation
  | paid active enough => exact .inl rfl
  | recovered late =>
      rw [late]
      exact .inr .recovery
  | enteredGracePeriod active lateFee =>
      rw [active]
      exact .inr .delinquency
  | evicted asked late dunning expired =>
      rw [late]
      exact .inr .eviction
  | deducted evicted => exact .inl rfl
  | billed active => exact .inl rfl
  | closed active =>
      rw [active]
      exact .inr .closure

theorem LeaseStep.of_gracePeriod (change : LeaseStep env operation leaseId prior lease)
    (late : lease.state = .gracePeriod) :
    operation = .handleRentPaymentFailure leaseId ∧
      lease.dunningStartTimestamp = some env.timestamp := by
  cases change with
  | activated pending => cases late
  | paid active enough => cases active.symm.trans late
  | recovered late => cases late
  | enteredGracePeriod active lateFee => exact ⟨rfl, rfl⟩
  | evicted asked before dunning expired => cases late
  | deducted evicted => cases evicted.symm.trans late
  | billed active => cases active.symm.trans late
  | closed active => cases late

theorem LeaseStep.of_evictionPending (change : LeaseStep env operation leaseId prior lease)
    (evicted : lease.state = .evictionPending) (entered : prior.state ≠ .evictionPending) :
    prior.state = .gracePeriod ∧ ∃ dunningStart, prior.dunningStartTimestamp = some dunningStart ∧
      lease.dunningStartTimestamp = some dunningStart ∧
      dunningStart + lease.maxGracePeriod < env.timestamp := by
  cases change with
  | activated pending => cases evicted
  | paid active enough => cases active.symm.trans evicted
  | recovered late => cases evicted
  | enteredGracePeriod active lateFee => cases evicted
  | evicted asked late dunning expired => exact ⟨late, _, dunning, dunning, expired⟩
  | deducted before => exact absurd before entered
  | billed active => cases active.symm.trans evicted
  | closed active => cases evicted

end Changes

/-! ## The time before an eviction -/

/-- The lease whose rent an operation pays. -/
def Operation.paidLease : Operation → Option U64
  | .processRentPayment leaseId _ => some leaseId
  | .processFiatPeggedRentPayment leaseId => some leaseId
  | _ => none

theorem Operation.checkedLease_of_paidLease {operation : Operation} {leaseId : U64}
    (pays : operation.paidLease = some leaseId) : operation.checkedLease = none := by
  cases operation with
  | processRentPayment => rfl
  | processFiatPeggedRentPayment => rfl
  | _ => cases pays

/-- A committed payment leaves its lease active. -/
theorem Effect.of_payment {env : Env} {operation : Operation} {before after : Option ContractData}
    (effect : Effect env operation before after) {leaseId : U64}
    (pays : operation.paidLease = some leaseId) {lease : Lease}
    (stored : leaseAt leaseId after = some lease) : lease.state = .active := by
  have put : ∀ {data : ContractData} {record : Lease},
      leaseAt leaseId (some (data.put leaseId record)) = some lease → lease = record := by
    intro data record found
    change (data.leases.set leaseId (some record)).lookup leaseId = some lease at found
    rw [Table.lookup_set_self] at found
    exact (Option.some.inj found).symm
  cases effect with
  | paid found active enough total =>
      cases pays
      rw [put stored]
      exact active
  | recovered found late required enough total =>
      cases pays
      rw [put stored]
      rfl
  | billed found active pegged enabled first bill second total =>
      cases pays
      rw [put stored]
      exact active
  | evicted asked found late dunning expired deducted =>
      rw [Operation.checkedLease_of_paidLease pays] at asked
      cases asked
  | idle asked =>
      rw [Operation.checkedLease_of_paidLease pays] at asked
      cases asked
  | _ => cases pays

/-- The call is a payment of the lease that goes through. -/
def AcceptsPayment (leaseId : U64) (call : Call) (store : Store) : Prop :=
  call.operation.paidLease = some leaseId ∧ call.body.succeeds store = true

theorem AcceptsPayment.active {leaseId : U64} {call : Call} {store : Store} {lease : Lease}
    (accepts : AcceptsPayment leaseId call store)
    (stored : leaseAt leaseId (step call store).data = some lease) : lease.state = .active :=
  (call_effect (commits_attempt accepts.2)).of_payment accepts.1 stored

/-- The grace period of a lease began with the failed payment reported last, and no
payment of the lease has been accepted since. -/
structure UnpaidSince (leaseId dunningStart : U64) (earlier : List Call) (failure : Call)
    (since : List Call) : Prop where
  reported : failure.operation = .handleRentPaymentFailure leaseId
  accepted : failure.body.succeeds (run step earlier newContract) = true
  timestamp : failure.env.timestamp = dunningStart
  unpaid : MeetsAlong step (fun call store => ¬ AcceptsPayment leaseId call store) since
    (run step (earlier ++ [failure]) newContract)

theorem UnpaidSince.extend {leaseId dunningStart : U64} {earlier since : List Call}
    {failure call : Call} (unpaidSince : UnpaidSince leaseId dunningStart earlier failure since)
    (refused : ¬ AcceptsPayment leaseId call (run step (earlier ++ failure :: since) newContract)) :
    UnpaidSince leaseId dunningStart earlier failure (since ++ [call]) where
  reported := unpaidSince.reported
  accepted := unpaidSince.accepted
  timestamp := unpaidSince.timestamp
  unpaid := by
    refine (meetsAlong_append since [call] _).mpr ⟨unpaidSince.unpaid, ?_, trivial⟩
    rwa [← run_append, List.append_assoc, List.singleton_append]

theorem gracePeriod_unpaidSince (calls : List Call) :
    ∀ {leaseId dunningStart : U64} {lease : Lease},
      leaseAt leaseId (run step calls newContract).data = some lease →
      lease.state = .gracePeriod → lease.dunningStartTimestamp = some dunningStart →
      ∃ earlier failure since, calls = earlier ++ failure :: since ∧
        UnpaidSince leaseId dunningStart earlier failure since := by
  induction calls using List.reverseRecOn with
  | nil =>
      intro leaseId dunningStart lease stored
      simp [run, leaseAt, newContract] at stored
  | append_singleton calls call ih =>
      intro leaseId dunningStart lease stored late dunning
      rw [run_append] at stored
      -- A refused call, and an accepted one that leaves the lease alone, prolong the wait.
      have prolonged : leaseAt leaseId (run step calls newContract).data = some lease →
          ∃ earlier failure since, calls ++ [call] = earlier ++ failure :: since ∧
            UnpaidSince leaseId dunningStart earlier failure since := by
        intro found
        obtain ⟨earlier, failure, since, rfl, unpaidSince⟩ := ih found late dunning
        have refused : ¬ AcceptsPayment leaseId call
            (run step (earlier ++ failure :: since) newContract) := by
          intro accepts
          cases (accepts.active stored).symm.trans late
        exact ⟨earlier, failure, since ++ [call], by rw [List.append_assoc, List.cons_append],
          unpaidSince.extend refused⟩
      by_cases ok : call.body.succeeds (run step calls newContract) = true
      · cases step_traced (run_issued calls) stored with
        | new absent new => cases new.state.symm.trans late
        | same found => exact prolonged found
        | changed found change =>
            obtain ⟨reported, started⟩ := change.of_gracePeriod late
            refine ⟨calls, call, [], rfl, reported, ok, ?_, trivial⟩
            exact Option.some.inj (started.symm.trans dunning)
      · have same : step call (run step calls newContract) = run step calls newContract :=
          attempt_of_not_succeeds (Bool.not_eq_true _ ▸ ok)
        change leaseAt leaseId (step call (run step calls newContract)).data = some lease at stored
        rw [same] at stored
        exact prolonged stored

/-! ## The lifecycle -/

/-- In every run, lease records are consistent, their states change along the lifecycle
only, and a lease is evicted after its grace period has run out unpaid. -/
theorem dunning_lifecycle (calls : List Call) (leaseId : U64) :
    (∀ lease, leaseAt leaseId (run step calls newContract).data = some lease →
      lease.Consistent) ∧
    (∀ call after, leaseAt leaseId (step call (run step calls newContract)).data = some after →
      (leaseAt leaseId (run step calls newContract).data = none ∧ after.state = .pending) ∨
      ∃ before, leaseAt leaseId (run step calls newContract).data = some before ∧
        (after.state = before.state ∨ StateChange before.state after.state) ∧
        (before.state ≠ .evictionPending → after.state = .evictionPending →
          ∃ dunningStart earlier failure since,
            after.dunningStartTimestamp = some dunningStart ∧
            dunningStart + after.maxGracePeriod < call.env.timestamp ∧
            calls = earlier ++ failure :: since ∧
            UnpaidSince leaseId dunningStart earlier failure since)) := by
  refine ⟨run_consistent calls leaseId, fun call after stored => ?_⟩
  cases step_traced (run_issued calls) stored with
  | new absent new => exact .inl ⟨absent, new.state⟩
  | same found =>
      exact .inr ⟨after, found, .inl rfl, fun entered evicted => absurd evicted entered⟩
  | @changed before found change =>
      refine .inr ⟨before, found, change.state, fun entered evicted => ?_⟩
      obtain ⟨late, dunningStart, dunning, kept, expired⟩ :=
        change.of_evictionPending evicted entered
      obtain ⟨earlier, failure, since, split, unpaidSince⟩ :=
        gracePeriod_unpaidSince calls found late dunning
      exact ⟨dunningStart, earlier, failure, since, kept, expired, split, unpaidSince⟩

end LeaseFlow.Dunning
