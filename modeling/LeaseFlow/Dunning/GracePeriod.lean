import LeaseFlow.Dunning.CreditHistory

/-!
# Leaving the grace period

A lease in its grace period leaves it by a payment or by an eviction, and both add amounts in
`i64`.  A sum that does not fit panics, and the lease stays where it is.
-/

set_option autoImplicit false

namespace LeaseFlow.Dunning

open Transaction Run Table

/-! ## Bounds of the amounts -/

/-- What a lease has paid is not negative, and its grace period ends within `u64`. -/
structure Lease.Bounded (lease : Lease) : Prop where
  paid_nonneg : 0 ≤ lease.totalPaidRent
  graceEnd : ∀ dunningStart, lease.dunningStartTimestamp = some dunningStart →
    dunningStart + lease.maxGracePeriod ≤ u64Max

structure ContractData.Bounded (data : ContractData) : Prop where
  leases : ∀ leaseId lease, data.leases.lookup leaseId = some lease → lease.Bounded
  totalLocked : data.escrowVault.totalLocked ≤ i64Max

theorem Deduction.vault {env : Env} {leaseId : U64} {lease : Lease} {data after : ContractData}
    (deduction : Deduction env leaseId lease data after) :
    after.escrowVault.totalLocked = data.escrowVault.totalLocked := by
  cases deduction
  rfl

theorem zero_le_i64Max : 0 ≤ i64Max := by
  decide

section Bounds

variable {env : Env} {operation : Operation} {before after : Option ContractData}

theorem ContractData.Bounded.put {data : ContractData} {leaseId : U64} {record : Lease}
    (bounded : data.Bounded) (fits : record.Bounded) : (data.put leaseId record).Bounded where
  leases := forall_set bounded.leases fun _ same => by
    cases same
    exact fits
  totalLocked := bounded.totalLocked

theorem ContractData.Bounded.deduct {data final : ContractData} {leaseId : U64} {lease : Lease}
    (bounded : data.Bounded) (fits : lease.Bounded)
    (deduction : Deduction env leaseId lease data final) : final.Bounded where
  leases := by
    rw [deduction.leases.1]
    exact (bounded.put (show lease.processArrears.Bounded from ⟨fits.paid_nonneg, fits.graceEnd⟩)).leases
  totalLocked := deduction.vault ▸ bounded.totalLocked

theorem Lease.Bounded.paid_add {lease : Lease} {amount totalPaidRent : I64} (bounded : lease.Bounded)
    (amount_nonneg : 0 ≤ amount) (total : addI64 lease.totalPaidRent amount = some totalPaidRent) :
    0 ≤ totalPaidRent := by
  obtain ⟨_, rfl⟩ := Checked.within_eq_some.mp total
  exact add_nonneg bounded.paid_nonneg amount_nonneg

theorem Effect.bounded (effect : Effect env operation before after)
    (consistent : ∀ leaseId lease, leaseAt leaseId before = some lease → lease.Consistent)
    (bounded : Holds ContractData.Bounded before) : Holds ContractData.Bounded after := by
  intro data stored
  cases effect with
  | initialized oracleAddress before =>
      cases stored
      exact ⟨fun leaseId lease found => by simp [ContractData.initial] at found, zero_le_i64Max⟩
  | @created data lease new prorated next =>
      cases stored
      have fits : lease.Bounded := ⟨new.unpaid.ge, by simp [new.dunningStart]⟩
      exact ⟨((bounded data rfl).put fits).leases, (bounded data rfl).totalLocked⟩
  | @activated data leaseId lease _ _ found pending locked available =>
      cases stored
      obtain ⟨⟨_, within⟩, rfl⟩ := Checked.within_eq_some.mp locked
      have fits := (bounded data rfl).leases leaseId lease found
      have kept : (lease.activate env.timestamp).Bounded := ⟨fits.paid_nonneg, fits.graceEnd⟩
      exact ⟨((bounded data rfl).put kept).leases, within⟩
  | @paid data leaseId lease amount totalPaidRent found active enough total =>
      cases stored
      have fits := (bounded data rfl).leases leaseId lease found
      have rent_pos := (consistent leaseId lease found).rent_pos
      apply (bounded data rfl).put
      exact ⟨fits.paid_add (rent_pos.le.trans enough) total, fits.graceEnd⟩
  | @recovered data leaseId lease amount _ totalPaidRent found late required enough total =>
      cases stored
      have fits := (bounded data rfl).leases leaseId lease found
      have leaseConsistent := consistent leaseId lease found
      obtain ⟨_, rfl⟩ := Checked.within_eq_some.mp required
      have fees_nonneg := leaseConsistent.lateFees_nonneg (.inl late)
      have required_nonneg := add_nonneg leaseConsistent.rent_pos.le fees_nonneg
      apply (bounded data rfl).put
      exact ⟨fits.paid_add (required_nonneg.trans enough) total, by simp [Lease.recover]⟩
  | @enteredGracePeriod data leaseId lease lateFeeAmount found active lateFee within =>
      cases stored
      have fits := (bounded data rfl).leases leaseId lease found
      apply (bounded data rfl).put
      refine ⟨fits.paid_nonneg, fun dunningStart started => ?_⟩
      cases started
      exact within
  | @evicted _ data final leaseId dunningStart lease asked found late dunning expired deducted =>
      cases stored
      have fits := (bounded data rfl).leases leaseId lease found
      have kept : lease.evict.Bounded := ⟨fits.paid_nonneg, fits.graceEnd⟩
      exact ((bounded data rfl).put kept).deduct kept deducted
  | @deducted data final leaseId lease found evicted unprocessed deduction =>
      cases stored
      exact (bounded data rfl).deduct ((bounded data rfl).leases leaseId lease found) deduction
  | @billed data leaseId lease _ _ _ amount totalPaidRent found active pegged enabled first bill second total =>
      cases stored
      have fits := (bounded data rfl).leases leaseId lease found
      apply (bounded data rfl).put
      exact ⟨fits.paid_add bill.positive.le total, fits.graceEnd⟩
  | @closed data leaseId lease _ found active _ party refunded =>
      cases stored
      have fits := (bounded data rfl).leases leaseId lease found
      apply (bounded data rfl).put
      exact ⟨fits.paid_nonneg, fits.graceEnd⟩
  | idle asked => exact bounded data stored

end Bounds

theorem run_bounded (calls : List Call) :
    Holds ContractData.Bounded (run step calls newContract).data := by
  induction calls using List.reverseRecOn with
  | nil => exact nofun
  | append_singleton calls call ih =>
      rw [run_append]
      change Holds _ (step call (run step calls newContract)).data
      rcases step_effect call (run step calls newContract) with effect | same
      · exact effect.bounded (run_consistent calls) ih
      · rwa [same]

/-! ## The residual debt fits the record -/

/-- The record of the lessee has room for the residual debt, if there is any. -/
def ContractData.DebtFits (data : ContractData) (lease : Lease) : Prop :=
  0 < lease.residualDebt →
    (creditRecordOf data.creditRecords lease.lessee).totalDebtAmount + lease.residualDebt ≤ i64Max ∧
    (creditRecordOf data.creditRecords lease.lessee).defaultCount + 1 ≤ 4294967295

theorem ContractData.Credited.debt_nonneg {lessee : Address} {data : ContractData}
    (credited : data.Credited lessee)
    (consistent : ∀ leaseId lease, data.leases.lookup leaseId = some lease → lease.Consistent) :
    0 ≤ (creditRecordOf data.creditRecords lessee).totalDebtAmount := by
  rw [credited.summary.totalled]
  apply total_nonneg
  intro leaseId lease found
  split
  · next defaulted =>
      simp only [Lease.defaultedBy, Lease.defaulted, Bool.and_eq_true, decide_eq_true_eq]
        at defaulted
      obtain ⟨_, processed, exceeds⟩ := defaulted
      have leaseConsistent := consistent leaseId lease found
      have evicted := leaseConsistent.processed.mp processed
      have owed := (leaseConsistent.owed (.inr evicted)).1
      rw [Lease.residualDebt, owed]
      linarith
  · exact le_rfl

theorem trackResidualDebt_iff {env : Env} {data : ContractData} {lease : Lease} {leaseId : U64}
    (debt_nonneg : 0 ≤ (creditRecordOf data.creditRecords lease.lessee).totalDebtAmount) :
    (∃ records, trackResidualDebt env data lease.lessee (max lease.residualDebt 0) leaseId =
      some records) ↔ data.DebtFits lease := by
  unfold trackResidualDebt ContractData.DebtFits
  by_cases debt : 0 < lease.residualDebt
  · rw [max_eq_left debt.le, if_pos debt, imp_iff_right debt]
    constructor
    · rintro ⟨records, updated⟩
      obtain ⟨totalDebtAmount, added, updated⟩ := Option.bind_eq_some_iff.mp updated
      obtain ⟨defaultCount, counted, _⟩ := Option.bind_eq_some_iff.mp updated
      exact ⟨(Checked.within_eq_some.mp added).1.2, (Checked.upTo_eq_some.mp counted).1⟩
    · rintro ⟨debt_le, count_le⟩
      have low : i64Min ≤ (creditRecordOf data.creditRecords lease.lessee).totalDebtAmount +
          lease.residualDebt := le_trans (by decide) (add_nonneg debt_nonneg debt.le)
      have added := Checked.within_eq_some.mpr ⟨⟨low, debt_le⟩, rfl⟩
      have counted := Checked.upTo_of_le count_le
      exact ⟨_, (Checked.bind_of_eq added _).trans (Checked.bind_of_eq counted _)⟩
  · rw [max_eq_right (not_lt.mp debt), if_neg (lt_irrefl 0)]
    exact iff_of_true ⟨data.creditRecords, rfl⟩ fun positive => absurd positive debt

/-! ## The two ways out -/

/-- The body goes through and leaves the lease with the property. -/
def Leaves (body : Body Unit) (store : Store) (leaseId : U64) (property : Lease → Prop) : Prop :=
  ∃ after lease, Commits body store () after ∧ leaseAt leaseId after.data = some lease ∧
    property lease

/-- After the grace period the check evicts the lease and processes its arrears, and at any
time some payment makes it active again. -/
structure Lease.NotStuck (leaseId : U64) (lease : Lease) (store : Store) : Prop where
  expiry : ∀ env dunningStart, env.timestamp ≤ u64Max →
    lease.dunningStartTimestamp = some dunningStart →
    dunningStart + lease.maxGracePeriod < env.timestamp →
    Leaves (checkGracePeriodExpiry env leaseId) store leaseId fun after =>
      after.state = .evictionPending ∧ after.arrearsProcessed = true
  payment : ∀ env, ∃ amount, i64Min ≤ amount ∧ amount ≤ i64Max ∧
    Leaves (processRentPayment env leaseId amount) store leaseId fun after => after.state = .active

/-- What the lease owes fits on top of what it has paid. -/
def Lease.Recoverable (lease : Lease) : Prop :=
  lease.totalPaidRent + (lease.rentAmount + lease.accumulatedLateFees) ≤ i64Max

/-- Some ledger time lies past the grace period. -/
def Lease.CanExpire (lease : Lease) : Prop :=
  ∃ dunningStart, lease.dunningStartTimestamp = some dunningStart ∧
    dunningStart + lease.maxGracePeriod < u64Max

/-- What is known of a lease in its grace period, in a reachable state. -/
structure Late (leaseId : U64) (lease : Lease) (data : ContractData) : Prop where
  found : data.leases.lookup leaseId = some lease
  late : lease.state = .gracePeriod
  consistent : lease.Consistent
  bounded : lease.Bounded

section Exits

variable {env : Env} {store : Store} {data : ContractData} {leaseId : U64} {lease : Lease}

theorem Late.owed (late : Late leaseId lease data) :
    lease.outstandingBalance = lease.rentAmount ∧ 0 ≤ lease.accumulatedLateFees :=
  ⟨(late.consistent.owed (.inl late.late)).1, late.consistent.lateFees_nonneg (.inl late.late)⟩

theorem Late.unprocessed (late : Late leaseId lease data) : lease.arrearsProcessed = false :=
  late.consistent.unprocessed (by simp [late.late])

theorem processRentPayment_commits {amount totalRequired totalPaidRent : I64}
    (late : lease.state = .gracePeriod) (stored : store.data = some data)
    (found : data.leases.lookup leaseId = some lease) (enough : lease.rentAmount ≤ amount)
    (required : addI64 lease.rentAmount lease.accumulatedLateFees = some totalRequired)
    (covered : totalRequired ≤ amount)
    (total : addI64 lease.totalPaidRent amount = some totalPaidRent) (env : Env) :
    Commits (processRentPayment env leaseId amount) store ()
      { data := some (data.put leaseId (lease.recover env.timestamp totalPaidRent))
        events := .leaseRecovered leaseId env.timestamp amount 0 :: store.events } := by
  simp only [processRentPayment, commits_bind, commits_load, commits_leaseOf, commits_ensure]
  refine ⟨data, store, ⟨stored, rfl⟩, lease, store, ⟨found, rfl⟩, (), store, ⟨enough, rfl⟩, ?_⟩
  rw [late]
  simp only [recoverLease, commits_bind, commits_compute, commits_ensure, commits_publish,
    commits_save]
  exact ⟨_, store, ⟨required, rfl⟩, (), store, ⟨covered, rfl⟩, _, store, ⟨total, rfl⟩, (), _, rfl,
    rfl⟩

theorem Late.pays (late : Late leaseId lease data) (stored : store.data = some data)
    (recoverable : lease.Recoverable) :
    Leaves (processRentPayment env leaseId (lease.rentAmount + lease.accumulatedLateFees)) store
      leaseId fun after => after.state = .active := by
  have rent_pos := late.consistent.rent_pos
  have fees_nonneg := late.owed.2
  have paid_nonneg := late.bounded.paid_nonneg
  have low : i64Min ≤ 0 := by decide
  unfold Lease.Recoverable at recoverable
  have required : addI64 lease.rentAmount lease.accumulatedLateFees =
      some (lease.rentAmount + lease.accumulatedLateFees) :=
    Checked.within_eq_some.mpr ⟨⟨by linarith, by linarith⟩, rfl⟩
  have total : addI64 lease.totalPaidRent (lease.rentAmount + lease.accumulatedLateFees) =
      some (lease.totalPaidRent + (lease.rentAmount + lease.accumulatedLateFees)) :=
    Checked.within_eq_some.mpr ⟨⟨by linarith, recoverable⟩, rfl⟩
  have enough : lease.rentAmount ≤ lease.rentAmount + lease.accumulatedLateFees := by linarith
  have run := processRentPayment_commits late.late stored late.found enough required le_rfl total
  exact ⟨_, _, run env, lookup_set_self _ _ _, rfl⟩

/-- A payment that recovers the lease adds at least what it owes to what it has paid. -/
theorem Late.recoverable (late : Late leaseId lease data) (stored : store.data = some data)
    {amount : I64} {after : Store} (run : Commits (processRentPayment env leaseId amount) store ()
      after) : lease.Recoverable := by
  have effect := processRentPayment_effect run
  rw [stored] at effect
  generalize after.data = final at effect
  cases effect with
  | paid found active enough total =>
      cases late.found.symm.trans found
      cases late.late.symm.trans active
  | recovered found _ required enough total =>
      cases late.found.symm.trans found
      obtain ⟨_, rfl⟩ := Checked.within_eq_some.mp required
      have fits := (Checked.within_eq_some.mp total).1.2
      unfold Lease.Recoverable
      linarith
  | evicted asked => cases asked
  | idle asked => cases asked

/-- The vault has the funds for a deduction and room for it in the treasury. -/
theorem deduction_exists (reserved : data.Reserved) (locked : data.escrowVault.totalLocked ≤ i64Max)
    (found : data.leases.lookup leaseId = some lease) (activated : lease.state ≠ .pending)
    (unprocessed : lease.arrearsProcessed = false)
    (owes : 0 < lease.outstandingBalance + lease.accumulatedLateFees)
    (fits : lease.outstandingBalance + lease.accumulatedLateFees ≤ i64Max)
    (tracked : ∃ records, trackResidualDebt env data lease.lessee (max lease.residualDebt 0) leaseId =
      some records) : ∃ final, Deduction env leaseId lease data final := by
  have deposit_pos := reserved.deposits leaseId lease found
  have low : i64Min ≤ 0 := by decide
  have arrears : addI64 lease.outstandingBalance lease.accumulatedLateFees =
      some (lease.outstandingBalance + lease.accumulatedLateFees) :=
    Checked.within_eq_some.mpr ⟨⟨low.trans owes.le, fits⟩, rfl⟩
  obtain ⟨amount, deducted⟩ := calculateDeductionAmount_of_pos owes deposit_pos
  obtain ⟨amount_pos, amount_le⟩ := calculateDeductionAmount_ok deducted
  have funded := amount_le.trans (reserved.funded found activated unprocessed)
  have conserved := reserved.conserved
  have treasury_nonneg := reserved.treasury_nonneg
  have available : subI64 data.escrowVault.availableBalance amount =
      some (data.escrowVault.availableBalance - amount) :=
    Checked.within_eq_some.mpr ⟨⟨by linarith, by linarith⟩, rfl⟩
  have treasury : addI64 data.escrowVault.lessorTreasury amount =
      some (data.escrowVault.lessorTreasury + amount) :=
    Checked.within_eq_some.mpr ⟨⟨by linarith, by linarith⟩, rfl⟩
  obtain ⟨records, tracked⟩ := tracked
  have residual := residualDebt_of_deduction deducted fits
  exact ⟨_, .intro arrears deducted funded available treasury (residual ▸ tracked)⟩

theorem executeArrearsDeduction_commits {final : ContractData} {dunningStart : U64}
    (stored : store.data = some data) (found : data.leases.lookup leaseId = some lease)
    (evicted : lease.state = .evictionPending) (unprocessed : lease.arrearsProcessed = false)
    (dunning : lease.dunningStartTimestamp = some dunningStart)
    (deduction : Deduction env leaseId lease data final) :
    ∃ after, Commits (executeArrearsDeduction env leaseId) store () after ∧
      after.data = some final := by
  obtain ⟨arrears, amount, funded, available, treasury, tracked⟩ := deduction
  simp only [executeArrearsDeduction, commits_bind, commits_load, commits_leaseOf, commits_ensure,
    commits_fetch, commits_compute, commits_orReturn, commits_publish, commits_save]
  exact ⟨{ data := _, events := _ }, ⟨data, store, ⟨stored, rfl⟩, lease, store, ⟨found, rfl⟩, (), store,
    ⟨evicted, rfl⟩, (), store, ⟨unprocessed, rfl⟩, dunningStart, store, ⟨dunning, rfl⟩, _, store,
    ⟨arrears, rfl⟩, _, store, ⟨amount, rfl⟩, (), store, ⟨funded, rfl⟩, _, store, ⟨available, rfl⟩,
    _, store, ⟨treasury, rfl⟩, _, store, ⟨tracked, rfl⟩, (), _, rfl, rfl⟩, rfl⟩

/-- The check evicts a lease past its grace period where the deduction can be made. -/
theorem checkGracePeriodExpiry_commits {final : ContractData} {dunningStart : U64}
    {totalOutstanding : I64} (stored : store.data = some data)
    (found : data.leases.lookup leaseId = some lease) (late : lease.state = .gracePeriod)
    (unprocessed : lease.arrearsProcessed = false)
    (dunning : lease.dunningStartTimestamp = some dunningStart)
    (within : dunningStart + lease.maxGracePeriod ≤ u64Max)
    (expired : dunningStart + lease.maxGracePeriod < env.timestamp)
    (outstanding : addI64 lease.outstandingBalance lease.accumulatedLateFees = some totalOutstanding)
    (deduction : Deduction env leaseId lease.evict (data.put leaseId lease.evict) final) :
    ∃ after, Commits (checkGracePeriodExpiry env leaseId) store () after ∧
      after.data = some final := by
  have deducts := @executeArrearsDeduction_commits env
    { data := some (data.put leaseId lease.evict)
      events := .evictionPending leaseId env.timestamp totalOutstanding :: store.events }
    (data.put leaseId lease.evict) leaseId lease.evict final dunningStart rfl
    (lookup_set_self _ _ _) rfl unprocessed dunning deduction
  obtain ⟨after, run, saved⟩ := deducts
  refine ⟨after, ?_, saved⟩
  simp only [checkGracePeriodExpiry, commits_bind, commits_load, commits_leaseOf]
  refine ⟨data, store, ⟨stored, rfl⟩, lease, store, ⟨found, rfl⟩, ?_⟩
  rw [if_pos late]
  simp only [expireGracePeriod, commits_bind, commits_fetch, commits_compute]
  refine ⟨dunningStart, store, ⟨dunning, rfl⟩, _, store, ⟨Checked.upTo_of_le within, rfl⟩, ?_⟩
  rw [if_pos expired]
  simp only [evictLease, commits_bind, commits_compute, commits_publish, commits_save]
  exact ⟨_, store, ⟨outstanding, rfl⟩, (), _, rfl, (), _, rfl, run⟩

theorem Late.evicts {dunningStart : U64} (late : Late leaseId lease data)
    (stored : store.data = some data) (reserved : data.Reserved)
    (locked : data.escrowVault.totalLocked ≤ i64Max)
    (debt_nonneg : 0 ≤ (creditRecordOf data.creditRecords lease.lessee).totalDebtAmount)
    (recoverable : lease.Recoverable) (fits : data.DebtFits lease)
    (dunning : lease.dunningStartTimestamp = some dunningStart)
    (expired : dunningStart + lease.maxGracePeriod < env.timestamp) :
    Leaves (checkGracePeriodExpiry env leaseId) store leaseId fun after =>
      after.state = .evictionPending ∧ after.arrearsProcessed = true := by
  obtain ⟨owed, fees_nonneg⟩ := late.owed
  have rent_pos := late.consistent.rent_pos
  have paid_nonneg := late.bounded.paid_nonneg
  have low : i64Min ≤ 0 := by decide
  have owes : 0 < lease.outstandingBalance + lease.accumulatedLateFees := by
    rw [owed]
    linarith
  have sum_fits : lease.outstandingBalance + lease.accumulatedLateFees ≤ i64Max := by
    rw [owed]
    unfold Lease.Recoverable at recoverable
    linarith
  have marked : (data.put leaseId lease.evict).Reserved := by
    apply reserved.put late.found
    · rfl
    · simp [Lease.lockedDeposit, Lease.evict, late.late]
    · simp [Lease.reservedDeposit, Lease.evict, late.late]
  have tracked : ∃ records, trackResidualDebt env data lease.lessee (max lease.residualDebt 0)
      leaseId = some records := (trackResidualDebt_iff debt_nonneg).mpr fits
  obtain ⟨final, deduction⟩ := @deduction_exists env (data.put leaseId lease.evict) leaseId
    lease.evict marked locked (lookup_set_self _ _ _) LeaseState.noConfusion late.unprocessed owes
    sum_fits tracked
  have outstanding : addI64 lease.outstandingBalance lease.accumulatedLateFees =
      some (lease.outstandingBalance + lease.accumulatedLateFees) :=
    Checked.within_eq_some.mpr ⟨⟨low.trans owes.le, sum_fits⟩, rfl⟩
  obtain ⟨after, run, saved⟩ := checkGracePeriodExpiry_commits stored late.found late.late
    late.unprocessed dunning (late.bounded.graceEnd dunningStart dunning) expired outstanding
    deduction
  refine ⟨after, lease.evict.processArrears, run, ?_, rfl, rfl⟩
  rw [saved]
  change final.leases.lookup leaseId = _
  rw [deduction.leases.1]
  exact lookup_set_self _ _ _

theorem Late.debtFits (late : Late leaseId lease data) (stored : store.data = some data)
    (debt_nonneg : 0 ≤ (creditRecordOf data.creditRecords lease.lessee).totalDebtAmount)
    {after : Store} {evicted : Lease} (run : Commits (checkGracePeriodExpiry env leaseId) store ()
      after) (saved : leaseAt leaseId after.data = some evicted)
    (pending : evicted.state = .evictionPending) : data.DebtFits lease := by
  have effect : Effect env (.checkGracePeriodExpiry leaseId) store.data after.data :=
    checkGracePeriodExpiry_effect rfl run
  rw [stored] at effect
  generalize kept : after.data = final at effect
  cases effect with
  | @evicted _ _ after checked dunningStart found asked same _ _ _ deduction =>
      cases asked
      cases late.found.symm.trans same
      obtain @⟨_, amount, _, _, records, arrears, deducted, _, _, _, tracked⟩ := deduction
      obtain ⟨⟨_, bounded⟩, rfl⟩ := Checked.within_eq_some.mp arrears
      rw [residualDebt_of_deduction deducted bounded] at tracked
      exact (@trackResidualDebt_iff env data lease leaseId debt_nonneg).mp ⟨records, tracked⟩
  | idle asked =>
      rw [kept] at saved
      change data.leases.lookup leaseId = some evicted at saved
      cases late.found.symm.trans saved
      cases late.late.symm.trans pending

end Exits

/-! ## Leases that are not stuck -/

/-- In a reachable state a lease in its grace period can leave it exactly when its debt fits
on top of what it has paid, and on top of its lessee's record where it may be evicted. -/
theorem gracePeriod_not_stuck_iff (calls : List Call) (leaseId : U64) {data : ContractData}
    {lease : Lease} (stored : (run step calls newContract).data = some data)
    (found : data.leases.lookup leaseId = some lease) (inGrace : lease.state = .gracePeriod) :
    lease.NotStuck leaseId (run step calls newContract) ↔
      lease.Recoverable ∧ (lease.CanExpire → data.DebtFits lease) := by
  have consistent (other : U64) (record : Lease) (same : data.leases.lookup other = some record) :
      record.Consistent := by
    apply run_consistent calls other record
    rw [stored]
    exact same
  have bounded := run_bounded calls data stored
  have credited := run_credited calls lease.lessee data stored
  have debt_nonneg := credited.debt_nonneg consistent
  have late : Late leaseId lease data :=
    ⟨found, inGrace, consistent leaseId lease found, bounded.leases leaseId lease found⟩
  constructor
  · intro free
    constructor
    · obtain ⟨amount, _, _, after, paid, run, _⟩ := free.payment ⟨0, fun _ _ _ => .panicked⟩
      exact late.recoverable stored run
    · rintro ⟨dunningStart, dunning, before⟩
      -- The last ledger time lies past the grace period.
      obtain ⟨after, evicted, run, saved, pending, _⟩ :=
        free.expiry ⟨u64Max, fun _ _ _ => .panicked⟩ dunningStart le_rfl dunning before
      exact late.debtFits stored debt_nonneg run saved pending
  · rintro ⟨recoverable, fits⟩
    constructor
    · intro env dunningStart within dunning expired
      exact late.evicts stored (run_reserved calls data stored) bounded.totalLocked debt_nonneg
        recoverable (fits ⟨dunningStart, dunning, expired.trans_le within⟩) dunning expired
    · intro env
      have rent_pos := late.consistent.rent_pos
      have fees_nonneg := late.owed.2
      have paid_nonneg := late.bounded.paid_nonneg
      have low : i64Min ≤ 0 := by decide
      refine ⟨lease.rentAmount + lease.accumulatedLateFees, ?_, ?_, late.pays stored recoverable⟩
      · linarith
      · unfold Lease.Recoverable at recoverable
        linarith

/-- A lease in its grace period after one failed payment, by its rent and deposit. -/
def overdueRun (rentAmount depositAmount : I64) : List Call :=
  [.initializeContract ⟨9⟩,
    .createLease ⟨1⟩ ⟨2⟩ rentAmount depositAmount 5 100 10 500 [] none,
    .activateLease 1 ⟨2⟩, .handleRentPaymentFailure 1].map (⟨⟨0, fun _ _ _ => .panicked⟩, ·⟩)

/-- A lease with a deposit above its rent and late fees is not stuck. -/
theorem covered_lease_not_stuck :
    ∃ lease, leaseAt 1 (run step (overdueRun 1000 2000) newContract).data = some lease ∧
      lease.NotStuck 1 (run step (overdueRun 1000 2000) newContract) := by
  have facts : ((run step (overdueRun 1000 2000) newContract).data.bind fun data =>
      (data.leases.lookup 1).map fun lease => (lease.state, lease.residualDebt,
        lease.totalPaidRent + (lease.rentAmount + lease.accumulatedLateFees))) =
      some (.gracePeriod, -950, 1050) := by decide
  obtain ⟨data, stored, facts⟩ := Option.bind_eq_some_iff.mp facts
  obtain ⟨lease, found, facts⟩ := Option.map_eq_some_iff.mp facts
  obtain ⟨late, covered, paid⟩ : lease.state = .gracePeriod ∧ lease.residualDebt = -950 ∧
      lease.totalPaidRent + (lease.rentAmount + lease.accumulatedLateFees) = 1050 := by
    simpa using facts
  refine ⟨lease, by rw [leaseAt, stored]; exact found, ?_⟩
  apply (gracePeriod_not_stuck_iff (overdueRun 1000 2000) 1 stored found late).mpr
  constructor
  · rw [Lease.Recoverable, paid]
    decide
  · intro _ debt
    rw [covered] at debt
    cases debt

/-- With the largest rent, neither a payment nor the check takes the lease out of its grace
period. -/
theorem largest_rent_stuck :
    ∃ lease, leaseAt 1 (run step (overdueRun i64Max 1) newContract).data = some lease ∧
      lease.state = .gracePeriod ∧
      ¬ lease.NotStuck 1 (run step (overdueRun i64Max 1) newContract) := by
  have facts : (leaseAt 1 (run step (overdueRun i64Max 1) newContract).data).map
      (fun lease => (lease.state, decide (lease.rentAmount + lease.accumulatedLateFees ≤ i64Max))) =
      some (.gracePeriod, false) := by decide
  obtain ⟨lease, found, facts⟩ := Option.map_eq_some_iff.mp facts
  obtain ⟨late, exceeds⟩ := Prod.mk.inj facts
  refine ⟨lease, found, late, fun free => ?_⟩
  obtain ⟨amount, _, _, after, paid, pays, _⟩ := free.payment ⟨0, fun _ _ _ => .panicked⟩
  have effect := processRentPayment_effect pays
  generalize (run step (overdueRun i64Max 1) newContract).data = before at effect found
  generalize after.data = final at effect
  cases effect with
  | paid same active enough total =>
      cases found.symm.trans same
      cases late.symm.trans active
  | recovered same _ required enough total =>
      cases found.symm.trans same
      exact of_decide_eq_false exceeds (Checked.within_eq_some.mp required).1.2
  | evicted asked => cases asked
  | idle asked => cases asked

end LeaseFlow.Dunning
