import LeaseFlow.Dunning.Reserves
import LeaseFlow.Foundations.Summary

/-!
# Credit records and the history of defaults

A credit record is written inside the arrears deduction and never read back.  It summarises
the stored leases of its lessee whose arrears exceeded the deposit: their ids, their number
and their residual debt.
-/

set_option autoImplicit false

namespace LeaseFlow.Dunning

open Transaction Run Table

/-! ## Defaulted leases -/

/-- The arrears of the lease have been processed, and exceeded the deposit. -/
def Lease.defaulted (lease : Lease) : Bool :=
  lease.arrearsProcessed &&
    decide (lease.depositAmount < lease.rentAmount + lease.accumulatedLateFees)

def Lease.defaultedBy (lessee : Address) (lease : Lease) : Bool :=
  decide (lease.lessee = lessee) && lease.defaulted

/-- What the deposit of a lease did not cover. -/
def Lease.residualDebt (lease : Lease) : Int :=
  lease.outstandingBalance + lease.accumulatedLateFees - lease.depositAmount

theorem Lease.defaultedBy_of_unprocessed {lease : Lease} (unprocessed : lease.arrearsProcessed = false)
    (lessee : Address) : lease.defaultedBy lessee = false := by
  simp [defaultedBy, defaulted, unprocessed]

/-- A lease of the lessee has defaulted. -/
def ContractData.HasDefault (lessee : Address) (data : ContractData) : Prop :=
  ∃ leaseId lease, data.leases.lookup leaseId = some lease ∧ lease.defaultedBy lessee = true

/-- The record of the lessee against the stored leases. -/
def ProtocolCreditRecord.Summarises (lessee : Address) (leases : Table U64 Lease)
    (record : ProtocolCreditRecord) : Prop :=
  Summary (Lease.defaultedBy lessee) Lease.residualDebt leases record.associatedLeaseIds
    record.defaultCount record.totalDebtAmount

/-- A lessee with defaulted leases has a record that summarises them, any other has none. -/
structure ContractData.CreditMatches (lessee : Address) (data : ContractData) : Prop where
  recorded : data.HasDefault lessee →
    ∃ record, data.creditRecords.lookup lessee = some record ∧
      record.Summarises lessee data.leases
  unrecorded : ¬ data.HasDefault lessee → data.creditRecords.lookup lessee = none

/-- The record `update_credit_record` starts from. -/
def creditRecordOf (records : Table Address ProtocolCreditRecord) (lessee : Address) :
    ProtocolCreditRecord :=
  (records.lookup lessee).getD ⟨lessee, 0, 0, 0, []⟩

/-- The stored record summarises, or nothing is stored and there is nothing to summarise. -/
structure CreditSummary (lessee : Address) (leases : Table U64 Lease)
    (records : Table Address ProtocolCreditRecord) : Prop where
  summary : (creditRecordOf records lessee).Summarises lessee leases
  listed : ∀ record, records.lookup lessee = some record → record.associatedLeaseIds ≠ []

section Summaries

variable {lessee : Address} {leases : Table U64 Lease}
  {records : Table Address ProtocolCreditRecord} {leaseId : U64} {lease : Lease}

theorem CreditSummary.matches {data : ContractData}
    (credited : CreditSummary lessee data.leases data.creditRecords) : data.CreditMatches lessee := by
  cases stored : data.creditRecords.lookup lessee with
  | none =>
      have nothing : ¬ data.HasDefault lessee := by
        have summary := credited.summary
        rw [creditRecordOf, stored] at summary
        exact summary.keys_eq_nil_iff.mp rfl
      exact ⟨fun has => absurd has nothing, fun _ => stored⟩
  | some record =>
      have summary := credited.summary
      rw [creditRecordOf, stored] at summary
      have has : data.HasDefault lessee := by
        by_contra nothing
        exact credited.listed record stored (summary.keys_eq_nil_iff.mpr nothing)
      exact ⟨fun _ => ⟨record, stored, summary⟩, fun nothing => absurd has nothing⟩

theorem creditSummary_empty (lessee : Address) : CreditSummary lessee ∅ ∅ where
  summary := summary_empty
  listed record stored := by simp at stored

theorem CreditSummary.set_unprocessed (credited : CreditSummary lessee leases records)
    (before : ∀ stored, leases.lookup leaseId = some stored → stored.arrearsProcessed = false)
    (now : lease.arrearsProcessed = false) :
    CreditSummary lessee (leases.set leaseId (some lease)) records where
  summary := by
    apply credited.summary.set_unchosen
    · intro stored found
      exact Lease.defaultedBy_of_unprocessed (before stored found) lessee
    · exact Lease.defaultedBy_of_unprocessed now lessee
  listed := credited.listed

end Summaries

/-! ## The deduction updates the record -/

theorem residualDebt_of_deduction {totalArrears depositAmount amount : I64}
    (deducted : calculateDeductionAmount totalArrears depositAmount = .ok amount)
    (bounded : totalArrears ≤ i64Max) :
    saturatingSubI64 totalArrears amount = max (totalArrears - depositAmount) 0 := by
  unfold calculateDeductionAmount at deducted
  split at deducted
  · cases deducted
  · next positive =>
      obtain ⟨arrears_pos, deposit_pos⟩ := not_or.mp positive
      have saturates (difference : Int) (nonneg : 0 ≤ difference) (le : difference ≤ i64Max) :
          BoundedArithmetic.saturate i64Min i64Max difference = difference :=
        BoundedArithmetic.saturate_of_range (le_trans (by decide) nonneg) le
      split at deducted
      · next exceeds =>
          cases deducted
          have debt_nonneg : 0 ≤ totalArrears - depositAmount := sub_nonneg.mpr exceeds
          have debt_le : totalArrears - depositAmount ≤ i64Max := by linarith [not_le.mp deposit_pos]
          rw [saturatingSubI64, saturates _ debt_nonneg debt_le, max_eq_left debt_nonneg]
      · next covered =>
          cases deducted
          have covers : totalArrears - depositAmount ≤ 0 := sub_nonpos.mpr (not_le.mp covered).le
          rw [saturatingSubI64, sub_self, saturates 0 le_rfl (by decide), max_eq_right covers]

theorem updateCreditRecord_eq {env : Env} {records after : Table Address ProtocolCreditRecord}
    {lessee : Address} {residualDebt : I64} {leaseId : U64}
    (updated : updateCreditRecord env records lessee residualDebt leaseId = some after) :
    after = records.set lessee (some
      { creditRecordOf records lessee with
        totalDebtAmount := (creditRecordOf records lessee).totalDebtAmount + residualDebt
        defaultCount := (creditRecordOf records lessee).defaultCount + 1
        lastDefaultTimestamp := env.timestamp
        associatedLeaseIds :=
          associate leaseId (creditRecordOf records lessee).associatedLeaseIds }) := by
  obtain ⟨totalDebtAmount, added, updated⟩ := Option.bind_eq_some_iff.mp updated
  obtain ⟨defaultCount, counted, updated⟩ := Option.bind_eq_some_iff.mp updated
  obtain ⟨_, rfl⟩ := Checked.within_eq_some.mp added
  obtain ⟨_, rfl⟩ := Checked.upTo_eq_some.mp counted
  exact (Option.some.inj updated).symm

section Deductions

variable {env : Env} {data after : ContractData} {leaseId : U64} {lease : Lease} {lessee : Address}

theorem creditRecordOf_set_self (records : Table Address ProtocolCreditRecord)
    (record : ProtocolCreditRecord) :
    creditRecordOf (records.set lessee (some record)) lessee = record := by
  rw [creditRecordOf, lookup_set_self, Option.getD_some]

theorem creditRecordOf_set_ne (records : Table Address ProtocolCreditRecord) {other : Address}
    (record : ProtocolCreditRecord) (differs : lessee ≠ other) :
    creditRecordOf (records.set other (some record)) lessee = creditRecordOf records lessee := by
  rw [creditRecordOf, lookup_set_ne _ _ differs, creditRecordOf]

/-- Once its arrears are processed, a lease that owes its rent has defaulted where it leaves a
residual debt. -/
theorem Lease.processArrears_defaulted_iff (owed : lease.outstandingBalance = lease.rentAmount) :
    lease.processArrears.defaulted = true ↔ 0 < lease.residualDebt := by
  simp only [Lease.defaulted, Lease.processArrears, Lease.residualDebt, owed, Bool.true_and,
    decide_eq_true_eq]
  constructor <;> intro <;> linarith

theorem CreditSummary.update {leases : Table U64 Lease}
    {records updated : Table Address ProtocolCreditRecord}
    (credited : CreditSummary lessee leases records)
    (before : ∀ stored, leases.lookup leaseId = some stored → stored.defaultedBy lessee = false)
    (defaulted : lease.defaulted = true)
    (update : updateCreditRecord env records lease.lessee lease.residualDebt leaseId =
      some updated) :
    CreditSummary lessee (leases.set leaseId (some lease)) updated := by
  rw [updateCreditRecord_eq update]
  by_cases mine : lessee = lease.lessee
  · subst mine
    have chosen : lease.defaultedBy lease.lessee = true := by simp [Lease.defaultedBy, defaulted]
    have fresh : leaseId ∉ (creditRecordOf records lease.lessee).associatedLeaseIds := by
      intro listed
      obtain ⟨stored, same, counts⟩ := (credited.summary.listed leaseId).mp listed
      cases (before stored same).symm.trans counts
    constructor
    · rw [creditRecordOf_set_self, ProtocolCreditRecord.Summarises, associate, if_neg fresh]
      exact credited.summary.set_chosen before chosen
    · intro record stored
      rw [lookup_set_self] at stored
      cases stored
      simp [associate, fresh]
  · have other : lease.defaultedBy lessee = false := by
      simp [Lease.defaultedBy, Ne.symm mine]
    constructor
    · rw [creditRecordOf_set_ne _ _ mine]
      exact credited.summary.set_unchosen before other
    · intro record stored
      rw [lookup_set_ne _ _ mine] at stored
      exact credited.listed record stored

/-- The deduction marks the lease, and adds it to its lessee's record exactly when it leaves
a residual debt. -/
theorem CreditSummary.deduct (credited : CreditSummary lessee data.leases data.creditRecords)
    (found : data.leases.lookup leaseId = some lease) (unprocessed : lease.arrearsProcessed = false)
    (owed : lease.outstandingBalance = lease.rentAmount)
    (deduction : Deduction env leaseId lease data after) :
    CreditSummary lessee after.leases after.creditRecords := by
  obtain @⟨totalArrears, deductionAmount, _, _, creditRecords, arrears, amount, _, _, _, tracked⟩ :=
    deduction
  obtain ⟨⟨_, bounded⟩, rfl⟩ := Checked.within_eq_some.mp arrears
  rw [residualDebt_of_deduction amount bounded] at tracked
  change trackResidualDebt env data lease.lessee (max lease.residualDebt 0) leaseId =
    some creditRecords at tracked
  change CreditSummary lessee (data.leases.set leaseId (some lease.processArrears)) creditRecords
  have before (stored : Lease) (same : data.leases.lookup leaseId = some stored) :
      stored.defaultedBy lessee = false := by
    cases found.symm.trans same
    exact Lease.defaultedBy_of_unprocessed unprocessed lessee
  have defaulted_iff := Lease.processArrears_defaulted_iff owed
  rw [trackResidualDebt] at tracked
  by_cases debt : 0 < lease.residualDebt
  · rw [max_eq_left debt.le, if_pos debt] at tracked
    exact credited.update before (defaulted_iff.mpr debt) tracked
  · rw [max_eq_right (not_lt.mp debt), if_neg (lt_irrefl 0)] at tracked
    cases tracked
    have covered : lease.processArrears.defaultedBy lessee = false := by
      rw [Lease.defaultedBy, Bool.eq_false_iff.mpr (mt defaulted_iff.mp debt), Bool.and_false]
    exact ⟨credited.summary.set_unchosen before covered, credited.listed⟩

end Deductions

/-! ## Credit records in every run -/

section Runs

variable {env : Env} {operation : Operation} {before after : Option ContractData} {lessee : Address}

/-- The records of the lessee are right. -/
def ContractData.Credited (lessee : Address) (data : ContractData) : Prop :=
  CreditSummary lessee data.leases data.creditRecords

theorem ContractData.Credited.put {data : ContractData} {leaseId : U64} {lease record : Lease}
    (credited : data.Credited lessee) (found : data.leases.lookup leaseId = some lease)
    (unprocessed : lease.arrearsProcessed = false) (kept : record.arrearsProcessed = false) :
    (data.put leaseId record).Credited lessee := by
  apply CreditSummary.set_unprocessed credited
  · intro stored same
    cases found.symm.trans same
    exact unprocessed
  · exact kept

theorem Effect.credited (effect : Effect env operation before after)
    (issued : Holds ContractData.Issued before)
    (consistent : ∀ leaseId lease, leaseAt leaseId before = some lease → lease.Consistent)
    (credited : Holds (ContractData.Credited lessee) before) :
    Holds (ContractData.Credited lessee) after := by
  intro data stored
  have early {leaseId : U64} {lease : Lease} {state : LeaseState}
      (found : leaseAt leaseId before = some lease) (same : lease.state = state)
      (other : state ≠ .evictionPending) : lease.arrearsProcessed = false :=
    (consistent leaseId lease found).unprocessed (same ▸ other)
  cases effect with
  | initialized oracleAddress before =>
      cases stored
      exact creditSummary_empty lessee
  | @created data lease new prorated next =>
      cases stored
      apply CreditSummary.set_unprocessed (credited data rfl)
      · intro other found
        exact absurd (issued data rfl _ other found) (lt_irrefl _)
      · exact new.unprocessed
  | @activated data leaseId lease _ _ found pending locked available =>
      cases stored
      have unprocessed := early found pending (by decide)
      have kept : data.Credited lessee := credited data rfl
      exact @ContractData.Credited.put _ (data.withVault _) _ _ _ kept found unprocessed unprocessed
  | paid found active enough total =>
      cases stored
      have unprocessed := early found active (by decide)
      exact (credited _ rfl).put found unprocessed unprocessed
  | recovered found late required enough total =>
      cases stored
      have unprocessed := early found late (by decide)
      exact (credited _ rfl).put found unprocessed unprocessed
  | enteredGracePeriod found active lateFee within =>
      cases stored
      have unprocessed := early found active (by decide)
      exact (credited _ rfl).put found unprocessed unprocessed
  | @evicted _ data final leaseId dunningStart lease asked found late dunning expired deducted =>
      cases stored
      have unprocessed := early found late (by decide)
      have owed := ((consistent leaseId lease found).owed (.inl late)).1
      have evicted : (data.put leaseId lease.evict).Credited lessee :=
        (credited data rfl).put found unprocessed unprocessed
      exact CreditSummary.deduct evicted (lookup_set_self _ _ _) unprocessed owed deducted
  | @deducted data final leaseId lease found evicted unprocessed deduction =>
      cases stored
      have owed := ((consistent leaseId lease found).owed (.inr evicted)).1
      exact (credited data rfl).deduct found unprocessed owed deduction
  | billed found active pegged enabled first bill second total =>
      cases stored
      have unprocessed := early found active (by decide)
      exact (credited _ rfl).put found unprocessed unprocessed
  | closed found active party refunded =>
      cases stored
      have unprocessed := early found active (by decide)
      exact (credited _ rfl).put found unprocessed unprocessed
  | idle asked => exact credited data stored

end Runs

theorem run_credited (calls : List Call) (lessee : Address) :
    Holds (ContractData.Credited lessee) (run step calls newContract).data := by
  induction calls using List.reverseRecOn with
  | nil => exact nofun
  | append_singleton calls call ih =>
      rw [run_append]
      change Holds _ (step call (run step calls newContract)).data
      rcases step_effect call (run step calls newContract) with effect | same
      · exact effect.credited (run_issued calls) (run_consistent calls) ih
      · rwa [same]

/-- In every run the credit records are the history of the defaults. -/
theorem credit_records_match_defaults (calls : List Call) (lessee : Address) :
    Holds (ContractData.CreditMatches lessee) (run step calls newContract).data :=
  fun data stored => CreditSummary.matches (run_credited calls lessee data stored)

end LeaseFlow.Dunning
