import LeaseFlow.Dunning.Lifecycle

/-!
# The escrow vault's reserves

The vault conserves the deposits of the activated leases, and its available balance
covers the deposit of every activated lease whose arrears have not been processed.
-/

set_option autoImplicit false

namespace LeaseFlow.Dunning

open Transaction Run

/-! ## Deposits in the vault -/

/-- The deposit of an activated lease. -/
def Lease.lockedDeposit (lease : Lease) : Int :=
  if lease.state = .pending then 0 else lease.depositAmount

/-- The deposit of an activated lease whose arrears have not been processed. -/
def Lease.reservedDeposit (lease : Lease) : Int :=
  if lease.state = .pending ∨ lease.arrearsProcessed = true then 0 else lease.depositAmount

theorem Lease.reservedDeposit_of_unprocessed {lease : Lease} (activated : lease.state ≠ .pending)
    (unprocessed : lease.arrearsProcessed = false) : lease.reservedDeposit = lease.depositAmount :=
  if_neg (by simp [activated, unprocessed])

theorem Lease.reservedDeposit_of_processed {lease : Lease}
    (processed : lease.arrearsProcessed = true) : lease.reservedDeposit = 0 :=
  if_pos (.inr processed)

theorem Lease.reservedDeposit_nonneg {lease : Lease} (deposit_pos : 0 < lease.depositAmount) :
    0 ≤ lease.reservedDeposit := by
  unfold reservedDeposit
  split
  · exact le_rfl
  · exact deposit_pos.le

/-- The vault against the leases it holds deposits of. -/
structure ContractData.Reserved (data : ContractData) : Prop where
  deposits : ∀ leaseId lease, data.leases.lookup leaseId = some lease → 0 < lease.depositAmount
  conserved : data.escrowVault.availableBalance + data.escrowVault.lessorTreasury =
    data.escrowVault.totalLocked
  locked : data.escrowVault.totalLocked = data.leases.total Lease.lockedDeposit
  covered : data.leases.total Lease.reservedDeposit ≤ data.escrowVault.availableBalance
  treasury_nonneg : 0 ≤ data.escrowVault.lessorTreasury

namespace ContractData.Reserved

variable {data : ContractData} {leaseId : U64} {lease record : Lease}

theorem reserved_nonneg (reserved : data.Reserved) :
    0 ≤ data.leases.total Lease.reservedDeposit :=
  Table.total_nonneg fun leaseId lease found =>
    Lease.reservedDeposit_nonneg (reserved.deposits leaseId lease found)

theorem put (reserved : data.Reserved) (found : data.leases.lookup leaseId = some lease)
    (deposit : record.depositAmount = lease.depositAmount)
    (locked : record.lockedDeposit = lease.lockedDeposit)
    (reservedSame : record.reservedDeposit = lease.reservedDeposit) :
    (data.put leaseId record).Reserved where
  deposits := Table.forall_set reserved.deposits fun _ same => by
    cases same
    rw [deposit]
    exact reserved.deposits leaseId lease found
  conserved := reserved.conserved
  locked := by
    have change := Table.total_set Lease.lockedDeposit data.leases leaseId (some record)
    rw [found] at change
    simp only [Option.elim, locked] at change
    exact reserved.locked.trans (add_right_cancel change).symm
  covered := by
    have change := Table.total_set Lease.reservedDeposit data.leases leaseId (some record)
    rw [found] at change
    simp only [Option.elim, reservedSame] at change
    exact (add_right_cancel change).le.trans reserved.covered
  treasury_nonneg := reserved.treasury_nonneg

theorem issue (reserved : data.Reserved) (fresh : data.leases.lookup data.nextLeaseId = none)
    (new : lease.IsNew data.nextLeaseId) : (data.issue lease).Reserved where
  deposits := Table.forall_set reserved.deposits fun _ same => by
    cases same
    exact new.deposit_pos
  conserved := reserved.conserved
  locked := by
    have change := Table.total_set Lease.lockedDeposit data.leases data.nextLeaseId (some lease)
    have unlocked : lease.lockedDeposit = 0 := if_pos new.state
    rw [fresh] at change
    simp only [Option.elim, unlocked, add_zero] at change
    exact reserved.locked.trans change.symm
  covered := by
    have change := Table.total_set Lease.reservedDeposit data.leases data.nextLeaseId (some lease)
    have unreserved : lease.reservedDeposit = 0 := if_pos (.inl new.state)
    rw [fresh] at change
    simp only [Option.elim, unreserved, add_zero] at change
    exact change.le.trans reserved.covered
  treasury_nonneg := reserved.treasury_nonneg

theorem activate (reserved : data.Reserved) (found : data.leases.lookup leaseId = some lease)
    (pending : lease.state = .pending) (unprocessed : lease.arrearsProcessed = false)
    (timestamp : U64) :
    ((data.withVault { data.escrowVault with
      totalLocked := data.escrowVault.totalLocked + lease.depositAmount
      availableBalance := data.escrowVault.availableBalance + lease.depositAmount }).put leaseId
        (lease.activate timestamp)).Reserved where
  deposits := Table.forall_set reserved.deposits fun _ same => by
    cases same
    exact reserved.deposits leaseId lease found
  conserved := by
    have conserved := reserved.conserved
    show data.escrowVault.availableBalance + lease.depositAmount + data.escrowVault.lessorTreasury =
      data.escrowVault.totalLocked + lease.depositAmount
    linarith
  locked := by
    have change := Table.total_set Lease.lockedDeposit data.leases leaseId
      (some (lease.activate timestamp))
    have before : lease.lockedDeposit = 0 := if_pos pending
    have after : (lease.activate timestamp).lockedDeposit = lease.depositAmount := if_neg nofun
    rw [found] at change
    simp only [Option.elim, before, after, add_zero] at change
    show data.escrowVault.totalLocked + lease.depositAmount = _
    rw [reserved.locked]
    exact change.symm
  covered := by
    have change := Table.total_set Lease.reservedDeposit data.leases leaseId
      (some (lease.activate timestamp))
    have before : lease.reservedDeposit = 0 := if_pos (.inl pending)
    have after : (lease.activate timestamp).reservedDeposit = lease.depositAmount :=
      Lease.reservedDeposit_of_unprocessed nofun unprocessed
    rw [found] at change
    simp only [Option.elim, before, after, add_zero] at change
    show (data.leases.set leaseId (some (lease.activate timestamp))).total Lease.reservedDeposit ≤
      data.escrowVault.availableBalance + lease.depositAmount
    rw [change]
    exact add_le_add_left reserved.covered lease.depositAmount
  treasury_nonneg := reserved.treasury_nonneg

theorem funded (reserved : data.Reserved) (found : data.leases.lookup leaseId = some lease)
    (activated : lease.state ≠ .pending) (unprocessed : lease.arrearsProcessed = false) :
    lease.depositAmount ≤ data.escrowVault.availableBalance := by
  rw [← Lease.reservedDeposit_of_unprocessed activated unprocessed]
  have share : lease.reservedDeposit ≤ data.leases.total Lease.reservedDeposit :=
    Table.le_total (fun leaseId lease found =>
      Lease.reservedDeposit_nonneg (reserved.deposits leaseId lease found)) found
  exact share.trans reserved.covered

end ContractData.Reserved

/-! ## Arrears deductions -/

theorem calculateDeductionAmount_ok {totalArrears depositAmount amount : I64}
    (ok : calculateDeductionAmount totalArrears depositAmount = .ok amount) :
    0 < amount ∧ amount ≤ depositAmount := by
  unfold calculateDeductionAmount at ok
  split at ok
  · cases ok
  · next positive =>
      obtain ⟨arrears_pos, deposit_pos⟩ := not_or.mp positive
      split at ok
      · cases ok
        exact ⟨not_le.mp deposit_pos, le_rfl⟩
      · next below =>
          cases ok
          exact ⟨not_le.mp arrears_pos, (not_le.mp below).le⟩

theorem calculateDeductionAmount_of_pos {totalArrears depositAmount : I64}
    (arrears_pos : 0 < totalArrears) (deposit_pos : 0 < depositAmount) :
    ∃ amount, calculateDeductionAmount totalArrears depositAmount = .ok amount := by
  unfold calculateDeductionAmount
  rw [if_neg (not_or.mpr ⟨not_le.mpr arrears_pos, not_le.mpr deposit_pos⟩)]
  split
  · exact ⟨depositAmount, rfl⟩
  · exact ⟨totalArrears, rfl⟩

/-- A deduction takes no more from the available balance than the reserve it releases. -/
theorem ContractData.Reserved.deduct {env : Env} {data after : ContractData} {leaseId : U64}
    {lease : Lease} (reserved : data.Reserved) (found : data.leases.lookup leaseId = some lease)
    (activated : lease.state ≠ .pending) (unprocessed : lease.arrearsProcessed = false)
    (deduction : Deduction env leaseId lease data after) : after.Reserved := by
  obtain ⟨arrears, amount, funded, available, treasury, tracked⟩ := deduction
  obtain ⟨amount_pos, amount_le⟩ := calculateDeductionAmount_ok amount
  obtain ⟨_, rfl⟩ := Checked.within_eq_some.mp available
  obtain ⟨_, rfl⟩ := Checked.within_eq_some.mp treasury
  constructor
  case deposits =>
    exact Table.forall_set reserved.deposits fun _ same => by
      cases same
      exact reserved.deposits leaseId lease found
  case conserved =>
    have conserved := reserved.conserved
    simp only [ContractData.put, ContractData.withVault, ContractData.withCreditRecords]
    linarith
  case locked =>
    have change := Table.total_set Lease.lockedDeposit data.leases leaseId
      (some lease.processArrears)
    have same : lease.processArrears.lockedDeposit = lease.lockedDeposit := rfl
    rw [found] at change
    simp only [Option.elim, same] at change
    exact reserved.locked.trans (add_right_cancel change).symm
  case covered =>
    have covered := reserved.covered
    have change := Table.total_set Lease.reservedDeposit data.leases leaseId
      (some lease.processArrears)
    have before := Lease.reservedDeposit_of_unprocessed activated unprocessed
    have after : lease.processArrears.reservedDeposit = 0 :=
      Lease.reservedDeposit_of_processed rfl
    rw [found] at change
    simp only [Option.elim, before, after, add_zero] at change
    simp only [ContractData.put, ContractData.withVault, ContractData.withCreditRecords]
    linarith
  case treasury_nonneg =>
    have nonneg := reserved.treasury_nonneg
    simp only [ContractData.put, ContractData.withVault, ContractData.withCreditRecords]
    linarith

/-! ## Reserves in every run -/

section Runs

variable {env : Env} {operation : Operation} {before after : Option ContractData}

/-- Every effect on consistent leases keeps the reserves. -/
theorem Effect.reserved (effect : Effect env operation before after)
    (issued : Holds ContractData.Issued before)
    (consistent : ∀ leaseId lease, leaseAt leaseId before = some lease → lease.Consistent)
    (reserved : Holds ContractData.Reserved before) : Holds ContractData.Reserved after := by
  intro data stored
  cases effect with
  | initialized oracleAddress before =>
      cases stored
      exact ⟨fun leaseId lease found => by simp [ContractData.initial] at found, rfl, rfl, le_rfl,
        le_rfl⟩
  | @created data lease new prorated next =>
      cases stored
      have fresh : data.leases.lookup data.nextLeaseId = none := by
        cases found : data.leases.lookup data.nextLeaseId with
        | none => rfl
        | some other => exact absurd (issued data rfl _ other found) (lt_irrefl _)
      exact (reserved data rfl).issue fresh new
  | @activated data leaseId lease _ _ found pending locked available =>
      cases stored
      obtain ⟨_, rfl⟩ := Checked.within_eq_some.mp locked
      obtain ⟨_, rfl⟩ := Checked.within_eq_some.mp available
      have clear := (consistent leaseId lease found).clear (Lease.not_overdue pending (by decide))
      exact (reserved data rfl).activate found pending clear.unprocessed env.timestamp
  | paid found active enough total =>
      cases stored
      exact (reserved _ rfl).put found rfl rfl rfl
  | recovered found late required enough total =>
      cases stored
      refine (reserved _ rfl).put found rfl ?_ ?_
      · simp [Lease.lockedDeposit, Lease.recover, late]
      · simp [Lease.reservedDeposit, Lease.recover, late]
  | enteredGracePeriod found active lateFee within =>
      cases stored
      refine (reserved _ rfl).put found rfl ?_ ?_
      · simp [Lease.lockedDeposit, Lease.enterGracePeriod, active]
      · simp [Lease.reservedDeposit, Lease.enterGracePeriod, active]
  | @evicted _ data final leaseId dunningStart lease asked found late dunning expired deducted =>
      cases stored
      have unprocessed := (consistent leaseId lease found).unprocessed (by simp [late])
      have evicted : (data.put leaseId lease.evict).Reserved := by
        refine (reserved data rfl).put found rfl ?_ ?_
        · simp [Lease.lockedDeposit, Lease.evict, late]
        · simp [Lease.reservedDeposit, Lease.evict, late]
      exact evicted.deduct (Table.lookup_set_self _ _ _) (by simp [Lease.evict]) unprocessed
        deducted
  | deducted found evicted unprocessed deduction =>
      cases stored
      exact (reserved _ rfl).deduct found (by simp [evicted]) unprocessed deduction
  | billed found active pegged enabled first bill second total =>
      cases stored
      exact (reserved _ rfl).put found rfl rfl rfl
  | closed found active party refunded =>
      cases stored
      refine (reserved _ rfl).put found rfl ?_ ?_
      · simp [Lease.lockedDeposit, Lease.close, active]
      · simp [Lease.reservedDeposit, Lease.close, active]
  | idle asked => exact reserved data stored

end Runs

theorem run_reserved (calls : List Call) :
    Holds ContractData.Reserved (run step calls newContract).data := by
  induction calls using List.reverseRecOn with
  | nil => exact nofun
  | append_singleton calls call ih =>
      rw [run_append]
      change Holds ContractData.Reserved (step call (run step calls newContract)).data
      rcases step_effect call (run step calls newContract) with effect | same
      · exact effect.reserved (run_issued calls) (run_consistent calls) ih
      · rwa [same]

/-- The vault conserves the deposits of the activated leases, and no amount is negative. -/
theorem vault_conserved (calls : List Call) :
    Holds (fun data =>
      data.escrowVault.availableBalance + data.escrowVault.lessorTreasury =
        data.escrowVault.totalLocked ∧
      data.escrowVault.totalLocked = data.leases.total Lease.lockedDeposit ∧
      0 ≤ data.escrowVault.availableBalance ∧ 0 ≤ data.escrowVault.lessorTreasury ∧
      0 ≤ data.escrowVault.totalLocked)
      (run step calls newContract).data := by
  intro data stored
  have reserved := run_reserved calls data stored
  have conserved := reserved.conserved
  have treasury := reserved.treasury_nonneg
  have available := reserved.reserved_nonneg.trans reserved.covered
  exact ⟨conserved, reserved.locked, available, treasury,
    (add_nonneg available treasury).trans conserved.le⟩

/-- A lease with arrears above its deposit is evicted. -/
example :
    let at' := fun timestamp operation =>
      step ⟨⟨timestamp, fun _ _ _ => .panicked⟩, operation⟩
    let created := at' 0 (.createLease ⟨1⟩ ⟨2⟩ 1000 300 5 100 10 500 [] none)
      (at' 0 (.initializeContract ⟨9⟩) newContract)
    let late := at' 7 (.handleRentPaymentFailure 1) (at' 6 (.activateLease 1 ⟨2⟩) created)
    let evicted := at' 18 (.checkGracePeriodExpiry 1) late
    (evicted.data.map fun data => data.escrowVault) = some ⟨300, 0, 300⟩ ∧
      ((leaseAt 1 evicted.data).map fun lease => lease.state) = some .evictionPending := by
  decide

/-! ## Deductions find their funds -/

/-- The errors of a deduction that finds no arrears, no deposit or too little in the vault. -/
def Underfunded (fault : Fault) : Prop :=
  fault = .err .escrowVaultUnderflow ∨ fault = .err .invalidAmount

theorem avoids_load {bad : Fault → Prop} (fine : ¬ bad .panic) (store : Store) :
    Avoids bad load store :=
  avoids_bind (avoids_inspect Store.data) fun _ _ _ => avoids_fetch _ fine

theorem avoids_compute {bad : Fault → Prop} (fine : ¬ bad .panic) {α : Type}
    (computation : Checked α) (store : Store) : Avoids bad (compute computation) store :=
  avoids_fetch computation fine

theorem panic_funded : ¬ Underfunded .panic := by
  simp [Underfunded]

/-- A lease that a deduction may be made from owes something, and the vault holds its deposit. -/
def Deductible (data : ContractData) (lease : Lease) : Prop :=
  0 < lease.outstandingBalance + lease.accumulatedLateFees ∧ 0 < lease.depositAmount ∧
    lease.depositAmount ≤ data.escrowVault.availableBalance

theorem executeArrearsDeduction_funded {env : Env} {store : Store} {leaseId : U64}
    (deductible : ∀ data lease, store.data = some data →
      data.leases.lookup leaseId = some lease → lease.state = .evictionPending →
      lease.arrearsProcessed = false → Deductible data lease) :
    Avoids Underfunded (executeArrearsDeduction env leaseId) store := by
  refine avoids_bind (avoids_load panic_funded store) fun data _ loaded => ?_
  obtain ⟨stored, rfl⟩ := (commits_load data).mp loaded
  refine avoids_bind (avoids_fetch _ (by simp [Underfunded])) fun lease _ fetched => ?_
  obtain ⟨found, rfl⟩ := (commits_leaseOf data leaseId lease).mp fetched
  refine avoids_bind (avoids_ensure (.inr (by simp [Underfunded]))) fun _ _ checked => ?_
  obtain ⟨evicted, rfl⟩ := (commits_ensure _ _ _).mp checked
  refine avoids_bind (avoids_ensure (.inr (by simp [Underfunded]))) fun _ _ checked => ?_
  obtain ⟨unprocessed, rfl⟩ := (commits_ensure _ _ _).mp checked
  obtain ⟨owed, deposit_pos, covered⟩ := deductible data lease stored found evicted unprocessed
  refine avoids_bind (avoids_fetch _ (by simp [Underfunded])) fun dunningStart _ fetched => ?_
  obtain ⟨_, rfl⟩ := (commits_fetch _ _ _).mp fetched
  refine avoids_bind (avoids_compute panic_funded _ _) fun totalArrears _ computed => ?_
  obtain ⟨arrears, rfl⟩ := (commits_compute _ _).mp computed
  obtain ⟨_, rfl⟩ := Checked.within_eq_some.mp arrears
  -- The arrears and the deposit are positive, so the amount is found and is at most the deposit.
  obtain ⟨amount, deduction⟩ := calculateDeductionAmount_of_pos owed deposit_pos
  refine avoids_bind (avoids_propagate fun caught failed => ?_) fun deductionAmount _ computed => ?_
  · cases deduction.symm.trans failed
  obtain ⟨calculated, rfl⟩ := (commits_orReturn _ _).mp computed
  obtain ⟨_, within⟩ := calculateDeductionAmount_ok calculated
  refine avoids_bind (avoids_ensure (.inl (within.trans covered))) fun _ _ checked => ?_
  obtain ⟨_, rfl⟩ := (commits_ensure _ _ _).mp checked
  refine avoids_bind (avoids_compute panic_funded _ _) fun _ _ _ => ?_
  refine avoids_bind (avoids_compute panic_funded _ _) fun _ _ _ => ?_
  refine avoids_bind (avoids_compute panic_funded _ _) fun _ _ _ => ?_
  exact avoids_bind (avoids_modify _) fun _ _ _ => avoids_modify _

theorem checkGracePeriodExpiry_funded {env : Env} {store : Store} {leaseId : U64}
    (consistent : ∀ leaseId lease, leaseAt leaseId store.data = some lease → lease.Consistent)
    (reserved : Holds ContractData.Reserved store.data) :
    Avoids Underfunded (checkGracePeriodExpiry env leaseId) store := by
  refine avoids_bind (avoids_load panic_funded store) fun data _ loaded => ?_
  obtain ⟨stored, rfl⟩ := (commits_load data).mp loaded
  refine avoids_bind (avoids_fetch _ (by simp [Underfunded])) fun lease _ fetched => ?_
  obtain ⟨found, rfl⟩ := (commits_leaseOf data leaseId lease).mp fetched
  refine avoids_ite (fun late => ?_) fun _ => avoids_pure ()
  refine avoids_bind (avoids_fetch _ (by simp [Underfunded])) fun dunningStart _ fetched => ?_
  obtain ⟨_, rfl⟩ := (commits_fetch _ _ _).mp fetched
  refine avoids_bind (avoids_compute panic_funded _ _) fun gracePeriodEnd _ computed => ?_
  obtain ⟨_, rfl⟩ := (commits_compute _ _).mp computed
  refine avoids_ite (fun _ => ?_) fun _ => avoids_pure ()
  refine avoids_bind (avoids_compute panic_funded _ _) fun totalOutstanding _ computed => ?_
  obtain ⟨_, rfl⟩ := (commits_compute _ _).mp computed
  refine avoids_bind (avoids_modify _) fun _ _ published => ?_
  obtain rfl := (commits_publish _ _).mp published
  refine avoids_bind (avoids_modify _) fun _ _ saved => ?_
  obtain rfl := (commits_save _ _).mp saved
  -- The deduction now reads the lease back as it was saved.
  refine executeArrearsDeduction_funded fun again evicted same refound _ _ => ?_
  cases same
  rw [ContractData.put, Table.lookup_set_self] at refound
  cases refound
  have leaseConsistent := consistent leaseId lease (by rw [leaseAt, stored]; exact found)
  have outstanding := (leaseConsistent.owed (.inl late)).1
  have unprocessed := leaseConsistent.unprocessed (by simp [late])
  have lateFees_nonneg := leaseConsistent.lateFees_nonneg (.inl late)
  have covered : lease.depositAmount ≤ data.escrowVault.availableBalance :=
    (reserved data stored).funded found (by simp [late]) unprocessed
  refine ⟨?_, leaseConsistent.deposit_pos, covered⟩
  change 0 < lease.outstandingBalance + lease.accumulatedLateFees
  rw [outstanding]
  exact add_pos_of_pos_of_nonneg leaseConsistent.rent_pos lateFees_nonneg

/-- In every run the available balance covers the deposits of the activated leases whose
arrears have not been processed, and no deduction, asked for directly or made by a check of
the grace period, fails for want of funds or of arrears. -/
theorem deductions_funded (calls : List Call) (env : Env) (leaseId : U64) :
    Holds (fun data =>
      data.leases.total Lease.reservedDeposit ≤ data.escrowVault.availableBalance)
      (run step calls newContract).data ∧
    Avoids Underfunded (executeArrearsDeduction env leaseId) (run step calls newContract) ∧
    Avoids Underfunded (checkGracePeriodExpiry env leaseId) (run step calls newContract) ∧
    ∀ caller, Avoids Underfunded (triggerGracePeriodCheck env leaseId caller)
      (run step calls newContract) := by
  have consistent := run_consistent calls
  have reserved := run_reserved calls
  have checked := @checkGracePeriodExpiry_funded env _ leaseId consistent reserved
  refine ⟨fun data stored => (reserved data stored).covered, ?_, checked, fun caller => ?_⟩
  · -- An evicted lease has its arrears processed: no deduction is left to be made.
    refine executeArrearsDeduction_funded fun data lease stored found evicted unprocessed => ?_
    have leaseConsistent := consistent leaseId lease (by rw [leaseAt, stored]; exact found)
    rw [leaseConsistent.processed.mpr evicted] at unprocessed
    cases unprocessed
  · refine avoids_bind (avoids_load panic_funded _) fun data _ loaded => ?_
    obtain ⟨_, rfl⟩ := (commits_load data).mp loaded
    refine avoids_bind (avoids_fetch _ (by simp [Underfunded])) fun lease _ fetched => ?_
    obtain ⟨_, rfl⟩ := (commits_leaseOf data leaseId lease).mp fetched
    refine avoids_bind (avoids_ensure (.inr (by simp [Underfunded]))) fun _ _ party => ?_
    obtain ⟨_, rfl⟩ := (commits_ensure _ _ _).mp party
    exact checked

end LeaseFlow.Dunning
