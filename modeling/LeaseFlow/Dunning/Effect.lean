import LeaseFlow.Dunning.Operations

/-!
# The effect of a committed call

Everything a committed call can do to the contract data, one constructor for each
change of a lease, and the lemma for each operation that reads its effect off its body.
-/

set_option autoImplicit false

namespace LeaseFlow.Dunning

open Transaction

/-! ## Committed primitives -/

section Commits

variable {store after : Store}

@[simp] theorem commits_load (data : ContractData) :
    Commits load store data after ↔ store.data = some data ∧ after = store := by
  simp [load, eq_comm, and_comm]

@[simp] theorem commits_save (data : ContractData) (result : Unit) :
    Commits (save data) store result after ↔ after = { store with data := some data } := by
  simp [save]

@[simp] theorem commits_publish (event : Event) (result : Unit) :
    Commits (publish event) store result after ↔
      after = { store with events := event :: store.events } := by
  simp [publish]

@[simp] theorem commits_leaseOf (data : ContractData) (leaseId : U64) (lease : Lease) :
    Commits (leaseOf data leaseId) store lease after ↔
      data.leases.lookup leaseId = some lease ∧ after = store := by
  simp [leaseOf]

@[simp] theorem commits_compute {α : Type} (computation : Checked α) (value : α) :
    Commits (compute computation) store value after ↔
      computation = some value ∧ after = store := by
  simp [compute]

@[simp] theorem commits_orReturn {α : Type} (outcome : Except Error α) (value : α) :
    Commits (orReturn outcome) store value after ↔ outcome = .ok value ∧ after = store := by
  simp [orReturn]

end Commits

/-! ## Effects -/

/-- A lease as `create_lease` writes it. -/
structure Lease.IsNew (leaseId : U64) (lease : Lease) : Prop where
  leaseId : lease.leaseId = leaseId
  rent_pos : 0 < lease.rentAmount
  deposit_pos : 0 < lease.depositAmount
  term : lease.startDate < lease.endDate
  fiatPeg : fiatPegValid lease.fiatPegConfig
  state : lease.state = .pending
  dunningStart : lease.dunningStartTimestamp = none
  outstanding : lease.outstandingBalance = 0
  lateFees : lease.accumulatedLateFees = 0
  unprocessed : lease.arrearsProcessed = false
  unpaid : lease.totalPaidRent = 0
  lastPrice : lease.lastOraclePrice = none
  lastTimestamp : lease.lastOracleTimestamp = none

/-- An arrears deduction: the lesser of arrears and deposit moves from the available
balance to the treasury, and the rest becomes debt. -/
inductive Deduction (env : Env) (leaseId : U64) (lease : Lease) (data : ContractData) :
    ContractData → Prop where
  | intro {totalArrears deductionAmount availableBalance lessorTreasury : I64}
      {creditRecords : Table Address ProtocolCreditRecord}
      (arrears : addI64 lease.outstandingBalance lease.accumulatedLateFees = some totalArrears)
      (amount : calculateDeductionAmount totalArrears lease.depositAmount = .ok deductionAmount)
      (funded : deductionAmount ≤ data.escrowVault.availableBalance)
      (available :
        subI64 data.escrowVault.availableBalance deductionAmount = some availableBalance)
      (treasury : addI64 data.escrowVault.lessorTreasury deductionAmount = some lessorTreasury)
      (tracked : trackResidualDebt env data lease.lessee
        (saturatingSubI64 totalArrears deductionAmount) leaseId = some creditRecords) :
      Deduction env leaseId lease data
        (((data.withVault { data.escrowVault with availableBalance, lessorTreasury }).withCreditRecords
          creditRecords).put leaseId lease.processArrears)

/-- A price that the oracle gave and the checks let through. -/
structure Quote (env : Env) (query : Nat) (lease : Lease) (config : FiatPegConfig)
    (price : PriceData) : Prop where
  reply : env.oracleReply query config.oracleAddress config.assetAddress = .priceData price
  fresh : env.timestamp - price.timestamp ≤ config.stalenessThreshold
  recent : env.timestamp - price.timestamp ≤ 3600
  stable : ∀ lastPrice, volatilityChecked env lease = some lastPrice →
    ∃ change, priceChange lastPrice price.price = some change ∧
      change ≤ config.volatilityThreshold

/-- A bill at a quoted price. -/
structure Bill (config : FiatPegConfig) (price : PriceData) (amount : I64) : Prop where
  converted : ∃ crypto, cryptoAmount config.targetUsdAmount price = some crypto ∧
    crypto ≤ i64Max ∧ amount = asI64 crypto
  positive : 0 < amount

/-- The lease whose grace period an operation checks. -/
def Operation.checkedLease : Operation → Option U64
  | .checkGracePeriodExpiry leaseId => some leaseId
  | .triggerGracePeriodCheck leaseId _ => some leaseId
  | _ => none

/-- What a committed call does to the contract data. -/
inductive Effect (env : Env) : Operation → Option ContractData → Option ContractData → Prop where
  | initialized (oracleAddress : Address) (before : Option ContractData) :
      Effect env (.initializeContract oracleAddress) before (some (.initial oracleAddress))
  | created {data : ContractData} {lease : Lease} (new : lease.IsNew data.nextLeaseId)
      (prorated : initialRent env lease.rentAmount lease.startDate lease.endDate =
        some lease.proratedInitialRent)
      (next : data.nextLeaseId + 1 ≤ u64Max) :
      Effect env (.createLease lease.lessor lease.lessee lease.rentAmount lease.depositAmount
          lease.startDate lease.endDate lease.maxGracePeriod lease.lateFeeRate lease.propertyUri
          lease.fiatPegConfig)
        (some data) (some (data.issue lease))
  | activated {data : ContractData} {leaseId : U64} {lease : Lease}
      {totalLocked availableBalance : I64}
      (found : data.leases.lookup leaseId = some lease) (pending : lease.state = .pending)
      (locked : addI64 data.escrowVault.totalLocked lease.depositAmount = some totalLocked)
      (available :
        addI64 data.escrowVault.availableBalance lease.depositAmount = some availableBalance) :
      Effect env (.activateLease leaseId lease.lessee) (some data)
        (some ((data.withVault { data.escrowVault with totalLocked, availableBalance }).put leaseId
          (lease.activate env.timestamp)))
  | paid {data : ContractData} {leaseId : U64} {lease : Lease} {amount totalPaidRent : I64}
      (found : data.leases.lookup leaseId = some lease) (active : lease.state = .active)
      (enough : lease.rentAmount ≤ amount)
      (total : addI64 lease.totalPaidRent amount = some totalPaidRent) :
      Effect env (.processRentPayment leaseId amount) (some data)
        (some (data.put leaseId (lease.pay env.timestamp totalPaidRent)))
  | recovered {data : ContractData} {leaseId : U64} {lease : Lease}
      {amount totalRequired totalPaidRent : I64}
      (found : data.leases.lookup leaseId = some lease) (late : lease.state = .gracePeriod)
      (required : addI64 lease.rentAmount lease.accumulatedLateFees = some totalRequired)
      (enough : totalRequired ≤ amount)
      (total : addI64 lease.totalPaidRent amount = some totalPaidRent) :
      Effect env (.processRentPayment leaseId amount) (some data)
        (some (data.put leaseId (lease.recover env.timestamp totalPaidRent)))
  | enteredGracePeriod {data : ContractData} {leaseId : U64} {lease : Lease}
      {lateFeeAmount : I64}
      (found : data.leases.lookup leaseId = some lease) (active : lease.state = .active)
      (lateFee : calculateLateFee lease lease.rentAmount = .ok lateFeeAmount)
      (within : env.timestamp + lease.maxGracePeriod ≤ u64Max) :
      Effect env (.handleRentPaymentFailure leaseId) (some data)
        (some (data.put leaseId (lease.enterGracePeriod env.timestamp lateFeeAmount)))
  | evicted {operation : Operation} {data after : ContractData} {leaseId dunningStart : U64}
      {lease : Lease} (asked : operation.checkedLease = some leaseId)
      (found : data.leases.lookup leaseId = some lease) (late : lease.state = .gracePeriod)
      (dunning : lease.dunningStartTimestamp = some dunningStart)
      (expired : dunningStart + lease.maxGracePeriod < env.timestamp)
      (deducted : Deduction env leaseId lease.evict (data.put leaseId lease.evict) after) :
      Effect env operation (some data) (some after)
  | deducted {data after : ContractData} {leaseId : U64} {lease : Lease}
      (found : data.leases.lookup leaseId = some lease)
      (evicted : lease.state = .evictionPending) (unprocessed : lease.arrearsProcessed = false)
      (deducted : Deduction env leaseId lease data after) :
      Effect env (.executeArrearsDeduction leaseId) (some data) (some after)
  | billed {data : ContractData} {leaseId : U64} {lease : Lease} {config : FiatPegConfig}
      {billed recorded : PriceData} {amount totalPaidRent : I64}
      (found : data.leases.lookup leaseId = some lease) (active : lease.state = .active)
      (pegged : lease.fiatPegConfig = some config) (enabled : config.enabled = true)
      (first : Quote env 0 lease config billed) (bill : Bill config billed amount)
      (second : Quote env 1 lease config recorded)
      (total : addI64 lease.totalPaidRent amount = some totalPaidRent) :
      Effect env (.processFiatPeggedRentPayment leaseId) (some data)
        (some (data.put leaseId (lease.bill env.timestamp recorded totalPaidRent)))
  | closed {data : ContractData} {leaseId : U64} {lease : Lease} {caller : Address}
      (found : data.leases.lookup leaseId = some lease) (active : lease.state = .active)
      {refund : Option I64}
      (party : caller = lease.lessor ∨ caller = lease.lessee)
      (refunded : LeaseflowMath.calculateTerminationRefund lease.rentAmount lease.startDate
        lease.endDate env.timestamp lease.totalPaidRent = some refund) :
      Effect env (.terminateLease leaseId caller) (some data)
        (some (data.put leaseId lease.close))
  | idle {operation : Operation} {leaseId : U64} (asked : operation.checkedLease = some leaseId)
      (before : Option ContractData) : Effect env operation before before

/-! ## The effect of each operation -/

section Operations

variable {env : Env} {store after : Store}

theorem createLease_effect {lessor lessee : Address} {rentAmount depositAmount : I64}
    {startDate endDate maxGracePeriod : U64} {lateFeeRate : U32} {propertyUri : List UInt8}
    {fiatPegConfig : Option FiatPegConfig} {leaseId : U64}
    (run : Commits (createLease env lessor lessee rentAmount depositAmount startDate endDate
      maxGracePeriod lateFeeRate propertyUri fiatPegConfig) store leaseId after) :
    Effect env (.createLease lessor lessee rentAmount depositAmount startDate endDate
      maxGracePeriod lateFeeRate propertyUri fiatPegConfig) store.data after.data := by
  simp [createLease] at run
  obtain ⟨⟨rent_pos, deposit_pos⟩, term, fiatPeg, data, stored, prorated, initial, ⟨_, next⟩, rfl,
    rfl⟩ := run
  rw [stored]
  have within : data.nextLeaseId + 1 ≤ u64Max := (Checked.upTo_eq_some.mp next).1
  exact @Effect.created env data (.created data.nextLeaseId lessor lessee rentAmount depositAmount
    startDate endDate maxGracePeriod lateFeeRate propertyUri prorated fiatPegConfig)
    ⟨rfl, rent_pos, deposit_pos, term, fiatPeg, rfl, rfl, rfl, rfl, rfl, rfl, rfl, rfl⟩ initial within

theorem activateLease_effect {leaseId : U64} {lessee : Address}
    (run : Commits (activateLease env leaseId lessee) store () after) :
    Effect env (.activateLease leaseId lessee) store.data after.data := by
  simp [activateLease] at run
  obtain ⟨data, stored, lease, found, rfl, pending, totalLocked, locked, availableBalance,
    available, _, _, _, rfl⟩ := run
  rw [stored]
  exact .activated found pending locked available

theorem processRentPayment_effect {leaseId : U64} {amount : I64}
    (run : Commits (processRentPayment env leaseId amount) store () after) :
    Effect env (.processRentPayment leaseId amount) store.data after.data := by
  simp [processRentPayment] at run
  obtain ⟨data, stored, lease, found, enough, run⟩ := run
  rw [stored]
  cases state : lease.state <;> simp [state, payActiveLease, recoverLease] at run
  · obtain ⟨totalPaidRent, total, rfl⟩ := run
    exact .paid found state enough total
  · obtain ⟨totalRequired, required, covered, totalPaidRent, total, rfl⟩ := run
    exact .recovered found state required covered total

theorem handleRentPaymentFailure_effect {leaseId : U64}
    (run : Commits (handleRentPaymentFailure env leaseId) store () after) :
    Effect env (.handleRentPaymentFailure leaseId) store.data after.data := by
  simp [handleRentPaymentFailure] at run
  obtain ⟨data, stored, lease, found, active, lateFeeAmount, lateFee, gracePeriodEnd, within,
    rfl⟩ := run
  rw [stored]
  exact .enteredGracePeriod found active lateFee (Checked.upTo_eq_some.mp within).1

theorem executeArrearsDeduction_deduction {leaseId : U64} {data : ContractData} {lease : Lease}
    (stored : store.data = some data) (found : data.leases.lookup leaseId = some lease)
    (run : Commits (executeArrearsDeduction env leaseId) store () after) :
    lease.state = .evictionPending ∧ lease.arrearsProcessed = false ∧
      ∃ final, after.data = some final ∧ Deduction env leaseId lease data final := by
  simp [executeArrearsDeduction, stored, found] at run
  obtain ⟨evicted, unprocessed, dunningStart, dunning, totalArrears, arrears, deductionAmount,
    amount, funded, availableBalance, available, lessorTreasury, treasury, creditRecords, tracked,
    rfl⟩ := run
  exact ⟨evicted, unprocessed, _, rfl, .intro arrears amount funded available treasury tracked⟩

theorem executeArrearsDeduction_effect {leaseId : U64}
    (run : Commits (executeArrearsDeduction env leaseId) store () after) :
    Effect env (.executeArrearsDeduction leaseId) store.data after.data := by
  have loaded := run
  simp only [executeArrearsDeduction, commits_bind, commits_load, commits_leaseOf] at loaded
  obtain ⟨data, _, ⟨stored, rfl⟩, lease, _, ⟨found, rfl⟩, _⟩ := loaded
  obtain ⟨evicted, unprocessed, final, saved, deduction⟩ :=
    executeArrearsDeduction_deduction stored found run
  rw [stored, saved]
  exact .deducted found evicted unprocessed deduction

theorem checkGracePeriodExpiry_effect {operation : Operation} {leaseId : U64}
    (asked : operation.checkedLease = some leaseId)
    (run : Commits (checkGracePeriodExpiry env leaseId) store () after) :
    Effect env operation store.data after.data := by
  simp [checkGracePeriodExpiry] at run
  obtain ⟨data, stored, lease, found, run⟩ := run
  by_cases late : lease.state = .gracePeriod
  · simp [late, expireGracePeriod] at run
    obtain ⟨dunningStart, dunning, gracePeriodEnd, within, run⟩ := run
    obtain ⟨_, rfl⟩ := Checked.upTo_eq_some.mp within
    by_cases expired : dunningStart + lease.maxGracePeriod < env.timestamp
    · simp [expired, evictLease] at run
      obtain ⟨totalOutstanding, outstanding, run⟩ := run
      have again : (data.put leaseId lease.evict).leases.lookup leaseId = some lease.evict :=
        Table.lookup_set_self _ _ _
      obtain ⟨_, _, final, saved, deduction⟩ := executeArrearsDeduction_deduction rfl again run
      rw [stored, saved]
      exact .evicted asked found late dunning expired deduction
    · simp [expired] at run
      rw [run]
      exact .idle asked store.data
  · simp [late] at run
    rw [run]
    exact .idle asked store.data

theorem triggerGracePeriodCheck_effect {leaseId : U64} {caller : Address}
    (run : Commits (triggerGracePeriodCheck env leaseId caller) store () after) :
    Effect env (.triggerGracePeriodCheck leaseId caller) store.data after.data := by
  simp [triggerGracePeriodCheck] at run
  obtain ⟨data, stored, lease, found, party, run⟩ := run
  exact checkGracePeriodExpiry_effect rfl run

theorem commits_askOracle {query : Nat} {oracleAddress assetAddress : Address}
    {price : PriceData} (run : Commits (askOracle env query oracleAddress assetAddress) store price
      after) :
    env.oracleReply query oracleAddress assetAddress = .priceData price ∧ after = store := by
  unfold askOracle at run
  cases reply : env.oracleReply query oracleAddress assetAddress with
  | priceData quoted =>
      rw [reply] at run
      obtain ⟨rfl, rfl⟩ := (commits_pure quoted price).mp run
      exact ⟨rfl, rfl⟩
  | malformed =>
      rw [reply] at run
      exact absurd run (commits_throw _ price)
  | panicked =>
      rw [reply] at run
      exact absurd run (commits_throw _ price)

theorem commits_checkVolatility {lease : Lease} {volatilityThreshold : U32} {price : I128}
    (run : Commits (checkVolatility env lease volatilityThreshold price) store () after) :
    (∀ lastPrice, volatilityChecked env lease = some lastPrice →
      ∃ change, priceChange lastPrice price = some change ∧ change ≤ volatilityThreshold) ∧
      after = store := by
  unfold checkVolatility at run
  cases compared : volatilityChecked env lease with
  | none =>
      rw [compared] at run
      exact ⟨nofun, ((commits_pure _ _).mp run).2⟩
  | some lastPrice =>
      rw [compared] at run
      simp only [commits_bind, commits_compute, commits_ensure] at run
      obtain ⟨change, _, ⟨changed, rfl⟩, within, rfl⟩ := run
      refine ⟨fun other same => ?_, rfl⟩
      cases same
      exact ⟨change, changed, within⟩

theorem getOraclePrice_quote {query : Nat} {lease : Lease} {config : FiatPegConfig}
    {price : PriceData} (pegged : lease.fiatPegConfig = some config)
    (run : Commits (getOraclePrice env query lease config.oracleAddress) store price after) :
    Quote env query lease config price ∧ after = store := by
  simp only [getOraclePrice, pegged, commits_bind, commits_fetch, commits_ensure, commits_pure]
    at run
  obtain ⟨_, _, ⟨same, rfl⟩, quoted, _, asked, _, _, ⟨fresh, rfl⟩, _, _, ⟨recent, rfl⟩, _, _,
    checked, rfl, rfl⟩ := run
  cases same
  obtain ⟨reply, rfl⟩ := commits_askOracle asked
  obtain ⟨stable, rfl⟩ := commits_checkVolatility checked
  exact ⟨⟨reply, fresh, recent, stable⟩, rfl⟩

theorem calculateFiatPeggedRent_bill {lease : Lease} {config : FiatPegConfig} {amount : I64}
    (pegged : lease.fiatPegConfig = some config) (enabled : config.enabled = true)
    (run : Commits (calculateFiatPeggedRent env lease) store amount after) :
    ∃ price, Quote env 0 lease config price ∧ Bill config price amount ∧ after = store := by
  simp only [calculateFiatPeggedRent, pegged, commits_bind, commits_fetch] at run
  obtain ⟨_, _, ⟨same, rfl⟩, run⟩ := run
  cases same
  simp only [enabled, Bool.true_eq_false, if_false, commits_bind, commits_compute, commits_ensure,
    commits_pure] at run
  obtain ⟨price, _, quoted, crypto, _, ⟨converted, rfl⟩, _, _, ⟨within, rfl⟩, _, _,
    ⟨positive, rfl⟩, rfl, rfl⟩ := run
  obtain ⟨quote, rfl⟩ := getOraclePrice_quote pegged quoted
  exact ⟨price, quote, ⟨⟨crypto, converted, within, rfl⟩, positive⟩, rfl⟩

theorem processFiatPeggedRentPayment_effect {leaseId : U64}
    (run : Commits (processFiatPeggedRentPayment env leaseId) store () after) :
    Effect env (.processFiatPeggedRentPayment leaseId) store.data after.data := by
  simp only [processFiatPeggedRentPayment, commits_bind, commits_load, commits_leaseOf,
    commits_ensure, commits_fetch, commits_compute, commits_publish, commits_save] at run
  obtain ⟨data, _, ⟨stored, rfl⟩, lease, _, ⟨found, rfl⟩, _, _, ⟨active, rfl⟩, config, _,
    ⟨pegged, rfl⟩, _, _, ⟨enabled, rfl⟩, amount, _, billed, recorded, _, quoted, totalPaidRent, _,
    ⟨total, rfl⟩, _, _, rfl, rfl⟩ := run
  obtain ⟨price, first, bill, rfl⟩ := calculateFiatPeggedRent_bill pegged enabled billed
  obtain ⟨second, rfl⟩ := getOraclePrice_quote pegged quoted
  rw [stored]
  exact .billed found active pegged enabled first bill second total

theorem terminateLease_effect {leaseId : U64} {caller : Address} {refundAmount : I64}
    (run : Commits (terminateLease env leaseId caller) store refundAmount after) :
    Effect env (.terminateLease leaseId caller) store.data after.data := by
  simp [terminateLease] at run
  obtain ⟨data, stored, lease, found, party, active, refund, refunded, rfl, _⟩ := run
  rw [stored]
  exact .closed found active party refunded

/-- Every committed call has one of the effects. -/
theorem call_effect {call : Call} (run : Commits call.body store () after) :
    Effect call.env call.operation store.data after.data := by
  obtain ⟨env, operation⟩ := call
  cases operation with
  | initializeContract oracleAddress =>
      rw [(commits_save (.initial oracleAddress) ()).mp run]
      exact .initialized oracleAddress store.data
  | createLease lessor lessee rentAmount depositAmount startDate endDate maxGracePeriod lateFeeRate
      propertyUri fiatPegConfig =>
      obtain ⟨leaseId, _, created, finished⟩ := (commits_bind _ _ _).mp run
      rw [((commits_pure _ _).mp finished).2]
      exact createLease_effect created
  | activateLease leaseId lessee => exact activateLease_effect run
  | processRentPayment leaseId amount => exact processRentPayment_effect run
  | handleRentPaymentFailure leaseId => exact handleRentPaymentFailure_effect run
  | checkGracePeriodExpiry leaseId => exact checkGracePeriodExpiry_effect rfl run
  | executeArrearsDeduction leaseId => exact executeArrearsDeduction_effect run
  | processFiatPeggedRentPayment leaseId => exact processFiatPeggedRentPayment_effect run
  | triggerGracePeriodCheck leaseId caller => exact triggerGracePeriodCheck_effect run
  | terminateLease leaseId caller =>
      obtain ⟨refundAmount, _, terminated, finished⟩ := (commits_bind _ _ _).mp run
      rw [((commits_pure _ _).mp finished).2]
      exact terminateLease_effect terminated

/-- A step either has an effect or leaves the store as it was. -/
theorem step_effect (call : Call) (store : Store) :
    Effect call.env call.operation store.data (step call store).data ∨ step call store = store := by
  rcases attempt_cases call.body store with ⟨_, run⟩ | same
  · exact .inl (call_effect run)
  · exact .inr same

end Operations

end LeaseFlow.Dunning
