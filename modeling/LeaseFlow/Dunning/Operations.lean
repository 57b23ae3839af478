import LeaseFlow.Dunning.Records
import LeaseFlow.Foundations.Run

/-!
# The operations of `LeaseFlowContract`

Each operation loads the contract data, works on a copy of the lease and saves both.
Overflow, a missing data key and a division by zero panic.  The step of a call rolls
back a call that ends in an error or a panic.
-/

set_option autoImplicit false

namespace LeaseFlow.Dunning

open Transaction

/-! ## Storage and environment -/

/-- The instance storage under the data key, and the published events, newest first. -/
structure Store where
  data : Option ContractData
  events : List Event

inductive OracleReply where
  | priceData (price : PriceData)
  | malformed
  | panicked

/-- A call sees the ledger time and the oracle's replies, by the number of the query
within the call: two queries of one call may be answered differently. -/
structure Env where
  timestamp : U64
  oracleReply : Nat → Address → Address → OracleReply

abbrev Body (α : Type) := Transaction Store Fault α

def load : Body ContractData := do
  let data ← inspect Store.data
  fetch data .panic

def save (data : ContractData) : Body Unit :=
  modify fun store => { store with data := some data }

def publish (event : Event) : Body Unit :=
  modify fun store => { store with events := event :: store.events }

def publishIf (condition : Prop) [Decidable condition] (event : Event) : Body Unit :=
  if condition then publish event else pure ()

def leaseOf (data : ContractData) (leaseId : U64) : Body Lease :=
  fetch (data.leases.lookup leaseId) (.err .leaseNotFound)

/-- Checked arithmetic: overflow panics. -/
def compute {α : Type} (computation : Checked α) : Body α :=
  fetch computation .panic

/-- The `?` operator. -/
def orReturn {α : Type} (outcome : Except Error α) : Body α :=
  propagate .err outcome

/-! ## Creation and activation -/

def fiatPegValid : Option FiatPegConfig → Prop
  | none => True
  | some config =>
      0 < config.targetUsdAmount ∧ config.stalenessThreshold ≠ 0 ∧ config.volatilityThreshold ≠ 0

instance : DecidablePred fiatPegValid
  | none => inferInstanceAs (Decidable True)
  | some _ => inferInstanceAs (Decidable (_ ∧ _ ∧ _))

/-- The rent of the initial period: prorated where the lease starts mid-cycle, the full rent
where that fails. -/
def initialRent (env : Env) (rentAmount : I64) (startDate endDate : U64) : Checked I64 :=
  if env.timestamp > startDate then do
    let prorated ← LeaseflowMath.calculateProratedRent rentAmount env.timestamp endDate
    pure ((prorated.map Prod.fst).getD rentAmount)
  else
    pure rentAmount

def createLease (env : Env) (lessor lessee : Address) (rentAmount depositAmount : I64)
    (startDate endDate maxGracePeriod : U64) (lateFeeRate : U32) (propertyUri : List UInt8)
    (fiatPegConfig : Option FiatPegConfig) : Body U64 := do
  ensure (0 < rentAmount ∧ 0 < depositAmount) (.err .invalidAmount)
  ensure (startDate < endDate) (.err .invalidAmount)
  ensure (fiatPegValid fiatPegConfig) (.err .invalidFiatPegConfig)
  let data ← load
  let proratedInitialRent ← compute (initialRent env rentAmount startDate endDate)
  let _ ← compute (addU64 data.nextLeaseId 1)
  save (data.issue (.created data.nextLeaseId lessor lessee rentAmount depositAmount startDate
    endDate maxGracePeriod lateFeeRate propertyUri proratedInitialRent fiatPegConfig))
  publish (.leaseCreated data.nextLeaseId lessor lessee rentAmount depositAmount startDate endDate
    maxGracePeriod lateFeeRate)
  pure data.nextLeaseId

/-- The source adds a `deposit_amount` that it does not define; it is the lease's. -/
def activateLease (env : Env) (leaseId : U64) (lessee : Address) : Body Unit := do
  let data ← load
  let lease ← leaseOf data leaseId
  ensure (lessee = lease.lessee) (.err .unauthorized)
  ensure (lease.state = .pending) (.err .leaseAlreadyActive)
  let totalLocked ← compute (addI64 data.escrowVault.totalLocked lease.depositAmount)
  let availableBalance ← compute (addI64 data.escrowVault.availableBalance lease.depositAmount)
  publishIf (lease.proratedInitialRent ≠ lease.rentAmount)
    (.proratedRentCalculated leaseId lease.rentAmount (lease.endDate - env.timestamp)
      lease.proratedInitialRent "initialization")
  save ((data.withVault { data.escrowVault with totalLocked, availableBalance }).put leaseId
    (lease.activate env.timestamp))
  publish (.leaseActivated leaseId env.timestamp)

/-! ## Payments -/

def payActiveLease (env : Env) (data : ContractData) (leaseId : U64) (lease : Lease)
    (amount : I64) : Body Unit := do
  let totalPaidRent ← compute (addI64 lease.totalPaidRent amount)
  save (data.put leaseId (lease.pay env.timestamp totalPaidRent))

/-- The event reads the late fees after they have been cleared. -/
def recoverLease (env : Env) (data : ContractData) (leaseId : U64) (lease : Lease)
    (amount : I64) : Body Unit := do
  let totalRequired ← compute (addI64 lease.rentAmount lease.accumulatedLateFees)
  ensure (totalRequired ≤ amount) (.err .insufficientRentFunds)
  let totalPaidRent ← compute (addI64 lease.totalPaidRent amount)
  publish (.leaseRecovered leaseId env.timestamp amount 0)
  save (data.put leaseId (lease.recover env.timestamp totalPaidRent))

def processRentPayment (env : Env) (leaseId : U64) (amount : I64) : Body Unit := do
  let data ← load
  let lease ← leaseOf data leaseId
  ensure (lease.rentAmount ≤ amount) (.err .insufficientRentFunds)
  match lease.state with
  | .active => payActiveLease env data leaseId lease amount
  | .gracePeriod => recoverLease env data leaseId lease amount
  | _ => throw (.err .leaseNotActive)

/-! ## Grace period -/

/-- `U256` multiplication and division, where the base must not be negative and the result
must fit `i64`. -/
def calculateLateFee (lease : Lease) (baseAmount : I64) : Except Error I64 :=
  if baseAmount < 0 ∨ baseAmount * lease.lateFeeRate ≥ 2 ^ 256 ∨
      baseAmount * lease.lateFeeRate / 10000 > i64Max then
    .error .lateFeeCalculationError
  else
    .ok (baseAmount * lease.lateFeeRate / 10000)

def handleRentPaymentFailure (env : Env) (leaseId : U64) : Body Unit := do
  let data ← load
  let lease ← leaseOf data leaseId
  ensure (lease.state = .active) (.err .invalidStateTransition)
  let lateFeeAmount ← orReturn (calculateLateFee lease lease.rentAmount)
  let gracePeriodEnd ← compute (addU64 env.timestamp lease.maxGracePeriod)
  publish (.rentDelinquencyStarted leaseId env.timestamp gracePeriodEnd lease.rentAmount
    lateFeeAmount)
  save (data.put leaseId (lease.enterGracePeriod env.timestamp lateFeeAmount))

def calculateDeductionAmount (totalArrears depositAmount : I64) : Except Error I64 :=
  if totalArrears ≤ 0 ∨ depositAmount ≤ 0 then .error .invalidAmount
  else if totalArrears ≥ depositAmount then .ok depositAmount
  else .ok totalArrears

def associate (leaseId : U64) (leaseIds : List U64) : List U64 :=
  if leaseId ∈ leaseIds then leaseIds else leaseIds ++ [leaseId]

def updateCreditRecord (env : Env) (records : Table Address ProtocolCreditRecord)
    (lessee : Address) (residualDebt : I64) (leaseId : U64) :
    Checked (Table Address ProtocolCreditRecord) := do
  let record := (records.lookup lessee).getD ⟨lessee, 0, 0, 0, []⟩
  let totalDebtAmount ← addI64 record.totalDebtAmount residualDebt
  let defaultCount ← Checked.upTo 4294967295 (record.defaultCount + 1)
  pure (records.set lessee (some
    { record with
      totalDebtAmount, defaultCount
      lastDefaultTimestamp := env.timestamp
      associatedLeaseIds := associate leaseId record.associatedLeaseIds }))

def trackResidualDebt (env : Env) (data : ContractData) (lessee : Address) (residualDebt : I64)
    (leaseId : U64) : Checked (Table Address ProtocolCreditRecord) :=
  if residualDebt > 0 then updateCreditRecord env data.creditRecords lessee residualDebt leaseId
  else pure data.creditRecords

def executeArrearsDeduction (env : Env) (leaseId : U64) : Body Unit := do
  let data ← load
  let lease ← leaseOf data leaseId
  ensure (lease.state = .evictionPending) (.err .invalidStateTransition)
  ensure (lease.arrearsProcessed = false) (.err .arrearsAlreadyProcessed)
  let dunningStart ← fetch lease.dunningStartTimestamp (.err .invalidStateTransition)
  let totalArrears ← compute (addI64 lease.outstandingBalance lease.accumulatedLateFees)
  let deductionAmount ← orReturn (calculateDeductionAmount totalArrears lease.depositAmount)
  ensure (deductionAmount ≤ data.escrowVault.availableBalance) (.err .escrowVaultUnderflow)
  let availableBalance ← compute (subI64 data.escrowVault.availableBalance deductionAmount)
  let lessorTreasury ← compute (addI64 data.escrowVault.lessorTreasury deductionAmount)
  let creditRecords ← compute (trackResidualDebt env data lease.lessee
    (saturatingSubI64 totalArrears deductionAmount) leaseId)
  publish (.depositSlashedForArrears leaseId (env.timestamp - dunningStart) deductionAmount
    availableBalance (saturatingSubI64 totalArrears deductionAmount))
  save (((data.withVault { data.escrowVault with availableBalance, lessorTreasury }).withCreditRecords
    creditRecords).put leaseId lease.processArrears)

/-- The lease is saved as evicted before the deduction reads it again. -/
def evictLease (env : Env) (data : ContractData) (leaseId : U64) (lease : Lease) : Body Unit := do
  let totalOutstanding ← compute (addI64 lease.outstandingBalance lease.accumulatedLateFees)
  publish (.evictionPending leaseId env.timestamp totalOutstanding)
  save (data.put leaseId lease.evict)
  executeArrearsDeduction env leaseId

def expireGracePeriod (env : Env) (data : ContractData) (leaseId : U64) (lease : Lease) :
    Body Unit := do
  let dunningStart ← fetch lease.dunningStartTimestamp (.err .invalidStateTransition)
  let gracePeriodEnd ← compute (addU64 dunningStart lease.maxGracePeriod)
  if env.timestamp > gracePeriodEnd then evictLease env data leaseId lease
  else pure ()

def checkGracePeriodExpiry (env : Env) (leaseId : U64) : Body Unit := do
  let data ← load
  let lease ← leaseOf data leaseId
  if lease.state = .gracePeriod then expireGracePeriod env data leaseId lease
  else pure ()

def triggerGracePeriodCheck (env : Env) (leaseId : U64) (caller : Address) : Body Unit := do
  let data ← load
  let lease ← leaseOf data leaseId
  ensure (caller = lease.lessor) (.err .unauthorized)
  checkGracePeriodExpiry env leaseId

/-! ## Fiat-pegged rent -/

def askOracle (env : Env) (query : Nat) (oracleAddress assetAddress : Address) : Body PriceData :=
  match env.oracleReply query oracleAddress assetAddress with
  | .priceData price => pure price
  | .malformed => throw (.err .oracleCallFailed)
  | .panicked => throw .panic

/-- The change of the price in basis points of the last one. -/
def priceChange (lastPrice price : I128) : Checked I128 := do
  let change ← if price > lastPrice then subI128 price lastPrice else subI128 lastPrice price
  let scaled ← mulI128 change 10000
  pure (scaled.tdiv lastPrice)

/-- The volatility check runs against a positive price recorded within the last hour. -/
def volatilityChecked (env : Env) (lease : Lease) : Option I128 :=
  match lease.lastOraclePrice, lease.lastOracleTimestamp with
  | some lastPrice, some lastTimestamp =>
      if env.timestamp - lastTimestamp ≤ 3600 ∧ lastPrice > 0 then some lastPrice else none
  | _, _ => none

def checkVolatility (env : Env) (lease : Lease) (volatilityThreshold : U32) (price : I128) :
    Body Unit :=
  match volatilityChecked env lease with
  | none => pure ()
  | some lastPrice => do
      let priceChangePercent ← compute (priceChange lastPrice price)
      ensure (priceChangePercent ≤ volatilityThreshold) (.err .volatilityCircuitBreaker)

def getOraclePrice (env : Env) (query : Nat) (lease : Lease) (oracleAddress : Address) :
    Body PriceData := do
  let config ← fetch lease.fiatPegConfig .panic
  let priceData ← askOracle env query oracleAddress config.assetAddress
  ensure (env.timestamp - priceData.timestamp ≤ config.stalenessThreshold) (.err .oracleDataStale)
  ensure (env.timestamp - priceData.timestamp ≤ 3600) (.err .oracleDataStale)
  checkVolatility env lease config.volatilityThreshold priceData.price
  pure priceData

/-- `target * 10^decimals / price` in `i128`, where a zero price panics. -/
def cryptoAmount (targetUsdAmount : I64) (price : PriceData) : Checked I128 := do
  let decimalsFactor ← Checked.within i128Min i128Max (10 ^ price.decimals)
  let scaled ← mulI128 targetUsdAmount decimalsFactor
  if price.price = 0 then none
  else Checked.within i128Min i128Max (scaled.tdiv price.price)

def calculateFiatPeggedRent (env : Env) (lease : Lease) : Body I64 := do
  let config ← fetch lease.fiatPegConfig (.err .invalidFiatPegConfig)
  if config.enabled = false then pure lease.rentAmount
  else do
    let priceData ← getOraclePrice env 0 lease config.oracleAddress
    let cryptoAmountI128 ← compute (cryptoAmount config.targetUsdAmount priceData)
    ensure (cryptoAmountI128 ≤ i64Max) (.err .invalidAmount)
    ensure (0 < asI64 cryptoAmountI128) (.err .invalidAmount)
    pure (asI64 cryptoAmountI128)

def processFiatPeggedRentPayment (env : Env) (leaseId : U64) : Body Unit := do
  let data ← load
  let lease ← leaseOf data leaseId
  ensure (lease.state = .active) (.err .leaseNotActive)
  let config ← fetch lease.fiatPegConfig (.err .invalidFiatPegConfig)
  ensure (config.enabled = true) (.err .invalidFiatPegConfig)
  let currentRentAmount ← calculateFiatPeggedRent env lease
  let priceData ← getOraclePrice env 1 lease config.oracleAddress
  let totalPaidRent ← compute (addI64 lease.totalPaidRent currentRentAmount)
  publish (.fiatPeggedRentBilled leaseId config.targetUsdAmount priceData.price currentRentAmount
    env.timestamp config.assetAddress)
  save (data.put leaseId (lease.bill env.timestamp priceData totalPaidRent))

/-! ## Termination -/

/-- A refund within a day of the last payment pays a tenth as a penalty. -/
def refundAfterPenalty (env : Env) (lease : Lease) (refundAmount : I64) : I64 :=
  if env.timestamp - lease.lastRentPaymentTimestamp < 86400 ∧ refundAmount > 0 then
    saturatingSubI64 refundAmount (refundAmount.tdiv 10)
  else
    refundAmount

def terminateLease (env : Env) (leaseId : U64) (caller : Address) : Body I64 := do
  let data ← load
  let lease ← leaseOf data leaseId
  ensure (caller = lease.lessor ∨ caller = lease.lessee) (.err .unauthorized)
  ensure (lease.state = .active) (.err .leaseNotActive)
  let refund ← compute (LeaseflowMath.calculateTerminationRefund lease.rentAmount lease.startDate
    lease.endDate env.timestamp lease.totalPaidRent)
  let refundAmount := refundAfterPenalty env lease (refund.getD 0)
  publish (.proratedRentCalculated leaseId lease.rentAmount (lease.endDate - env.timestamp)
    refundAmount "termination")
  save (data.put leaseId lease.close)
  pure refundAmount

/-! ## Calls -/

def initializeContract (oracleAddress : Address) : Body Unit :=
  save (.initial oracleAddress)

inductive Operation where
  | initializeContract (oracleAddress : Address)
  | createLease (lessor lessee : Address) (rentAmount depositAmount : I64)
      (startDate endDate maxGracePeriod : U64) (lateFeeRate : U32) (propertyUri : List UInt8)
      (fiatPegConfig : Option FiatPegConfig)
  | activateLease (leaseId : U64) (lessee : Address)
  | processRentPayment (leaseId : U64) (amount : I64)
  | handleRentPaymentFailure (leaseId : U64)
  | checkGracePeriodExpiry (leaseId : U64)
  | executeArrearsDeduction (leaseId : U64)
  | processFiatPeggedRentPayment (leaseId : U64)
  | triggerGracePeriodCheck (leaseId : U64) (caller : Address)
  | terminateLease (leaseId : U64) (caller : Address)

structure Call where
  env : Env
  operation : Operation

def Call.body (call : Call) : Body Unit :=
  match call.operation with
  | .initializeContract oracleAddress => Dunning.initializeContract oracleAddress
  | .createLease lessor lessee rentAmount depositAmount startDate endDate maxGracePeriod
      lateFeeRate propertyUri fiatPegConfig => do
      let _ ← Dunning.createLease call.env lessor lessee rentAmount depositAmount startDate endDate
        maxGracePeriod lateFeeRate propertyUri fiatPegConfig
  | .activateLease leaseId lessee => Dunning.activateLease call.env leaseId lessee
  | .processRentPayment leaseId amount => Dunning.processRentPayment call.env leaseId amount
  | .handleRentPaymentFailure leaseId => Dunning.handleRentPaymentFailure call.env leaseId
  | .checkGracePeriodExpiry leaseId => Dunning.checkGracePeriodExpiry call.env leaseId
  | .executeArrearsDeduction leaseId => Dunning.executeArrearsDeduction call.env leaseId
  | .processFiatPeggedRentPayment leaseId => Dunning.processFiatPeggedRentPayment call.env leaseId
  | .triggerGracePeriodCheck leaseId caller =>
      Dunning.triggerGracePeriodCheck call.env leaseId caller
  | .terminateLease leaseId caller => do
      let _ ← Dunning.terminateLease call.env leaseId caller

def step (call : Call) (store : Store) : Store :=
  call.body.attempt store

def newContract : Store where
  data := none
  events := []

end LeaseFlow.Dunning
