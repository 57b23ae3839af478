import LeaseFlow.Billing.Records
import LeaseFlow.Foundations.Run

/-!
# The operations of `ContinuousBillingModule`

Each operation reads and writes single keys of the instance storage.  Overflow and a missing
admin panic.  The step of a call rolls back a call that ends in an error or a panic.
-/

set_option autoImplicit false

namespace LeaseFlow.Billing

open Transaction

/-! ## Storage and environment -/

/-- What a token contract has been asked to move. -/
structure Transfer where
  token : Address
  payer : Address
  payee : Address
  amount : I128
  deriving DecidableEq

/-- The instance storage, an entry for each key; the authorization keys are built from lease
and nonce.  Key names over the nine characters of `Symbol::short`, such as `ACTIVE_LEASES`, are
read as plain names.  Transfers and events are kept newest first. -/
structure Store where
  admin : Option Address
  billingCycles : Option (Table U64 BillingCycle)
  activeLeases : Option (Table U64 ActiveLease)
  billingConfig : Option BillingConfig
  rentTreasury : Option RentTreasury
  authorizationNonces : Option (Table Address U64)
  reentrancyGuard : Option Bool
  billingState : Option BillingState
  authorizations : Table (U64 × U64) PaymentAuthorization
  transfers : List Transfer
  events : List Event

/-- A call sees the ledger, the addresses that authorized it and which transfers the token
contracts accept. -/
structure Env where
  timestamp : U64
  sequence : U32
  authorized : Address → Bool
  accepts : Transfer → Bool

abbrev Body (α : Type) := Transaction Store Fault α

/-- Checked arithmetic: overflow panics. -/
def compute {α : Type} (computation : Checked α) : Body α :=
  fetch computation .panic

def Store.log (event : Event) (store : Store) : Store :=
  { store with events := event :: store.events }

/-- The topics over the nine characters of `Symbol::short` are read as plain names. -/
def publish (event : Event) : Body Unit :=
  modify (Store.log event)

def publishIf (condition : Prop) [Decidable condition] (event : Event) : Body Unit :=
  if condition then publish event else pure ()

def requireAuth (env : Env) (address : Address) : Body Unit :=
  ensure (env.authorized address = true) .panic

def Store.move (moved : Transfer) (store : Store) : Store :=
  { store with transfers := moved :: store.transfers }

/-- `TokenClient::transfer`, which panics where the token contract refuses. -/
def transfer (env : Env) (token payer payee : Address) (amount : I128) : Body Unit := do
  ensure (env.accepts ⟨token, payer, payee, amount⟩ = true) .panic
  modify (Store.move ⟨token, payer, payee, amount⟩)

/-! ## Keys -/

def Store.cycles (store : Store) : Table U64 BillingCycle :=
  store.billingCycles.getD ∅

def Store.leases (store : Store) : Table U64 ActiveLease :=
  store.activeLeases.getD ∅

def Store.nonces (store : Store) : Table Address U64 :=
  store.authorizationNonces.getD ∅

def Store.config (store : Store) : BillingConfig :=
  store.billingConfig.getD .default

def Store.guardActive (store : Store) : Bool :=
  store.reentrancyGuard.getD false

def Store.state (globalBillingEnabled : Bool) (lastProcessTime : U64) (store : Store) :
    BillingState :=
  store.billingState.getD (.default globalBillingEnabled lastProcessTime)

def Store.putCycle (cycleId : U64) (cycle : BillingCycle) (store : Store) : Store :=
  { store with billingCycles := some (store.cycles.set cycleId (some cycle)) }

def Store.putLease (leaseId : U64) (lease : ActiveLease) (store : Store) : Store :=
  { store with activeLeases := some (store.leases.set leaseId (some lease)) }

def Store.putTreasury (treasury : RentTreasury) (store : Store) : Store :=
  { store with rentTreasury := some treasury }

def Store.putState (state : BillingState) (store : Store) : Store :=
  { store with billingState := some state }

def Store.putGuard (active : Bool) (store : Store) : Store :=
  { store with reentrancyGuard := some active }

def Store.putNonce (lessee : Address) (nonce : U64) (store : Store) : Store :=
  { store with authorizationNonces := some (store.nonces.set lessee (some nonce)) }

def Store.putAuthorization (leaseId nonce : U64) (authorization : PaymentAuthorization)
    (store : Store) : Store :=
  { store with authorizations := store.authorizations.set (leaseId, nonce) (some authorization) }

def Store.putConfig (config : BillingConfig) (store : Store) : Store :=
  { store with billingConfig := some config }

/-- The storage `initialize` leaves. -/
def Store.setUp (timestamp : U64) (admin rentTreasuryAddress : Address) (store : Store) :
    Store :=
  { store with
    admin := some admin
    billingCycles := some ∅
    activeLeases := some ∅
    authorizationNonces := some ∅
    reentrancyGuard := some false
    rentTreasury := some (.initial rentTreasuryAddress timestamp)
    billingState := some (.default true timestamp)
    billingConfig := some .default }

def leaseOf (leaseId : U64) : Body ActiveLease := do
  let leases ← inspect Store.leases
  fetch (leases.lookup leaseId) (.err .leaseNotFound)

def cycleOf (cycleId : U64) : Body BillingCycle := do
  let cycles ← inspect Store.cycles
  fetch (cycles.lookup cycleId) (.err .billingCycleNotFound)

def treasuryOf : Body RentTreasury := do
  let treasury ← inspect Store.rentTreasury
  fetch treasury (.err .treasuryInsufficient)

/-- `unwrap` panics where no admin is stored. -/
def adminOf : Body Address := do
  let admin ← inspect Store.admin
  fetch admin .panic

def setCycle (cycleId : U64) (cycle : BillingCycle) : Body Unit :=
  modify (Store.putCycle cycleId cycle)

def setLease (leaseId : U64) (lease : ActiveLease) : Body Unit :=
  modify (Store.putLease leaseId lease)

def setTreasury (treasury : RentTreasury) : Body Unit :=
  modify (Store.putTreasury treasury)

def setState (state : BillingState) : Body Unit :=
  modify (Store.putState state)

def setGuard (active : Bool) : Body Unit :=
  modify (Store.putGuard active)

/-! ## Reentrancy guard -/

def enterReentrancyGuard : Body Unit := do
  let config ← inspect Store.config
  if config.reentrancyProtectionEnabled = true then do
    let guardActive ← inspect Store.guardActive
    ensure (guardActive = false) (.err .reentrancyDetected)
    setGuard true
  else
    pure ()

def exitReentrancyGuard : Body Unit := do
  let config ← inspect Store.config
  if config.reentrancyProtectionEnabled = true then setGuard false else pure ()

/-- A check that leaves the guard before it fails. -/
def ensureGuarded (condition : Prop) [Decidable condition] (error : Error) : Body Unit :=
  if condition then pure () else do
    exitReentrancyGuard
    throw (.err error)

/-! ## Set-up and registration -/

def initializeContract (env : Env) (admin rentTreasuryAddress : Address) : Body Unit := do
  let stored ← inspect Store.admin
  ensure (stored = none) (.err .unauthorized)
  modify (Store.setUp env.timestamp admin rentTreasuryAddress)

def registerLeaseBilling (env : Env) (leaseId : U64) (lessor lessee assetAddress : Address)
    (rentAmount rentPerSecond : I128) (token : Address)
    (startTime endTime billingFrequency : U64) : Body Unit := do
  let state ← inspect (Store.state false 0)
  ensure (state.globalBillingEnabled = true ∧ state.emergencyPause = false)
    (.err .billingNotEnabled)
  let treasury ← treasuryOf
  setLease leaseId (.registered leaseId lessor lessee assetAddress rentAmount rentPerSecond token
    startTime endTime billingFrequency treasury.treasuryAddress)
  publish (.leaseBillingStarted leaseId lessor lessee rentAmount rentPerSecond billingFrequency
    env.timestamp)

/-! ## Billing cycles -/

def nextCycleTime (lease : ActiveLease) : Checked U64 :=
  if lease.lastBillingCycle = 0 then pure lease.startTime
  else addU64 lease.lastBillingCycle lease.billingFrequency

/-- The billed time runs to the ledger time, and to the end of the lease after it. -/
def actualDuration (currentTime nextCycle : U64) (lease : ActiveLease) : Checked U64 :=
  if currentTime > lease.endTime then subU64 lease.endTime nextCycle
  else subU64 currentTime nextCycle

def calculatedRent (duration : U64) (lease : ActiveLease) : Checked I128 :=
  if lease.rentPerSecond > 0 then mulI128 lease.rentPerSecond duration
  else pure lease.rentAmount

/-- The cycle id is the ledger sequence. -/
def processBillingCycle (env : Env) (leaseId : U64) (_processor : Address) : Body U64 := do
  enterReentrancyGuard
  let lease ← leaseOf leaseId
  ensureGuarded (lease.status = .active ∧ lease.billingEnabled = true) .leaseNotActive
  let nextCycle ← compute (nextCycleTime lease)
  ensureGuarded (nextCycle ≤ env.timestamp) .invalidTimestamp
  let duration ← compute (actualDuration env.timestamp nextCycle lease)
  let rent ← compute (calculatedRent duration lease)
  let cycleEnd ← compute (addU64 nextCycle lease.billingFrequency)
  setCycle env.sequence (.opened env.sequence leaseId lease rent nextCycle cycleEnd duration)
  let totalOwed ← compute (addI128 lease.totalOwed rent)
  setLease leaseId (lease.charge nextCycle totalOwed)
  let state ← inspect (Store.state true env.timestamp)
  let totalCyclesProcessed ← compute (addU64 state.totalCyclesProcessed 1)
  setState (state.count totalCyclesProcessed env.timestamp)
  exitReentrancyGuard
  pure env.sequence

/-! ## Payments -/

/-- The cycle after a payment: processed where the payment is the whole rent, failed with
arrears where it is less. -/
def payCycle (timestamp : U64) (paymentAmount : I128) (cycle : BillingCycle) :
    Checked BillingCycle :=
  if paymentAmount = cycle.rentAmount then pure (cycle.settle timestamp)
  else do
    let arrearsAmount ← subI128 cycle.rentAmount paymentAmount
    pure (cycle.fallShort timestamp arrearsAmount)

/-- Arrears of the cycle are owed again. -/
def owedAfter (cycle : BillingCycle) (lease : ActiveLease) : Checked I128 :=
  if cycle.arrearsAmount > 0 then addI128 lease.totalOwed cycle.arrearsAmount
  else pure lease.totalOwed

def processPayment (env : Env) (payer : Address) (cycleId : U64) (paymentAmount : I128) :
    Body Unit := do
  enterReentrancyGuard
  requireAuth env payer
  let unpaid ← cycleOf cycleId
  ensureGuarded (unpaid.status ≠ .processed) .alreadyProcessed
  ensureGuarded (paymentAmount ≤ unpaid.rentAmount) .invalidInput
  let treasury ← treasuryOf
  transfer env unpaid.token payer treasury.treasuryAddress paymentAmount
  let totalCollected ← compute (addI128 treasury.totalCollected paymentAmount)
  let availableBalance ← compute (addI128 treasury.availableBalance paymentAmount)
  let collectionCount ← compute (addU64 treasury.collectionCount 1)
  setTreasury (treasury.collect env.timestamp totalCollected availableBalance collectionCount)
  let cycle ← compute (payCycle env.timestamp paymentAmount unpaid)
  setCycle cycleId cycle
  let lease ← leaseOf cycle.leaseId
  let totalPaid ← compute (addI128 lease.totalPaid paymentAmount)
  let totalOwed ← compute (owedAfter cycle lease)
  publishIf (cycle.arrearsAmount > 0)
    (.arrearsAccumulated cycle.leaseId cycle.lessee cycle.arrearsAmount env.timestamp)
  setLease cycle.leaseId (lease.credit totalPaid totalOwed)
  let state ← inspect (Store.state true env.timestamp)
  let totalRentCollected ← compute (addI128 state.totalRentCollected paymentAmount)
  setState (state.collect totalRentCollected)
  publish (.paymentReceived cycle.leaseId payer paymentAmount env.timestamp)
  publish (.rentPaymentExecuted cycle.leaseId cycleId paymentAmount cycle.lessee cycle.lessor
    treasury.treasuryAddress env.timestamp cycle.actualDurationSeconds)
  publish (.treasuryUpdated treasury.treasuryAddress totalCollected availableBalance env.timestamp)
  publish (.billingCycleProcessed cycleId cycle.leaseId cycle.rentAmount env.timestamp
    cycle.paymentReceived)
  exitReentrancyGuard

/-! ## Payment authorizations -/

def setNonce (lessee : Address) (nonce : U64) : Body Unit :=
  modify (Store.putNonce lessee nonce)

def setAuthorization (leaseId nonce : U64) (authorization : PaymentAuthorization) : Body Unit :=
  modify (Store.putAuthorization leaseId nonce authorization)

def grantPaymentAuthorization (env : Env) (leaseId : U64) (lessee : Address)
    (authorizedAmount : I128) (expiryTimestamp : U64) (signature : BytesN 64) : Body Unit := do
  enterReentrancyGuard
  requireAuth env lessee
  ensureGuarded (env.timestamp < expiryTimestamp) .authorizationExpired
  let nonces ← inspect Store.nonces
  let nonce ← compute (addU64 ((nonces.lookup lessee).getD 0) 1)
  setNonce lessee nonce
  setAuthorization leaseId nonce
    (.granted leaseId lessee authorizedAmount expiryTimestamp nonce signature env.timestamp)
  let lease ← leaseOf leaseId
  setLease leaseId (lease.authorize authorizedAmount expiryTimestamp)
  publish (.authorizationGranted leaseId lessee authorizedAmount expiryTimestamp env.timestamp)
  exitReentrancyGuard

/-- The guard is left before the payment enters it again. -/
def executePullPayment (env : Env) (leaseId cycleId nonce : U64) (_signature : BytesN 64) :
    Body Unit := do
  enterReentrancyGuard
  let authorizations ← inspect Store.authorizations
  let authorization ← fetch (authorizations.lookup (leaseId, nonce)) (.err .authorizationInvalid)
  ensureGuarded (authorization.isActive = true ∧ env.timestamp ≤ authorization.expiryTimestamp)
    .authorizationExpired
  let cycle ← cycleOf cycleId
  ensureGuarded (cycle.rentAmount ≤ authorization.authorizedAmount) .authorizationInvalid
  setAuthorization leaseId nonce authorization.spend
  exitReentrancyGuard
  processPayment env authorization.lessee cycleId cycle.rentAmount

/-! ## Administration -/

def terminateLeaseBilling (env : Env) (leaseId : U64) (terminator : Address) : Body Unit := do
  enterReentrancyGuard
  let lease ← leaseOf leaseId
  let admin ← adminOf
  ensureGuarded (terminator = lease.lessor ∨ terminator = admin) .unauthorized
  requireAuth env terminator
  setLease leaseId lease.terminate
  exitReentrancyGuard

def toggleEmergencyPause (env : Env) (admin : Address) (pause : Bool) (reason : Option String) :
    Body Unit := do
  let contractAdmin ← adminOf
  ensure (contractAdmin = admin) (.err .unauthorized)
  requireAuth env admin
  let state ← inspect (Store.state true 0)
  setState (state.setPause env.timestamp pause reason)

def updateBillingConfig (env : Env) (admin : Address) (config : BillingConfig) : Body Unit := do
  let contractAdmin ← adminOf
  ensure (contractAdmin = admin) (.err .unauthorized)
  requireAuth env admin
  modify (Store.putConfig config)

/-- The token client is built from the treasury's own address. -/
def distributeRentTreasury (env : Env) (admin lessor : Address) (amount : I128) : Body Unit := do
  enterReentrancyGuard
  let contractAdmin ← adminOf
  ensureGuarded (contractAdmin = admin) .unauthorized
  requireAuth env admin
  let treasury ← treasuryOf
  ensureGuarded (amount ≤ treasury.availableBalance) .treasuryInsufficient
  transfer env treasury.treasuryAddress treasury.treasuryAddress lessor amount
  let totalDistributed ← compute (addI128 treasury.totalDistributed amount)
  let availableBalance ← compute (subI128 treasury.availableBalance amount)
  setTreasury (treasury.distribute totalDistributed availableBalance)
  exitReentrancyGuard

/-! ## Settlement -/

/-- The cycles left are counted even where the rent runs by the second. -/
def remainingCycles (currentTime : U64) (lease : ActiveLease) : Checked U64 :=
  if currentTime ≥ lease.endTime then pure 0
  else do
    let remainingTime ← subU64 lease.endTime currentTime
    let padded ← addU64 remainingTime lease.billingFrequency
    let padded ← subU64 padded 1
    if lease.billingFrequency = 0 then none else pure (padded / lease.billingFrequency)

def remainingRent (currentTime cycles : U64) (lease : ActiveLease) : Checked I128 :=
  if lease.rentPerSecond > 0 then
    mulI128 lease.rentPerSecond
      (if currentTime ≥ lease.endTime then 0 else lease.endTime - currentTime : U64)
  else
    mulI128 cycles lease.rentAmount

/-- The remaining rent and the arrears. -/
def calculateFinalSettlement (env : Env) (leaseId : U64) : Body (I128 × I128) := do
  let lease ← leaseOf leaseId
  let cycles ← compute (remainingCycles env.timestamp lease)
  let remaining ← compute (remainingRent env.timestamp cycles lease)
  let currentArrears ← compute (subI128 lease.totalOwed lease.totalPaid)
  pure (remaining, currentArrears)

/-! ## Calls -/

inductive Operation where
  | initializeContract (admin rentTreasuryAddress : Address)
  | registerLeaseBilling (leaseId : U64) (lessor lessee assetAddress : Address)
      (rentAmount rentPerSecond : I128) (token : Address)
      (startTime endTime billingFrequency : U64)
  | processBillingCycle (leaseId : U64) (processor : Address)
  | processPayment (payer : Address) (cycleId : U64) (paymentAmount : I128)
  | grantPaymentAuthorization (leaseId : U64) (lessee : Address) (authorizedAmount : I128)
      (expiryTimestamp : U64) (signature : BytesN 64)
  | executePullPayment (leaseId cycleId nonce : U64) (signature : BytesN 64)
  | terminateLeaseBilling (leaseId : U64) (terminator : Address)
  | toggleEmergencyPause (admin : Address) (pause : Bool) (reason : Option String)
  | updateBillingConfig (admin : Address) (config : BillingConfig)
  | distributeRentTreasury (admin lessor : Address) (amount : I128)

structure Call where
  env : Env
  operation : Operation

def Call.body (call : Call) : Body Unit :=
  match call.operation with
  | .initializeContract admin rentTreasuryAddress =>
      Billing.initializeContract call.env admin rentTreasuryAddress
  | .registerLeaseBilling leaseId lessor lessee assetAddress rentAmount rentPerSecond token
      startTime endTime billingFrequency =>
      Billing.registerLeaseBilling call.env leaseId lessor lessee assetAddress rentAmount
        rentPerSecond token startTime endTime billingFrequency
  | .processBillingCycle leaseId processor => do
      let _ ← Billing.processBillingCycle call.env leaseId processor
  | .processPayment payer cycleId paymentAmount =>
      Billing.processPayment call.env payer cycleId paymentAmount
  | .grantPaymentAuthorization leaseId lessee authorizedAmount expiryTimestamp signature =>
      Billing.grantPaymentAuthorization call.env leaseId lessee authorizedAmount expiryTimestamp
        signature
  | .executePullPayment leaseId cycleId nonce signature =>
      Billing.executePullPayment call.env leaseId cycleId nonce signature
  | .terminateLeaseBilling leaseId terminator =>
      Billing.terminateLeaseBilling call.env leaseId terminator
  | .toggleEmergencyPause admin pause reason =>
      Billing.toggleEmergencyPause call.env admin pause reason
  | .updateBillingConfig admin config => Billing.updateBillingConfig call.env admin config
  | .distributeRentTreasury admin lessor amount =>
      Billing.distributeRentTreasury call.env admin lessor amount

def step (call : Call) (store : Store) : Store :=
  call.body.attempt store

def newModule : Store where
  admin := none
  billingCycles := none
  activeLeases := none
  billingConfig := none
  rentTreasury := none
  authorizationNonces := none
  reentrancyGuard := none
  billingState := none
  authorizations := ∅
  transfers := []
  events := []

/-- Everybody authorized the call, and the tokens move any amount that is not negative. -/
def Env.willing (timestamp : U64) (sequence : U32) : Env where
  timestamp
  sequence
  authorized _ := true
  accepts moved := decide (0 ≤ moved.amount)

end LeaseFlow.Billing
