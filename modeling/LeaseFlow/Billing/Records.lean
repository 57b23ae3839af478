import LeaseFlow.Calendar.RentShare
import LeaseFlow.Foundations.Transaction

/-!
# Records of `ContinuousBillingModule`

The records the billing module keeps in its instance storage, and the changes its
operations make to a single record.
-/

set_option autoImplicit false

namespace LeaseFlow.Billing

inductive Error where
  | unauthorized
  | leaseNotFound
  | invalidInput
  | billingCycleNotFound
  | alreadyProcessed
  | insufficientFunds
  | transferFailed
  | reentrancyDetected
  | authorizationExpired
  | authorizationInvalid
  | treasuryInsufficient
  | invalidTimestamp
  | leaseNotActive
  | billingNotEnabled
  deriving DecidableEq, Repr

/-- A call ends in an `Err` or in a panic; both roll it back. -/
inductive Fault where
  | err (error : Error)
  | panic
  deriving DecidableEq, Repr

inductive CycleStatus where
  | pending
  | processed
  | failed
  | expired
  deriving DecidableEq, Repr

inductive LeaseStatus where
  | active
  | expired
  | terminated
  deriving DecidableEq, Repr

structure BillingCycle where
  cycleId : U64
  leaseId : U64
  lessor : Address
  lessee : Address
  assetAddress : Address
  rentAmount : I128
  rentPerSecond : I128
  token : Address
  cycleStart : U64
  cycleEnd : U64
  status : CycleStatus
  processedAt : Option U64
  paymentReceived : Bool
  arrearsAmount : I128
  actualDurationSeconds : U64
  nextBillingDate : U64
  deriving DecidableEq

structure ActiveLease where
  leaseId : U64
  lessor : Address
  lessee : Address
  assetAddress : Address
  rentAmount : I128
  rentPerSecond : I128
  token : Address
  startTime : U64
  endTime : U64
  billingFrequency : U64
  lastBillingCycle : U64
  status : LeaseStatus
  totalOwed : I128
  totalPaid : I128
  billingEnabled : Bool
  authorizationEnabled : Bool
  maxAuthorizedAmount : I128
  currentAuthorizedAmount : I128
  authorizationExpiry : U64
  rentTreasuryAddress : Address
  deriving DecidableEq

structure BillingConfig where
  gracePeriod : U64
  lateFeePercentage : U32
  maxArrearsThreshold : I128
  autoProcessEnabled : Bool
  continuousBillingEnabled : Bool
  minBillingInterval : U64
  maxBillingInterval : U64
  reentrancyProtectionEnabled : Bool
  deriving DecidableEq

structure RentTreasury where
  treasuryAddress : Address
  totalCollected : I128
  totalDistributed : I128
  availableBalance : I128
  lastCollectionTime : U64
  collectionCount : U64
  deriving DecidableEq

structure PaymentAuthorization where
  leaseId : U64
  lessee : Address
  authorizedAmount : I128
  expiryTimestamp : U64
  nonce : U64
  signature : BytesN 64
  createdAt : U64
  isActive : Bool
  deriving DecidableEq

structure BillingState where
  globalBillingEnabled : Bool
  emergencyPause : Bool
  pauseReason : Option String
  pauseTimestamp : Option U64
  totalCyclesProcessed : U64
  totalRentCollected : I128
  lastProcessTime : U64
  deriving DecidableEq

inductive Event where
  | rentPaymentExecuted (leaseId cycleId : U64) (amount : I128) (lessee lessor : Address)
      (treasuryAddress : Address) (timestamp billingDuration : U64)
  | billingCycleProcessed (cycleId leaseId : U64) (rentAmount : I128) (processedAt : U64)
      (paymentReceived : Bool)
  | leaseBillingStarted (leaseId : U64) (lessor lessee : Address) (rentAmount rentPerSecond : I128)
      (billingFrequency timestamp : U64)
  | arrearsAccumulated (leaseId : U64) (lessee : Address) (arrearsAmount : I128) (timestamp : U64)
  | paymentReceived (leaseId : U64) (payer : Address) (amount : I128) (timestamp : U64)
  | authorizationGranted (leaseId : U64) (lessee : Address) (authorizedAmount : I128)
      (expiryTimestamp timestamp : U64)
  | treasuryUpdated (treasuryAddress : Address) (totalCollected availableBalance : I128)
      (timestamp : U64)
  deriving DecidableEq

/-! ## Defaults -/

/-- The configuration `initialize` writes, and the one read where none is stored. -/
def BillingConfig.default : BillingConfig where
  gracePeriod := 86400
  lateFeePercentage := 500
  maxArrearsThreshold := 86400000
  autoProcessEnabled := true
  continuousBillingEnabled := true
  minBillingInterval := 3600
  maxBillingInterval := 2592000
  reentrancyProtectionEnabled := true

/-- The state an operation starts from where none is stored; `register_lease_billing` takes
billing to be disabled there, the others take it to be enabled. -/
def BillingState.default (globalBillingEnabled : Bool) (lastProcessTime : U64) : BillingState where
  globalBillingEnabled
  emergencyPause := false
  pauseReason := none
  pauseTimestamp := none
  totalCyclesProcessed := 0
  totalRentCollected := 0
  lastProcessTime

/-- The reason and the time are kept while billing is paused. -/
def BillingState.setPause (timestamp : U64) (pause : Bool) (reason : Option String)
    (state : BillingState) : BillingState :=
  { state with
    emergencyPause := pause
    pauseReason := if pause then reason else none
    pauseTimestamp := if pause then some timestamp else none }

def BillingState.count (totalCyclesProcessed lastProcessTime : U64) (state : BillingState) :
    BillingState :=
  { state with totalCyclesProcessed, lastProcessTime }

def BillingState.collect (totalRentCollected : I128) (state : BillingState) : BillingState :=
  { state with totalRentCollected }

def RentTreasury.initial (treasuryAddress : Address) (timestamp : U64) : RentTreasury where
  treasuryAddress
  totalCollected := 0
  totalDistributed := 0
  availableBalance := 0
  lastCollectionTime := timestamp
  collectionCount := 0

/-! ## Changes of a lease -/

namespace ActiveLease

/-- The record `register_lease_billing` writes. -/
def registered (leaseId : U64) (lessor lessee assetAddress : Address)
    (rentAmount rentPerSecond : I128) (token : Address)
    (startTime endTime billingFrequency : U64) (rentTreasuryAddress : Address) : ActiveLease where
  leaseId
  lessor
  lessee
  assetAddress
  rentAmount
  rentPerSecond
  token
  startTime
  endTime
  billingFrequency
  lastBillingCycle := 0
  status := .active
  totalOwed := 0
  totalPaid := 0
  billingEnabled := true
  authorizationEnabled := false
  maxAuthorizedAmount := 0
  currentAuthorizedAmount := 0
  authorizationExpiry := 0
  rentTreasuryAddress

def charge (lastBillingCycle : U64) (totalOwed : I128) (lease : ActiveLease) : ActiveLease :=
  { lease with lastBillingCycle, totalOwed }

def credit (totalPaid totalOwed : I128) (lease : ActiveLease) : ActiveLease :=
  { lease with totalPaid, totalOwed }

def authorize (authorizedAmount : I128) (expiryTimestamp : U64) (lease : ActiveLease) :
    ActiveLease :=
  { lease with
    authorizationEnabled := true, maxAuthorizedAmount := authorizedAmount,
    currentAuthorizedAmount := authorizedAmount, authorizationExpiry := expiryTimestamp }

def terminate (lease : ActiveLease) : ActiveLease :=
  { lease with status := .terminated, billingEnabled := false }

end ActiveLease

/-! ## Changes of a cycle, of an authorization and of the treasury -/

/-- The invoice `process_billing_cycle` writes. -/
def BillingCycle.opened (cycleId leaseId : U64) (lease : ActiveLease) (rentAmount : I128)
    (cycleStart cycleEnd actualDurationSeconds : U64) : BillingCycle where
  cycleId
  leaseId
  lessor := lease.lessor
  lessee := lease.lessee
  assetAddress := lease.assetAddress
  rentAmount
  rentPerSecond := lease.rentPerSecond
  token := lease.token
  cycleStart
  cycleEnd
  status := .pending
  processedAt := none
  paymentReceived := false
  arrearsAmount := 0
  actualDurationSeconds
  nextBillingDate := cycleEnd

/-- A full payment leaves the arrears of an earlier partial one as they were. -/
def BillingCycle.settle (timestamp : U64) (cycle : BillingCycle) : BillingCycle :=
  { cycle with paymentReceived := true, processedAt := some timestamp, status := .processed }

def BillingCycle.fallShort (timestamp : U64) (arrearsAmount : I128) (cycle : BillingCycle) :
    BillingCycle :=
  { cycle with
    paymentReceived := true, processedAt := some timestamp, status := .failed, arrearsAmount }

/-- The record `grant_payment_authorization` writes. -/
def PaymentAuthorization.granted (leaseId : U64) (lessee : Address) (authorizedAmount : I128)
    (expiryTimestamp nonce : U64) (signature : BytesN 64) (createdAt : U64) :
    PaymentAuthorization where
  leaseId
  lessee
  authorizedAmount
  expiryTimestamp
  nonce
  signature
  createdAt
  isActive := true

def PaymentAuthorization.spend (authorization : PaymentAuthorization) : PaymentAuthorization :=
  { authorization with isActive := false }

def RentTreasury.collect (timestamp : U64) (totalCollected availableBalance : I128)
    (collectionCount : U64) (treasury : RentTreasury) : RentTreasury :=
  { treasury with
    totalCollected, availableBalance, collectionCount, lastCollectionTime := timestamp }

def RentTreasury.distribute (totalDistributed availableBalance : I128) (treasury : RentTreasury) :
    RentTreasury :=
  { treasury with totalDistributed, availableBalance }

end LeaseFlow.Billing
