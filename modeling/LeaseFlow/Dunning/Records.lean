import LeaseFlow.Calendar.RentShare
import LeaseFlow.Foundations.Transaction

/-!
# Records of `LeaseFlowContract`

The contract of the `leaseflow` crate keeps all its data under one key.  Each change
of a lease or of the vault is a function of the record, named after what happens to it.
-/

set_option autoImplicit false

namespace LeaseFlow.Dunning

inductive LeaseState where
  | pending
  | active
  | gracePeriod
  | evictionPending
  | closed
  deriving DecidableEq, Repr

inductive Error where
  | insufficientRentFunds
  | leaseNotFound
  | invalidStateTransition
  | unauthorized
  | invalidAmount
  | leaseAlreadyActive
  | leaseNotActive
  | lateFeeCalculationError
  | arrearsAlreadyProcessed
  | escrowVaultUnderflow
  | oracleDataStale
  | volatilityCircuitBreaker
  | oracleCallFailed
  | invalidFiatPegConfig
  deriving DecidableEq, Repr

/-- A call ends in an `Err` or in a panic; both roll it back. -/
inductive Fault where
  | err (error : Error)
  | panic
  deriving DecidableEq, Repr

structure PriceData where
  price : I128
  timestamp : U64
  decimals : U32
  deriving DecidableEq

structure OracleConfig where
  oracleAddress : Address
  stalenessThreshold : U64
  volatilityThreshold : U32
  maxPriceAge : U64
  deriving DecidableEq

structure FiatPegConfig where
  enabled : Bool
  targetUsdAmount : I64
  assetAddress : Address
  oracleAddress : Address
  stalenessThreshold : U64
  volatilityThreshold : U32
  deriving DecidableEq

structure ProtocolCreditRecord where
  lessee : Address
  totalDebtAmount : I64
  defaultCount : U32
  lastDefaultTimestamp : U64
  associatedLeaseIds : List U64
  deriving DecidableEq

structure EscrowVault where
  totalLocked : I64
  availableBalance : I64
  lessorTreasury : I64
  deriving DecidableEq

structure Lease where
  leaseId : U64
  lessor : Address
  lessee : Address
  rentAmount : I64
  depositAmount : I64
  startDate : U64
  endDate : U64
  state : LeaseState
  maxGracePeriod : U64
  lateFeeRate : U32
  dunningStartTimestamp : Option U64
  outstandingBalance : I64
  accumulatedLateFees : I64
  lastRentPaymentTimestamp : U64
  propertyUri : List UInt8
  arrearsProcessed : Bool
  proratedInitialRent : I64
  totalPaidRent : I64
  fiatPegConfig : Option FiatPegConfig
  lastOraclePrice : Option I128
  lastOracleTimestamp : Option U64

structure ContractData where
  leases : Table U64 Lease
  nextLeaseId : U64
  escrowVault : EscrowVault
  creditRecords : Table Address ProtocolCreditRecord
  oracleConfig : OracleConfig

inductive Event where
  | rentDelinquencyStarted (leaseId dunningStartTimestamp gracePeriodEndTimestamp : U64)
      (outstandingAmount lateFeeAmount : I64)
  | leaseRecovered (leaseId recoveryTimestamp : U64) (totalPaid lateFeePaid : I64)
  | leaseCreated (leaseId : U64) (lessor lessee : Address) (rentAmount depositAmount : I64)
      (startDate endDate maxGracePeriod : U64) (lateFeeRate : U32)
  | leaseActivated (leaseId activationTimestamp : U64)
  | evictionPending (leaseId evictionTimestamp : U64) (totalOutstanding : I64)
  | depositSlashedForArrears (leaseId unpaidDuration : U64)
      (deductedAmount remainingEscrowBalance residualDebt : I64)
  | proratedRentCalculated (leaseId : U64) (monthlyRent : I64) (elapsedSeconds : U64)
      (proratedAmount : I64) (calculationType : Symbol)
  | fiatPeggedRentBilled (leaseId : U64) (targetUsdAmount : I64) (oracleExchangeRate : I128)
      (finalCryptoDeduction : I64) (billingTimestamp : U64) (assetAddress : Address)
  deriving DecidableEq

/-! ## Changes of a lease -/

namespace Lease

/-- The record `create_lease` writes. -/
def created (leaseId : U64) (lessor lessee : Address) (rentAmount depositAmount : I64)
    (startDate endDate maxGracePeriod : U64) (lateFeeRate : U32) (propertyUri : List UInt8)
    (proratedInitialRent : I64) (fiatPegConfig : Option FiatPegConfig) : Lease where
  leaseId
  lessor
  lessee
  rentAmount
  depositAmount
  startDate
  endDate
  state := .pending
  maxGracePeriod
  lateFeeRate
  dunningStartTimestamp := none
  outstandingBalance := 0
  accumulatedLateFees := 0
  lastRentPaymentTimestamp := 0
  propertyUri
  arrearsProcessed := false
  proratedInitialRent
  totalPaidRent := 0
  fiatPegConfig
  lastOraclePrice := none
  lastOracleTimestamp := none

def activate (timestamp : U64) (lease : Lease) : Lease :=
  { lease with state := .active, lastRentPaymentTimestamp := timestamp }

def pay (timestamp : U64) (totalPaidRent : I64) (lease : Lease) : Lease :=
  { lease with
    lastRentPaymentTimestamp := timestamp, outstandingBalance := 0, accumulatedLateFees := 0,
    totalPaidRent }

def recover (timestamp : U64) (totalPaidRent : I64) (lease : Lease) : Lease :=
  { lease with
    state := .active, lastRentPaymentTimestamp := timestamp, outstandingBalance := 0,
    accumulatedLateFees := 0, dunningStartTimestamp := none, totalPaidRent }

def enterGracePeriod (timestamp : U64) (lateFeeAmount : I64) (lease : Lease) : Lease :=
  { lease with
    state := .gracePeriod, dunningStartTimestamp := some timestamp,
    outstandingBalance := lease.rentAmount, accumulatedLateFees := lateFeeAmount }

def evict (lease : Lease) : Lease :=
  { lease with state := .evictionPending }

def processArrears (lease : Lease) : Lease :=
  { lease with arrearsProcessed := true }

def bill (timestamp : U64) (price : PriceData) (totalPaidRent : I64) (lease : Lease) : Lease :=
  { lease with
    lastOraclePrice := some price.price, lastOracleTimestamp := some price.timestamp,
    lastRentPaymentTimestamp := timestamp, totalPaidRent }

def close (lease : Lease) : Lease :=
  { lease with state := .closed }

end Lease

/-! ## Changes of the contract data -/

namespace ContractData

/-- The data `initialize` writes. -/
def initial (oracleAddress : Address) : ContractData where
  leases := ∅
  nextLeaseId := 1
  escrowVault := ⟨0, 0, 0⟩
  creditRecords := ∅
  oracleConfig := ⟨oracleAddress, 900, 2000, 3600⟩

def put (leaseId : U64) (lease : Lease) (data : ContractData) : ContractData :=
  { data with leases := data.leases.set leaseId (some lease) }

/-- A new lease under the next id. -/
def issue (lease : Lease) (data : ContractData) : ContractData :=
  { data with
    leases := data.leases.set data.nextLeaseId (some lease), nextLeaseId := data.nextLeaseId + 1 }

def withVault (vault : EscrowVault) (data : ContractData) : ContractData :=
  { data with escrowVault := vault }

def withCreditRecords (records : Table Address ProtocolCreditRecord) (data : ContractData) :
    ContractData :=
  { data with creditRecords := records }

end ContractData

end LeaseFlow.Dunning
