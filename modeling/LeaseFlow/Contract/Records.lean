import LeaseFlow.Foundations.Table
import LeaseFlow.Foundations.Arithmetic

/-!
# Records of the lease contract

The stored records, call arguments, errors and events of `LeaseContract`.  Field
names are the source's; fields that no modelled function reads or computes are
left out.
-/

set_option autoImplicit false

namespace LeaseFlow

/-! ## Ledger values -/

/-- Values of the unsigned and signed machine types.  Arithmetic that can leave
the range is checked where the code performs it (`checkedU64`, `checkedI128`). -/
abbrev U32 := Nat
abbrev U64 := Nat
abbrev U128 := Nat
abbrev I128 := Int

abbrev LeaseId := UInt64
abbrev Symbol := String

structure Address where
  account : Nat
  deriving DecidableEq, Repr

/-- A byte string of fixed length. -/
structure BytesN (n : Nat) where
  bytes : List UInt8
  length_eq : bytes.length = n
  deriving DecidableEq

def BytesN.repeated (n : Nat) (byte : UInt8) : BytesN n :=
  ⟨List.replicate n byte, List.length_replicate⟩

def u64Max : Nat := 2 ^ 64 - 1
def i128Min : Int := -2 ^ 127
def i128Max : Int := 2 ^ 127 - 1

def saturatingI128 (value : Int) : I128 :=
  BoundedArithmetic.saturate i128Min i128Max value

/-- `u64::saturating_add`. -/
def saturatingAddU64 (left right : U64) : U64 :=
  min (left + right) u64Max

/-! ## Enumerations -/

inductive DepositStatus where
  | held
  | settled
  | disputed
  deriving DecidableEq, Repr

inductive LeaseStatus where
  | pending
  | active
  | expired
  | disputed
  | terminated
  | daoArbitration
  deriving DecidableEq, Repr

inductive MaintenanceStatus where
  | none
  | reported
  | fixed
  | verified
  deriving DecidableEq, Repr

inductive DamageSeverity where
  | normalWearAndTear
  | minor
  | moderate
  | major
  | severe
  | catastrophic
  deriving DecidableEq, Repr

/-- The discriminants of the source's enumeration. -/
def DamageSeverity.code : DamageSeverity → U32
  | .normalWearAndTear => 0
  | .minor => 1
  | .moderate => 2
  | .major => 3
  | .severe => 4
  | .catastrophic => 5

inductive AssetCondition where
  | mint
  | worn
  | damaged
  | destroyed
  deriving DecidableEq, Repr

inductive OracleStatus where
  | active
  | demoted
  | failed
  deriving DecidableEq, Repr

inductive OracleTier where
  | primary
  | backup
  deriving DecidableEq, Repr

/-! ## Lease flags -/

abbrev LeaseFlags := BitVec 8

namespace LeaseFlags

def active : LeaseFlags := 1#8
def flatFeeApplied : LeaseFlags := 2#8
def hadLatePayment : LeaseFlags := 4#8
def hasPet : LeaseFlags := 8#8
def yieldDelegationEnabled : LeaseFlags := 16#8
def paused : LeaseFlags := 32#8

/-- `flags & MASK != 0` -/
def has (flags mask : LeaseFlags) : Bool := flags &&& mask != 0#8

/-- `flags |= MASK` -/
def raise (flags mask : LeaseFlags) : LeaseFlags := flags ||| mask

/-- `flags &= !MASK` -/
def clear (flags mask : LeaseFlags) : LeaseFlags := flags &&& ~~~mask

@[simp] theorem has_clear (flags mask : LeaseFlags) : (flags.clear mask).has mask = false := by
  simp [has, clear, BitVec.and_assoc]

theorem has_raise (flags : LeaseFlags) {mask other : LeaseFlags}
    (disjoint : mask &&& other = 0#8) : (flags.raise mask).has other = flags.has other := by
  rw [has, has, raise, BitVec.and_comm, BitVec.and_or_distrib_left, BitVec.and_comm other mask,
    disjoint, BitVec.or_zero, BitVec.and_comm]

end LeaseFlags

/-! ## Leases -/

/-- A symbol-keyed lease. -/
structure Lease where
  landlord : Address
  tenant : Address
  rentPerSec : I128
  depositAmount : I128
  startDate : U64
  endDate : U64
  propertyUri : String
  status : LeaseStatus
  nftContract : Option Address
  tokenId : Option U128
  active : Bool
  buyoutPrice : Option I128
  cumulativePayments : I128
  paymentToken : Address
  deriving DecidableEq

structure LeaseInstance where
  rentAmount : I128
  depositAmount : I128
  securityDeposit : I128
  rentPaid : I128
  cumulativePayments : I128
  debt : I128
  lateFeeFlat : I128
  lateFeePerSec : I128
  rentWithdrawn : I128
  withheldRent : I128
  rentPullAuthorizedAmount : Option I128
  rentPerSec : I128
  buyoutPrice : Option I128
  landlord : Address
  tenant : Address
  paymentToken : Address
  withdrawalAddress : Option Address
  inspector : Option Address
  nftContract : Option Address
  tokenId : Option U128
  assetRegistryAddress : Option Address
  assetId : Option U128
  arbitrators : List Address
  startDate : U64
  endDate : U64
  gracePeriodEnd : U64
  secondsLateCharged : U64
  equityPercentageBps : U32
  status : LeaseStatus
  depositStatus : DepositStatus
  maintenanceStatus : MaintenanceStatus
  repairProofHash : Option (BytesN 32)
  propertyUri : String
  flags : LeaseFlags
  earlyTerminationFeeBps : Option U32
  fixedPenalty : Option I128
  lessorReferenceId : Option String
  deriving DecidableEq

/-- `security_deposit + deposit_amount`, before any range check. -/
def LeaseInstance.totalDeposit (lease : LeaseInstance) : Int :=
  lease.securityDeposit + lease.depositAmount

structure CreateLeaseParams where
  tenant : Address
  rentAmount : I128
  depositAmount : I128
  securityDeposit : I128
  startDate : U64
  endDate : U64
  propertyUri : String
  paymentToken : Address
  arbitrators : List Address
  rentPerSec : I128
  gracePeriodEnd : U64
  lateFeeFlat : I128
  lateFeePerSec : I128
  equityPercentageBps : U32
  hasPet : Bool
  yieldDelegationEnabled : Bool
  depositAsset : Option Address
  dexContract : Option Address
  maxSlippageBps : U32
  swapPath : List Address
  assetRegistryAddress : Option Address
  assetId : Option U128
  lessorReferenceId : Option String

structure BillingLeaseParams where
  landlord : Address
  tenant : Address
  rentAmount : I128
  rentPerSecond : I128
  depositAmount : I128
  duration : U64
  propertyUri : String
  paymentToken : Address
  billingFrequency : U64
  rentTreasuryAddress : Address

structure HistoricalLease where
  lease : LeaseInstance
  terminatedBy : Address
  terminatedAt : U64

structure Receipt where
  leaseId : Symbol
  month : U32
  amount : I128
  date : U64

structure UsageRights where
  renter : Address
  leaseId : Symbol
  validUntil : U64

structure TerminationSimulation where
  depositAmount : I128
  penaltyAmount : I128
  projectedRefund : I128
  deriving DecidableEq

/-! ## Oracles -/

structure OraclePayload where
  leaseId : LeaseId
  oraclePubkey : BytesN 32
  damageSeverity : DamageSeverity
  nonce : U64
  timestamp : U64
  signature : BytesN 64
  deriving DecidableEq

structure AssetConditionMetadataPayload where
  leaseId : LeaseId
  oraclePubkey : BytesN 32
  assetCondition : AssetCondition
  nonce : U64
  timestamp : U64
  signature : BytesN 64
  deriving DecidableEq

structure OracleConfig where
  pubkey : BytesN 32
  tier : OracleTier
  status : OracleStatus
  lastSuccessfulTimestamp : U64
  demotionTimestamp : Option U64
  failureCount : U32

structure FallbackHierarchy where
  primaryOracle : BytesN 32
  backupOracle : BytesN 32
  daoArbitrationEnabled : Bool
  hierarchyActive : Bool
  lastDemotionTime : Option U64

/-! ## Governance, velocity and yield -/

structure SecurityCouncilMember where
  address : Address
  votingPower : U32
  active : Bool

structure SecurityCouncil where
  members : List SecurityCouncilMember
  vetoThresholdBps : U32
  totalVotingPower : U32

structure PendingSlashVeto where
  leaseId : LeaseId
  slashAmount : I128
  tenantRefund : I128
  landlordPayout : I128
  oraclePayload : OraclePayload
  proposedAt : U64
  timelockEnd : U64
  vetoVotesFor : U32
  vetoVotesAgainst : U32
  executed : Bool
  vetoed : Bool

structure VelocityTracker where
  lessor : Address
  totalLeases : U64
  terminations24h : U64
  lastTerminationTimes : List U64
  isPaused : Bool
  pauseTimestamp : Option U64

structure DaoApprovalRequest where
  lessor : Address
  requestId : U64
  timestamp : U64
  reason : String
  terminationsCount : U64
  approved : Bool
  approvals : List Address

structure YieldDeployment where
  leaseId : LeaseId
  principalAmount : I128
  yieldProtocol : Address
  deploymentTimestamp : U64
  lpTokens : I128
  active : Bool

/-! ## Billing -/

structure BillingState where
  globalBillingEnabled : Bool
  emergencyPause : Bool

/-- A lease as the continuous billing module registers it. -/
structure ActiveLease where
  leaseId : LeaseId
  lessor : Address
  lessee : Address
  assetAddress : Address
  rentAmount : I128
  rentPerSecond : I128
  token : Address
  startTime : U64
  endTime : U64
  billingFrequency : U64
  rentTreasuryAddress : Address

/-! ## Errors -/

/-- The declared errors and the four the code returns without declaring them
(`PendingVeto`, `InvalidState`, `VelocityLimitExceeded`, `InvalidParameters`). -/
inductive LeaseError where
  | leaseNotFound
  | leaseNotExpired
  | rentOutstanding
  | depositNotSettled
  | unauthorised
  | invalidDeduction
  | nftTransferFailed
  | usageRightsNotFound
  | usageRightsExpired
  | kycRequired
  | invalidAsset
  | nftNotReturned
  | withdrawalAddressNotSet
  | notAnArbitrator
  | leaseAlreadyExists
  | upgradeNotAllowed
  | pathPaymentFailed
  | slippageExceeded
  | invalidReleaseMath
  | oracleNotWhitelisted
  | invalidSignature
  | invalidNonce
  | leaseNotTerminated
  | depositAlreadySettled
  | yieldUnderflow
  | insufficientLiquidityBuffer
  | yieldProtocolNotWhitelisted
  | invalidYieldDistribution
  | oracleStale
  | oracleUnavailable
  | fallbackHierarchyNotConfigured
  | daoArbitrationNotEnabled
  | oracleBypassAttempt
  | assetNotOwned
  | assetRegistryInvalid
  | assetFreezeFailed
  | assetThawFailed
  | registryCallFailed
  | assetVerificationFailed
  | pendingVeto
  | invalidState
  | velocityLimitExceeded
  | invalidParameters
  deriving DecidableEq, Repr

/-- A call ends early with an `Err`, or traps with a message. -/
inductive Fault where
  | err (error : LeaseError)
  | trap (message : String)
  deriving DecidableEq, Repr

/-! ## Token movements -/

structure TokenTransfer where
  token : Address
  sender : Address
  recipient : Address
  amount : I128
  deriving DecidableEq, Repr

structure NftTransfer where
  nftContract : Address
  recipient : Address
  tokenId : U128
  deriving DecidableEq, Repr

inductive DepositShare where
  | tenantRefund
  | landlordPayout
  deriving DecidableEq, Repr

/-- The history of deposits: a record written by a creation, and a transfer into or
out of the contract on account of a lease's deposit.  No operation makes a transfer of
the former kind. -/
inductive DepositEntry where
  | opened (leaseId : LeaseId)
  | received (leaseId : LeaseId) (transfer : TokenTransfer)
  | paid (leaseId : LeaseId) (share : DepositShare) (transfer : TokenTransfer)
  deriving DecidableEq, Repr

/-! ## Events -/

inductive Event where
  | roommateAdded (leaseId : LeaseId) (roommate : Address)
  | rentPaidPartial (leaseId : LeaseId) (roommate : Address) (amount : I128)
  | leaseStarted (id : U64) (renter : Address) (rate : I128)
  | leaseEnded (id : U64) (duration : U64) (totalPaid : I128)
  | assetReclaimed (id : LeaseId) (reason : String)
  | leaseTerminated (leaseId : LeaseId)
  | terminateBountyPaid (leaseId : LeaseId) (caller : Address) (amount : I128)
  | maintenanceIssueReported (leaseId : LeaseId) (tenant : Address)
  | repairProofSubmitted (leaseId : LeaseId) (landlord : Address) (proofHash : BytesN 32)
  | maintenanceVerified (leaseId : LeaseId) (inspector : Address) (withheldReleased : I128)
  | termsHashUpdated (newTermsHash : BytesN 32)
  | depositDisputed (leaseId : LeaseId) (caller : Address)
  | evictionEligible (leaseId : LeaseId) (tenant : Address) (debt : I128)
  | crossAssetDepositLocked (leaseId : LeaseId) (originalAsset collateralAsset : Address)
      (swapPath : List Address) (originalAmount finalLockedAmount : I128)
  | leaseSigned (leaseId : LeaseId) (propertyHash : String)
  | paymentLate (leaseId : LeaseId) (daysLate : U64) (currentFine : I128)
  | mutualLeaseFinalized (leaseId : LeaseId)
      (returnAmount slashAmount tenantRefund landlordPayout : I128)
  | depositSlashed (leaseId : LeaseId) (oraclePubkey : BytesN 32) (damageCode : U32)
      (deductedAmount tenantRefund landlordPayout : I128) (lessorReferenceId : Option String)
  | rentPaymentExecuted (leaseId : LeaseId) (payer : Address) (amount : I128) (timestamp : U64)
      (lessorReferenceId : Option String)
  | tenantFlagged (leaseId : LeaseId) (tenant : Address) (reason : String)
  | escrowYieldHarvested (leaseId : LeaseId)
      (totalYield lesseeShare lessorShare daoShare : I128) (yieldProtocol : Address)
      (harvestTimestamp : U64)
  | oracleDemoted (oraclePubkey : BytesN 32) (reason : String) (demotionTimestamp : U64)
      (failureCount : U32)
  | fallbackHierarchyActivated (primaryOracle backupOracle : BytesN 32)
      (activationTimestamp : U64) (reason : String)
  | daoArbitrationTriggered (leaseId : LeaseId) (triggerTimestamp : U64) (reason : String)
  | assetMetadataUpdated (leaseId : LeaseId) (assetCondition : AssetCondition)
      (oraclePubkey : BytesN 32) (updateTimestamp : U64) (previousCondition : AssetCondition)
  | assetOwnershipVerified (leaseId : LeaseId) (registryAddress : Address) (assetId : U128)
      (owner : Address) (freezeProof : BytesN 32) (verificationTimestamp : U64)
  | terminationVelocityAnomalyDetected (lessor : Address)
      (terminations24h portfolioSize velocityPercentage timestamp : U64)
  | lessorPaused (lessor : Address) (reason : String) (timestamp : U64)
  | leaseTerminatedWithVelocityGuard (leaseId : LeaseId) (lessor tenant terminatedBy : Address)
      (timestamp portfolioSize velocity24h : U64)
  | proposalSwept (leaseId : LeaseId) (sweptBy : Address) (sweptAt : U64)
  | leaseBillingStarted (leaseId : LeaseId) (lessor lessee : Address)
      (rentAmount rentPerSecond : I128) (billingFrequency timestamp : U64)
  | reentryDetected (timestamp : U64)

end LeaseFlow
