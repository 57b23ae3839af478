import LeaseFlow.Calendar.RentShare
import LeaseFlow.Foundations.Run
import LeaseFlow.Foundations.Transaction

/-!
# The solvency tracker `EscrowInvariant`

Six operations move one total between three components and check the sums when they are done.
The tracker is a record in memory: an operation that returns an error keeps the writes it made
before it.
-/

set_option autoImplicit false

namespace LeaseFlow.Solvency

open Transaction

/-! ## Records -/

structure EscrowInvariant where
  totalEscrowed : I128
  activeDeposits : I128
  pendingYield : I128
  disputedFunds : I128
  vaultTotalLocked : I128
  leaseCount : U64
  precisionLossCumulative : I128
  dustCumulative : I128
  deriving DecidableEq, Repr

inductive InvariantViolation where
  | coreInvariantViolated (expectedTotal calculatedTotal activeDeposits pendingYield disputedFunds
      precisionLoss dustTracked : I128)
  | vaultSynchronizationLost (vaultRecorded invariantTotal : I128)
  | negativeComponentValues (total active pending disputed vault : I128)
  | leaseCountMismatch (leaseCount : U64) (totalEscrowed : I128)
  | negativeDepositAmount (amount : I128)
  | negativeYieldAmount (amount : I128)
  | negativeDisputeAmount (amount : I128)
  | negativeSettlementAmounts (tenantRefund landlordPayout protocolFee : I128)
  | negativeReleaseAmounts (returnAmount slashAmount : I128)
  | insufficientActiveDeposits (requested available : I128)
  | insufficientFundsForDispute (requested available : I128)
  | insufficientFundsForSettlement (requested available : I128)
  | mutualReleaseMathMismatch (expectedTotal releaseTotal returnAmount slashAmount : I128)
  | componentSumMismatch (expectedSum actualSum active pending disputed : I128)
  | dustAccountingError (expectedSettlement actualSources dustAmount : I128)
  | invalidSlashPercentage (slashPercentageBps : U32)
  | slashExceedsTotal (slashAmount totalEscrowed : I128)
  | calculationOverflow
  deriving DecidableEq, Repr

/-- An operation ends in an `Err` or in a panic. -/
inductive Fault where
  | err (violation : InvariantViolation)
  | panic
  deriving DecidableEq, Repr

abbrev Body (α : Type) := Transaction EscrowInvariant Fault α

namespace EscrowInvariant

/-- `EscrowInvariant::new`. -/
def new : EscrowInvariant where
  totalEscrowed := 0
  activeDeposits := 0
  pendingYield := 0
  disputedFunds := 0
  vaultTotalLocked := 0
  leaseCount := 0
  precisionLossCumulative := 0
  dustCumulative := 0

/-! ### Writes of a field -/

def putTotal (totalEscrowed : I128) (self : EscrowInvariant) : EscrowInvariant :=
  { self with totalEscrowed }

def putActive (activeDeposits : I128) (self : EscrowInvariant) : EscrowInvariant :=
  { self with activeDeposits }

def putPending (pendingYield : I128) (self : EscrowInvariant) : EscrowInvariant :=
  { self with pendingYield }

def putDisputed (disputedFunds : I128) (self : EscrowInvariant) : EscrowInvariant :=
  { self with disputedFunds }

def putVault (vaultTotalLocked : I128) (self : EscrowInvariant) : EscrowInvariant :=
  { self with vaultTotalLocked }

def putCount (leaseCount : U64) (self : EscrowInvariant) : EscrowInvariant :=
  { self with leaseCount }

def putPrecision (precisionLossCumulative : I128) (self : EscrowInvariant) : EscrowInvariant :=
  { self with precisionLossCumulative }

def putDust (dustCumulative : I128) (self : EscrowInvariant) : EscrowInvariant :=
  { self with dustCumulative }

end EscrowInvariant

/-! ## Arithmetic -/

def u128Max : Nat := 2 ^ 128 - 1

/-- `as u128` and `as i128`: the low bits in two's complement. -/
def asU128 (value : I128) : Nat := (value % 2 ^ 128).toNat
def asI128 (value : Nat) : I128 := Int.bmod value (2 ^ 128)

def mulU128 (left right : Nat) : Checked Nat := Checked.upTo u128Max (left * right)

/-- Checked arithmetic: overflow panics. -/
def compute {α : Type} (computation : Checked α) : Body α :=
  fetch computation .panic

/-- The `safe_` functions: overflow is an error. -/
def safely {α : Type} (computation : Checked α) : Body α :=
  fetch computation (.err .calculationOverflow)

def safeAdd (left right : I128) : Body I128 := safely (addI128 left right)
def safeSub (left right : I128) : Body I128 := safely (subI128 left right)
def safeMul (left right : I128) : Body I128 := safely (mulI128 left right)

def simulateSorobanPrecisionLoss (amount : I128) : I128 :=
  if amount > 0 then amount / 1000000 else 0

def calculateSettlementDust (totalSettlement totalEscrowed : I128) : Checked I128 :=
  if totalSettlement = totalEscrowed then pure 0 else subI128 totalEscrowed totalSettlement

structure Sources where
  fromDisputed : I128
  fromPending : I128
  fromActive : I128

/-- Disputed funds pay first, then pending yield, then active deposits. -/
def calculateSettlementSources (totalSettlement disputed pending active : I128) :
    Checked Sources := do
  let fromDisputed : I128 := min totalSettlement disputed
  let remaining ← subI128 totalSettlement fromDisputed
  let fromPending : I128 := min remaining pending
  let finalRemaining ← subI128 remaining fromPending
  let fromActive : I128 := min finalRemaining active
  pure ⟨fromDisputed, fromPending, fromActive⟩

/-! ## Verification -/

namespace EscrowInvariant

def componentSum (self : EscrowInvariant) : Checked I128 := do
  let sum ← addI128 self.activeDeposits self.pendingYield
  addI128 sum self.disputedFunds

def hasNegative (self : EscrowInvariant) : Prop :=
  self.totalEscrowed < 0 ∨ self.activeDeposits < 0 ∨ self.pendingYield < 0 ∨
    self.disputedFunds < 0 ∨ self.vaultTotalLocked < 0

instance (self : EscrowInvariant) : Decidable self.hasNegative :=
  inferInstanceAs (Decidable (self.totalEscrowed < 0 ∨ self.activeDeposits < 0 ∨
    self.pendingYield < 0 ∨ self.disputedFunds < 0 ∨ self.vaultTotalLocked < 0))

def verifyCoreInvariant (self : EscrowInvariant) : Except InvariantViolation Unit :=
  match self.componentSum with
  | none => .error .calculationOverflow
  | some calculatedTotal =>
      if calculatedTotal ≠ self.totalEscrowed then
        .error (.coreInvariantViolated self.totalEscrowed calculatedTotal self.activeDeposits
          self.pendingYield self.disputedFunds self.precisionLossCumulative self.dustCumulative)
      else if self.vaultTotalLocked ≠ self.totalEscrowed then
        .error (.vaultSynchronizationLost self.vaultTotalLocked self.totalEscrowed)
      else if self.hasNegative then
        .error (.negativeComponentValues self.totalEscrowed self.activeDeposits self.pendingYield
          self.disputedFunds self.vaultTotalLocked)
      else if self.leaseCount > 0 ∧ self.totalEscrowed = 0 then
        .error (.leaseCountMismatch self.leaseCount self.totalEscrowed)
      else
        .ok ()

end EscrowInvariant

/-- The check each operation ends with. -/
def verify : Body Unit := do
  let self ← get
  propagate .err self.verifyCoreInvariant

/-! ## Operations -/

open EscrowInvariant

def applyLeaseCreation (depositAmount : I128) : Body Unit := do
  ensure (0 ≤ depositAmount) (.err (.negativeDepositAmount depositAmount))
  let self ← get
  let totalEscrowed ← safeAdd self.totalEscrowed depositAmount
  modify (putTotal totalEscrowed)
  let activeDeposits ← safeAdd self.activeDeposits depositAmount
  modify (putActive activeDeposits)
  let vaultTotalLocked ← safeAdd self.vaultTotalLocked depositAmount
  modify (putVault vaultTotalLocked)
  let leaseCount ← compute (addU64 self.leaseCount 1)
  modify (putCount leaseCount)
  if depositAmount > 1000000 then do
    let precisionLoss ← safeAdd self.precisionLossCumulative
      (simulateSorobanPrecisionLoss depositAmount)
    modify (putPrecision precisionLoss)
    verify
  else
    verify

def applyYieldAccumulation (yieldAmount : I128) : Body Unit := do
  ensure (0 ≤ yieldAmount) (.err (.negativeYieldAmount yieldAmount))
  let self ← get
  ensure (yieldAmount ≤ self.activeDeposits)
    (.err (.insufficientActiveDeposits yieldAmount self.activeDeposits))
  let activeDeposits ← safeSub self.activeDeposits yieldAmount
  modify (putActive activeDeposits)
  let pendingYield ← safeAdd self.pendingYield yieldAmount
  modify (putPending pendingYield)
  let precisionLoss ← safeAdd self.precisionLossCumulative
    (simulateSorobanPrecisionLoss yieldAmount)
  modify (putPrecision precisionLoss)
  verify

/-- Pending yield is disputed first, then active deposits. -/
def applyDisputeInitiation (disputeAmount : I128) : Body Unit := do
  ensure (0 ≤ disputeAmount) (.err (.negativeDisputeAmount disputeAmount))
  let self ← get
  let available ← safeAdd self.activeDeposits self.pendingYield
  ensure (disputeAmount ≤ available)
    (.err (.insufficientFundsForDispute disputeAmount available))
  let fromPending : I128 := min disputeAmount self.pendingYield
  let fromActive ← safeSub disputeAmount fromPending
  let pendingYield ← safeSub self.pendingYield fromPending
  modify (putPending pendingYield)
  let activeDeposits ← safeSub self.activeDeposits fromActive
  modify (putActive activeDeposits)
  let disputedFunds ← safeAdd self.disputedFunds disputeAmount
  modify (putDisputed disputedFunds)
  verify

/-- What the sources have to give is compared with the settlement after the dust is counted. -/
def applyLeaseSettlement (tenantRefund landlordPayout protocolFee : I128) : Body Unit := do
  ensure (0 ≤ tenantRefund ∧ 0 ≤ landlordPayout ∧ 0 ≤ protocolFee)
    (.err (.negativeSettlementAmounts tenantRefund landlordPayout protocolFee))
  let refunds ← safeAdd tenantRefund landlordPayout
  let totalSettlement ← safeAdd refunds protocolFee
  let self ← get
  ensure (totalSettlement ≤ self.totalEscrowed)
    (.err (.insufficientFundsForSettlement totalSettlement self.totalEscrowed))
  let dust ← compute (calculateSettlementDust totalSettlement self.totalEscrowed)
  let dustCumulative ← safeAdd self.dustCumulative dust
  modify (putDust dustCumulative)
  let sources ← compute (calculateSettlementSources totalSettlement self.disputedFunds
    self.pendingYield self.activeDeposits)
  let partialTotal ← safeAdd sources.fromDisputed sources.fromPending
  let sourceTotal ← safeAdd partialTotal sources.fromActive
  ensure (sourceTotal = totalSettlement)
    (.err (.dustAccountingError totalSettlement sourceTotal dust))
  let disputedFunds ← safeSub self.disputedFunds sources.fromDisputed
  modify (putDisputed disputedFunds)
  let pendingYield ← safeSub self.pendingYield sources.fromPending
  modify (putPending pendingYield)
  let activeDeposits ← safeSub self.activeDeposits sources.fromActive
  modify (putActive activeDeposits)
  let totalEscrowed ← safeSub self.totalEscrowed totalSettlement
  modify (putTotal totalEscrowed)
  let vaultTotalLocked ← safeSub self.vaultTotalLocked totalSettlement
  modify (putVault vaultTotalLocked)
  if totalSettlement > 0 then do
    modify (putCount (self.leaseCount - 1))
    verify
  else
    verify

/-- Everything is released; the lease count goes down by one. -/
def EscrowInvariant.clear (self : EscrowInvariant) : EscrowInvariant :=
  ((((((self.putActive 0).putPending 0).putDisputed 0).putTotal 0).putVault 0).putCount
    (self.leaseCount - 1))

def applyMutualRelease (returnAmount slashAmount : I128) : Body Unit := do
  ensure (0 ≤ returnAmount ∧ 0 ≤ slashAmount)
    (.err (.negativeReleaseAmounts returnAmount slashAmount))
  let totalRelease ← safeAdd returnAmount slashAmount
  let self ← get
  ensure (totalRelease = self.totalEscrowed)
    (.err (.mutualReleaseMathMismatch self.totalEscrowed totalRelease returnAmount slashAmount))
  let componentSum ← safely self.componentSum
  ensure (componentSum = totalRelease)
    (.err (.componentSumMismatch totalRelease componentSum self.activeDeposits self.pendingYield
      self.disputedFunds))
  modify EscrowInvariant.clear
  verify

/-- The slash as a number of basis points of the total, rounded down. -/
def slashRatio (slashAmount totalEscrowed : I128) : Checked Nat :=
  if totalEscrowed > 0 then do
    let scaled ← mulU128 (asU128 slashAmount) 10000
    pure (scaled / asU128 totalEscrowed)
  else
    pure 0

/-- The share a component bears, rounded down. -/
def slashShare (component : I128) (ratio : Nat) : Checked I128 := do
  let scaled ← mulU128 (asU128 component) ratio
  pure (asI128 (scaled / 10000))

def applyPartialSlashing (slashPercentageBps : U32) : Body Unit := do
  ensure (slashPercentageBps ≤ 10000) (.err (.invalidSlashPercentage slashPercentageBps))
  let self ← get
  if self.totalEscrowed = 0 then pure ()
  else do
    let rawAmount ← safeMul self.totalEscrowed slashPercentageBps
    let slashAmount : I128 := rawAmount.tdiv 10000
    ensure (slashAmount ≤ self.totalEscrowed)
      (.err (.slashExceedsTotal slashAmount self.totalEscrowed))
    let ratio ← compute (slashRatio slashAmount self.totalEscrowed)
    let activeSlash ← compute (slashShare self.activeDeposits ratio)
    let pendingSlash ← compute (slashShare self.pendingYield ratio)
    let disputedSlash ← compute (slashShare self.disputedFunds ratio)
    let activeDeposits ← compute (subI128 self.activeDeposits activeSlash)
    modify (putActive activeDeposits)
    let pendingYield ← compute (subI128 self.pendingYield pendingSlash)
    modify (putPending pendingYield)
    let disputedFunds ← compute (subI128 self.disputedFunds disputedSlash)
    modify (putDisputed disputedFunds)
    let totalEscrowed ← compute (subI128 self.totalEscrowed slashAmount)
    modify (putTotal totalEscrowed)
    let vaultTotalLocked ← compute (subI128 self.vaultTotalLocked slashAmount)
    modify (putVault vaultTotalLocked)
    let partialTotal ← safeAdd activeSlash pendingSlash
    let actualSlashTotal ← safeAdd partialTotal disputedSlash
    if actualSlashTotal < slashAmount then do
      let truncationDust ← safeSub slashAmount actualSlashTotal
      let dustCumulative ← safeAdd self.dustCumulative truncationDust
      modify (putDust dustCumulative)
      verify
    else
      verify

/-! ## Calls -/

inductive Operation where
  | leaseCreation (depositAmount : I128)
  | yieldAccumulation (yieldAmount : I128)
  | disputeInitiation (disputeAmount : I128)
  | leaseSettlement (tenantRefund landlordPayout protocolFee : I128)
  | mutualRelease (returnAmount slashAmount : I128)
  | partialSlashing (slashPercentageBps : U32)
  deriving DecidableEq

def Operation.body : Operation → Body Unit
  | .leaseCreation depositAmount => applyLeaseCreation depositAmount
  | .yieldAccumulation yieldAmount => applyYieldAccumulation yieldAmount
  | .disputeInitiation disputeAmount => applyDisputeInitiation disputeAmount
  | .leaseSettlement tenantRefund landlordPayout protocolFee =>
      applyLeaseSettlement tenantRefund landlordPayout protocolFee
  | .mutualRelease returnAmount slashAmount => applyMutualRelease returnAmount slashAmount
  | .partialSlashing slashPercentageBps => applyPartialSlashing slashPercentageBps

/-- What a call leaves of the tracker.  An error keeps the writes before it; after a panic there
is no tracker to go on with, and the step stands still. -/
def leftBy (body : Body Unit) (self : EscrowInvariant) : EscrowInvariant :=
  match body.execute self with
  | (.ok _, after) => after
  | (.error (.err _), after) => after
  | (.error .panic, _) => self

def step (operation : Operation) (self : EscrowInvariant) : EscrowInvariant :=
  leftBy operation.body self

end LeaseFlow.Solvency
