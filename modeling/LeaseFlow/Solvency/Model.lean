import LeaseFlow.Solvency.Tracker

/-!
# The model `EscrowState` of the property tests

The same total and components with four of the operations.  A dispute takes from the active
deposits alone, a settlement picks its sources by what is there, and nothing is counted beside the
leases.
-/

set_option autoImplicit false

namespace LeaseFlow.Solvency

open Transaction

structure EscrowState where
  totalEscrowed : I128
  activeDeposits : I128
  pendingYield : I128
  disputedFunds : I128
  vaultTotalLocked : I128
  leaseCount : U64
  deriving DecidableEq, Repr

inductive SolvencyError where
  | invariantViolation (expected actual : I128) (componentBreakdown : I128 × I128 × I128)
  | vaultMismatch (vaultTotal escrowTotal : I128)
  | negativeValues
  | overflow
  | underflow
  | negativeDeposit
  | negativeYield
  | negativeDispute
  | negativeSettlement
  | dustAccountingError (expected actual : I128)
  deriving DecidableEq, Repr

namespace EscrowState

/-- An operation ends in an `Err` or in a panic. -/
inductive Fault where
  | err (error : SolvencyError)
  | panic
  deriving DecidableEq, Repr

abbrev Body (α : Type) := Transaction EscrowState Fault α

/-- `EscrowState::new`. -/
def new : EscrowState where
  totalEscrowed := 0
  activeDeposits := 0
  pendingYield := 0
  disputedFunds := 0
  vaultTotalLocked := 0
  leaseCount := 0

/-! ### Writes of a field -/

def putTotal (totalEscrowed : I128) (self : EscrowState) : EscrowState :=
  { self with totalEscrowed }

def putActive (activeDeposits : I128) (self : EscrowState) : EscrowState :=
  { self with activeDeposits }

def putPending (pendingYield : I128) (self : EscrowState) : EscrowState :=
  { self with pendingYield }

def putDisputed (disputedFunds : I128) (self : EscrowState) : EscrowState :=
  { self with disputedFunds }

def putVault (vaultTotalLocked : I128) (self : EscrowState) : EscrowState :=
  { self with vaultTotalLocked }

def putCount (leaseCount : U64) (self : EscrowState) : EscrowState :=
  { self with leaseCount }

/-! ### Verification -/

/-- Checked arithmetic: overflow panics. -/
def compute {α : Type} (computation : Checked α) : Body α :=
  fetch computation .panic

/-- `checked_` arithmetic whose failure is the given error. -/
def checked {α : Type} (computation : Checked α) (error : SolvencyError) : Body α :=
  fetch computation (.err error)

def hasNegative (self : EscrowState) : Prop :=
  self.totalEscrowed < 0 ∨ self.activeDeposits < 0 ∨ self.pendingYield < 0 ∨
    self.disputedFunds < 0 ∨ self.vaultTotalLocked < 0

instance (self : EscrowState) : Decidable self.hasNegative :=
  inferInstanceAs (Decidable (self.totalEscrowed < 0 ∨ self.activeDeposits < 0 ∨
    self.pendingYield < 0 ∨ self.disputedFunds < 0 ∨ self.vaultTotalLocked < 0))

def verifySolvencyInvariant : Body Unit := do
  let self ← get
  let sum ← compute (addI128 self.activeDeposits self.pendingYield)
  let calculatedTotal ← compute (addI128 sum self.disputedFunds)
  ensure (calculatedTotal = self.totalEscrowed)
    (.err (.invariantViolation self.totalEscrowed calculatedTotal
      (self.activeDeposits, self.pendingYield, self.disputedFunds)))
  ensure (self.vaultTotalLocked = self.totalEscrowed)
    (.err (.vaultMismatch self.vaultTotalLocked self.totalEscrowed))
  ensure (¬ self.hasNegative) (.err .negativeValues)

/-! ### Operations -/

def applyDeposit (amount : I128) : Body Unit := do
  ensure (0 ≤ amount) (.err .negativeDeposit)
  let self ← get
  let totalEscrowed ← checked (addI128 self.totalEscrowed amount) .overflow
  modify (putTotal totalEscrowed)
  let activeDeposits ← checked (addI128 self.activeDeposits amount) .overflow
  modify (putActive activeDeposits)
  let vaultTotalLocked ← checked (addI128 self.vaultTotalLocked amount) .overflow
  modify (putVault vaultTotalLocked)
  let leaseCount ← compute (addU64 self.leaseCount 1)
  modify (putCount leaseCount)
  verifySolvencyInvariant

def applyYieldAccumulation (yieldAmount : I128) : Body Unit := do
  ensure (0 ≤ yieldAmount) (.err .negativeYield)
  let self ← get
  let activeDeposits ← checked (subI128 self.activeDeposits yieldAmount) .underflow
  modify (putActive activeDeposits)
  let pendingYield ← checked (addI128 self.pendingYield yieldAmount) .overflow
  modify (putPending pendingYield)
  verifySolvencyInvariant

/-- Disputed funds come from the active deposits alone. -/
def applyDispute (disputedAmount : I128) : Body Unit := do
  ensure (0 ≤ disputedAmount) (.err .negativeDispute)
  let self ← get
  let activeDeposits ← checked (subI128 self.activeDeposits disputedAmount) .underflow
  modify (putActive activeDeposits)
  let disputedFunds ← checked (addI128 self.disputedFunds disputedAmount) .overflow
  modify (putDisputed disputedFunds)
  verifySolvencyInvariant

/-- The sources of a settlement, by what the state holds. -/
def settlementSources (totalSettlement : I128) (self : EscrowState) : Checked Sources :=
  if self.disputedFunds > 0 then do
    let takenFromDisputed : I128 := min totalSettlement self.disputedFunds
    let remaining ← subI128 totalSettlement takenFromDisputed
    let takenFromPending : I128 := min remaining self.pendingYield
    let finalRemaining ← subI128 remaining takenFromPending
    let takenFromActive : I128 := min finalRemaining self.activeDeposits
    pure ⟨takenFromDisputed, takenFromPending, takenFromActive⟩
  else if self.pendingYield > 0 then do
    let takenFromPending : I128 := min totalSettlement self.pendingYield
    let remaining ← subI128 totalSettlement takenFromPending
    let takenFromActive : I128 := min remaining self.activeDeposits
    pure ⟨0, takenFromPending, takenFromActive⟩
  else
    pure ⟨0, 0, min totalSettlement self.activeDeposits⟩

def applySettlement (tenantRefund landlordPayout protocolFee : I128) : Body Unit := do
  ensure (0 ≤ tenantRefund ∧ 0 ≤ landlordPayout ∧ 0 ≤ protocolFee) (.err .negativeSettlement)
  let refunds ← checked (addI128 tenantRefund landlordPayout) .overflow
  let totalSettlement ← checked (addI128 refunds protocolFee) .overflow
  let self ← get
  let sources ← compute (self.settlementSources totalSettlement)
  let partialTotal ← compute (addI128 sources.fromActive sources.fromPending)
  let sourceTotal ← compute (addI128 partialTotal sources.fromDisputed)
  ensure (sourceTotal = totalSettlement)
    (.err (.dustAccountingError totalSettlement sourceTotal))
  let activeDeposits ← checked (subI128 self.activeDeposits sources.fromActive) .underflow
  modify (putActive activeDeposits)
  let pendingYield ← checked (subI128 self.pendingYield sources.fromPending) .underflow
  modify (putPending pendingYield)
  let disputedFunds ← checked (subI128 self.disputedFunds sources.fromDisputed) .underflow
  modify (putDisputed disputedFunds)
  let totalEscrowed ← checked (subI128 self.totalEscrowed totalSettlement) .underflow
  modify (putTotal totalEscrowed)
  let vaultTotalLocked ← checked (subI128 self.vaultTotalLocked totalSettlement) .underflow
  modify (putVault vaultTotalLocked)
  if totalSettlement > 0 then do
    modify (putCount (self.leaseCount - 1))
    verifySolvencyInvariant
  else
    verifySolvencyInvariant

/-- What a call leaves of the state: the writes before an error stay. -/
def leftBy (body : Body Unit) (self : EscrowState) : EscrowState :=
  match body.execute self with
  | (.ok _, after) => after
  | (.error (.err _), after) => after
  | (.error .panic, _) => self

end EscrowState

/-! ## Calls on both -/

/-- The operations that both have. -/
inductive SharedCall where
  | deposit (amount : I128)
  | yieldAccumulation (yieldAmount : I128)
  | dispute (disputeAmount : I128)
  | settlement (tenantRefund landlordPayout protocolFee : I128)
  deriving DecidableEq

namespace SharedCall

def onTracker : SharedCall → Operation
  | .deposit amount => .leaseCreation amount
  | .yieldAccumulation yieldAmount => .yieldAccumulation yieldAmount
  | .dispute disputeAmount => .disputeInitiation disputeAmount
  | .settlement tenantRefund landlordPayout protocolFee =>
      .leaseSettlement tenantRefund landlordPayout protocolFee

def onModel : SharedCall → EscrowState.Body Unit
  | .deposit amount => EscrowState.applyDeposit amount
  | .yieldAccumulation yieldAmount => EscrowState.applyYieldAccumulation yieldAmount
  | .dispute disputeAmount => EscrowState.applyDispute disputeAmount
  | .settlement tenantRefund landlordPayout protocolFee =>
      EscrowState.applySettlement tenantRefund landlordPayout protocolFee

end SharedCall

/-- The tracker and the model side by side. -/
structure Twins where
  tracker : EscrowInvariant
  model : EscrowState

def Twins.new : Twins :=
  ⟨EscrowInvariant.new, EscrowState.new⟩

/-- One call with the same arguments on both. -/
def both (call : SharedCall) (twins : Twins) : Twins where
  tracker := step call.onTracker twins.tracker
  model := EscrowState.leftBy call.onModel twins.model

end LeaseFlow.Solvency
