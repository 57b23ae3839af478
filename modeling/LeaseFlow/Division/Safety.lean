import LeaseFlow.Calendar.RentShare
import LeaseFlow.Foundations.Transaction

/-!
# Divisions that verify themselves

A division is done, checked by multiplying and dividing once more, and counted.  The loss of a
basis point division is estimated in floating point, which is a parameter here.
-/

set_option autoImplicit false

namespace LeaseFlow.Division

open Transaction

/-! ## Records -/

structure DivisionSafety where
  cumulativeTruncationLoss : I128
  divisionDust : I128
  divisionCount : U64
  maxTruncationLoss : I128

inductive DivisionSafetyError where
  | negativeAmount (amount : I128)
  | invalidBps (bps : U32)
  | divisionByZero
  | negativeInputs (numerator denominator : I128)
  | negativeResult (result : I128)
  | resultExceedsAmount (result amount : I128)
  | excessiveTruncationLoss (loss maxAllowed : I128)
  | reconstructionExceedsOriginal (reconstructed original : I128)
  | invalidRemainder (remainder scale : I128)
  | reconstructionMismatch (value result scale remainder reconstructed : I128)
  | ceilingLessThanFloor (ceiling floor : I128)
  | ceilingExceedsBound (ceiling floor : I128)
  | zeroRemainderCeilingMismatch (ceiling floor : I128)
  | ceilingMultiplicationInsufficient (ceiling denominator numerator : I128)
  deriving DecidableEq, Repr

/-- A division ends in an error of its own, in the overflow that the `safe_` functions report, or
in a panic. -/
inductive Fault where
  | err (error : DivisionSafetyError)
  | calculationOverflow
  | panic
  deriving DecidableEq, Repr

abbrev Body (α : Type) := Transaction DivisionSafety Fault α

/-- What floating point makes of the exact quotient less the integer one, cast to `i128`. -/
abbrev LossEstimate := I128 → U32 → I128

namespace DivisionSafety

/-- `DivisionSafety::new`. -/
def new : DivisionSafety where
  cumulativeTruncationLoss := 0
  divisionDust := 0
  divisionCount := 0
  maxTruncationLoss := 0

/-! ### Writes of a field -/

def putLoss (cumulativeTruncationLoss : I128) (self : DivisionSafety) : DivisionSafety :=
  { self with cumulativeTruncationLoss }

def putDust (divisionDust : I128) (self : DivisionSafety) : DivisionSafety :=
  { self with divisionDust }

def putCount (divisionCount : U64) (self : DivisionSafety) : DivisionSafety :=
  { self with divisionCount }

def putMaximum (maxTruncationLoss : I128) (self : DivisionSafety) : DivisionSafety :=
  { self with maxTruncationLoss }

end DivisionSafety

open DivisionSafety

/-! ## Arithmetic -/

/-- Checked arithmetic: overflow panics, as does a division by zero. -/
def compute {α : Type} (computation : Checked α) : Body α :=
  fetch computation .panic

/-- The `safe_` functions: overflow is an error. -/
def safely {α : Type} (computation : Checked α) : Body α :=
  fetch computation .calculationOverflow

def divI128 (left right : I128) : Checked I128 :=
  if right = 0 then none else Checked.within i128Min i128Max (left.tdiv right)

def remI128 (left right : I128) : Checked I128 :=
  if right = 0 then none else Checked.within i128Min i128Max (left.tmod right)

/-! ## Checks -/

/-- The reconstruction divides by the basis points before it asks whether there are any. -/
def verifyDivisionProperties (amount : I128) (bps : U32) (result truncationLoss : I128) :
    Body Unit := do
  ensure (0 ≤ result) (.err (.negativeResult result))
  ensure (result ≤ amount) (.err (.resultExceedsAmount result amount))
  let maxPossibleLoss : I128 := if bps > 0 then bps - 1 else 0
  ensure (truncationLoss ≤ maxPossibleLoss)
    (.err (.excessiveTruncationLoss truncationLoss maxPossibleLoss))
  let scaled ← compute (mulI128 result 10000)
  let reconstructed ← compute (divI128 scaled bps)
  ensure (¬ (bps > 0 ∧ reconstructed > amount))
    (.err (.reconstructionExceedsOriginal reconstructed amount))

def verifyFixedPointProperties (value scale result remainder : I128) : Body Unit := do
  ensure (0 ≤ result) (.err (.negativeResult result))
  ensure (remainder < scale) (.err (.invalidRemainder remainder scale))
  let reconstructed ← safely (mulI128 result scale)
  let sum ← safely (addI128 reconstructed remainder)
  ensure (sum = value) (.err (.reconstructionMismatch value result scale remainder reconstructed))

def verifyCeilingProperties (numerator denominator floorResult ceilingResult remainder : I128) :
    Body Unit := do
  ensure (floorResult ≤ ceilingResult) (.err (.ceilingLessThanFloor ceilingResult floorResult))
  let bound ← safely (addI128 floorResult 1)
  ensure (ceilingResult ≤ bound) (.err (.ceilingExceedsBound ceilingResult floorResult))
  ensure (¬ (remainder = 0 ∧ ceilingResult ≠ floorResult))
    (.err (.zeroRemainderCeilingMismatch ceilingResult floorResult))
  let product ← safely (mulI128 ceilingResult denominator)
  ensure (numerator ≤ product)
    (.err (.ceilingMultiplicationInsufficient ceilingResult denominator numerator))

/-! ## Divisions -/

def verifyBpsDivisionSafety (estimate : LossEstimate) (amount : I128) (bps : U32) : Body I128 := do
  ensure (0 ≤ amount) (.err (.negativeAmount amount))
  ensure (bps ≤ 10000) (.err (.invalidBps bps))
  let product ← compute (mulI128 amount bps)
  let result ← compute (divI128 product 10000)
  let truncationLoss := estimate amount bps
  verifyDivisionProperties amount bps result truncationLoss
  let self ← get
  let cumulativeTruncationLoss ← safely (addI128 self.cumulativeTruncationLoss truncationLoss)
  modify (putLoss cumulativeTruncationLoss)
  let divisionDust ← safely (addI128 self.divisionDust truncationLoss)
  modify (putDust divisionDust)
  let divisionCount ← compute (addU64 self.divisionCount 1)
  modify (putCount divisionCount)
  modify (putMaximum (max self.maxTruncationLoss truncationLoss))
  pure result

/-- What the divisions with a remainder count. -/
def trackRemainder (remainder : I128) : Body Unit := do
  let self ← get
  let divisionDust ← safely (addI128 self.divisionDust remainder)
  modify (putDust divisionDust)
  let divisionCount ← compute (addU64 self.divisionCount 1)
  modify (putCount divisionCount)

def verifyFixedPointDivisionSafety (value scale : I128) : Body I128 := do
  ensure (scale ≠ 0) (.err .divisionByZero)
  ensure (0 ≤ value ∧ 0 ≤ scale) (.err (.negativeInputs value scale))
  let result ← compute (divI128 value scale)
  let remainder ← compute (remI128 value scale)
  verifyFixedPointProperties value scale result remainder
  trackRemainder remainder
  pure result

/-- The quotient rounded up. -/
def ceilingResult (floorResult remainder : I128) : Checked I128 :=
  if remainder > 0 then addI128 floorResult 1 else some floorResult

def verifyCeilingDivisionSafety (numerator denominator : I128) : Body I128 := do
  ensure (denominator ≠ 0) (.err .divisionByZero)
  ensure (0 ≤ numerator ∧ 0 ≤ denominator) (.err (.negativeInputs numerator denominator))
  let floorResult ← compute (divI128 numerator denominator)
  let remainder ← compute (remI128 numerator denominator)
  let ceiling ← safely (ceilingResult floorResult remainder)
  verifyCeilingProperties numerator denominator floorResult ceiling remainder
  trackRemainder remainder
  pure ceiling

end LeaseFlow.Division
