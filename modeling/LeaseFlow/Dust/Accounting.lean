import LeaseFlow.Calendar.BillingDates
import LeaseFlow.Calendar.RentShare
import LeaseFlow.Foundations.Book
import LeaseFlow.Foundations.Run
import LeaseFlow.Foundations.Transaction

/-!
# Dust accounting

Running totals of the dust of refunds and settlements, a book of it per lease and one per signer.
The accounting is a record in memory, which keeps the writes an operation made before its error.
-/

set_option autoImplicit false

namespace LeaseFlow.Dust

open Transaction

/-! ## Records -/

structure DustAccounting where
  totalDust : I128
  leaseDust : Book U64
  signerDust : Book Address
  dustRecovered : I128
  dustOperations : U64

inductive DustAccountingError where
  | negativeAmount (amount : I128)
  | negativeSettlementAmount (amount : I128)
  | negativeRecoveryAmount (amount : I128)
  | invalidBasisPointsSum (totalBps : U32)
  | dustAccountingMismatch (expected actual dustTracked : I128)
  | settlementExceedsAvailable (settlement available : I128)
  | recoveryExceedsDust (recovery available : I128)
  | noDustForLease (leaseId : U64)
  | negativeTotalDust (totalDust : I128)
  | recoveryExceedsTotal (recovered total : I128)
  | leaseDustMismatch (leaseSum totalDust : I128)
  | signerDustExceedsTotal (signerSum totalDust : I128)
  deriving DecidableEq, Repr

/-- An operation ends in an error of its own, in the overflow that the `safe_` functions report,
or in a panic. -/
inductive Fault where
  | err (error : DustAccountingError)
  | calculationOverflow
  | panic
  deriving DecidableEq, Repr

abbrev Body (α : Type) := Transaction DustAccounting Fault α

structure MultiSignerDustResult where
  individualShares : Book Address
  dustAmount : I128
  leaseId : U64
  verificationPassed : Bool

structure PartialSettlementDustResult where
  settlementAmounts : List I128
  dustAmount : I128
  remainingAmount : I128
  leaseId : U64

namespace DustAccounting

/-- `DustAccounting::new`. -/
def new : DustAccounting where
  totalDust := 0
  leaseDust := []
  signerDust := []
  dustRecovered := 0
  dustOperations := 0

/-! ### Writes of a field -/

def putTotal (totalDust : I128) (self : DustAccounting) : DustAccounting :=
  { self with totalDust }

def putLeases (leaseDust : Book U64) (self : DustAccounting) : DustAccounting :=
  { self with leaseDust }

def putRecovered (dustRecovered : I128) (self : DustAccounting) : DustAccounting :=
  { self with dustRecovered }

def putOperations (dustOperations : U64) (self : DustAccounting) : DustAccounting :=
  { self with dustOperations }

def enterLease (leaseId : U64) (dust : I128) (self : DustAccounting) : DustAccounting :=
  { self with leaseDust := self.leaseDust ++ [(leaseId, dust)] }

def enterSigner (signer : Address) (dust : I128) (self : DustAccounting) : DustAccounting :=
  { self with signerDust := self.signerDust ++ [(signer, dust)] }

end DustAccounting

open DustAccounting

/-! ## Arithmetic -/

/-- Checked arithmetic: overflow panics. -/
def compute {α : Type} (computation : Checked α) : Body α :=
  fetch computation .panic

/-- The `safe_` functions: overflow is an error. -/
def safely {α : Type} (computation : Checked α) : Body α :=
  fetch computation .calculationOverflow

/-- The sum of an iterator, which panics on overflow. -/
def sumI128 (amounts : List I128) : Checked I128 :=
  Book.sumFrom i128Min i128Max 0 amounts

def sumU32 (values : List U32) : Checked U32 :=
  values.foldlM addU32 0

/-! ## Multi-signer refunds -/

/-- What the loop over the signers carries. -/
structure Split where
  individualShares : Book Address
  allocatedAmount : I128
  dustForLease : I128

/-- The last signer gets what is left; the dust of every other compares its share with itself. -/
def splitShares (totalAmount : I128) : List (Address × U32) → Split → Body Split
  | [], split => pure split
  | [(signer, _)], split => do
      let share ← compute (subI128 totalAmount split.allocatedAmount)
      let allocatedAmount ← safely (addI128 split.allocatedAmount share)
      pure { split with
        individualShares := split.individualShares ++ [(signer, share)]
        allocatedAmount }
  | (signer, bps) :: next :: rest, split => do
      let rawShare ← safely (mulI128 totalAmount bps)
      let share : I128 := rawShare.tdiv 10000
      let allocatedAmount ← safely (addI128 split.allocatedAmount share)
      let rawExpected ← safely (mulI128 totalAmount bps)
      let expectedShare : I128 := rawExpected.tdiv 10000
      let dustDiff ← compute (subI128 expectedShare share)
      let dustForLease ← safely (addI128 split.dustForLease dustDiff)
      splitShares totalAmount (next :: rest)
        ⟨split.individualShares ++ [(signer, share)], allocatedAmount, dustForLease⟩

/-- The basis points of the first entry of a signer. -/
def firstRatio (signerRatios : List (Address × U32)) (signer : Address) : Option U32 :=
  (signerRatios.find? fun entry => entry.1 = signer).map Prod.snd

/-- Each share is compared with that of the first entry of its signer. -/
def trackSigners (totalAmount : I128) (signerRatios : List (Address × U32)) :
    Book Address → Body Unit
  | [] => pure ()
  | (signer, share) :: rest => do
      let bps ← compute (firstRatio signerRatios signer)
      let rawExpected ← safely (mulI128 totalAmount bps)
      let expectedShare : I128 := rawExpected.tdiv 10000
      let signerDust ← compute (subI128 expectedShare share)
      if signerDust > 0 then do
        modify (enterSigner signer signerDust)
        trackSigners totalAmount signerRatios rest
      else
        trackSigners totalAmount signerRatios rest

def calculateMultiSignerDust (totalAmount : I128) (signerRatios : List (Address × U32))
    (leaseId : U64) : Body MultiSignerDustResult := do
  ensure (0 ≤ totalAmount) (.err (.negativeAmount totalAmount))
  let totalBps ← compute (sumU32 (signerRatios.map Prod.snd))
  ensure (totalBps ≤ 10000) (.err (.invalidBasisPointsSum totalBps))
  let split ← splitShares totalAmount signerRatios ⟨[], 0, 0⟩
  let actualSum ← compute (sumI128 (split.individualShares.map Prod.snd))
  ensure (actualSum = totalAmount)
    (.err (.dustAccountingMismatch totalAmount actualSum split.dustForLease))
  let self ← get
  let totalDust ← safely (addI128 self.totalDust split.dustForLease)
  modify (putTotal totalDust)
  modify (enterLease leaseId split.dustForLease)
  let dustOperations ← compute (addU64 self.dustOperations 1)
  modify (putOperations dustOperations)
  trackSigners totalAmount signerRatios split.individualShares
  pure ⟨split.individualShares, split.dustForLease, leaseId, true⟩

/-! ## Partial settlements -/

def rejectNegative : List I128 → Body Unit
  | [] => pure ()
  | amount :: rest => do
      ensure (0 ≤ amount) (.err (.negativeSettlementAmount amount))
      rejectNegative rest

def calculatePartialSettlementDust (totalAvailable : I128) (settlementAmounts : List I128)
    (leaseId : U64) : Body PartialSettlementDustResult := do
  ensure (0 ≤ totalAvailable) (.err (.negativeAmount totalAvailable))
  rejectNegative settlementAmounts
  let totalSettlement ← compute (sumI128 settlementAmounts)
  ensure (totalSettlement ≤ totalAvailable)
    (.err (.settlementExceedsAvailable totalSettlement totalAvailable))
  let dust ← compute (subI128 totalAvailable totalSettlement)
  let self ← get
  let totalDust ← safely (addI128 self.totalDust dust)
  modify (putTotal totalDust)
  modify (enterLease leaseId dust)
  let dustOperations ← compute (addU64 self.dustOperations 1)
  modify (putOperations dustOperations)
  pure ⟨settlementAmounts, dust, dust, leaseId⟩

/-! ## Recovery -/

/-- Only the first entry of a lease is recovered from. -/
def recoverDust (leaseId : U64) (amount : I128) : Body Unit := do
  ensure (0 ≤ amount) (.err (.negativeRecoveryAmount amount))
  let self ← get
  let index ← fetch (self.leaseDust.findIdx? fun entry => entry.1 = leaseId)
    (.err (.noDustForLease leaseId))
  let entry ← compute self.leaseDust[index]?
  ensure (amount ≤ entry.2) (.err (.recoveryExceedsDust amount entry.2))
  let totalDust ← safely (subI128 self.totalDust amount)
  modify (putTotal totalDust)
  let dustRecovered ← safely (addI128 self.dustRecovered amount)
  modify (putRecovered dustRecovered)
  let remainingDust ← safely (subI128 entry.2 amount)
  if remainingDust = 0 then
    modify (putLeases (self.leaseDust.eraseIdx index))
  else
    modify (putLeases (self.leaseDust.set index (leaseId, remainingDust)))

/-! ## Verification -/

def verifyDustAccounting : Body Unit := do
  let self ← get
  ensure (0 ≤ self.totalDust) (.err (.negativeTotalDust self.totalDust))
  ensure (self.dustRecovered ≤ self.totalDust)
    (.err (.recoveryExceedsTotal self.dustRecovered self.totalDust))
  let leaseDustSum ← compute (sumI128 (self.leaseDust.map Prod.snd))
  ensure (leaseDustSum = self.totalDust) (.err (.leaseDustMismatch leaseDustSum self.totalDust))
  let signerDustSum ← compute (sumI128 (self.signerDust.map Prod.snd))
  ensure (signerDustSum ≤ self.totalDust)
    (.err (.signerDustExceedsTotal signerDustSum self.totalDust))

/-! ## Calls -/

inductive Call where
  | multiSigner (totalAmount : I128) (signerRatios : List (Address × U32)) (leaseId : U64)
  | partialSettlement (totalAvailable : I128) (settlementAmounts : List I128) (leaseId : U64)
  | recovery (leaseId : U64) (amount : I128)

def Call.body : Call → Body Unit
  | .multiSigner totalAmount signerRatios leaseId => do
      let _ ← calculateMultiSignerDust totalAmount signerRatios leaseId
      pure ()
  | .partialSettlement totalAvailable settlementAmounts leaseId => do
      let _ ← calculatePartialSettlementDust totalAvailable settlementAmounts leaseId
      pure ()
  | .recovery leaseId amount => recoverDust leaseId amount

/-- What a call leaves of the accounting.  An error keeps the writes before it; after a panic
there is no accounting to go on with, and the step stands still. -/
def step (call : Call) (self : DustAccounting) : DustAccounting :=
  match call.body.execute self with
  | (.ok _, after) => after
  | (.error .panic, _) => self
  | (.error _, after) => after

end LeaseFlow.Dust
