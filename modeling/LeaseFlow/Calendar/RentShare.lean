import LeaseFlow.Calendar.CivilDate

/-!
# Rent shares of `leaseflow_math`

The length of the month a timestamp falls in, by the `i32` and `i64` loops of the
source, and the shares of a monthly rent for a period and for the unused rest of a
lease.
-/

set_option autoImplicit false

namespace LeaseFlow

abbrev I32 := Int
abbrev I64 := Int

def i32Min : Int := -2147483648
def i32Max : Int := 2147483647
def i64Min : Int := -9223372036854775808
def i64Max : Int := 9223372036854775807

def addI32 (left right : I32) : Checked I32 := Checked.within i32Min i32Max (left + right)
def subI32 (left right : I32) : Checked I32 := Checked.within i32Min i32Max (left - right)
def addI64 (left right : I64) : Checked I64 := Checked.within i64Min i64Max (left + right)
def subI64 (left right : I64) : Checked I64 := Checked.within i64Min i64Max (left - right)
def addI128 (left right : I128) : Checked I128 := Checked.within i128Min i128Max (left + right)
def subI128 (left right : I128) : Checked I128 := Checked.within i128Min i128Max (left - right)
def mulI128 (left right : I128) : Checked I128 := Checked.within i128Min i128Max (left * right)

/-- `as i32` and `as i64`: the low bits in two's complement. -/
def asI32 (value : Int) : I32 := value.bmod (2 ^ 32)
def asI64 (value : Int) : I64 := value.bmod (2 ^ 64)

/-- `i64::saturating_sub`. -/
def saturatingSubI64 (left right : I64) : I64 :=
  BoundedArithmetic.saturate i64Min i64Max (left - right)

namespace LeaseflowMath

/-- The crate's second `is_leap_year`, on signed years. -/
def isLeapYearI32 (year : I32) : Bool :=
  (year.tmod 4 == 0 && year.tmod 100 != 0) || year.tmod 400 == 0

def daysInYear (year : I32) : I64 :=
  if isLeapYearI32 year then 366 else 365

theorem daysInYear_pos (year : I32) : (0 : Int) < daysInYear year := by
  unfold daysInYear
  split <;> decide

theorem rewind_decreases {remaining length : Int} (negative : remaining < 0)
    (positive : 0 < length) : (-(remaining + length)).toNat < (-remaining).toNat := by
  omega

theorem advance_decreases {remaining length : Int} (full : length ≤ remaining)
    (positive : 0 < length) : (remaining - length).toNat < remaining.toNat := by
  omega

/-- The loop that goes back a year while the days are negative. -/
def rewindYears (year : I32) (remainingDays : I64) : Checked (I32 × I64) :=
  if remainingDays < 0 then do
    let previous ← subI32 year 1
    rewindYears previous (remainingDays + daysInYear previous)
  else
    pure (year, remainingDays)
termination_by (-remainingDays).toNat
decreasing_by
  exact rewind_decreases ‹_› (daysInYear_pos previous)

/-- The loop that moves on a year while the days fill the current one. -/
def advanceYears (year : I32) (remainingDays : I64) : Checked (I32 × I64) :=
  if remainingDays ≥ daysInYear year then do
    let next ← addI32 year 1
    advanceYears next (remainingDays - daysInYear year)
  else
    pure (year, remainingDays)
termination_by remainingDays.toNat
decreasing_by
  exact advance_decreases ‹_› (daysInYear_pos year)

def monthDays (year : I32) : List I64 :=
  if isLeapYearI32 year then [31, 29, 31, 30, 31, 30, 31, 31, 30, 31, 30, 31]
  else [31, 28, 31, 30, 31, 30, 31, 31, 30, 31, 30, 31]

/-- The length of the month in which the days run out; that of the first month, `january`,
where they outlast the year. -/
def lengthOfMonth (january : I64) : List I64 → I64 → I64
  | [], _ => january
  | daysInMonth :: later, remainingDays =>
      if remainingDays < daysInMonth then daysInMonth
      else lengthOfMonth january later (remainingDays - daysInMonth)

def leapYearsBefore (year : I32) : Checked I32 := do
  let fourths ← subI32 year 1968
  let hundredths ← subI32 year 1900
  let fourHundredths ← subI32 year 1600
  addI32 (← subI32 (fourths.tdiv 4) (hundredths.tdiv 100)) (fourHundredths.tdiv 400)

def getSecondsInMonth (timestamp : U64) : Checked U64 := do
  let unixTime := asI64 timestamp
  let daysSinceEpoch := unixTime.tdiv 86400
  let estimate ← addI32 1970 (asI32 (daysSinceEpoch.tdiv 365))
  let leapYears ← leapYearsBefore estimate
  let (early, fewer) ← rewindYears estimate (daysSinceEpoch.tmod 365 - leapYears)
  let (year, remainingDays) ← advanceYears early fewer
  pure (lengthOfMonth 31 (monthDays year) remainingDays * 86400).toNat

/-- The share of a rent for a duration, `None` where it leaves `i64` from above. -/
def rentShare (monthlyRent : I64) (duration secondsInMonth : U64) : Option I64 := do
  let product ← mulI128 monthlyRent duration
  let share := product.tdiv secondsInMonth
  if share > i64Max then none else some (asI64 share)

def calculateProratedRent (monthlyRent : I64) (startTimestamp endTimestamp : U64) :
    Checked (Option (I64 × U64)) :=
  if startTimestamp ≥ endTimestamp ∨ monthlyRent ≤ 0 then
    pure none
  else do
    let secondsInMonth ← getSecondsInMonth startTimestamp
    if secondsInMonth = 0 then
      pure none
    else
      pure ((rentShare monthlyRent (endTimestamp - startTimestamp) secondsInMonth).map
        fun share => (share, endTimestamp - startTimestamp))

/-- The refund before the security margin: at most what was paid. -/
def refundShare (monthlyRent : I64) (unusedDuration secondsInMonth : U64) (paidAmount : I64) :
    Option I64 := do
  let product ← mulI128 monthlyRent unusedDuration
  let refund := product.tdiv secondsInMonth
  if refund > paidAmount then some paidAmount
  else if refund > i64Max then none
  else some (asI64 refund)

def calculateTerminationRefund (monthlyRent : I64)
    (originalStart originalEnd terminationTimestamp : U64) (paidAmount : I64) :
    Checked (Option I64) :=
  if terminationTimestamp ≤ originalStart ∨ terminationTimestamp ≥ originalEnd then
    pure none
  else do
    let secondsInMonth ← getSecondsInMonth terminationTimestamp
    if secondsInMonth = 0 then
      pure none
    else
      pure ((refundShare monthlyRent (originalEnd - terminationTimestamp) secondsInMonth
        paidAmount).map fun refund => if refund > 0 then refund - 1 else 0)

end LeaseflowMath

end LeaseFlow
