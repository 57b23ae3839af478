import LeaseFlow.Calendar.RentShare
import LeaseFlow.Foundations.Failure
import LeaseFlow.Foundations.Machine

/-!
# The operations of `CollateralHealthMonitor`

The monitor rates the collateral of a lease at the price of its token.  A lease that falls short
gets a margin call, during which the utility of its lessee is paused, until the call is
fulfilled or, after a grace period, the lease is terminated.
-/

set_option autoImplicit false

namespace LeaseFlow.Collateral

open Transaction Failure

/-! ## Records -/

inductive CollateralHealthError where
  | unauthorized
  | leaseNotFound
  | oracleUnavailable
  | priceStale
  | insufficientCollateral
  | marginCallActive
  | gracePeriodExpired
  | utilityAlreadyPaused
  | utilityNotPaused
  | invalidHealthFactor
  deriving DecidableEq, Repr

inductive HealthStatus where
  | healthy
  | warning
  | underCollateralized
  | emergencyTermination
  deriving DecidableEq, Repr

inductive MarginCallStatus where
  | active
  | satisfied
  | expired
  deriving DecidableEq, Repr

structure CollateralHealth where
  leaseId : U64
  collateralToken : Address
  collateralAmount : I128
  minimumFiatCollateral : I128
  currentFiatValue : I128
  healthFactor : U32
  lastPriceUpdate : U64
  status : HealthStatus
  deriving DecidableEq

structure MarginCall where
  leaseId : U64
  lessee : Address
  issuedAt : U64
  gracePeriodEnd : U64
  requiredTopup : I128
  currentHealthFactor : U32
  status : MarginCallStatus
  emergencyTerminationScheduled : Bool
  deriving DecidableEq

structure UtilityTokenPause where
  lessee : Address
  leaseId : U64
  pausedAt : U64
  reason : String
  marginCallId : U64
  deriving DecidableEq

structure PriceData where
  price : I128
  decimals : U32
  lastUpdate : U64
  asset : Address

/-- Tokens moved from a payer to the contract. -/
structure Transfer where
  token : Address
  payer : Address
  amount : I128

inductive Event where
  | collateralHealthWarning (leaseId : U64) (lessee : Address) (healthFactor : U32)
      (collateralValue requiredValue : I128) (timestamp : U64)
  | marginCallExecuted (leaseId : U64) (lessee : Address) (requiredTopup : I128)
      (gracePeriodEnd : U64) (healthFactor : U32) (timestamp : U64)
  | emergencyTerminationTriggered (leaseId : U64) (lessee : Address) (finalHealthFactor : U32)
      (collateralValue : I128) (timestamp : U64)
  | utilityTokenPaused (lessee : Address) (leaseId : U64) (reason : String) (timestamp : U64)

/-! ## Storage and environment -/

/-- The instance storage, an absent map being an empty one, the transfers that the module asked
for and the events, newest first.  No operation asks for a transfer.  Key names over the nine
characters of `Symbol::short`, such as `MARGIN_CALL`, are read as plain names. -/
structure Store where
  oraclePriceFeed : Option Address
  healthThreshold : Option U32
  gracePeriod : Option U64
  collateralHealth : U64 → Option CollateralHealth
  marginCalls : U64 → Option MarginCall
  pausedUtilities : Address → Option UtilityTokenPause
  transfers : List Transfer
  events : List Event

/-- A call sees the ledger time, the addresses that authorised it, the price of each token and the
addresses that `Address::generate` makes. -/
structure Env where
  timestamp : U64
  authorised : Address → Bool
  quote : Address → PriceData
  generated : Nat → Address

/-- What the price feed answers for now, whatever the asset. -/
def placeholderPrice (timestamp : U64) (asset : Address) : PriceData :=
  ⟨100000000, 8, timestamp, asset⟩

abbrev Body (α : Type) := Transaction Store (Failure CollateralHealthError) α

def criticalHealthThreshold : U32 := 9000
def defaultGracePeriod : U64 := 86400
def priceStalenessThreshold : U64 := 3600

def Store.emit (event : Event) (store : Store) : Store :=
  { store with events := event :: store.events }

/-- The topics over the nine characters of `Symbol::short` are read as plain names. -/
def publish (event : Event) : Body Unit :=
  modify (Store.emit event)

def requireAuth (env : Env) (address : Address) : Body Unit :=
  orTrap (env.authorised address = true) "HostError: Error(Auth, InvalidAction)"

/-- A result, unless the arithmetic panics. -/
def computed {α : Type} (value : Checked α) : Body α :=
  fetch value (.trap "attempt to perform arithmetic with overflow")

def Store.putHealth (leaseId : U64) (record : CollateralHealth) (store : Store) : Store :=
  { store with
    collateralHealth := Function.update store.collateralHealth leaseId (some record) }

def Store.putCall (leaseId : U64) (marginCall : MarginCall) (store : Store) : Store :=
  { store with marginCalls := Function.update store.marginCalls leaseId (some marginCall) }

def Store.putPause (lessee : Address) (pause : Option UtilityTokenPause) (store : Store) : Store :=
  { store with pausedUtilities := Function.update store.pausedUtilities lessee pause }

/-! ## Rating -/

/-- `as u32` -/
def asU32 (value : I128) : U32 :=
  (value % 2 ^ 32).toNat

def divI128 (left right : I128) : Checked I128 :=
  if right = 0 then none else Checked.within i128Min i128Max (left.tdiv right)

/-- `calculate_fiat_value`; collateral has eight decimals. -/
def fiatValue (collateralAmount : I128) (price : PriceData) : Checked I128 := do
  let product ← mulI128 collateralAmount price.price
  let places := if 8 ≤ price.decimals then price.decimals - 8 else 8 - price.decimals
  let scale ← Checked.within i128Min i128Max (10 ^ places)
  divI128 product scale

def fiatRatio (fiat minimum : I128) : Checked U32 := do
  let scaled ← mulI128 fiat 10000
  let ratio ← divI128 scaled minimum
  some (asU32 ratio)

/-- The health factor of a lease that may have no minimum. -/
def ratedFactor (fiat minimum : I128) : Checked U32 :=
  if 0 < minimum then fiatRatio fiat minimum else some 10000

def ratedStatus (factor threshold : U32) : HealthStatus :=
  if factor < criticalHealthThreshold then .underCollateralized
  else if factor < threshold then .warning
  else .healthy

def Store.threshold (store : Store) : U32 :=
  store.healthThreshold.getD 9500

def Store.grace (store : Store) : U64 :=
  store.gracePeriod.getD defaultGracePeriod

def getOraclePrice (env : Env) (token : Address) : Body PriceData := do
  let oracle ← inspect Store.oraclePriceFeed
  let _ ← orErr oracle .oracleUnavailable
  pure (env.quote token)

def getCollateralHealth (leaseId : U64) : Body CollateralHealth := do
  let found ← inspect fun store => store.collateralHealth leaseId
  orErr found .leaseNotFound

def getMarginCall (leaseId : U64) : Body MarginCall := do
  let found ← inspect fun store => store.marginCalls leaseId
  orErr found .marginCallActive

/-- `is_utility_paused` -/
def Store.isUtilityPaused (store : Store) (lessee : Address) : Bool :=
  (store.pausedUtilities lessee).isSome

/-! ## Margin calls -/

def pauseUtilityToken (env : Env) (lessee : Address) (leaseId : U64) (reason : String) :
    Body Unit := do
  let isPaused ← inspect fun store => store.isUtilityPaused lessee
  check (isPaused = false) .utilityAlreadyPaused
  modify (Store.putPause lessee (some ⟨lessee, leaseId, env.timestamp, reason, leaseId⟩))
  publish (.utilityTokenPaused lessee leaseId reason env.timestamp)

def resumeUtilityToken (lessee : Address) : Body Unit := do
  let isPaused ← inspect fun store => store.isUtilityPaused lessee
  check (isPaused = true) .utilityNotPaused
  modify (Store.putPause lessee none)

def CollateralHealth.requiredTopup (record : CollateralHealth) : Checked I128 :=
  if record.currentFiatValue < record.minimumFiatCollateral then
    subI128 record.minimumFiatCollateral record.currentFiatValue
  else some 0

def MarginCall.fresh (env : Env) (leaseId : U64) (lessee : Address) (record : CollateralHealth)
    (requiredTopup : I128) (gracePeriodEnd : U64) : MarginCall where
  leaseId := leaseId
  lessee := lessee
  issuedAt := env.timestamp
  gracePeriodEnd := gracePeriodEnd
  requiredTopup := requiredTopup
  currentHealthFactor := record.healthFactor
  status := .active
  emergencyTerminationScheduled := false

def marginCallReason : String := "Margin call issued"

def triggerMarginCall (env : Env) (leaseId : U64) (lessee : Address) : Body Unit := do
  let record ← getCollateralHealth leaseId
  let existing ← inspect fun store => store.marginCalls leaseId
  check (existing = none) .marginCallActive
  let requiredTopup ← computed record.requiredTopup
  let gracePeriod ← inspect Store.grace
  let gracePeriodEnd ← checkedUpTo u64Max (env.timestamp + gracePeriod)
  modify (Store.putCall leaseId (.fresh env leaseId lessee record requiredTopup gracePeriodEnd))
  pauseUtilityToken env lessee leaseId marginCallReason
  publish (.marginCallExecuted leaseId lessee requiredTopup gracePeriodEnd record.healthFactor
    env.timestamp)

/-! ## Registering and checking -/

/-- The entries `initialize` writes after the oracle. -/
def Store.setUp (healthThreshold : U32) (gracePeriodSeconds : U64) (store : Store) : Store :=
  { store with
    healthThreshold := some healthThreshold
    gracePeriod := some gracePeriodSeconds
    collateralHealth := fun _ => none
    marginCalls := fun _ => none
    pausedUtilities := fun _ => none }

/-- `initialize`; anybody may initialise the monitor, and again. -/
def initializeMonitor (env : Env) (admin oracleAddress : Address) (healthThreshold : U32)
    (gracePeriodSeconds : U64) : Body Unit := do
  requireAuth env admin
  modify fun store => { store with oraclePriceFeed := some oracleAddress }
  check (5000 ≤ healthThreshold ∧ healthThreshold ≤ 10000) .invalidHealthFactor
  modify (Store.setUp healthThreshold gracePeriodSeconds)

def CollateralHealth.registered (leaseId : U64) (collateralToken : Address)
    (collateralAmount minimumFiatCollateral : I128) (price : PriceData) (fiat : I128)
    (factor : U32) (status : HealthStatus) : CollateralHealth where
  leaseId := leaseId
  collateralToken := collateralToken
  collateralAmount := collateralAmount
  minimumFiatCollateral := minimumFiatCollateral
  currentFiatValue := fiat
  healthFactor := factor
  lastPriceUpdate := price.lastUpdate
  status := status

def registerLeaseCollateral (env : Env) (leaseId : U64) (lessee collateralToken : Address)
    (collateralAmount minimumFiatCollateral : I128) : Body Unit := do
  let price ← getOraclePrice env collateralToken
  let fiat ← computed (fiatValue collateralAmount price)
  let factor ← computed (ratedFactor fiat minimumFiatCollateral)
  let threshold ← inspect Store.threshold
  modify (Store.putHealth leaseId (.registered leaseId collateralToken collateralAmount
    minimumFiatCollateral price fiat factor (ratedStatus factor threshold)))
  if factor < criticalHealthThreshold then triggerMarginCall env leaseId lessee else pure ()

/-- The record with what was computed at a price. -/
def CollateralHealth.rated (price : PriceData) (fiat : I128) (factor : U32)
    (status : HealthStatus) (record : CollateralHealth) : CollateralHealth :=
  { record with
    currentFiatValue := fiat
    healthFactor := factor
    lastPriceUpdate := price.lastUpdate
    status := status }

/-- The lessee of a margin call issued here is a placeholder, the second address that is generated;
the first goes into the warning. -/
def checkCollateralHealth (env : Env) (drawn : Nat) (leaseId : U64) : Body Unit := do
  let record ← getCollateralHealth leaseId
  let price ← getOraclePrice env record.collateralToken
  let age ← checkedSub env.timestamp price.lastUpdate
  check (age ≤ priceStalenessThreshold) .priceStale
  let fiat ← computed (fiatValue record.collateralAmount price)
  let factor ← computed (ratedFactor fiat record.minimumFiatCollateral)
  let threshold ← inspect Store.threshold
  modify (Store.putHealth leaseId (record.rated price fiat factor (ratedStatus factor threshold)))
  if ratedStatus factor threshold = .underCollateralized then do
    publish (.collateralHealthWarning leaseId (env.generated drawn) factor fiat
      record.minimumFiatCollateral env.timestamp)
    triggerMarginCall env leaseId (env.generated (drawn + 1))
  else pure ()

/-- What a check that ends in an error has written stays. -/
def batchHealthCheck (env : Env) : Nat → List U64 → Body (List U64)
  | _, [] => pure []
  | drawn, leaseId :: rest => do
      let checked ← handled (checkCollateralHealth env drawn leaseId)
      let problematic ← batchHealthCheck env (drawn + 2) rest
      pure (if checked then problematic else leaseId :: problematic)

/-! ## Fulfilment and termination -/

/-- The record after a top-up. -/
def CollateralHealth.toppedUp (collateralAmount : I128) (price : PriceData) (fiat : I128)
    (factor : U32) (record : CollateralHealth) : CollateralHealth :=
  { record with
    collateralAmount := collateralAmount
    currentFiatValue := fiat
    healthFactor := factor
    lastPriceUpdate := price.lastUpdate
    status := if criticalHealthThreshold ≤ factor then .healthy else .warning }

/-- The margin call after a top-up. -/
def MarginCall.answered (factor : U32) (marginCall : MarginCall) : MarginCall :=
  { marginCall with
    status := if criticalHealthThreshold ≤ factor then .satisfied else marginCall.status }

def fulfillMarginCall (env : Env) (leaseId : U64) (additionalCollateral : I128)
    (tokenAddress : Address) : Body Unit := do
  let marginCall ← getMarginCall leaseId
  check (env.timestamp ≤ marginCall.gracePeriodEnd) .gracePeriodExpired
  let record ← getCollateralHealth leaseId
  let collateralAmount ← computed (addI128 record.collateralAmount additionalCollateral)
  let price ← getOraclePrice env tokenAddress
  let fiat ← computed (fiatValue collateralAmount price)
  let factor ← computed (fiatRatio fiat record.minimumFiatCollateral)
  if criticalHealthThreshold ≤ factor then resumeUtilityToken marginCall.lessee else pure ()
  modify (Store.putHealth leaseId (record.toppedUp collateralAmount price fiat factor))
  modify (Store.putCall leaseId (marginCall.answered factor))

def MarginCall.executed (marginCall : MarginCall) : MarginCall :=
  { marginCall with status := .expired, emergencyTerminationScheduled := true }

def executeEmergencyTermination (env : Env) (leaseId : U64) : Body Unit := do
  let marginCall ← getMarginCall leaseId
  check (marginCall.gracePeriodEnd < env.timestamp) .gracePeriodExpired
  let record ← getCollateralHealth leaseId
  modify (Store.putCall leaseId marginCall.executed)
  modify (Store.putHealth leaseId { record with status := .emergencyTermination })
  publish (.emergencyTerminationTriggered leaseId marginCall.lessee
    marginCall.currentHealthFactor record.currentFiatValue env.timestamp)

/-! ## Calls -/

inductive Operation where
  | initializeMonitor (admin oracleAddress : Address) (healthThreshold : U32)
      (gracePeriodSeconds : U64)
  | registerLeaseCollateral (leaseId : U64) (lessee collateralToken : Address)
      (collateralAmount minimumFiatCollateral : I128)
  | checkCollateralHealth (leaseId : U64)
  | fulfillMarginCall (leaseId : U64) (additionalCollateral : I128) (tokenAddress : Address)
  | executeEmergencyTermination (leaseId : U64)
  | getCollateralHealth (leaseId : U64)
  | getMarginCall (leaseId : U64)
  | isUtilityPaused (lessee : Address)
  | batchHealthCheck (leaseIds : List U64)

structure Call where
  env : Env
  operation : Operation

def Call.body (call : Call) : Body Unit :=
  match call.operation with
  | .initializeMonitor admin oracleAddress healthThreshold gracePeriodSeconds =>
      Collateral.initializeMonitor call.env admin oracleAddress healthThreshold
        gracePeriodSeconds
  | .registerLeaseCollateral leaseId lessee collateralToken collateralAmount
      minimumFiatCollateral =>
      Collateral.registerLeaseCollateral call.env leaseId lessee collateralToken
        collateralAmount minimumFiatCollateral
  | .checkCollateralHealth leaseId => Collateral.checkCollateralHealth call.env 0 leaseId
  | .fulfillMarginCall leaseId additionalCollateral tokenAddress =>
      Collateral.fulfillMarginCall call.env leaseId additionalCollateral tokenAddress
  | .executeEmergencyTermination leaseId =>
      Collateral.executeEmergencyTermination call.env leaseId
  | .getCollateralHealth leaseId => do
      let _ ← Collateral.getCollateralHealth leaseId
  | .getMarginCall leaseId => do
      let _ ← Collateral.getMarginCall leaseId
  | .isUtilityPaused lessee => do
      let _ ← inspect fun store => store.isUtilityPaused lessee
  | .batchHealthCheck leaseIds => do
      let _ ← Collateral.batchHealthCheck call.env 0 leaseIds

abbrev step : Call → Store → Store :=
  Machine.step Call.body

abbrev Call.Goes (call : Call) (store : Store) : Prop :=
  Machine.Goes Call.body call store

/-- Nothing is stored. -/
def Store.empty : Store where
  oraclePriceFeed := none
  healthThreshold := none
  gracePeriod := none
  collateralHealth _ := none
  marginCalls _ := none
  pausedUtilities _ := none
  transfers := []
  events := []

end LeaseFlow.Collateral
