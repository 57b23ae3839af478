import LeaseFlow.Contract.Administration

/-!
# Symbol-keyed leases

The older lease record, stored under a symbol.  It carries a deposit amount that
no operation moves, and none of its operations reaches the escrow.
-/

set_option autoImplicit false

namespace LeaseFlow

open Transaction

def updateSymbols (change : SymbolStore → SymbolStore) : Contract Unit :=
  modify fun world => { world with symbols := change world.symbols }

def saveLease (leaseId : Symbol) (lease : Lease) : Contract Unit :=
  updateSymbols fun symbols => { symbols with
    lease := Function.update symbols.lease leaseId (some lease) }

def loadLease (leaseId : Symbol) : Contract Lease := do
  let found ← inspect fun world => world.symbols.lease leaseId
  expect found "Lease not found"

/-- The admission checks of both creations. -/
def admitParties (env : Env) (landlord tenant paymentToken : Address) : Contract Unit := do
  requireAuth env landlord
  requireKyc env landlord tenant
  requireStablecoin paymentToken

/-- A new symbol-keyed lease; the two creations differ in the terms they fill in. -/
def pendingLease (landlord tenant : Address) (depositAmount : I128) (startDate endDate : U64)
    (propertyUri : String) (paymentToken : Address) : Lease where
  landlord := landlord
  tenant := tenant
  rentPerSec := 0
  depositAmount := depositAmount
  startDate := startDate
  endDate := endDate
  propertyUri := propertyUri
  status := .pending
  nftContract := none
  tokenId := none
  active := true
  buyoutPrice := none
  cumulativePayments := 0
  paymentToken := paymentToken

/-- The symbol is the caller's, and what the billing module keeps under it is overwritten. -/
def initializeLease (env : Env) (leaseId : Symbol) (landlord tenant : Address)
    (depositAmount : I128) (duration : U64) (propertyUri : String) (paymentToken : Address) :
    Contract Bool := do
  admitParties env landlord tenant paymentToken
  updateBilling fun billing => billing.displaced leaseId
  saveLease leaseId (pendingLease landlord tenant depositAmount env.timestamp
    (saturatingAddU64 env.timestamp duration) propertyUri paymentToken)
  pure true

def createLease (env : Env) (landlord tenant paymentToken : Address) : Contract Symbol := do
  admitParties env landlord tenant paymentToken
  saveLease "lease" (pendingLease landlord tenant 0 env.timestamp 0 "" paymentToken)
  pure "lease"

/-- Asks for no authorization: naming the tenant is enough. -/
def activateLease (env : Env) (leaseId : Symbol) (tenant : Address) : Contract Symbol := do
  let lease ← loadLease leaseId
  demand (lease.tenant = tenant) "Unauthorized"
  saveLease leaseId { lease with status := .active }
  publish (.leaseStarted env.timestamp tenant lease.rentPerSec)
  pure "active"

/-- The payments of a symbol-keyed lease have reached its buyout price. -/
def Lease.boughtOut (lease : Lease) : Bool :=
  match lease.buyoutPrice with
  | some price => decide (price ≤ lease.cumulativePayments)
  | none => false

/-- Store the lease a payment was counted on; one that is bought out is closed first. -/
def storePaidLease (env : Env) (leaseId : Symbol) (lease : Lease) : Contract Unit :=
  if lease.boughtOut = true then do
    sendLeaseNft env lease.nftContract lease.tokenId lease.tenant
    saveLease leaseId { lease with active := false, status := .terminated }
  else
    saveLease leaseId lease

def payRent (env : Env) (leaseId : Symbol) (paymentAmount : I128) : Contract Symbol := do
  let stored ← loadLease leaseId
  demand (stored.active = true) "Lease is not active"
  requireKyc env stored.landlord stored.tenant
  requireStablecoin stored.paymentToken
  let cumulativePayments ← checkedI128 (stored.cumulativePayments + paymentAmount)
  storePaidLease env leaseId { stored with cumulativePayments := cumulativePayments }
  pure "paid"

def payRentReceipt (env : Env) (leaseId : Symbol) (month : U32) (amount : I128) :
    Contract Bool := do
  updateSymbols fun symbols => { symbols with
    receipt := Function.update symbols.receipt (leaseId, month)
      (some ⟨leaseId, month, amount, env.timestamp⟩) }
  pure true

/-- Asks for no authorization: naming the landlord is enough. -/
def setBuyoutPrice (leaseId : Symbol) (landlord : Address) (buyoutPrice : I128) :
    Contract Symbol := do
  let lease ← loadLease leaseId
  demand (lease.landlord = landlord) "Unauthorized"
  saveLease leaseId { lease with buyoutPrice := some buyoutPrice }
  pure "buyout"

def endLease (env : Env) (leaseId : Symbol) (caller : Address) : Contract Symbol := do
  let lease ← loadLease leaseId
  demand (lease.landlord = caller ∨ lease.tenant = caller) "Unauthorized"
  requireAuth env caller
  returnLeaseNft env lease.nftContract lease.tokenId lease.landlord
  saveLease leaseId { lease with status := .terminated, active := false }
  let duration ← checkedSubU64 env.timestamp lease.startDate
  publish (.leaseEnded env.timestamp duration lease.cumulativePayments)
  pure "ended"

/-! ## Footprints -/

section Footprints

variable {parts : List Part} {env : Env}

@[simp] theorem writes_saveLease (may : .symbolLeases ∈ parts) (leaseId : Symbol) (lease : Lease) :
    Writes parts (saveLease leaseId lease) := by
  refine writes_modify fun state part aside => ?_
  cases part <;> first | rfl | exact absurd may aside

@[simp] theorem writes_loadLease (leaseId : Symbol) : Writes parts (loadLease leaseId) :=
  writes_bind (writes_inspect _) fun _ => writes_expect _ _

@[simp] theorem writes_admitParties (landlord tenant paymentToken : Address) :
    Writes parts (admitParties env landlord tenant paymentToken) := by
  unfold admitParties
  repeat refine writes_bind (by simp) fun _ => ?_
  simp

@[simp] theorem writes_initializeLease (may : [.symbolLeases, .billing] ⊆ parts)
    (leaseId : Symbol) (landlord tenant : Address) (depositAmount : I128) (duration : U64)
    (propertyUri : String) (paymentToken : Address) :
    Writes parts (initializeLease env leaseId landlord tenant depositAmount duration
      propertyUri paymentToken) := by
  refine Writes.mono ?_ may
  unfold initializeLease
  repeat refine writes_bind (by simp) fun _ => ?_
  simp

@[simp] theorem writes_createLease (may : .symbolLeases ∈ parts)
    (landlord tenant paymentToken : Address) :
    Writes parts (createLease env landlord tenant paymentToken) := by
  unfold createLease
  repeat refine writes_bind (by simp [may]) fun _ => ?_
  simp

@[simp] theorem writes_activateLease (may : [.symbolLeases, .events] ⊆ parts) (leaseId : Symbol)
    (tenant : Address) : Writes parts (activateLease env leaseId tenant) := by
  refine Writes.mono ?_ may
  unfold activateLease
  repeat refine writes_bind (by simp) fun _ => ?_
  simp

@[simp] theorem writes_storePaidLease (may : [.symbolLeases, .nftTransfers] ⊆ parts)
    (leaseId : Symbol) (lease : Lease) : Writes parts (storePaidLease env leaseId lease) :=
  Writes.mono (writes_ite _ (writes_bind (by simp) fun _ => by simp) (by simp)) may

@[simp] theorem writes_payRent (may : [.symbolLeases, .nftTransfers] ⊆ parts) (leaseId : Symbol)
    (paymentAmount : I128) : Writes parts (payRent env leaseId paymentAmount) := by
  refine Writes.mono ?_ may
  unfold payRent
  repeat refine writes_bind (by simp) fun _ => ?_
  simp

@[simp] theorem writes_payRentReceipt (may : .receipts ∈ parts) (leaseId : Symbol) (month : U32)
    (amount : I128) : Writes parts (payRentReceipt env leaseId month amount) := by
  refine writes_bind (writes_modify fun state part aside => ?_) fun _ => writes_pure true
  cases part <;> first | rfl | exact absurd may aside

@[simp] theorem writes_setBuyoutPrice (may : .symbolLeases ∈ parts) (leaseId : Symbol)
    (landlord : Address) (buyoutPrice : I128) :
    Writes parts (setBuyoutPrice leaseId landlord buyoutPrice) := by
  unfold setBuyoutPrice
  repeat refine writes_bind (by simp [may]) fun _ => ?_
  simp

@[simp] theorem writes_endLease
    (may : [.symbolLeases, .usageRights, .nftTransfers, .events] ⊆ parts) (leaseId : Symbol)
    (caller : Address) : Writes parts (endLease env leaseId caller) := by
  refine Writes.mono ?_ may
  unfold endLease
  repeat refine writes_bind (by simp) fun _ => ?_
  simp

end Footprints

/-! ## What the creations store -/

section Creation

variable {world after : World} {env : Env} {landlord tenant paymentToken : Address}

theorem saveLease_lease {leaseId : Symbol} {lease : Lease} {result : Unit}
    (run : Commits (saveLease leaseId lease) world result after) :
    after.symbols.lease = Function.update world.symbols.lease leaseId (some lease) := by
  rw [(commits_modify _ result).mp run]

theorem admitParties_lease {result : Unit}
    (run : Commits (admitParties env landlord tenant paymentToken) world result after) :
    after.symbols.lease = world.symbols.lease :=
  @Writes.kept _ [] _ _ _ (writes_admitParties _ _ _) .symbolLeases _ run (by simp)

theorem initializeLease_lease {leaseId : Symbol} {depositAmount : I128} {duration : U64}
    {propertyUri : String} {result : Bool}
    (run : Commits (initializeLease env leaseId landlord tenant depositAmount duration
      propertyUri paymentToken) world result after) :
    after.symbols.lease = Function.update world.symbols.lease leaseId
      (some (pendingLease landlord tenant depositAmount env.timestamp
        (saturatingAddU64 env.timestamp duration) propertyUri paymentToken)) := by
  simp only [initializeLease, commits_bind, commits_pure] at run
  obtain ⟨_, _, admitted, _, _, displaced, _, _, saved, _, rfl⟩ := run
  rw [saveLease_lease saved, (commits_modify _ _).mp displaced, admitParties_lease admitted]

theorem createLease_lease {result : Symbol}
    (run : Commits (createLease env landlord tenant paymentToken) world result after) :
    after.symbols.lease = Function.update world.symbols.lease "lease"
      (some (pendingLease landlord tenant 0 env.timestamp 0 "" paymentToken)) := by
  simp only [createLease, commits_bind, commits_pure] at run
  obtain ⟨_, _, admitted, _, _, saved, _, rfl⟩ := run
  rw [saveLease_lease saved, admitParties_lease admitted]

end Creation

end LeaseFlow
