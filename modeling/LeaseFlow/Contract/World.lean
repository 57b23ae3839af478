import LeaseFlow.Foundations.Transaction
import LeaseFlow.Contract.Records
import Mathlib.Logic.Function.Basic

/-!
# The contract's store and its primitive operations

`Escrow` is the part of the store that decides about deposits: the live leases,
the oracle registry, the velocity trackers, the queued slashes, and the history
of deposit movements.  `World` adds the rest of the store and the record of
everything sent outside.  Each operation of the contract is a transaction over
`World` in the `Env` of one call.
-/

set_option autoImplicit false

namespace LeaseFlow

open Transaction

/-! ## Storage -/

structure OracleStore where
  whitelistedOracle : BytesN 32 → Bool
  oracleConfig : BytesN 32 → Option OracleConfig
  fallbackHierarchy : Option FallbackHierarchy
  oracleNonce : BytesN 32 → Option U64

structure VelocityStore where
  velocityTracker : Address → Option VelocityTracker
  pausedLessor : Address → Bool
  daoApprovalRequest : U64 → Option DaoApprovalRequest

/-- The deposit-deciding part of the store.  `deposits` is a history variable,
newest entry first. -/
structure Escrow where
  leases : Table LeaseId LeaseInstance
  deposits : List DepositEntry
  oracle : OracleStore
  velocity : VelocityStore
  pendingSlash : LeaseId → Option PendingSlashVeto
  securityCouncil : Option SecurityCouncil

/-- Write, or with `none` remove, a lease record. -/
def Escrow.store (leaseId : LeaseId) (record : Option LeaseInstance) (escrow : Escrow) : Escrow :=
  { escrow with leases := escrow.leases.set leaseId record }

/-- Put entries on top of the deposit history. -/
def Escrow.enter (entries : List DepositEntry) (escrow : Escrow) : Escrow :=
  { escrow with deposits := entries ++ escrow.deposits }

structure ConfigStore where
  admin : Option Address
  allowedAsset : Address → Bool
  kycProvider : Option Address
  platformFeeAmount : Option I128
  platformFeeToken : Option Address
  platformFeeRecipient : Option Address
  termsHash : Option (BytesN 32)
  whitelistedRegistry : Address → Bool
  whitelistedYieldProtocol : Address → Bool
  liquidityBuffer : Option I128

structure SymbolStore where
  lease : Symbol → Option Lease
  receipt : Symbol × U32 → Option Receipt
  usageRights : Address × U128 → Option UsageRights

structure RentStore where
  authorizedPayer : LeaseId × Address → Bool
  roommateBalance : LeaseId × Address → Option I128

structure ArchiveStore where
  historicalLease : LeaseId → Option HistoricalLease
  historicalLeasesIndex : List LeaseId
  activeLeasesIndex : List LeaseId

structure AssetStore where
  tenantFlag : LeaseId → Bool
  assetCondition : LeaseId → Option AssetCondition
  oracleRateLimit : BytesN 32 × U64 → Bool
  assetFreezeProof : LeaseId × Address × U128 → Option (BytesN 32)
  frozenAsset : LeaseId × Address × U128 → Bool

structure YieldStore where
  yieldDeployment : LeaseId → Option YieldDeployment
  yieldAccumulated : LeaseId → Option I128

structure BillingStore where
  billingState : Option BillingState
  rentTreasury : Option Address
  activeLeases : LeaseId → Option ActiveLease

/-- What is left of the billing state once another value lies under a symbol: the billing
module keeps its values in instance storage under the three symbols, all over the nine
characters of `Symbol::short` and read as plain names. -/
def BillingStore.displaced (billing : BillingStore) (symbol : Symbol) : BillingStore :=
  if symbol = "ACTIVE_LEASES" then { billing with activeLeases := fun _ => none }
  else if symbol = "BILL_STATE" then { billing with billingState := none }
  else if symbol = "RENT_TREAS" then { billing with rentTreasury := none }
  else billing

/-- What the contract sent outside, newest first: the token transfers that are not
on account of a deposit, the NFT transfers, the root access tokens handed to the
burn cascade, and the events. -/
structure Outbox where
  payments : List TokenTransfer
  nftTransfers : List NftTransfer
  burnedAccessTokens : List (LeaseId × U128)
  events : List Event

structure World extends Escrow where
  config : ConfigStore
  symbols : SymbolStore
  rent : RentStore
  archive : ArchiveStore
  assets : AssetStore
  yield : YieldStore
  billing : BillingStore
  nonReentrant : Bool
  outbox : Outbox

/-! ## The environment of a call -/

/-- Answers of other contracts; `none` or `false` where the callee traps or reports
failure.  The two index functions stand for `add_to_active_leases_index` and
`remove_from_active_leases_index`, which the source calls without defining. -/
structure ExternalContracts where
  acceptsTransfer : TokenTransfer → Bool
  acceptsNftTransfer : NftTransfer → Bool
  isVerified : Address → Address → Bool
  pathPayment : Address → Address → Address → I128 → U32 → List Address → Option I128
  registryIsWhitelisted : Address → Option Bool
  verifyOwnership : Address → U128 → Address → Bool
  freezeAsset : Address → U128 → Option (BytesN 32)
  thawAsset : Address → U128 → BytesN 32 → Bool
  updateAssetMetadata : Address → LeaseId → String → Bool
  yieldDeposit : Address → I128 → Option I128
  yieldWithdraw : Address → I128 → Option I128
  claimRewards : Address → Option I128
  addToActiveLeasesIndex : List LeaseId → LeaseId → Except LeaseError (List LeaseId)
  removeFromActiveLeasesIndex : List LeaseId → LeaseId → Except LeaseError (List LeaseId)

structure Env where
  timestamp : U64
  sequence : UInt32
  currentContractAddress : Address
  authorised : Address → Bool
  ed25519Verify : BytesN 32 → List UInt8 → BytesN 64 → Bool
  addressFromString : String → Option Address
  contracts : ExternalContracts

/-! ## Primitives -/

abbrev Contract (α : Type) := Transaction World Fault α

/-- `return Err(..)` unless the condition holds. -/
def require (condition : Prop) [Decidable condition] (error : LeaseError) : Contract Unit :=
  ensure condition (.err error)

/-- Trap unless the condition holds: `require!`, a host failure, a failed callee. -/
def demand (condition : Prop) [Decidable condition] (message : String) : Contract Unit :=
  ensure condition (.trap message)

def okOr {α : Type} (found : Option α) (error : LeaseError) : Contract α :=
  fetch found (.err error)

def expect {α : Type} (found : Option α) (message : String) : Contract α :=
  fetch found (.trap message)

/-- `let result = f(..)`: an `Err` is kept as a value while a trap ends the call. -/
def resultOf {α : Type} (body : Contract α) : Contract (Except LeaseError α) :=
  capture (fun | .err error => some error | .trap _ => none) body

/-- The `?` operator on a kept result. -/
def question {α : Type} (outcome : Except LeaseError α) : Contract α :=
  propagate Fault.err outcome

def requireAuth (env : Env) (address : Address) : Contract Unit :=
  demand (env.authorised address = true) "HostError: Error(Auth, InvalidAction)"

/-- Overflow checks are on in the release profile: a result outside the type traps. -/
def checkedI128 (value : Int) : Contract I128 := do
  demand (i128Min ≤ value ∧ value ≤ i128Max) "attempt to perform arithmetic with overflow"
  pure value

def checkedU64 (value : Nat) : Contract U64 := do
  demand (value ≤ u64Max) "attempt to perform arithmetic with overflow"
  pure value

def checkedU32 (value : Nat) : Contract U32 := do
  demand (value < 2 ^ 32) "attempt to perform arithmetic with overflow"
  pure value

def checkedSubU64 (left right : U64) : Contract U64 := do
  demand (right ≤ left) "attempt to subtract with overflow"
  pure (left - right)

def publish (event : Event) : Contract Unit :=
  modify fun world => { world with
    outbox := { world.outbox with events := event :: world.outbox.events } }

/-- A token transfer that is not on account of a deposit. -/
def transfer (env : Env) (payment : TokenTransfer) : Contract Unit := do
  demand (env.contracts.acceptsTransfer payment = true) "token transfer failed"
  modify fun world => { world with
    outbox := { world.outbox with payments := payment :: world.outbox.payments } }

def transferNft (env : Env) (movement : NftTransfer) : Contract Unit := do
  demand (env.contracts.acceptsNftTransfer movement = true) "NFT transfer failed"
  modify fun world => { world with
    outbox := { world.outbox with nftTransfers := movement :: world.outbox.nftTransfers } }

/-- The entry of a payout out of the contract's holdings, if there is one. -/
def depositPayout (env : Env) (leaseId : LeaseId) (share : DepositShare)
    (token recipient : Address) (amount : I128) : List DepositEntry :=
  if 0 < amount then
    [.paid leaseId share ⟨token, env.currentContractAddress, recipient, amount⟩]
  else
    []

/-- `if amount > 0 { token_client.transfer(contract, recipient, amount) }` for an
amount paid out of a deposit. -/
def payDeposit (env : Env) (leaseId : LeaseId) (share : DepositShare)
    (token recipient : Address) (amount : I128) : Contract Unit := do
  demand (0 < amount → env.contracts.acceptsTransfer
    ⟨token, env.currentContractAddress, recipient, amount⟩ = true) "token transfer failed"
  modify fun world => { world with
    deposits := depositPayout env leaseId share token recipient amount ++ world.deposits }

/-! ## Lease records -/

def loadLeaseInstanceById (leaseId : LeaseId) : Contract LeaseInstance := do
  let found ← inspect fun world => world.leases.lookup leaseId
  okOr found .leaseNotFound

def saveLeaseInstance (leaseId : LeaseId) (lease : LeaseInstance) : Contract Unit :=
  modify fun world => { world with leases := world.leases.set leaseId (some lease) }

def deleteLeaseInstance (leaseId : LeaseId) : Contract Unit :=
  modify fun world => { world with leases := world.leases.set leaseId none }

def archiveLease (env : Env) (leaseId : LeaseId) (lease : LeaseInstance) (caller : Address) :
    Contract Unit := do
  modify fun world => { world with
    archive := { world.archive with
      historicalLease := Function.update world.archive.historicalLease leaseId
        (some ⟨lease, caller, env.timestamp⟩)
      historicalLeasesIndex := world.archive.historicalLeasesIndex ++ [leaseId] } }
  deleteLeaseInstance leaseId

def deleteUsageRights (nftContract : Address) (tokenId : U128) : Contract Unit :=
  modify fun world => { world with
    symbols := { world.symbols with
      usageRights := Function.update world.symbols.usageRights (nftContract, tokenId) none } }

/-- Send the lease's NFT, if it holds one, out of the contract. -/
def sendLeaseNft (env : Env) (nftContract : Option Address) (tokenId : Option U128)
    (recipient : Address) : Contract Unit :=
  match nftContract, tokenId with
  | some nft, some token => transferNft env ⟨nft, recipient, token⟩
  | _, _ => pure ()

/-- The same after deleting the usage rights on it. -/
def returnLeaseNft (env : Env) (nftContract : Option Address) (tokenId : Option U128)
    (recipient : Address) : Contract Unit :=
  match nftContract, tokenId with
  | some nft, some token => do
      deleteUsageRights nft token
      transferNft env ⟨nft, recipient, token⟩
  | _, _ => pure ()

/-- The NFT contract accepts the return of the lease's NFT, if the lease holds one. -/
def Env.AcceptsNft (env : Env) (nftContract : Option Address) (tokenId : Option U128)
    (recipient : Address) : Prop :=
  ∀ nft ∈ nftContract, ∀ token ∈ tokenId,
    env.contracts.acceptsNftTransfer ⟨nft, recipient, token⟩ = true

def isAdmin (caller : Address) : Contract Bool :=
  inspect fun world => decide (world.config.admin = some caller)

/-! ## What the primitives do -/

section Primitives

variable {world after : World} {α : Type}

@[simp] theorem commits_require (condition : Prop) [Decidable condition] (error : LeaseError)
    (result : Unit) :
    Commits (require condition error) world result after ↔ condition ∧ after = world :=
  commits_ensure condition (Fault.err error) result

@[simp] theorem commits_demand (condition : Prop) [Decidable condition] (message : String)
    (result : Unit) :
    Commits (demand condition message) world result after ↔ condition ∧ after = world :=
  commits_ensure condition (Fault.trap message) result

@[simp] theorem commits_okOr (found : Option α) (error : LeaseError) (result : α) :
    Commits (okOr found error) world result after ↔ found = some result ∧ after = world :=
  commits_fetch found (Fault.err error) result

@[simp] theorem commits_expect (found : Option α) (message : String) (result : α) :
    Commits (expect found message) world result after ↔ found = some result ∧ after = world :=
  commits_fetch found (Fault.trap message) result

@[simp] theorem commits_question (outcome : Except LeaseError α) (result : α) :
    Commits (question outcome) world result after ↔ outcome = .ok result ∧ after = world :=
  commits_propagate Fault.err outcome result

@[simp] theorem commits_resultOf_ok (body : Contract α) (value : α) :
    Commits (resultOf body) world (.ok value) after ↔ Commits body world value after :=
  commits_capture_ok _ body value

@[simp] theorem commits_requireAuth (env : Env) (address : Address) (result : Unit) :
    Commits (requireAuth env address) world result after ↔
      env.authorised address = true ∧ after = world :=
  commits_demand _ _ result

@[simp] theorem commits_checkedI128 (value result : Int) :
    Commits (checkedI128 value) world result after ↔
      (i128Min ≤ value ∧ value ≤ i128Max) ∧ result = value ∧ after = world := by
  simp [checkedI128, and_assoc, and_comm]

@[simp] theorem commits_checkedU64 (value result : Nat) :
    Commits (checkedU64 value) world result after ↔
      value ≤ u64Max ∧ result = value ∧ after = world := by
  simp [checkedU64, and_assoc, and_comm]

@[simp] theorem commits_checkedSubU64 (left right result : Nat) :
    Commits (checkedSubU64 left right) world result after ↔
      right ≤ left ∧ result = left - right ∧ after = world := by
  simp [checkedSubU64, and_assoc, and_left_comm, and_comm]

@[simp] theorem commits_loadLeaseInstanceById (leaseId : LeaseId) (lease : LeaseInstance) :
    Commits (loadLeaseInstanceById leaseId) world lease after ↔
      world.leases.lookup leaseId = some lease ∧ after = world := by
  simp [loadLeaseInstanceById, eq_comm, and_comm]

@[simp] theorem commits_saveLeaseInstance (leaseId : LeaseId) (lease : LeaseInstance)
    (result : Unit) :
    Commits (saveLeaseInstance leaseId lease) world result after ↔
      after = { world with leases := world.leases.set leaseId (some lease) } := by
  simp [saveLeaseInstance]

@[simp] theorem commits_payDeposit (env : Env) (leaseId : LeaseId) (share : DepositShare)
    (token recipient : Address) (amount : I128) (result : Unit) :
    Commits (payDeposit env leaseId share token recipient amount) world result after ↔
      (0 < amount → env.contracts.acceptsTransfer
        ⟨token, env.currentContractAddress, recipient, amount⟩ = true) ∧
      after = { world with
        deposits := depositPayout env leaseId share token recipient amount ++ world.deposits } := by
  simp [payDeposit]

theorem exists_commits_returnLeaseNft {env : Env} {nftContract : Option Address}
    {tokenId : Option U128} {recipient : Address} :
    (∃ after, Commits (returnLeaseNft env nftContract tokenId recipient) world () after) ↔
      env.AcceptsNft nftContract tokenId recipient := by
  cases nftContract with
  | none => simp [returnLeaseNft, Env.AcceptsNft]
  | some nft =>
      cases tokenId with
      | none => simp [returnLeaseNft, Env.AcceptsNft]
      | some token => simp [returnLeaseNft, Env.AcceptsNft, deleteUsageRights, transferNft]

@[simp] theorem commits_isAdmin (caller : Address) (result : Bool) :
    Commits (isAdmin caller) world result after ↔
      result = decide (world.config.admin = some caller) ∧ after = world := by
  simp [isAdmin]

theorem saveLeaseInstance_escrow {leaseId : LeaseId} {lease : LeaseInstance} {result : Unit}
    (run : Commits (saveLeaseInstance leaseId lease) world result after) :
    after.toEscrow = world.toEscrow.store leaseId (some lease) := by
  rw [(commits_saveLeaseInstance leaseId lease result).mp run]
  rfl

theorem payDeposit_escrow {env : Env} {leaseId : LeaseId} {share : DepositShare}
    {token recipient : Address} {amount : I128} {result : Unit}
    (run : Commits (payDeposit env leaseId share token recipient amount) world result after) :
    after.toEscrow =
      world.toEscrow.enter (depositPayout env leaseId share token recipient amount) := by
  rw [((commits_payDeposit env leaseId share token recipient amount result).mp run).2]
  rfl

theorem deleteLeaseInstance_escrow {leaseId : LeaseId} {result : Unit}
    (run : Commits (deleteLeaseInstance leaseId) world result after) :
    after.toEscrow = world.toEscrow.store leaseId none := by
  rw [(commits_modify _ result).mp run]
  rfl

/-- Archiving takes the record out of live storage and touches nothing else of the
escrow. -/
theorem archiveLease_escrow {env : Env} {leaseId : LeaseId} {lease : LeaseInstance}
    {caller : Address} {result : Unit}
    (run : Commits (archiveLease env leaseId lease caller) world result after) :
    after.toEscrow = world.toEscrow.store leaseId none := by
  simp only [archiveLease, commits_bind, commits_modify] at run
  obtain ⟨_, _, rfl, deleted⟩ := run
  rw [deleteLeaseInstance_escrow deleted]

end Primitives

end LeaseFlow
