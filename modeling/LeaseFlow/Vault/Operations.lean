import LeaseFlow.Calendar.RentShare
import LeaseFlow.Foundations.Run
import LeaseFlow.Foundations.Transaction

/-!
# The operations of `EscrowVault`

The escrow vault keeps deposits entry by entry, under the ledger sequence of the deposit, and
pays them out in three ways.  A freeze by the DAO security council stops all four operations that
move tokens.  The step of a call rolls back a call that ends in an error or a panic.
-/

set_option autoImplicit false

namespace LeaseFlow.Vault

open Transaction

/-! ## Records -/

inductive Error where
  | unauthorized
  | escrowFrozen
  | escrowNotFound
  | invalidInput
  | insufficientFunds
  | alreadyReleased
  | transferFailed
  | invalidStatus
  deriving DecidableEq, Repr

/-- A call ends in an `Err` or in a panic; both roll it back. -/
inductive Fault where
  | err (error : Error)
  | panic
  deriving DecidableEq, Repr

inductive EscrowStatus where
  | pending
  | locked
  | released
  | refunded
  deriving DecidableEq, Repr

structure EscrowEntry where
  escrowId : U64
  depositor : Address
  beneficiary : Address
  amount : I128
  token : Address
  purpose : String
  status : EscrowStatus
  createdAt : U64
  lockUntil : U64
  conditionsMet : Bool
  releaseSignature : Option (BytesN 32)
  leaseId : Option U64
  deriving DecidableEq

inductive Event where
  | emergencyEscrowFreezeActivated (frozenBy : Address) (timestamp : U64) (reason : String)
  | emergencyEscrowFreezeLifted (liftedBy : Address) (frozenDuration timestamp : U64)
  | escrowDepositInitialized (escrowId : U64) (depositor beneficiary : Address) (amount : I128)
      (token : Address) (timestamp : U64)
  | escrowOracleSlashExecuted (escrowId : U64) (slashedAmount : I128) (slashedBy : Address)
      (timestamp : U64)
  | escrowMutualRelease (escrowId : U64) (releasedTo : Address) (amount : I128) (timestamp : U64)
  | escrowArrearsDeducted (escrowId : U64) (deductedAmount : I128) (deductedTo : Address)
      (timestamp : U64)
  deriving DecidableEq

/-- The entry `initialize_deposit` writes. -/
def EscrowEntry.deposited (escrowId : U64) (depositor beneficiary token : Address) (amount : I128)
    (purpose : String) (createdAt lockUntil : U64) (leaseId : Option U64) : EscrowEntry where
  escrowId
  depositor
  beneficiary
  amount
  token
  purpose
  status := .pending
  createdAt
  lockUntil
  conditionsMet := false
  releaseSignature := none
  leaseId

def EscrowEntry.keep (amount : I128) (entry : EscrowEntry) : EscrowEntry :=
  { entry with amount }

/-- An entry paid out in full is released. -/
def EscrowEntry.settle (entry : EscrowEntry) : EscrowEntry :=
  { entry with status := if entry.amount = 0 then .released else entry.status }

/-! ## Storage and environment -/

/-- What a token contract has been asked to move. -/
structure Transfer where
  token : Address
  payer : Address
  payee : Address
  amount : I128
  deriving DecidableEq

/-- The instance storage, an entry for each key.  Transfers and events are kept newest first. -/
structure Store where
  admin : Option Address
  daoSecurityCouncil : Option Address
  isEscrowFrozen : Option Bool
  escrowEntries : Option (Table U64 EscrowEntry)
  freezeTimestamp : Option U64
  transfers : List Transfer
  events : List Event

/-- A call sees the ledger, the address of the contract, the addresses that authorized it and
which transfers the token contracts accept. -/
structure Env where
  timestamp : U64
  sequence : U32
  currentContract : Address
  authorized : Address → Bool
  accepts : Transfer → Bool

abbrev Body (α : Type) := Transaction Store Fault α

/-- Checked arithmetic: overflow panics. -/
def compute {α : Type} (computation : Checked α) : Body α :=
  fetch computation .panic

def Store.log (event : Event) (store : Store) : Store :=
  { store with events := event :: store.events }

/-- The topics over the nine characters of `Symbol::short` are read as plain names. -/
def publish (event : Event) : Body Unit :=
  modify (Store.log event)

def requireAuth (env : Env) (address : Address) : Body Unit :=
  ensure (env.authorized address = true) .panic

def Store.move (moved : Transfer) (store : Store) : Store :=
  { store with transfers := moved :: store.transfers }

/-- `TokenClient::transfer`, which panics where the token contract refuses. -/
def transfer (env : Env) (token payer payee : Address) (amount : I128) : Body Unit := do
  ensure (env.accepts ⟨token, payer, payee, amount⟩ = true) .panic
  modify (Store.move ⟨token, payer, payee, amount⟩)

/-! ## Keys -/

def Store.entries (store : Store) : Table U64 EscrowEntry :=
  store.escrowEntries.getD ∅

/-- `is_escrow_frozen`. -/
def Store.frozen (store : Store) : Bool :=
  store.isEscrowFrozen.getD false

def Store.putEscrow (escrowId : U64) (entry : EscrowEntry) (store : Store) : Store :=
  { store with escrowEntries := some (store.entries.set escrowId (some entry)) }

def Store.putCouncil (council : Address) (store : Store) : Store :=
  { store with daoSecurityCouncil := some council }

def Store.freeze (timestamp : U64) (store : Store) : Store :=
  { store with isEscrowFrozen := some true, freezeTimestamp := some timestamp }

def Store.lift (store : Store) : Store :=
  { store with isEscrowFrozen := some false, freezeTimestamp := none }

/-- The storage `initialize` leaves. -/
def Store.setUp (admin daoSecurityCouncil : Address) (store : Store) : Store :=
  { store with
    admin := some admin
    daoSecurityCouncil := some daoSecurityCouncil
    isEscrowFrozen := some false
    escrowEntries := some ∅ }

def escrowOf (escrowId : U64) : Body EscrowEntry := do
  let entries ← inspect Store.entries
  fetch (entries.lookup escrowId) (.err .escrowNotFound)

/-- `unwrap` panics where no council is stored. -/
def councilOf : Body Address := do
  let council ← inspect Store.daoSecurityCouncil
  fetch council .panic

/-- `unwrap` panics where no admin is stored. -/
def adminOf : Body Address := do
  let admin ← inspect Store.admin
  fetch admin .panic

def setEscrow (escrowId : U64) (entry : EscrowEntry) : Body Unit :=
  modify (Store.putEscrow escrowId entry)

/-! ## Operations -/

def initializeContract (_env : Env) (admin daoSecurityCouncil : Address) : Body Unit := do
  let stored ← inspect Store.admin
  ensure (stored = none) (.err .unauthorized)
  modify (Store.setUp admin daoSecurityCouncil)

def checkFreezeStatus : Body Unit := do
  let isFrozen ← inspect Store.frozen
  ensure (isFrozen = false) (.err .escrowFrozen)

/-- The escrow id is the ledger sequence. -/
def initializeDeposit (env : Env) (depositor beneficiary token : Address) (amount : I128)
    (purpose : String) (lockDuration : U64) (leaseId : Option U64) : Body U64 := do
  checkFreezeStatus
  requireAuth env depositor
  let lockUntil ← compute (addU64 env.timestamp lockDuration)
  setEscrow env.sequence (.deposited env.sequence depositor beneficiary token amount purpose
    env.timestamp lockUntil leaseId)
  transfer env token depositor env.currentContract amount
  publish (.escrowDepositInitialized env.sequence depositor beneficiary amount token env.timestamp)
  pure env.sequence

/-- What one of the three operations asks for that pay out of an entry.  Whom they admit and what
they make of the entry that is left differs. -/
structure Payout where
  caller : Address
  escrowId : U64
  amount : I128
  recipient : Address
  admits : EscrowEntry → Bool
  leave : EscrowEntry → EscrowEntry

def payOut (env : Env) (payout : Payout) (event : Event) : Body Unit := do
  checkFreezeStatus
  requireAuth env payout.caller
  let entry ← escrowOf payout.escrowId
  ensure (payout.admits entry = true) (.err .unauthorized)
  ensure (entry.status = .locked) (.err .invalidStatus)
  ensure (payout.amount ≤ entry.amount) (.err .insufficientFunds)
  let remaining ← compute (subI128 entry.amount payout.amount)
  setEscrow payout.escrowId (payout.leave (entry.keep remaining))
  transfer env entry.token env.currentContract payout.recipient payout.amount
  publish event

/-- Any oracle is admitted.  A slashed entry keeps its status, also where nothing is left. -/
def Payout.oracleSlash (oracle : Address) (escrowId : U64) (slashAmount : I128)
    (slashRecipient : Address) : Payout where
  caller := oracle
  escrowId
  amount := slashAmount
  recipient := slashRecipient
  admits _ := true
  leave := id

/-- The depositor and the beneficiary are admitted, each without the other. -/
def Payout.mutualRelease (releaser : Address) (escrowId : U64) (releaseAmount : I128)
    (recipient : Address) : Payout where
  caller := releaser
  escrowId
  amount := releaseAmount
  recipient
  admits entry := decide (releaser = entry.depositor ∨ releaser = entry.beneficiary)
  leave := EscrowEntry.settle

/-- Any collector is admitted. -/
def Payout.arrears (arrearsCollector : Address) (escrowId : U64) (arrearsAmount : I128)
    (recipient : Address) : Payout where
  caller := arrearsCollector
  escrowId
  amount := arrearsAmount
  recipient
  admits _ := true
  leave := EscrowEntry.settle

def executeOracleSlash (env : Env) (oracle : Address) (escrowId : U64) (slashAmount : I128)
    (slashRecipient : Address) : Body Unit :=
  payOut env (.oracleSlash oracle escrowId slashAmount slashRecipient)
    (.escrowOracleSlashExecuted escrowId slashAmount oracle env.timestamp)

def executeMutualRelease (env : Env) (releaser : Address) (escrowId : U64) (releaseAmount : I128)
    (recipient : Address) : Body Unit :=
  payOut env (.mutualRelease releaser escrowId releaseAmount recipient)
    (.escrowMutualRelease escrowId recipient releaseAmount env.timestamp)

def deductArrears (env : Env) (arrearsCollector : Address) (escrowId : U64)
    (arrearsAmount : I128) (recipient : Address) : Body Unit :=
  payOut env (.arrears arrearsCollector escrowId arrearsAmount recipient)
    (.escrowArrearsDeducted escrowId arrearsAmount recipient env.timestamp)

/-- A repeated freeze and a repeated lift change nothing. -/
def toggleEscrowFreeze (env : Env) (daoMember : Address) (freeze : Bool) (reason : String) :
    Body Unit := do
  let council ← councilOf
  ensure (daoMember = council) (.err .unauthorized)
  requireAuth env daoMember
  let currentFreezeStatus ← inspect Store.frozen
  if freeze = true ∧ currentFreezeStatus = false then do
    modify (Store.freeze env.timestamp)
    publish (.emergencyEscrowFreezeActivated daoMember env.timestamp reason)
  else if freeze = false ∧ currentFreezeStatus = true then do
    let freezeTimestamp ← inspect Store.freezeTimestamp
    let frozenDuration ← compute (subU64 env.timestamp (freezeTimestamp.getD 0))
    modify Store.lift
    publish (.emergencyEscrowFreezeLifted daoMember frozenDuration env.timestamp)
  else
    pure ()

def setDaoSecurityCouncil (env : Env) (admin newDaoCouncil : Address) : Body Unit := do
  let contractAdmin ← adminOf
  ensure (contractAdmin = admin) (.err .unauthorized)
  requireAuth env admin
  modify (Store.putCouncil newDaoCouncil)

/-! ## Calls -/

inductive Operation where
  | initializeContract (admin daoSecurityCouncil : Address)
  | initializeDeposit (depositor beneficiary token : Address) (amount : I128) (purpose : String)
      (lockDuration : U64) (leaseId : Option U64)
  | executeOracleSlash (oracle : Address) (escrowId : U64) (slashAmount : I128)
      (slashRecipient : Address)
  | executeMutualRelease (releaser : Address) (escrowId : U64) (releaseAmount : I128)
      (recipient : Address)
  | deductArrears (arrearsCollector : Address) (escrowId : U64) (arrearsAmount : I128)
      (recipient : Address)
  | toggleEscrowFreeze (daoMember : Address) (freeze : Bool) (reason : String)
  | setDaoSecurityCouncil (admin newDaoCouncil : Address)

structure Call where
  env : Env
  operation : Operation

def Call.body (call : Call) : Body Unit :=
  match call.operation with
  | .initializeContract admin daoSecurityCouncil =>
      Vault.initializeContract call.env admin daoSecurityCouncil
  | .initializeDeposit depositor beneficiary token amount purpose lockDuration leaseId => do
      let _ ← Vault.initializeDeposit call.env depositor beneficiary token amount purpose
        lockDuration leaseId
  | .executeOracleSlash oracle escrowId slashAmount slashRecipient =>
      Vault.executeOracleSlash call.env oracle escrowId slashAmount slashRecipient
  | .executeMutualRelease releaser escrowId releaseAmount recipient =>
      Vault.executeMutualRelease call.env releaser escrowId releaseAmount recipient
  | .deductArrears arrearsCollector escrowId arrearsAmount recipient =>
      Vault.deductArrears call.env arrearsCollector escrowId arrearsAmount recipient
  | .toggleEscrowFreeze daoMember freeze reason =>
      Vault.toggleEscrowFreeze call.env daoMember freeze reason
  | .setDaoSecurityCouncil admin newDaoCouncil =>
      Vault.setDaoSecurityCouncil call.env admin newDaoCouncil

def step (call : Call) (store : Store) : Store :=
  call.body.attempt store

def newVault : Store where
  admin := none
  daoSecurityCouncil := none
  isEscrowFrozen := none
  escrowEntries := none
  freezeTimestamp := none
  transfers := []
  events := []

/-- Everybody authorized the call, and the tokens move any amount that is not negative. -/
def Env.willing (timestamp : U64) (sequence : U32) : Env where
  timestamp
  sequence
  currentContract := ⟨0⟩
  authorized _ := true
  accepts moved := decide (0 ≤ moved.amount)

end LeaseFlow.Vault
