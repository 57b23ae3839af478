import LeaseFlow.Contract.Records
import LeaseFlow.Foundations.Failure
import LeaseFlow.Foundations.Machine

/-!
# The operations of `TimelockUpgradeModule`

Signers propose an upgrade of the contract's code, approve it and may cancel it; once enough of
them approved it and the timelock has elapsed, anybody executes it.
-/

set_option autoImplicit false

namespace LeaseFlow.Timelock

open Transaction Failure

/-! ## Records -/

inductive UpgradeProposalStatus where
  | pending
  | approved
  | executed
  | cancelled
  deriving DecidableEq, Repr

structure UpgradeProposal where
  proposalId : U64
  proposer : Address
  newWasmHash : BytesN 32
  description : String
  status : UpgradeProposalStatus
  createdAt : U64
  approvals : List Address
  approvalCount : U32
  requiredApprovals : U32
  executionTime : U64
  deriving DecidableEq

inductive Event where
  | upgradeProposed (proposalId : U64) (proposer : Address) (newWasmHash : BytesN 32)
      (description : String) (executionTime timestamp : U64)
  | upgradeApproved (proposalId : U64) (approver : Address) (approvalCount : U32)
      (timestamp : U64)
  | upgradeExecuted (proposalId : U64) (oldWasmHash newWasmHash : BytesN 32) (timestamp : U64)
  | upgradeCancelled (proposalId : U64) (cancelledBy : Address) (reason : String)
      (timestamp : U64)
  | signerAdded (signer addedBy : Address) (timestamp : U64)
  | signerRemoved (signer removedBy : Address) (timestamp : U64)

/-! ## Storage and environment -/

/-- The instance storage, an entry for each key, the hash of the code that is installed, and the
events, newest first. -/
structure Store where
  upgradeProposal : U64 → Option UpgradeProposal
  proposalCount : Option U64
  signer : Address → Option Bool
  timelockDuration : Option U64
  minApprovals : Option U32
  currentWasmHash : Option (BytesN 32)
  installed : BytesN 32
  events : List Event

/-- A call sees the ledger time, the addresses that authorised it and the code that has been
uploaded. -/
structure Env where
  timestamp : U64
  authorised : Address → Bool
  uploaded : BytesN 32 → Bool

abbrev Body (α : Type) := Transaction Store (Failure String) α

def u32Max : Nat := 2 ^ 32 - 1

def publish (event : Event) : Body Unit :=
  modify fun store => { store with events := event :: store.events }

def requireAuth (env : Env) (address : Address) : Body Unit :=
  orTrap (env.authorised address = true) "HostError: Error(Auth, InvalidAction)"

/-- `update_current_contract_wasm`, which traps where the code was never uploaded. -/
def updateCurrentContractWasm (env : Env) (newWasmHash : BytesN 32) : Body Unit := do
  orTrap (env.uploaded newWasmHash = true) "HostError: Error(Storage, MissingValue)"
  modify fun store => { store with installed := newWasmHash }

def Store.putSigner (address : Address) (entry : Option Bool) (store : Store) : Store :=
  { store with signer := Function.update store.signer address entry }

def Store.putProposal (proposalId : U64) (proposal : UpgradeProposal) (store : Store) : Store :=
  { store with
    upgradeProposal := Function.update store.upgradeProposal proposalId (some proposal) }

/-! ## Queries -/

/-- `is_signer` -/
def Store.isSigner (store : Store) (address : Address) : Bool :=
  (store.signer address).getD false

def getTimelockDuration : Body U64 :=
  inspect fun store => store.timelockDuration.getD 1209600

def getProposal (proposalId : U64) : Body UpgradeProposal := do
  let found ← inspect fun store => store.upgradeProposal proposalId
  orErr found "Proposal not found"

def requireSigner (address : Address) : Body Unit := do
  let isSigner ← inspect fun store => store.isSigner address
  check (isSigner = true) "Not authorized signer"

/-! ## Signers -/

/-- The entries `initialize_timelock` writes; a duration or a number of approvals of zero stands
for the default. -/
def Store.setUp (admin : Address) (timelockDuration : U64) (minApprovals : U32) (store : Store) :
    Store :=
  { store.putSigner admin (some true) with
    timelockDuration := some (if 0 < timelockDuration then timelockDuration else 1209600)
    minApprovals := some (if 0 < minApprovals then minApprovals else 3)
    proposalCount := some 0 }

def initializeTimelock (env : Env) (admin : Address) (timelockDuration : U64)
    (minApprovals : U32) : Body Unit := do
  requireAuth env admin
  let stored ← inspect Store.timelockDuration
  check (stored = none) "Already initialized"
  modify (Store.setUp admin timelockDuration minApprovals)
  publish (.signerAdded admin admin env.timestamp)

def addSigner (env : Env) (caller newSigner : Address) : Body Unit := do
  requireAuth env caller
  requireSigner caller
  modify (Store.putSigner newSigner (some true))
  publish (.signerAdded newSigner caller env.timestamp)

def removeSigner (env : Env) (caller signerToRemove : Address) : Body Unit := do
  requireAuth env caller
  requireSigner caller
  modify (Store.putSigner signerToRemove none)
  publish (.signerRemoved signerToRemove caller env.timestamp)

/-! ## Proposals -/

def UpgradeProposal.fresh (env : Env) (proposalId : U64) (proposer : Address)
    (newWasmHash : BytesN 32) (description : String) (requiredApprovals : U32)
    (executionTime : U64) : UpgradeProposal where
  proposalId := proposalId
  proposer := proposer
  newWasmHash := newWasmHash
  description := description
  status := .pending
  createdAt := env.timestamp
  approvals := []
  approvalCount := 0
  requiredApprovals := requiredApprovals
  executionTime := executionTime

def proposeUpgrade (env : Env) (proposer : Address) (newWasmHash : BytesN 32)
    (description : String) : Body U64 := do
  requireAuth env proposer
  requireSigner proposer
  let proposalId ← inspect fun store => store.proposalCount.getD 0
  let timelockDuration ← getTimelockDuration
  let requiredApprovals ← inspect fun store => store.minApprovals.getD 3
  let executionTime ← checkedUpTo u64Max (env.timestamp + timelockDuration)
  modify (Store.putProposal proposalId
    (.fresh env proposalId proposer newWasmHash description requiredApprovals executionTime))
  let nextCount ← checkedUpTo u64Max (proposalId + 1)
  modify fun store => { store with proposalCount := some nextCount }
  publish (.upgradeProposed proposalId proposer newWasmHash description executionTime
    env.timestamp)
  pure proposalId

/-- The proposal with one approval more, which may be the last it needs. -/
def UpgradeProposal.approvedBy (approver : Address) (approvalCount : U32)
    (proposal : UpgradeProposal) : UpgradeProposal :=
  { proposal with
    approvals := proposal.approvals ++ [approver]
    approvalCount := approvalCount
    status := if proposal.requiredApprovals ≤ approvalCount then .approved else proposal.status }

def approveUpgrade (env : Env) (approver : Address) (proposalId : U64) : Body Unit := do
  requireAuth env approver
  requireSigner approver
  let proposal ← getProposal proposalId
  check (proposal.status ≠ .executed) "Proposal already executed"
  check (proposal.status ≠ .cancelled) "Proposal cancelled"
  check (approver ∉ proposal.approvals) "Already approved"
  let approvalCount ← checkedUpTo u32Max (proposal.approvalCount + 1)
  modify (Store.putProposal proposalId (proposal.approvedBy approver approvalCount))
  publish (.upgradeApproved proposalId approver approvalCount env.timestamp)

def executeUpgrade (env : Env) (executor : Address) (proposalId : U64) : Body Unit := do
  requireAuth env executor
  let proposal ← getProposal proposalId
  check (proposal.status = .approved) "Proposal not approved"
  check (proposal.executionTime ≤ env.timestamp) "Timelock period not elapsed"
  let current ← inspect Store.currentWasmHash
  let oldWasmHash := current.getD (.repeated 32 0)
  updateCurrentContractWasm env proposal.newWasmHash
  modify (Store.putProposal proposalId { proposal with status := .executed })
  modify fun store => { store with currentWasmHash := some proposal.newWasmHash }
  publish (.upgradeExecuted proposalId oldWasmHash proposal.newWasmHash env.timestamp)

def cancelUpgrade (env : Env) (canceller : Address) (proposalId : U64) (reason : String) :
    Body Unit := do
  requireAuth env canceller
  requireSigner canceller
  let proposal ← getProposal proposalId
  check (proposal.status ≠ .executed) "Proposal already executed"
  check (proposal.status ≠ .cancelled) "Proposal already cancelled"
  modify (Store.putProposal proposalId { proposal with status := .cancelled })
  publish (.upgradeCancelled proposalId canceller reason env.timestamp)

/-! ## Calls -/

inductive Operation where
  | initializeTimelock (admin : Address) (timelockDuration : U64) (minApprovals : U32)
  | addSigner (caller newSigner : Address)
  | removeSigner (caller signerToRemove : Address)
  | proposeUpgrade (proposer : Address) (newWasmHash : BytesN 32) (description : String)
  | approveUpgrade (approver : Address) (proposalId : U64)
  | executeUpgrade (executor : Address) (proposalId : U64)
  | cancelUpgrade (canceller : Address) (proposalId : U64) (reason : String)
  | getProposal (proposalId : U64)
  | isSigner (address : Address)
  | getTimelockDuration

structure Call where
  env : Env
  operation : Operation

def Call.body (call : Call) : Body Unit :=
  match call.operation with
  | .initializeTimelock admin timelockDuration minApprovals =>
      Timelock.initializeTimelock call.env admin timelockDuration minApprovals
  | .addSigner caller newSigner => Timelock.addSigner call.env caller newSigner
  | .removeSigner caller signerToRemove => Timelock.removeSigner call.env caller signerToRemove
  | .proposeUpgrade proposer newWasmHash description => do
      let _ ← Timelock.proposeUpgrade call.env proposer newWasmHash description
  | .approveUpgrade approver proposalId => Timelock.approveUpgrade call.env approver proposalId
  | .executeUpgrade executor proposalId => Timelock.executeUpgrade call.env executor proposalId
  | .cancelUpgrade canceller proposalId reason =>
      Timelock.cancelUpgrade call.env canceller proposalId reason
  | .getProposal proposalId => do
      let _ ← Timelock.getProposal proposalId
  | .isSigner address => do
      let _ ← inspect fun store => store.isSigner address
  | .getTimelockDuration => do
      let _ ← Timelock.getTimelockDuration

abbrev step : Call → Store → Store :=
  Machine.step Call.body

abbrev Call.Goes (call : Call) (store : Store) : Prop :=
  Machine.Goes Call.body call store

/-- The storage of a contract that was just deployed. -/
def Store.deployed (installed : BytesN 32) : Store where
  upgradeProposal _ := none
  proposalCount := none
  signer _ := none
  timelockDuration := none
  minApprovals := none
  currentWasmHash := none
  installed := installed
  events := []

end LeaseFlow.Timelock
