import LeaseFlow.Contract.Records
import LeaseFlow.Foundations.Failure
import LeaseFlow.Foundations.Machine

/-!
# The operations of `Sep12IdentityModule`

Identity providers register themselves and lessors list those they trust.  Members of a
governance council suspend a provider, and revoke one by a proposal they vote on.
-/

set_option autoImplicit false

namespace LeaseFlow.Identity

open Transaction Failure

/-! ## Records -/

abbrev ProviderId := BytesN 32

inductive IdentityProviderStatus where
  | active
  | suspended
  | revoked
  deriving DecidableEq, Repr

structure IdentityProvider where
  providerId : ProviderId
  providerAddress : Address
  name : String
  status : IdentityProviderStatus
  registeredAt : U64
  lastUpdated : U64
  verificationCount : U64
  trustScore : U32
  deriving DecidableEq

structure LessorTrustedProviders where
  lessor : Address
  trustedProviders : List ProviderId
  autoAcceptNewProviders : Bool
  deriving DecidableEq

structure RevocationProposal where
  proposalId : U64
  providerId : ProviderId
  proposer : Address
  reason : String
  votesFor : U32
  votesAgainst : U32
  createdAt : U64
  executed : Bool
  deriving DecidableEq

inductive Event where
  | identityProviderRegistered (providerId : ProviderId) (providerAddress : Address)
      (name : String) (timestamp : U64)
  | identityProviderSuspended (providerId : ProviderId) (reason : String) (timestamp : U64)
  | identityProviderRevoked (providerId : ProviderId) (reason : String) (timestamp : U64)
  | lessorTrustedProviderAdded (lessor : Address) (providerId : ProviderId) (timestamp : U64)
  | lessorTrustedProviderRemoved (lessor : Address) (providerId : ProviderId) (timestamp : U64)
  | revocationProposalCreated (proposalId : U64) (providerId : ProviderId) (proposer : Address)
      (timestamp : U64)
  | revocationProposalExecuted (proposalId : U64) (providerId : ProviderId) (timestamp : U64)

/-! ## Storage and environment -/

/-- The instance storage, an entry for each key, and the events, newest first. -/
structure Store where
  identityProvider : ProviderId → Option IdentityProvider
  lessorTrustedProviders : Address → Option LessorTrustedProviders
  governanceCouncil : Address → Option Bool
  revocationProposal : U64 → Option RevocationProposal
  providerRegistryCount : Option U64
  events : List Event

/-- A call sees the ledger time and the addresses that authorised it. -/
structure Env where
  timestamp : U64
  authorised : Address → Bool

abbrev Body (α : Type) := Transaction Store (Failure String) α

def u32Max : Nat := 2 ^ 32 - 1

def publish (event : Event) : Body Unit :=
  modify fun store => { store with events := event :: store.events }

def requireAuth (env : Env) (address : Address) : Body Unit :=
  orTrap (env.authorised address = true) "HostError: Error(Auth, InvalidAction)"

def Store.putProvider (providerId : ProviderId) (provider : IdentityProvider) (store : Store) :
    Store :=
  { store with
    identityProvider := Function.update store.identityProvider providerId (some provider) }

def Store.putTrusted (lessor : Address) (trusted : LessorTrustedProviders) (store : Store) :
    Store :=
  { store with
    lessorTrustedProviders := Function.update store.lessorTrustedProviders lessor (some trusted) }

def Store.putProposal (proposalId : U64) (proposal : RevocationProposal) (store : Store) : Store :=
  { store with
    revocationProposal := Function.update store.revocationProposal proposalId (some proposal) }

def Store.putMember (member : Address) (store : Store) : Store :=
  { store with governanceCouncil := Function.update store.governanceCouncil member (some true) }

/-! ## Queries -/

def Store.isMember (store : Store) (address : Address) : Bool :=
  (store.governanceCouncil address).getD false

/-- `is_provider_trusted` -/
def Store.isProviderTrusted (store : Store) (lessor : Address) (providerId : ProviderId) : Bool :=
  match store.lessorTrustedProviders lessor with
  | some trusted => trusted.trustedProviders.any fun provider => decide (provider = providerId)
  | none => false

def getProvider (providerId : ProviderId) : Body IdentityProvider := do
  let found ← inspect fun store => store.identityProvider providerId
  orErr found "Provider not found"

def getTrustedProviders (lessor : Address) : Body LessorTrustedProviders := do
  let found ← inspect fun store => store.lessorTrustedProviders lessor
  orErr found "No trusted providers configured"

def requireGovernanceCouncil (address : Address) : Body Unit := do
  let isMember ← inspect fun store => store.isMember address
  check (isMember = true) "Not a governance council member"

/-! ## Providers -/

def IdentityProvider.fresh (env : Env) (providerId : ProviderId) (providerAddress : Address)
    (name : String) : IdentityProvider where
  providerId := providerId
  providerAddress := providerAddress
  name := name
  status := .active
  registeredAt := env.timestamp
  lastUpdated := env.timestamp
  verificationCount := 0
  trustScore := 5000

def registerIdentityProvider (env : Env) (providerId : ProviderId) (providerAddress : Address)
    (name : String) : Body Unit := do
  requireAuth env providerAddress
  let stored ← inspect fun store => store.identityProvider providerId
  check (stored = none) "Provider already registered"
  modify (Store.putProvider providerId (.fresh env providerId providerAddress name))
  let count ← inspect fun store => store.providerRegistryCount.getD 0
  let nextCount ← checkedUpTo u64Max (count + 1)
  modify fun store => { store with providerRegistryCount := some nextCount }
  publish (.identityProviderRegistered providerId providerAddress name env.timestamp)

/-- The provider with another status. -/
def IdentityProvider.restated (env : Env) (status : IdentityProviderStatus)
    (provider : IdentityProvider) : IdentityProvider :=
  { provider with status := status, lastUpdated := env.timestamp }

def suspendProvider (env : Env) (admin : Address) (providerId : ProviderId) (reason : String) :
    Body Unit := do
  requireGovernanceCouncil admin
  requireAuth env admin
  let provider ← getProvider providerId
  check (provider.status ≠ .revoked) "Provider already revoked"
  modify (Store.putProvider providerId (provider.restated env .suspended))
  publish (.identityProviderSuspended providerId reason env.timestamp)

/-! ## Trust lists -/

/-- The list a lessor starts with. -/
def LessorTrustedProviders.empty (lessor : Address) : LessorTrustedProviders :=
  ⟨lessor, [], false⟩

def LessorTrustedProviders.pushed (providerId : ProviderId) (trusted : LessorTrustedProviders) :
    LessorTrustedProviders :=
  { trusted with trustedProviders := trusted.trustedProviders ++ [providerId] }

def LessorTrustedProviders.without (providerId : ProviderId) (trusted : LessorTrustedProviders) :
    LessorTrustedProviders :=
  { trusted with
    trustedProviders := trusted.trustedProviders.filter fun existing =>
      decide (existing ≠ providerId) }

/-- The list that is stored for the lessor, or the one it starts with. -/
def Store.trustedBy (store : Store) (lessor : Address) : LessorTrustedProviders :=
  (store.lessorTrustedProviders lessor).getD (.empty lessor)

def addTrustedProvider (env : Env) (lessor : Address) (providerId : ProviderId) : Body Unit := do
  requireAuth env lessor
  let provider ← getProvider providerId
  check (provider.status = .active) "Provider is not active"
  let trusted ← inspect fun store => store.trustedBy lessor
  check (providerId ∉ trusted.trustedProviders) "Provider already trusted"
  modify (Store.putTrusted lessor (trusted.pushed providerId))
  publish (.lessorTrustedProviderAdded lessor providerId env.timestamp)

def removeTrustedProvider (env : Env) (lessor : Address) (providerId : ProviderId) :
    Body Unit := do
  requireAuth env lessor
  let trusted ← getTrustedProviders lessor
  check (providerId ∈ trusted.trustedProviders) "Provider not in trusted list"
  modify (Store.putTrusted lessor (trusted.without providerId))
  publish (.lessorTrustedProviderRemoved lessor providerId env.timestamp)

/-! ## Revocation -/

def RevocationProposal.fresh (env : Env) (proposalId : U64) (providerId : ProviderId)
    (proposer : Address) (reason : String) : RevocationProposal where
  proposalId := proposalId
  providerId := providerId
  proposer := proposer
  reason := reason
  votesFor := 0
  votesAgainst := 0
  createdAt := env.timestamp
  executed := false

/-- The number of a proposal is the number of registered providers. -/
def createRevocationProposal (env : Env) (proposer : Address) (providerId : ProviderId)
    (reason : String) : Body U64 := do
  requireAuth env proposer
  requireGovernanceCouncil proposer
  let _ ← getProvider providerId
  let proposalId ← inspect fun store => store.providerRegistryCount.getD 0
  modify (Store.putProposal proposalId (.fresh env proposalId providerId proposer reason))
  publish (.revocationProposalCreated proposalId providerId proposer env.timestamp)
  pure proposalId

def getRevocationProposal (proposalId : U64) : Body RevocationProposal := do
  let found ← inspect fun store => store.revocationProposal proposalId
  let proposal ← orErr found "Proposal not found"
  check (proposal.executed = false) "Proposal already executed"
  pure proposal

def RevocationProposal.voted (voteFor : Bool) (proposal : RevocationProposal) :
    RevocationProposal :=
  if voteFor then { proposal with votesFor := proposal.votesFor + 1 }
  else { proposal with votesAgainst := proposal.votesAgainst + 1 }

def voteOnRevocation (env : Env) (voter : Address) (proposalId : U64) (voteFor : Bool) :
    Body Unit := do
  requireAuth env voter
  requireGovernanceCouncil voter
  let proposal ← getRevocationProposal proposalId
  let _ ← checkedUpTo u32Max
    (if voteFor then proposal.votesFor + 1 else proposal.votesAgainst + 1)
  modify (Store.putProposal proposalId (proposal.voted voteFor))

def executeRevocation (env : Env) (executor : Address) (proposalId : U64) : Body Unit := do
  requireAuth env executor
  requireGovernanceCouncil executor
  let proposal ← getRevocationProposal proposalId
  let totalVotes ← checkedUpTo u32Max (proposal.votesFor + proposal.votesAgainst)
  check (3 ≤ totalVotes) "Insufficient votes for revocation"
  let doubled ← checkedUpTo u32Max (proposal.votesFor * 2)
  let total ← checkedUpTo u32Max (totalVotes * 1)
  check (total < doubled) "Insufficient votes for revocation"
  let provider ← getProvider proposal.providerId
  modify (Store.putProvider proposal.providerId (provider.restated env .revoked))
  modify (Store.putProposal proposalId { proposal with executed := true })
  publish (.identityProviderRevoked proposal.providerId proposal.reason env.timestamp)
  publish (.revocationProposalExecuted proposalId proposal.providerId env.timestamp)

/-! ## The council -/

def addGovernanceCouncilMember (env : Env) (admin member : Address) : Body Unit := do
  requireGovernanceCouncil admin
  requireAuth env admin
  modify (Store.putMember member)

/-! ## Calls -/

inductive Operation where
  | registerIdentityProvider (providerId : ProviderId) (providerAddress : Address)
      (name : String)
  | addTrustedProvider (lessor : Address) (providerId : ProviderId)
  | removeTrustedProvider (lessor : Address) (providerId : ProviderId)
  | suspendProvider (admin : Address) (providerId : ProviderId) (reason : String)
  | createRevocationProposal (proposer : Address) (providerId : ProviderId) (reason : String)
  | voteOnRevocation (voter : Address) (proposalId : U64) (voteFor : Bool)
  | executeRevocation (executor : Address) (proposalId : U64)
  | isProviderTrusted (lessor : Address) (providerId : ProviderId)
  | getProvider (providerId : ProviderId)
  | getTrustedProviders (lessor : Address)
  | addGovernanceCouncilMember (admin member : Address)

structure Call where
  env : Env
  operation : Operation

def Call.body (call : Call) : Body Unit :=
  match call.operation with
  | .registerIdentityProvider providerId providerAddress name =>
      Identity.registerIdentityProvider call.env providerId providerAddress name
  | .addTrustedProvider lessor providerId =>
      Identity.addTrustedProvider call.env lessor providerId
  | .removeTrustedProvider lessor providerId =>
      Identity.removeTrustedProvider call.env lessor providerId
  | .suspendProvider admin providerId reason =>
      Identity.suspendProvider call.env admin providerId reason
  | .createRevocationProposal proposer providerId reason => do
      let _ ← Identity.createRevocationProposal call.env proposer providerId reason
  | .voteOnRevocation voter proposalId voteFor =>
      Identity.voteOnRevocation call.env voter proposalId voteFor
  | .executeRevocation executor proposalId =>
      Identity.executeRevocation call.env executor proposalId
  | .isProviderTrusted lessor providerId => do
      let _ ← inspect fun store => store.isProviderTrusted lessor providerId
  | .getProvider providerId => do
      let _ ← Identity.getProvider providerId
  | .getTrustedProviders lessor => do
      let _ ← Identity.getTrustedProviders lessor
  | .addGovernanceCouncilMember admin member =>
      Identity.addGovernanceCouncilMember call.env admin member

abbrev step : Call → Store → Store :=
  Machine.step Call.body

abbrev Call.Goes (call : Call) (store : Store) : Prop :=
  Machine.Goes Call.body call store

/-- The storage of a contract with a council, where nobody has registered yet. -/
def Store.founded (council : Address → Option Bool) : Store where
  identityProvider _ := none
  lessorTrustedProviders _ := none
  governanceCouncil := council
  revocationProposal _ := none
  providerRegistryCount := none
  events := []

end LeaseFlow.Identity
