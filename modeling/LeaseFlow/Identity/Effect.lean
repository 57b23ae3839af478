import LeaseFlow.Identity.Operations

/-!
# What a call to the identity module does

`Effect` says once, for each operation, what it checked and which entries it leaves.
-/

set_option autoImplicit false

namespace LeaseFlow.Identity

open Transaction Failure

/-- The stores hold the same entry under every key. -/
structure Store.SameEntries (store other : Store) : Prop where
  identityProvider : store.identityProvider = other.identityProvider
  lessorTrustedProviders : store.lessorTrustedProviders = other.lessorTrustedProviders
  governanceCouncil : store.governanceCouncil = other.governanceCouncil
  revocationProposal : store.revocationProposal = other.revocationProposal
  providerRegistryCount : store.providerRegistryCount = other.providerRegistryCount

inductive Operation.IsQuery : Operation → Prop where
  | isProviderTrusted (lessor : Address) (providerId : ProviderId) :
      IsQuery (.isProviderTrusted lessor providerId)
  | getProvider (providerId : ProviderId) : IsQuery (.getProvider providerId)
  | getTrustedProviders (lessor : Address) : IsQuery (.getTrustedProviders lessor)

/-- More than half of at least three votes are for the revocation. -/
def RevocationProposal.Carried (proposal : RevocationProposal) : Prop :=
  3 ≤ proposal.votesFor + proposal.votesAgainst ∧
    proposal.votesFor + proposal.votesAgainst < proposal.votesFor * 2

inductive Effect (env : Env) (before after : Store) : Operation → Prop where
  | registered {providerId : ProviderId} {providerAddress : Address} {name : String}
      (new : before.identityProvider providerId = none)
      (entries : after.SameEntries
        { before.putProvider providerId (.fresh env providerId providerAddress name) with
          providerRegistryCount := some (before.providerRegistryCount.getD 0 + 1) }) :
      Effect env before after (.registerIdentityProvider providerId providerAddress name)
  | trusted {lessor : Address} {providerId : ProviderId} {provider : IdentityProvider}
      (found : before.identityProvider providerId = some provider)
      (active : provider.status = .active)
      (entries : after.SameEntries
        (before.putTrusted lessor ((before.trustedBy lessor).pushed providerId))) :
      Effect env before after (.addTrustedProvider lessor providerId)
  | distrusted {lessor : Address} {providerId : ProviderId} {trusted : LessorTrustedProviders}
      (listed : before.lessorTrustedProviders lessor = some trusted)
      (entries : after.SameEntries (before.putTrusted lessor (trusted.without providerId))) :
      Effect env before after (.removeTrustedProvider lessor providerId)
  | suspended {admin : Address} {providerId : ProviderId} {reason : String}
      {provider : IdentityProvider} (member : before.isMember admin = true)
      (found : before.identityProvider providerId = some provider)
      (entries : after.SameEntries
        (before.putProvider providerId (provider.restated env .suspended))) :
      Effect env before after (.suspendProvider admin providerId reason)
  | proposed {proposer : Address} {providerId : ProviderId} {reason : String}
      (member : before.isMember proposer = true)
      (entries : after.SameEntries (before.putProposal (before.providerRegistryCount.getD 0)
        (.fresh env (before.providerRegistryCount.getD 0) providerId proposer reason))) :
      Effect env before after (.createRevocationProposal proposer providerId reason)
  | voted {voter : Address} {proposalId : U64} {voteFor : Bool} {proposal : RevocationProposal}
      (signed : env.authorised voter = true) (member : before.isMember voter = true)
      (found : before.revocationProposal proposalId = some proposal)
      (entries : after.SameEntries (before.putProposal proposalId (proposal.voted voteFor))) :
      Effect env before after (.voteOnRevocation voter proposalId voteFor)
  | revoked {executor : Address} {proposalId : U64} {proposal : RevocationProposal}
      {provider : IdentityProvider} (member : before.isMember executor = true)
      (found : before.revocationProposal proposalId = some proposal)
      (carried : proposal.Carried)
      (registered : before.identityProvider proposal.providerId = some provider)
      (entries : after.SameEntries
        ((before.putProvider proposal.providerId (provider.restated env .revoked)).putProposal
          proposalId { proposal with executed := true })) :
      Effect env before after (.executeRevocation executor proposalId)
  | enrolled {admin member : Address} (signed : env.authorised admin = true)
      (byMember : before.isMember admin = true)
      (entries : after.SameEntries (before.putMember member)) :
      Effect env before after (.addGovernanceCouncilMember admin member)
  | queried {operation : Operation} (query : operation.IsQuery) (same : after = before) :
      Effect env before after operation

section Primitives

variable {before after : Store}

@[simp] theorem commits_publish (event : Event) (result : Unit) :
    Commits (publish event) before result after ↔
      after = { before with events := event :: before.events } :=
  commits_modify _ result

@[simp] theorem commits_requireAuth (env : Env) (address : Address) (result : Unit) :
    Commits (requireAuth env address) before result after ↔
      env.authorised address = true ∧ after = before :=
  commits_orTrap _ _ result

@[simp] theorem commits_requireGovernanceCouncil (address : Address) (result : Unit) :
    Commits (requireGovernanceCouncil address) before result after ↔
      before.isMember address = true ∧ after = before := by
  simp only [requireGovernanceCouncil, commits_bind, commits_inspect, commits_check]
  constructor
  · rintro ⟨_, _, ⟨rfl, rfl⟩, member, rfl⟩
    exact ⟨member, rfl⟩
  · rintro ⟨member, rfl⟩
    exact ⟨_, _, ⟨rfl, rfl⟩, member, rfl⟩

@[simp] theorem commits_getProvider (providerId : ProviderId) (provider : IdentityProvider) :
    Commits (getProvider providerId) before provider after ↔
      before.identityProvider providerId = some provider ∧ after = before := by
  simp [getProvider, eq_comm, and_comm]

@[simp] theorem commits_getTrustedProviders (lessor : Address)
    (trusted : LessorTrustedProviders) :
    Commits (getTrustedProviders lessor) before trusted after ↔
      before.lessorTrustedProviders lessor = some trusted ∧ after = before := by
  simp [getTrustedProviders, eq_comm, and_comm]

@[simp] theorem commits_getRevocationProposal (proposalId : U64)
    (proposal : RevocationProposal) :
    Commits (getRevocationProposal proposalId) before proposal after ↔
      before.revocationProposal proposalId = some proposal ∧ proposal.executed = false ∧
        after = before := by
  simp only [getRevocationProposal, commits_bind, commits_inspect, commits_orErr, commits_check,
    commits_pure]
  constructor
  · rintro ⟨_, _, ⟨rfl, rfl⟩, _, _, ⟨found, rfl⟩, _, _, ⟨opened, rfl⟩, rfl, rfl⟩
    exact ⟨found, opened, rfl⟩
  · rintro ⟨found, opened, rfl⟩
    exact ⟨_, _, ⟨rfl, rfl⟩, proposal, _, ⟨found, rfl⟩, (), _, ⟨opened, rfl⟩, rfl, rfl⟩

end Primitives

section Operations

variable {env : Env} {before after : Store}

theorem registerIdentityProvider_effect {providerId : ProviderId} {providerAddress : Address}
    {name : String}
    (run : Commits (registerIdentityProvider env providerId providerAddress name) before ()
      after) :
    Effect env before after (.registerIdentityProvider providerId providerAddress name) := by
  simp only [registerIdentityProvider, commits_bind, commits_requireAuth, commits_inspect,
    commits_check, commits_checkedUpTo, commits_modify, commits_publish] at run
  obtain ⟨_, _, ⟨signed, rfl⟩, _, _, ⟨rfl, rfl⟩, _, _, ⟨new, rfl⟩, _, _, rfl, _, _, ⟨rfl, rfl⟩,
    _, _, ⟨counted, rfl, rfl⟩, _, _, rfl, rfl⟩ := run
  exact .registered new ⟨rfl, rfl, rfl, rfl, rfl⟩

theorem addTrustedProvider_effect {lessor : Address} {providerId : ProviderId}
    (run : Commits (addTrustedProvider env lessor providerId) before () after) :
    Effect env before after (.addTrustedProvider lessor providerId) := by
  simp only [addTrustedProvider, commits_bind, commits_requireAuth, commits_getProvider,
    commits_inspect, commits_check, commits_modify, commits_publish] at run
  obtain ⟨_, _, ⟨signed, rfl⟩, provider, _, ⟨found, rfl⟩, _, _, ⟨active, rfl⟩, _, _, ⟨rfl, rfl⟩,
    _, _, ⟨new, rfl⟩, _, _, rfl, rfl⟩ := run
  exact .trusted found active ⟨rfl, rfl, rfl, rfl, rfl⟩

theorem removeTrustedProvider_effect {lessor : Address} {providerId : ProviderId}
    (run : Commits (removeTrustedProvider env lessor providerId) before () after) :
    Effect env before after (.removeTrustedProvider lessor providerId) := by
  simp only [removeTrustedProvider, commits_bind, commits_requireAuth,
    commits_getTrustedProviders, commits_check, commits_modify, commits_publish] at run
  obtain ⟨_, _, ⟨signed, rfl⟩, trusted, _, ⟨listed, rfl⟩, _, _, ⟨among, rfl⟩, _, _, rfl, rfl⟩ := run
  exact .distrusted listed ⟨rfl, rfl, rfl, rfl, rfl⟩

theorem suspendProvider_effect {admin : Address} {providerId : ProviderId} {reason : String}
    (run : Commits (suspendProvider env admin providerId reason) before () after) :
    Effect env before after (.suspendProvider admin providerId reason) := by
  simp only [suspendProvider, commits_bind, commits_requireGovernanceCouncil,
    commits_requireAuth, commits_getProvider, commits_check, commits_modify,
    commits_publish] at run
  obtain ⟨_, _, ⟨member, rfl⟩, _, _, ⟨signed, rfl⟩, provider, _, ⟨found, rfl⟩, _, _,
    ⟨unrevoked, rfl⟩, _, _, rfl, rfl⟩ := run
  exact .suspended member found ⟨rfl, rfl, rfl, rfl, rfl⟩

theorem createRevocationProposal_effect {proposer : Address} {providerId : ProviderId}
    {reason : String} {proposalId : U64}
    (run : Commits (createRevocationProposal env proposer providerId reason) before proposalId
      after) :
    Effect env before after (.createRevocationProposal proposer providerId reason) := by
  simp only [createRevocationProposal, commits_bind, commits_requireAuth,
    commits_requireGovernanceCouncil, commits_getProvider, commits_inspect, commits_modify,
    commits_publish, commits_pure] at run
  obtain ⟨_, _, ⟨signed, rfl⟩, _, _, ⟨member, rfl⟩, provider, _, ⟨found, rfl⟩, _, _, ⟨rfl, rfl⟩,
    _, _, rfl, _, _, rfl, rfl, rfl⟩ := run
  exact .proposed member ⟨rfl, rfl, rfl, rfl, rfl⟩

theorem voteOnRevocation_effect {voter : Address} {proposalId : U64} {voteFor : Bool}
    (run : Commits (voteOnRevocation env voter proposalId voteFor) before () after) :
    Effect env before after (.voteOnRevocation voter proposalId voteFor) := by
  simp only [voteOnRevocation, commits_bind, commits_requireAuth,
    commits_requireGovernanceCouncil, commits_getRevocationProposal, commits_checkedUpTo,
    commits_modify] at run
  obtain ⟨_, _, ⟨signed, rfl⟩, _, _, ⟨member, rfl⟩, proposal, _, ⟨found, opened, rfl⟩, _, _,
    ⟨counted, rfl, rfl⟩, rfl⟩ := run
  exact .voted signed member found ⟨rfl, rfl, rfl, rfl, rfl⟩

theorem executeRevocation_effect {executor : Address} {proposalId : U64}
    (run : Commits (executeRevocation env executor proposalId) before () after) :
    Effect env before after (.executeRevocation executor proposalId) := by
  simp only [executeRevocation, commits_bind, commits_requireAuth,
    commits_requireGovernanceCouncil, commits_getRevocationProposal, commits_checkedUpTo,
    commits_check, commits_getProvider, commits_modify, commits_publish] at run
  obtain ⟨_, _, ⟨signed, rfl⟩, _, _, ⟨member, rfl⟩, proposal, _, ⟨found, opened, rfl⟩, run⟩ := run
  obtain ⟨_, _, ⟨summed, rfl, rfl⟩, _, _, ⟨several, rfl⟩, _, _, ⟨doubled, rfl, rfl⟩, run⟩ := run
  obtain ⟨_, _, ⟨whole, rfl, rfl⟩, _, _, ⟨most, rfl⟩, provider, _, ⟨registered, rfl⟩, run⟩ := run
  -- The writes are put in one after the other, from the last to the first.
  obtain ⟨_, _, restated, _, _, executed, _, _, published, rfl⟩ := run
  subst published executed restated
  rw [Nat.mul_one] at most
  exact .revoked member found ⟨several, most⟩ registered ⟨rfl, rfl, rfl, rfl, rfl⟩

theorem addGovernanceCouncilMember_effect {admin member : Address}
    (run : Commits (addGovernanceCouncilMember env admin member) before () after) :
    Effect env before after (.addGovernanceCouncilMember admin member) := by
  simp only [addGovernanceCouncilMember, commits_bind, commits_requireGovernanceCouncil,
    commits_requireAuth, commits_modify] at run
  obtain ⟨_, _, ⟨byMember, rfl⟩, _, _, ⟨signed, rfl⟩, rfl⟩ := run
  exact .enrolled signed byMember ⟨rfl, rfl, rfl, rfl, rfl⟩

/-- What every operation that goes through checked and wrote. -/
theorem call_effect {call : Call} (run : Commits call.body before () after) :
    Effect call.env before after call.operation := by
  obtain ⟨env, operation⟩ := call
  cases operation with
  | registerIdentityProvider providerId providerAddress name =>
      exact registerIdentityProvider_effect run
  | addTrustedProvider lessor providerId => exact addTrustedProvider_effect run
  | removeTrustedProvider lessor providerId => exact removeTrustedProvider_effect run
  | suspendProvider admin providerId reason => exact suspendProvider_effect run
  | createRevocationProposal proposer providerId reason =>
      obtain ⟨proposalId, _, proposed, finished⟩ := (commits_bind _ _ _).mp run
      obtain ⟨_, rfl⟩ := (commits_pure _ _).mp finished
      exact createRevocationProposal_effect proposed
  | voteOnRevocation voter proposalId voteFor => exact voteOnRevocation_effect run
  | executeRevocation executor proposalId => exact executeRevocation_effect run
  | isProviderTrusted lessor providerId =>
      obtain ⟨_, _, read, finished⟩ := (commits_bind _ _ _).mp run
      obtain ⟨_, rfl⟩ := (commits_pure _ _).mp finished
      exact .queried (.isProviderTrusted lessor providerId) ((commits_inspect _ _).mp read).2
  | getProvider providerId =>
      obtain ⟨_, _, read, finished⟩ := (commits_bind _ _ _).mp run
      obtain ⟨_, rfl⟩ := (commits_pure _ _).mp finished
      exact .queried (.getProvider providerId) ((commits_getProvider _ _).mp read).2
  | getTrustedProviders lessor =>
      obtain ⟨_, _, read, finished⟩ := (commits_bind _ _ _).mp run
      obtain ⟨_, rfl⟩ := (commits_pure _ _).mp finished
      exact .queried (.getTrustedProviders lessor)
        ((commits_getTrustedProviders _ _).mp read).2
  | addGovernanceCouncilMember admin member => exact addGovernanceCouncilMember_effect run

end Operations

end LeaseFlow.Identity
