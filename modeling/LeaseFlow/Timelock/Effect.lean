import LeaseFlow.Timelock.Operations

/-!
# What a call to the timelock does

`Effect` says once, for each operation, what it checked and which entries it leaves.
-/

set_option autoImplicit false

namespace LeaseFlow.Timelock

open Transaction Failure

/-- The stores hold the same entry under every key. -/
structure Store.SameEntries (store other : Store) : Prop where
  upgradeProposal : store.upgradeProposal = other.upgradeProposal
  proposalCount : store.proposalCount = other.proposalCount
  signer : store.signer = other.signer
  timelockDuration : store.timelockDuration = other.timelockDuration
  minApprovals : store.minApprovals = other.minApprovals
  currentWasmHash : store.currentWasmHash = other.currentWasmHash

inductive Operation.IsQuery : Operation → Prop where
  | getProposal (proposalId : U64) : IsQuery (.getProposal proposalId)
  | isSigner (address : Address) : IsQuery (.isSigner address)
  | getTimelockDuration : IsQuery .getTimelockDuration

inductive Effect (env : Env) (before after : Store) : Operation → Prop where
  | setUp {admin : Address} {timelockDuration : U64} {minApprovals : U32}
      (unset : before.timelockDuration = none)
      (entries : after.SameEntries (before.setUp admin timelockDuration minApprovals)) :
      Effect env before after (.initializeTimelock admin timelockDuration minApprovals)
  | added {caller newSigner : Address} (signed : env.authorised caller = true)
      (member : before.isSigner caller = true)
      (entries : after.SameEntries (before.putSigner newSigner (some true))) :
      Effect env before after (.addSigner caller newSigner)
  | removed {caller signerToRemove : Address} (signed : env.authorised caller = true)
      (member : before.isSigner caller = true)
      (entries : after.SameEntries (before.putSigner signerToRemove none)) :
      Effect env before after (.removeSigner caller signerToRemove)
  | proposed {proposer : Address} {newWasmHash : BytesN 32} {description : String}
      (member : before.isSigner proposer = true)
      (entries : after.SameEntries { before.putProposal (before.proposalCount.getD 0)
        (.fresh env (before.proposalCount.getD 0) proposer newWasmHash description
          (before.minApprovals.getD 3)
          (env.timestamp + before.timelockDuration.getD 1209600)) with
        proposalCount := some (before.proposalCount.getD 0 + 1) }) :
      Effect env before after (.proposeUpgrade proposer newWasmHash description)
  | approved {approver : Address} {proposalId : U64} {proposal : UpgradeProposal}
      (signed : env.authorised approver = true) (member : before.isSigner approver = true)
      (found : before.upgradeProposal proposalId = some proposal)
      (unexecuted : proposal.status ≠ .executed) (uncancelled : proposal.status ≠ .cancelled)
      (new : approver ∉ proposal.approvals)
      (entries : after.SameEntries (before.putProposal proposalId
        (proposal.approvedBy approver (proposal.approvalCount + 1)))) :
      Effect env before after (.approveUpgrade approver proposalId)
  | executed {executor : Address} {proposalId : U64} {proposal : UpgradeProposal}
      (found : before.upgradeProposal proposalId = some proposal)
      (ready : proposal.status = .approved) (waited : proposal.executionTime ≤ env.timestamp)
      (entries : after.SameEntries
        { before.putProposal proposalId { proposal with status := .executed } with
          currentWasmHash := some proposal.newWasmHash }) :
      Effect env before after (.executeUpgrade executor proposalId)
  | cancelled {canceller : Address} {proposalId : U64} {reason : String}
      {proposal : UpgradeProposal} (member : before.isSigner canceller = true)
      (found : before.upgradeProposal proposalId = some proposal)
      (unexecuted : proposal.status ≠ .executed)
      (entries : after.SameEntries
        (before.putProposal proposalId { proposal with status := .cancelled })) :
      Effect env before after (.cancelUpgrade canceller proposalId reason)
  | queried {operation : Operation} (query : operation.IsQuery) (same : after = before) :
      Effect env before after operation

section Primitives

variable {before after : Store}

@[simp] theorem commits_publish (event : Event) (result : Unit) :
    Commits (publish event) before result after ↔
      after = { before with events := event :: before.events } :=
  commits_modify _ result

@[simp] theorem commits_requireAuth (env : Env) (address : Address) (result : Unit) :
    Commits (requireAuth env address) before result after ↔
      env.authorised address = true ∧ after = before :=
  commits_orTrap _ _ result

@[simp] theorem commits_requireSigner (address : Address) (result : Unit) :
    Commits (requireSigner address) before result after ↔
      before.isSigner address = true ∧ after = before := by
  simp only [requireSigner, commits_bind, commits_inspect, commits_check]
  constructor
  · rintro ⟨_, _, ⟨rfl, rfl⟩, member, rfl⟩
    exact ⟨member, rfl⟩
  · rintro ⟨member, rfl⟩
    exact ⟨_, _, ⟨rfl, rfl⟩, member, rfl⟩

@[simp] theorem commits_getProposal (proposalId : U64) (proposal : UpgradeProposal) :
    Commits (getProposal proposalId) before proposal after ↔
      before.upgradeProposal proposalId = some proposal ∧ after = before := by
  simp [getProposal, eq_comm, and_comm]

@[simp] theorem commits_updateCurrentContractWasm (env : Env) (newWasmHash : BytesN 32)
    (result : Unit) :
    Commits (updateCurrentContractWasm env newWasmHash) before result after ↔
      env.uploaded newWasmHash = true ∧ after = { before with installed := newWasmHash } := by
  simp [updateCurrentContractWasm]

end Primitives

section Operations

variable {env : Env} {before after : Store}

theorem initializeTimelock_effect {admin : Address} {timelockDuration : U64} {minApprovals : U32}
    (run : Commits (initializeTimelock env admin timelockDuration minApprovals) before () after) :
    Effect env before after (.initializeTimelock admin timelockDuration minApprovals) := by
  simp only [initializeTimelock, commits_bind, commits_requireAuth, commits_inspect, commits_check,
    commits_modify, commits_publish] at run
  obtain ⟨_, _, ⟨signed, rfl⟩, _, _, ⟨rfl, rfl⟩, _, _, ⟨unset, rfl⟩, _, _, rfl, rfl⟩ := run
  exact .setUp unset ⟨rfl, rfl, rfl, rfl, rfl, rfl⟩

theorem addSigner_effect {caller newSigner : Address}
    (run : Commits (addSigner env caller newSigner) before () after) :
    Effect env before after (.addSigner caller newSigner) := by
  simp only [addSigner, commits_bind, commits_requireAuth, commits_requireSigner, commits_modify,
    commits_publish] at run
  obtain ⟨_, _, ⟨signed, rfl⟩, _, _, ⟨member, rfl⟩, _, _, rfl, rfl⟩ := run
  exact .added signed member ⟨rfl, rfl, rfl, rfl, rfl, rfl⟩

theorem removeSigner_effect {caller signerToRemove : Address}
    (run : Commits (removeSigner env caller signerToRemove) before () after) :
    Effect env before after (.removeSigner caller signerToRemove) := by
  simp only [removeSigner, commits_bind, commits_requireAuth, commits_requireSigner,
    commits_modify, commits_publish] at run
  obtain ⟨_, _, ⟨signed, rfl⟩, _, _, ⟨member, rfl⟩, _, _, rfl, rfl⟩ := run
  exact .removed signed member ⟨rfl, rfl, rfl, rfl, rfl, rfl⟩

theorem proposeUpgrade_effect {proposer : Address} {newWasmHash : BytesN 32}
    {description : String} {proposalId : U64}
    (run : Commits (proposeUpgrade env proposer newWasmHash description) before proposalId
      after) :
    Effect env before after (.proposeUpgrade proposer newWasmHash description) := by
  simp only [proposeUpgrade, getTimelockDuration, commits_bind, commits_requireAuth,
    commits_requireSigner, commits_inspect, commits_checkedUpTo, commits_modify, commits_publish,
    commits_pure] at run
  obtain ⟨_, _, ⟨signed, rfl⟩, _, _, ⟨member, rfl⟩, _, _, ⟨rfl, rfl⟩, _, _, ⟨rfl, rfl⟩, run⟩ := run
  -- The proposal is put in once the rest of the run is taken apart.
  obtain ⟨_, _, ⟨rfl, rfl⟩, _, _, ⟨timely, rfl, rfl⟩, _, _, stored, run⟩ := run
  obtain ⟨_, _, ⟨counted, rfl, rfl⟩, _, _, rfl, _, _, rfl, rfl, rfl⟩ := run
  subst stored
  exact .proposed member ⟨rfl, rfl, rfl, rfl, rfl, rfl⟩

theorem approveUpgrade_effect {approver : Address} {proposalId : U64}
    (run : Commits (approveUpgrade env approver proposalId) before () after) :
    Effect env before after (.approveUpgrade approver proposalId) := by
  simp only [approveUpgrade, commits_bind, commits_requireAuth, commits_requireSigner,
    commits_getProposal, commits_check, commits_checkedUpTo, commits_modify,
    commits_publish] at run
  obtain ⟨_, _, ⟨signed, rfl⟩, _, _, ⟨member, rfl⟩, proposal, _, ⟨found, rfl⟩, _, _,
    ⟨unexecuted, rfl⟩, _, _, ⟨uncancelled, rfl⟩, _, _, ⟨new, rfl⟩, _, _, ⟨counted, rfl, rfl⟩, _, _,
    rfl, rfl⟩ := run
  exact .approved signed member found unexecuted uncancelled new ⟨rfl, rfl, rfl, rfl, rfl, rfl⟩

theorem executeUpgrade_effect {executor : Address} {proposalId : U64}
    (run : Commits (executeUpgrade env executor proposalId) before () after) :
    Effect env before after (.executeUpgrade executor proposalId) := by
  simp only [executeUpgrade, commits_bind, commits_requireAuth, commits_getProposal,
    commits_check, commits_inspect, commits_updateCurrentContractWasm, commits_modify,
    commits_publish] at run
  obtain ⟨_, _, ⟨signed, rfl⟩, proposal, _, ⟨found, rfl⟩, _, _, ⟨ready, rfl⟩, _, _, ⟨waited, rfl⟩,
    _, _, ⟨rfl, rfl⟩, _, _, ⟨uploaded, rfl⟩, _, _, rfl, _, _, rfl, rfl⟩ := run
  exact .executed found ready waited ⟨rfl, rfl, rfl, rfl, rfl, rfl⟩

theorem cancelUpgrade_effect {canceller : Address} {proposalId : U64} {reason : String}
    (run : Commits (cancelUpgrade env canceller proposalId reason) before () after) :
    Effect env before after (.cancelUpgrade canceller proposalId reason) := by
  simp only [cancelUpgrade, commits_bind, commits_requireAuth, commits_requireSigner,
    commits_getProposal, commits_check, commits_modify, commits_publish] at run
  obtain ⟨_, _, ⟨signed, rfl⟩, _, _, ⟨member, rfl⟩, proposal, _, ⟨found, rfl⟩, _, _,
    ⟨unexecuted, rfl⟩, _, _, ⟨uncancelled, rfl⟩, _, _, rfl, rfl⟩ := run
  exact .cancelled member found unexecuted ⟨rfl, rfl, rfl, rfl, rfl, rfl⟩

/-- What every operation that goes through checked and wrote. -/
theorem call_effect {call : Call} (run : Commits call.body before () after) :
    Effect call.env before after call.operation := by
  obtain ⟨env, operation⟩ := call
  cases operation with
  | initializeTimelock admin timelockDuration minApprovals => exact initializeTimelock_effect run
  | addSigner caller newSigner => exact addSigner_effect run
  | removeSigner caller signerToRemove => exact removeSigner_effect run
  | proposeUpgrade proposer newWasmHash description =>
      obtain ⟨proposalId, _, proposed, finished⟩ := (commits_bind _ _ _).mp run
      obtain ⟨_, rfl⟩ := (commits_pure _ _).mp finished
      exact proposeUpgrade_effect proposed
  | approveUpgrade approver proposalId => exact approveUpgrade_effect run
  | executeUpgrade executor proposalId => exact executeUpgrade_effect run
  | cancelUpgrade canceller proposalId reason => exact cancelUpgrade_effect run
  | getProposal proposalId =>
      obtain ⟨_, _, read, finished⟩ := (commits_bind _ _ _).mp run
      obtain ⟨_, rfl⟩ := (commits_pure _ _).mp finished
      exact .queried (.getProposal proposalId) ((commits_getProposal _ _).mp read).2
  | isSigner address =>
      obtain ⟨_, _, read, finished⟩ := (commits_bind _ _ _).mp run
      obtain ⟨_, rfl⟩ := (commits_pure _ _).mp finished
      exact .queried (.isSigner address) ((commits_inspect _ _).mp read).2
  | getTimelockDuration =>
      obtain ⟨_, _, read, finished⟩ := (commits_bind _ _ _).mp run
      obtain ⟨_, rfl⟩ := (commits_pure _ _).mp finished
      exact .queried .getTimelockDuration ((commits_inspect _ _).mp read).2

end Operations

end LeaseFlow.Timelock
