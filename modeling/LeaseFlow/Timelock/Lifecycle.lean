import LeaseFlow.Foundations.Register
import LeaseFlow.Timelock.LoneSigner

/-!
# What becomes of an upgrade

A proposal keeps its terms, gathers approvals and ends executed or cancelled.  The code that is
installed is that of the last proposal that was executed, as the events say; and a quorum of
signers brings every open proposal that far.
-/

set_option autoImplicit false

namespace LeaseFlow.Timelock

open Transaction Failure

/-! ## The course of a proposal -/

/-- From pending to approved and executed, or to cancelled. -/
def UpgradeProposalStatus.Leads : UpgradeProposalStatus → UpgradeProposalStatus → Prop
  | .pending, _ => True
  | .approved, later => later ≠ .pending
  | .executed, later => later = .executed
  | .cancelled, later => later = .cancelled

/-- The proposal as it was made, before anybody approved it. -/
def UpgradeProposal.made (proposal : UpgradeProposal) : UpgradeProposal :=
  { proposal with status := .pending, approvals := [], approvalCount := 0 }

structure UpgradeProposal.Born (proposalId : U64) (proposal : UpgradeProposal) : Prop where
  numbered : proposal.proposalId = proposalId
  made : proposal.made = proposal
  waits : proposal.createdAt ≤ proposal.executionTime

/-- The terms stay, approvals are added, and a proposal that has ended stays as it is. -/
structure UpgradeProposal.Becomes (proposal next : UpgradeProposal) : Prop where
  made : next.made = proposal.made
  status : proposal.status.Leads next.status
  approvals : proposal.approvals <+: next.approvals
  ended : ¬ proposal.Open → next = proposal

/-- The approvals are counted once each, and decide the status. -/
structure UpgradeProposal.Decided (proposal : UpgradeProposal) : Prop where
  distinct : proposal.approvals.Nodup
  counted : proposal.approvalCount = proposal.approvals.length
  lacking : proposal.status = .pending → proposal.approvalCount < proposal.requiredApprovals
  sufficient : proposal.status = .approved ∨ proposal.status = .executed →
    proposal.requiredApprovals ≤ proposal.approvalCount

/-- The proposals are numbered without a gap, and each is decided by its approvals. -/
structure Store.Orderly (store : Store) : Prop where
  asked : 0 < store.minApprovals.getD 3
  dense : ∀ proposalId, store.upgradeProposal proposalId ≠ none ↔
    proposalId < store.proposalCount.getD 0
  decided : ∀ proposalId proposal, store.upgradeProposal proposalId = some proposal →
    proposal.Decided

/-- The proposals of the later store are those of the earlier one and new ones. -/
def Store.GoesOn (before after : Store) : Prop :=
  Register.Continues UpgradeProposal.Born UpgradeProposal.Becomes before.upgradeProposal
    after.upgradeProposal

section Course

variable {before after : Store} {proposal next last : UpgradeProposal} {proposalId : U64}

theorem UpgradeProposalStatus.leads_refl (status : UpgradeProposalStatus) :
    status.Leads status := by
  cases status <;> simp [Leads]

theorem UpgradeProposalStatus.Leads.trans {first second third : UpgradeProposalStatus}
    (one : first.Leads second) (two : second.Leads third) : first.Leads third := by
  cases first with
  | pending => trivial
  | approved =>
      cases second with
      | pending => exact absurd rfl one
      | approved => exact two
      | executed =>
          intro back
          cases back.symm.trans two
      | cancelled =>
          intro back
          cases back.symm.trans two
  | executed =>
      obtain rfl : second = .executed := one
      exact two
  | cancelled =>
      obtain rfl : second = .cancelled := one
      exact two

theorem UpgradeProposal.becomes_refl (proposal : UpgradeProposal) : proposal.Becomes proposal :=
  ⟨rfl, proposal.status.leads_refl, List.prefix_refl _, fun _ => rfl⟩

theorem UpgradeProposal.Becomes.trans (one : proposal.Becomes next) (two : next.Becomes last) :
    proposal.Becomes last where
  made := two.made.trans one.made
  status := one.status.trans two.status
  approvals := one.approvals.trans two.approvals
  ended closed := by
    have same := one.ended closed
    subst same
    exact two.ended closed

theorem UpgradeProposal.open_iff :
    proposal.Open ↔ proposal.status ≠ .executed ∧ proposal.status ≠ .cancelled := by
  unfold Open
  cases proposal.status <;> simp

theorem Store.goesOn_refl (store : Store) : store.GoesOn store :=
  Register.continues_refl UpgradeProposal.becomes_refl _

theorem Store.GoesOn.trans {first second third : Store} (one : first.GoesOn second)
    (two : second.GoesOn third) : first.GoesOn third :=
  Register.Continues.trans (fun _ _ _ => UpgradeProposal.Becomes.trans) one two

theorem Store.goesOn_same (same : after.upgradeProposal = before.upgradeProposal) :
    before.GoesOn after := by
  rw [GoesOn, same]
  exact Register.continues_refl UpgradeProposal.becomes_refl _

theorem Store.goesOn_written (found : before.upgradeProposal proposalId = some proposal)
    (written : after.upgradeProposal =
      Function.update before.upgradeProposal proposalId (some next))
    (becomes : proposal.Becomes next) : before.GoesOn after := by
  rw [GoesOn, written]
  refine Register.continues_update UpgradeProposal.becomes_refl (fun stored again => ?_)
    fun free => ?_
  · cases again.symm.trans found
    exact becomes
  · cases free.symm.trans found

theorem UpgradeProposal.becomes_approved (proposal : UpgradeProposal) (opened : proposal.Open)
    (approver : Address) (approvalCount : U32) :
    proposal.Becomes (proposal.approvedBy approver approvalCount) where
  made := rfl
  status := by
    unfold approvedBy
    split
    · rcases opened with pending | approved
      · rw [pending]
        trivial
      · rw [approved]
        exact nofun
    · exact proposal.status.leads_refl
  approvals := List.prefix_append ..
  ended closed := absurd opened closed

theorem UpgradeProposal.becomes_ended {status : UpgradeProposalStatus}
    (proposal : UpgradeProposal) (opened : proposal.Open)
    (ends : status = .executed ∨ status = .cancelled) :
    proposal.Becomes { proposal with status := status } where
  made := rfl
  status := by
    rcases opened with pending | approved
    · rw [pending]
      trivial
    · rw [approved]
      rcases ends with rfl | rfl <;> exact nofun
  approvals := List.prefix_refl _
  ended closed := absurd opened closed

/-- Every call that goes through leaves the proposals or takes one of them further. -/
theorem Effect.goesOn {call : Call} {entered : List Deed}
    (effect : Effect call.env before after call.operation) (kept : before.Kept entered) :
    before.GoesOn after := by
  obtain ⟨env, operation⟩ := call
  cases effect with
  | setUp unset entries => exact Store.goesOn_same entries.upgradeProposal
  | added signed member entries => exact Store.goesOn_same entries.upgradeProposal
  | removed signed member entries => exact Store.goesOn_same entries.upgradeProposal
  | proposed member entries =>
      rw [Store.GoesOn, entries.upgradeProposal]
      refine Register.continues_update UpgradeProposal.becomes_refl (fun stored found => ?_)
        fun free => ?_
      · -- the number of the new proposal is that of no other
        exact absurd (kept.numbered _ stored found) (lt_irrefl _)
      · exact ⟨rfl, rfl, Nat.le_add_right ..⟩
  | @approved approver proposalId proposal signed member found unexecuted uncancelled new entries =>
      have opened := UpgradeProposal.open_iff.mpr ⟨unexecuted, uncancelled⟩
      refine Store.goesOn_written found entries.upgradeProposal ?_
      exact proposal.becomes_approved opened _ _
  | @executed executor proposalId proposal found ready waited entries =>
      refine Store.goesOn_written found entries.upgradeProposal ?_
      exact proposal.becomes_ended (.inr ready) (.inl rfl)
  | @cancelled canceller proposalId reason proposal member found unexecuted entries =>
      refine Store.goesOn_written found entries.upgradeProposal ?_
      by_cases cancelled : proposal.status = .cancelled
      · rw [← cancelled]
        exact proposal.becomes_refl
      · have opened := UpgradeProposal.open_iff.mpr ⟨unexecuted, cancelled⟩
        exact proposal.becomes_ended opened (.inr rfl)
  | queried query same =>
      rw [same]
      exact before.goesOn_refl

end Course

/-! ## Numbers and approvals -/

section Orderly

variable {before after : Store} {proposal next : UpgradeProposal} {proposalId : U64}

theorem Store.Orderly.same (orderly : before.Orderly)
    (asked : after.minApprovals = before.minApprovals)
    (proposals : after.upgradeProposal = before.upgradeProposal)
    (numbered : after.proposalCount = before.proposalCount) : after.Orderly where
  asked := asked ▸ orderly.asked
  dense other := by
    rw [proposals, numbered]
    exact orderly.dense other
  decided := by
    rw [proposals]
    exact orderly.decided

theorem Store.Orderly.written (orderly : before.Orderly)
    (asked : after.minApprovals = before.minApprovals)
    (numbered : after.proposalCount = before.proposalCount)
    (found : before.upgradeProposal proposalId = some proposal)
    (written : after.upgradeProposal =
      Function.update before.upgradeProposal proposalId (some next))
    (decided : next.Decided) : after.Orderly where
  asked := asked ▸ orderly.asked
  dense other := by
    rw [numbered, ← orderly.dense other, written]
    by_cases same : other = proposalId
    · simp [same, found]
    · rw [Function.update_of_ne same]
  decided := Store.forall_written written orderly.decided decided

theorem UpgradeProposal.Decided.fresh (env : Env) (proposalId : U64) (proposer : Address)
    (newWasmHash : BytesN 32) (description : String) {requiredApprovals : U32}
    (asked : 0 < requiredApprovals) (executionTime : U64) :
    (UpgradeProposal.fresh env proposalId proposer newWasmHash description requiredApprovals
      executionTime).Decided where
  distinct := List.nodup_nil
  counted := rfl
  lacking _ := asked
  sufficient decided := by rcases decided with approved | executed <;> contradiction

/-- The approval that reaches the required number settles the proposal. -/
theorem UpgradeProposal.Decided.approved {approver : Address} (decided : proposal.Decided)
    (new : approver ∉ proposal.approvals) :
    (proposal.approvedBy approver (proposal.approvalCount + 1)).Decided where
  distinct := by
    refine List.nodup_append.mpr ⟨decided.distinct, List.nodup_singleton approver, ?_⟩
    intro other among last same equal
    rw [List.mem_singleton.mp same] at equal
    exact new (equal ▸ among)
  counted := by
    change _ = (proposal.approvals ++ [approver]).length
    rw [List.length_append, ← decided.counted]
    rfl
  lacking pending := by
    change (if proposal.requiredApprovals ≤ proposal.approvalCount + 1 then _ else _) = _ at pending
    split at pending
    · cases pending
    · next few => exact Nat.lt_of_not_le few
  sufficient settled := by
    change (if proposal.requiredApprovals ≤ proposal.approvalCount + 1 then _ else _) = _ ∨
      (if proposal.requiredApprovals ≤ proposal.approvalCount + 1 then _ else _) = _ at settled
    by_cases enough : proposal.requiredApprovals ≤ proposal.approvalCount + 1
    · exact enough
    · rw [if_neg enough] at settled
      exact Nat.le_succ_of_le (decided.sufficient settled)

theorem UpgradeProposal.Decided.executed (decided : proposal.Decided)
    (ready : proposal.status = .approved) :
    ({ proposal with status := .executed } : UpgradeProposal).Decided :=
  ⟨decided.distinct, decided.counted, nofun, fun _ => decided.sufficient (.inl ready)⟩

theorem UpgradeProposal.Decided.cancelled (decided : proposal.Decided) :
    ({ proposal with status := .cancelled } : UpgradeProposal).Decided :=
  ⟨decided.distinct, decided.counted, nofun, fun settled => by
    rcases settled with approved | executed <;> contradiction⟩

/-- Every call that goes through keeps the proposals in order. -/
theorem Effect.orderly {call : Call} {entered : List Deed}
    (effect : Effect call.env before after call.operation) (kept : before.Kept entered)
    (orderly : before.Orderly) : after.Orderly := by
  obtain ⟨env, operation⟩ := call
  cases effect with
  | @setUp admin timelockDuration minApprovals unset entries =>
      have empty := (kept.idle unset).proposals
      refine ⟨?_, fun other => ?_, fun other stored found => ?_⟩
      · rw [entries.minApprovals]
        change 0 < if 0 < minApprovals then minApprovals else 3
        split
        · assumption
        · decide
      · rw [entries.upgradeProposal, entries.proposalCount]
        exact iff_of_false (fun stored => stored (empty other)) (Nat.not_lt_zero other)
      · rw [entries.upgradeProposal] at found
        cases (empty other).symm.trans found
  | added signed member entries =>
      exact orderly.same entries.minApprovals entries.upgradeProposal entries.proposalCount
  | removed signed member entries =>
      exact orderly.same entries.minApprovals entries.upgradeProposal entries.proposalCount
  | @proposed proposer newWasmHash description member entries =>
      refine ⟨entries.minApprovals ▸ orderly.asked, fun other => ?_,
        Store.forall_written entries.upgradeProposal orderly.decided
          (.fresh env _ proposer newWasmHash description orderly.asked _)⟩
      have dense := orderly.dense other
      rw [entries.upgradeProposal, entries.proposalCount]
      change Function.update before.upgradeProposal (before.proposalCount.getD 0) _ other ≠ none ↔
        other < before.proposalCount.getD 0 + 1
      by_cases last : other = before.proposalCount.getD 0
      · simp [last]
      · rw [Function.update_of_ne last, dense]
        exact (Nat.lt_succ_iff_lt_or_eq.trans (or_iff_left last)).symm
  | approved signed member found unexecuted uncancelled new entries =>
      exact orderly.written entries.minApprovals entries.proposalCount found
        entries.upgradeProposal ((orderly.decided _ _ found).approved new)
  | executed found ready waited entries =>
      exact orderly.written entries.minApprovals entries.proposalCount found
        entries.upgradeProposal ((orderly.decided _ _ found).executed ready)
  | cancelled member found unexecuted entries =>
      exact orderly.written entries.minApprovals entries.proposalCount found
        entries.upgradeProposal (orderly.decided _ _ found).cancelled
  | queried query same =>
      rw [same]
      exact orderly

theorem Store.deployed_orderly (installed : BytesN 32) : (Store.deployed installed).Orderly where
  asked := Nat.zero_lt_succ 2
  dense _ := iff_of_false (fun stored => stored rfl) (Nat.not_lt_zero _)
  decided _ _ found := by cases found

end Orderly

/-! ## Every run -/

/-- The deeds account for the store, and its proposals are in order. -/
def Store.Sound (store : Store) : Prop :=
  (∃ entered, store.Kept entered) ∧ store.Orderly

theorem Effect.sound {call : Call} {before after : Store}
    (effect : Effect call.env before after call.operation) (sound : before.Sound) :
    after.Sound := by
  obtain ⟨⟨entered, kept⟩, orderly⟩ := sound
  exact ⟨⟨_, effect.kept kept⟩, effect.orderly kept orderly⟩

theorem run_sound (calls : List Call) (installed : BytesN 32) :
    (Run.run step calls (.deployed installed)).Sound :=
  Run.invariant (fun call _ sound => Machine.step_keeps
    (fun _ run _ => (call_effect run).sound) (fun _ : call.Goes _ => trivial) sound) calls
    ⟨⟨[], Store.deployed_kept installed⟩, Store.deployed_orderly installed⟩

/-- In every run of a deployed module no proposal is lost or renumbered: each keeps the terms it
was made with, only gains approvals, goes from pending to approved and executed or to cancelled,
and stays as it is once it has ended; and in every state the proposals are numbered without a gap
and their distinct approvals decide which are pending. -/
theorem proposals_run_their_course (installed : BytesN 32) (calls : List Call) :
    Run.Progresses step Store.GoesOn calls (.deployed installed) ∧
      (Run.run step calls (.deployed installed)).Orderly := by
  constructor
  · refine Register.progresses_of_commits Store.goesOn_refl (fun _ _ _ => Store.GoesOn.trans)
      (fun _ _ _ run sound => (call_effect run).sound sound) (fun call before after run sound => ?_)
      calls ⟨⟨[], Store.deployed_kept installed⟩, Store.deployed_orderly installed⟩
    obtain ⟨⟨entered, kept⟩, _⟩ := sound
    exact (call_effect run).goesOn kept
  · exact (run_sound calls installed).2

/-! ## The code that runs -/

/-- An execution by the number of its proposal and the code it installs. -/
def Call.execution (call : Call) (store : Store) : Option (U64 × BytesN 32) :=
  match call.operation with
  | .executeUpgrade _ proposalId =>
      (store.upgradeProposal proposalId).map fun proposal => (proposalId, proposal.newWasmHash)
  | _ => none

/-- The executions of a run, oldest first. -/
def executions (calls : List Call) (store : Store) : List (U64 × BytesN 32) :=
  Machine.log Call.body Call.execution calls store

/-- An execution as its event tells it, with the code before and after. -/
def Event.execution : Event → Option (U64 × BytesN 32 × BytesN 32)
  | .upgradeExecuted proposalId oldWasmHash newWasmHash _ =>
      some (proposalId, oldWasmHash, newWasmHash)
  | _ => none

/-- The executions that were published, oldest first. -/
def Store.announcements (store : Store) : List (U64 × BytesN 32 × BytesN 32) :=
  store.events.reverse.filterMap Event.execution

/-- Each execution with the code that it replaces. -/
def replacing (oldWasmHash : BytesN 32) :
    List (U64 × BytesN 32) → List (U64 × BytesN 32 × BytesN 32)
  | [] => []
  | (proposalId, newWasmHash) :: later =>
      (proposalId, oldWasmHash, newWasmHash) :: replacing newWasmHash later

def Store.Executed (store : Store) (proposalId : U64) (newWasmHash : BytesN 32) : Prop :=
  ∃ proposal, store.upgradeProposal proposalId = some proposal ∧ proposal.status = .executed ∧
    proposal.newWasmHash = newWasmHash

/-- The store shows the executions there were, each of its own proposal. -/
structure Store.Shows (deployed : BytesN 32) (store : Store)
    (executed : List (U64 × BytesN 32)) : Prop where
  installed : store.installed = (executed.getLast?.map Prod.snd).getD deployed
  currentWasmHash : store.currentWasmHash = executed.getLast?.map Prod.snd
  once : (executed.map Prod.fst).Nodup
  recorded : ∀ proposalId newWasmHash, (proposalId, newWasmHash) ∈ executed ↔
    store.Executed proposalId newWasmHash
  announced : store.announcements = replacing (.repeated 32 0) executed

theorem replacing_append (oldWasmHash : BytesN 32) (earlier : List (U64 × BytesN 32))
    (proposalId : U64) (newWasmHash : BytesN 32) :
    replacing oldWasmHash (earlier ++ [(proposalId, newWasmHash)]) =
      replacing oldWasmHash earlier ++
        [(proposalId, (earlier.getLast?.map Prod.snd).getD oldWasmHash, newWasmHash)] := by
  induction earlier generalizing oldWasmHash with
  | nil => rfl
  | cons entry later ih =>
      obtain ⟨firstId, firstHash⟩ := entry
      rw [List.cons_append, replacing, replacing, ih firstHash, List.cons_append,
        List.getLast?_cons]
      cases later.getLast? <;> rfl

/-! ### Calls that install nothing -/

section Quiet

variable {env : Env}

/-- What a call that executes no upgrade leaves as it was. -/
def Store.code (store : Store) :
    BytesN 32 × Option (BytesN 32) × List (U64 × BytesN 32 × BytesN 32) :=
  (store.installed, store.currentWasmHash, store.announcements)

theorem steady_publish {event : Event} (silent : event.execution = none) :
    Steady Store.code (publish event) := by
  refine steady_modify fun store => ?_
  simp [Store.code, Store.announcements, silent]

theorem steady_requireAuth (address : Address) : Steady Store.code (requireAuth env address) :=
  steady_ensure _ _

theorem steady_requireSigner (address : Address) : Steady Store.code (requireSigner address) :=
  steady_bind (steady_inspect _) fun _ => steady_check _ _

theorem steady_getProposal (proposalId : U64) : Steady Store.code (getProposal proposalId) :=
  steady_bind (steady_inspect _) fun _ => steady_orErr _ _

theorem steady_initializeTimelock (admin : Address) (timelockDuration : U64)
    (minApprovals : U32) :
    Steady Store.code (initializeTimelock env admin timelockDuration minApprovals) := by
  refine steady_bind (steady_requireAuth admin) fun _ => steady_bind (steady_inspect _) fun _ => ?_
  refine steady_bind (steady_check _ _) fun _ => ?_
  exact steady_bind (steady_modify fun _ => rfl) fun _ => steady_publish rfl

theorem steady_addSigner (caller newSigner : Address) :
    Steady Store.code (addSigner env caller newSigner) := by
  refine steady_bind (steady_requireAuth caller) fun _ => ?_
  refine steady_bind (steady_requireSigner caller) fun _ => ?_
  exact steady_bind (steady_modify fun _ => rfl) fun _ => steady_publish rfl

theorem steady_removeSigner (caller signerToRemove : Address) :
    Steady Store.code (removeSigner env caller signerToRemove) := by
  refine steady_bind (steady_requireAuth caller) fun _ => ?_
  refine steady_bind (steady_requireSigner caller) fun _ => ?_
  exact steady_bind (steady_modify fun _ => rfl) fun _ => steady_publish rfl

theorem steady_proposeUpgrade (proposer : Address) (newWasmHash : BytesN 32)
    (description : String) :
    Steady Store.code (proposeUpgrade env proposer newWasmHash description) := by
  refine steady_bind (steady_requireAuth proposer) fun _ => ?_
  refine steady_bind (steady_requireSigner proposer) fun _ => ?_
  refine steady_bind (steady_inspect _) fun _ => steady_bind (steady_inspect _) fun _ => ?_
  refine steady_bind (steady_inspect _) fun _ => steady_bind (steady_checkedUpTo _ _) fun _ => ?_
  refine steady_bind (steady_modify fun _ => rfl) fun _ => ?_
  refine steady_bind (steady_checkedUpTo _ _) fun _ => ?_
  refine steady_bind (steady_modify fun _ => rfl) fun _ => ?_
  exact steady_bind (steady_publish rfl) fun _ => steady_pure _

theorem steady_approveUpgrade (approver : Address) (proposalId : U64) :
    Steady Store.code (approveUpgrade env approver proposalId) := by
  refine steady_bind (steady_requireAuth approver) fun _ => ?_
  refine steady_bind (steady_requireSigner approver) fun _ => ?_
  refine steady_bind (steady_getProposal proposalId) fun _ => ?_
  refine steady_bind (steady_check _ _) fun _ => steady_bind (steady_check _ _) fun _ => ?_
  refine steady_bind (steady_check _ _) fun _ => steady_bind (steady_checkedUpTo _ _) fun _ => ?_
  exact steady_bind (steady_modify fun _ => rfl) fun _ => steady_publish rfl

theorem steady_cancelUpgrade (canceller : Address) (proposalId : U64) (reason : String) :
    Steady Store.code (cancelUpgrade env canceller proposalId reason) := by
  refine steady_bind (steady_requireAuth canceller) fun _ => ?_
  refine steady_bind (steady_requireSigner canceller) fun _ => ?_
  refine steady_bind (steady_getProposal proposalId) fun _ => ?_
  refine steady_bind (steady_check _ _) fun _ => steady_bind (steady_check _ _) fun _ => ?_
  exact steady_bind (steady_modify fun _ => rfl) fun _ => steady_publish rfl

theorem Call.steady (call : Call)
    (other : ∀ executor proposalId, call.operation ≠ .executeUpgrade executor proposalId) :
    Steady Store.code call.body := by
  obtain ⟨env, operation⟩ := call
  cases operation with
  | initializeTimelock admin timelockDuration minApprovals =>
      exact steady_initializeTimelock admin timelockDuration minApprovals
  | addSigner caller newSigner => exact steady_addSigner caller newSigner
  | removeSigner caller signerToRemove => exact steady_removeSigner caller signerToRemove
  | proposeUpgrade proposer newWasmHash description =>
      exact steady_bind (steady_proposeUpgrade proposer newWasmHash description)
        fun _ => steady_pure _
  | approveUpgrade approver proposalId => exact steady_approveUpgrade approver proposalId
  | executeUpgrade executor proposalId => exact absurd rfl (other executor proposalId)
  | cancelUpgrade canceller proposalId reason =>
      exact steady_cancelUpgrade canceller proposalId reason
  | getProposal proposalId =>
      exact steady_bind (steady_getProposal proposalId) fun _ => steady_pure _
  | isSigner address => exact steady_bind (steady_inspect _) fun _ => steady_pure _
  | getTimelockDuration => exact steady_bind (steady_inspect _) fun _ => steady_pure _

end Quiet

/-! ### Executions -/

section Executions

variable {before after : Store} {proposal next : UpgradeProposal} {proposalId : U64}
  {deployed : BytesN 32} {past : List (U64 × BytesN 32)}

theorem executeUpgrade_installs {env : Env} {executor : Address}
    (run : Commits (executeUpgrade env executor proposalId) before () after) :
    ∃ proposal, before.upgradeProposal proposalId = some proposal ∧
      proposal.status = .approved ∧ after.installed = proposal.newWasmHash ∧
      after.currentWasmHash = some proposal.newWasmHash ∧
      after.upgradeProposal = Function.update before.upgradeProposal proposalId
        (some { proposal with status := .executed }) ∧
      after.events = .upgradeExecuted proposalId
        (before.currentWasmHash.getD (.repeated 32 0)) proposal.newWasmHash env.timestamp ::
          before.events := by
  simp only [executeUpgrade, commits_bind, commits_requireAuth, commits_getProposal,
    commits_check, commits_inspect, commits_updateCurrentContractWasm, commits_modify,
    commits_publish] at run
  obtain ⟨_, _, ⟨signed, rfl⟩, proposal, _, ⟨found, rfl⟩, _, _, ⟨ready, rfl⟩, _, _, ⟨waited, rfl⟩,
    _, _, ⟨rfl, rfl⟩, _, _, ⟨uploaded, rfl⟩, _, _, rfl, _, _, rfl, rfl⟩ := run
  exact ⟨proposal, found, ready, rfl, rfl, rfl, rfl⟩

theorem Store.executed_written (written : after.upgradeProposal =
      Function.update before.upgradeProposal proposalId (some next))
    (was : ∀ stored, before.upgradeProposal proposalId = some stored →
      stored.status ≠ .executed)
    (becomes : next.status ≠ .executed) (other : U64) (newWasmHash : BytesN 32) :
    after.Executed other newWasmHash ↔ before.Executed other newWasmHash := by
  unfold Executed
  rw [written]
  by_cases same : other = proposalId
  · subst same
    rw [Function.update_self]
    constructor
    · rintro ⟨_, found, ended, _⟩
      cases found
      exact absurd ended becomes
    · rintro ⟨stored, found, ended, _⟩
      exact absurd ended (was stored found)
  · rw [Function.update_of_ne same]

/-- Any other call leaves the executed proposals as they are. -/
theorem Effect.executed_iff {call : Call} {entered : List Deed}
    (effect : Effect call.env before after call.operation) (kept : before.Kept entered)
    (other : ∀ executor proposalId, call.operation ≠ .executeUpgrade executor proposalId)
    (proposalId : U64) (newWasmHash : BytesN 32) :
    after.Executed proposalId newWasmHash ↔ before.Executed proposalId newWasmHash := by
  obtain ⟨env, operation⟩ := call
  cases effect with
  | setUp unset entries =>
      rw [Store.Executed, entries.upgradeProposal]
      rfl
  | added signed member entries | removed signed member entries =>
      rw [Store.Executed, entries.upgradeProposal]
      rfl
  | proposed member entries =>
      refine Store.executed_written entries.upgradeProposal (fun stored found => ?_) nofun _ _
      exact absurd (kept.numbered _ stored found) (lt_irrefl _)
  | @approved approver _ proposal signed member found unexecuted uncancelled new entries =>
      refine Store.executed_written entries.upgradeProposal (fun stored again => ?_) ?_ _ _
      · cases again.symm.trans found
        exact unexecuted
      · unfold UpgradeProposal.approvedBy
        change (if _ then _ else _) ≠ _
        split
        · exact nofun
        · exact unexecuted
  | @executed executor executedId => exact absurd rfl (other executor executedId)
  | @cancelled canceller _ reason proposal member found unexecuted entries =>
      refine Store.executed_written entries.upgradeProposal (fun stored again => ?_) nofun _ _
      cases again.symm.trans found
      exact unexecuted
  | queried query same => rw [same]

theorem Store.Shows.quiet (shows : before.Shows deployed past)
    (code : after.code = before.code)
    (same : ∀ proposalId newWasmHash, after.Executed proposalId newWasmHash ↔
      before.Executed proposalId newWasmHash) : after.Shows deployed past := by
  simp only [Store.code, Prod.mk.injEq] at code
  obtain ⟨installed, currentWasmHash, told⟩ := code
  exact ⟨installed.trans shows.installed, currentWasmHash.trans shows.currentWasmHash, shows.once,
    fun proposalId newWasmHash => (shows.recorded proposalId newWasmHash).trans
      (same proposalId newWasmHash).symm, told.trans shows.announced⟩

theorem Store.Shows.executed {now : U64} (shows : before.Shows deployed past)
    (found : before.upgradeProposal proposalId = some proposal)
    (ready : proposal.status = .approved) (installed : after.installed = proposal.newWasmHash)
    (currentWasmHash : after.currentWasmHash = some proposal.newWasmHash)
    (written : after.upgradeProposal = Function.update before.upgradeProposal proposalId
      (some { proposal with status := .executed }))
    (told : after.events = .upgradeExecuted proposalId
      (before.currentWasmHash.getD (.repeated 32 0)) proposal.newWasmHash now :: before.events) :
    after.Shows deployed (past ++ [(proposalId, proposal.newWasmHash)]) where
  installed := by simp [installed]
  currentWasmHash := by simp [currentWasmHash]
  once := by
    rw [List.map_append, List.map_singleton]
    refine List.nodup_append.mpr ⟨shows.once, List.nodup_singleton _, ?_⟩
    intro other among last same equal
    obtain ⟨⟨_, newWasmHash⟩, entry, rfl⟩ := List.mem_map.mp among
    obtain rfl := equal.trans (List.mem_singleton.mp same)
    -- an executed proposal is not approved any more
    obtain ⟨stored, again, ended, _⟩ := (shows.recorded _ newWasmHash).mp entry
    cases again.symm.trans found
    cases ended.symm.trans ready
  recorded other newWasmHash := by
    rw [List.mem_append, List.mem_singleton, Prod.mk.injEq, shows.recorded]
    unfold Store.Executed
    rw [written]
    by_cases same : other = proposalId
    · subst same
      rw [Function.update_self]
      constructor
      · rintro (⟨stored, again, ended, _⟩ | ⟨_, rfl⟩)
        · cases again.symm.trans found
          cases ended.symm.trans ready
        · exact ⟨_, rfl, rfl, rfl⟩
      · rintro ⟨stored, again, _, rfl⟩
        cases again
        exact .inr ⟨rfl, rfl⟩
    · rw [Function.update_of_ne same]
      exact or_iff_left fun both => same both.1
  announced := by
    rw [Store.announcements, told, List.reverse_cons, List.filterMap_append, replacing_append]
    exact congrArg₂ (· ++ ·) shows.announced (by rw [shows.currentWasmHash]; rfl)

/-- Every call that goes through keeps what is shown. -/
theorem Call.shows {call : Call} (run : Commits call.body before () after)
    (sound : before.Sound) (shows : before.Shows deployed past) :
    after.Shows deployed (past ++ (call.execution before).toList) := by
  obtain ⟨⟨entered, kept⟩, _⟩ := sound
  by_cases executes : ∃ executor proposalId,
      call.operation = .executeUpgrade executor proposalId
  · obtain ⟨env, operation⟩ := call
    obtain ⟨executor, proposalId, same⟩ := executes
    obtain rfl : operation = .executeUpgrade executor proposalId := same
    obtain ⟨proposal, found, ready, installed, current, written, told⟩ :=
      executeUpgrade_installs run
    have entry : Call.execution ⟨env, .executeUpgrade executor proposalId⟩ before =
        some (proposalId, proposal.newWasmHash) := by
      change Option.map _ (before.upgradeProposal proposalId) = _
      rw [found]
      rfl
    rw [entry]
    exact shows.executed found ready installed current written told
  · have other : ∀ executor proposalId, call.operation ≠ .executeUpgrade executor proposalId :=
      fun executor proposalId same => executes ⟨executor, proposalId, same⟩
    have silent : call.execution before = none := by
      unfold Call.execution
      split
      · next executor proposalId same => exact absurd same (other executor proposalId)
      · rfl
    rw [silent, Option.toList_none, List.append_nil]
    exact shows.quiet ((call.steady other).keeps run)
      ((call_effect run).executed_iff kept other)

theorem Store.deployed_shows (deployed : BytesN 32) :
    (Store.deployed deployed).Shows deployed [] where
  installed := rfl
  currentWasmHash := rfl
  once := List.nodup_nil
  recorded _ _ := iff_of_false List.not_mem_nil fun ⟨_, found, _⟩ => by cases found
  announced := rfl

/-- In every run the installed code is that of the last execution, or the deployed one; each
proposal is executed at most once, and those that stand executed are those that were; and the
published events list all executions in their order, each with the code of the execution before
it, and the first with zeros. -/
theorem executions_shown (deployed : BytesN 32) (calls : List Call) :
    (Run.run step calls (.deployed deployed)).Shows deployed
      (executions calls (.deployed deployed)) := by
  have both := @Machine.invariant_log _ _ _ Call.body _ Call.execution
    (fun store executed => store.Sound ∧ store.Shows deployed executed)
    (fun call before after executed run held =>
      ⟨(call_effect run).sound held.1, call.shows run held.1 held.2⟩) calls (.deployed deployed)
    ⟨run_sound [] deployed, Store.deployed_shows deployed⟩
  exact both.2

end Executions

/-! ## A quorum suffices -/

/-- An approval by a signer, on a ledger of its own. -/
structure Approval where
  env : Env
  approver : Address

def Approval.call (proposalId : U64) (approval : Approval) : Call :=
  ⟨approval.env, .approveUpgrade approval.approver proposalId⟩

/-- The approvals one after the other, and an execution after them. -/
def carryOut (proposalId : U64) (approvals : List Approval) (env : Env) (executor : Address) :
    List Call :=
  approvals.map (Approval.call proposalId) ++ [⟨env, .executeUpgrade executor proposalId⟩]

/-- Who may take the proposal further: signers who sign and have not approved yet. -/
structure UpgradeProposal.Supporters (store : Store) (proposal : UpgradeProposal)
    (approvals : List Approval) : Prop where
  distinct : (approvals.map Approval.approver).Nodup
  signed : ∀ approval ∈ approvals, approval.env.authorised approval.approver = true
  members : ∀ approval ∈ approvals, store.isSigner approval.approver = true
  new : ∀ approval ∈ approvals, approval.approver ∉ proposal.approvals
  fits : proposal.approvalCount + approvals.length ≤ u32Max

section Liveness

variable {env : Env} {store : Store} {proposal : UpgradeProposal} {proposalId : U64}
  {approver executor : Address} {approval : Approval} {approvals : List Approval}

theorem approveUpgrade_goes (signed : env.authorised approver = true)
    (member : store.isSigner approver = true)
    (found : store.upgradeProposal proposalId = some proposal) (opened : proposal.Open)
    (new : approver ∉ proposal.approvals) (fits : proposal.approvalCount + 1 ≤ u32Max) :
    ∃ after, Commits (approveUpgrade env approver proposalId) store () after ∧
      after.upgradeProposal = Function.update store.upgradeProposal proposalId
        (some (proposal.approvedBy approver (proposal.approvalCount + 1))) ∧
      after.signer = store.signer := by
  obtain ⟨unexecuted, uncancelled⟩ := UpgradeProposal.open_iff.mp opened
  simp only [approveUpgrade, commits_bind, commits_requireAuth, commits_requireSigner,
    commits_getProposal, commits_check, commits_checkedUpTo, commits_modify, commits_publish]
  refine ⟨_, ⟨(), _, ⟨signed, rfl⟩, (), _, ⟨member, rfl⟩, proposal, _, ⟨found, rfl⟩, (), _,
    ⟨unexecuted, rfl⟩, (), _, ⟨uncancelled, rfl⟩, (), _, ⟨new, rfl⟩, _, _, ⟨fits, rfl, rfl⟩,
    (), _, rfl, rfl⟩, ?_, ?_⟩ <;> rfl

theorem executeUpgrade_goes (signed : env.authorised executor = true)
    (found : store.upgradeProposal proposalId = some proposal)
    (ready : proposal.status = .approved) (waited : proposal.executionTime ≤ env.timestamp)
    (uploaded : env.uploaded proposal.newWasmHash = true) :
    ∃ after, Commits (executeUpgrade env executor proposalId) store () after := by
  simp only [executeUpgrade, commits_bind, commits_requireAuth, commits_getProposal,
    commits_check, commits_inspect, commits_updateCurrentContractWasm, commits_modify,
    commits_publish]
  exact ⟨_, (), _, ⟨signed, rfl⟩, proposal, _, ⟨found, rfl⟩, (), _, ⟨ready, rfl⟩, (), _,
    ⟨waited, rfl⟩, _, _, ⟨rfl, rfl⟩, (), _, ⟨uploaded, rfl⟩, (), _, rfl, (), _, rfl, rfl⟩

theorem UpgradeProposal.open_approvedBy (opened : proposal.Open) (approvalCount : U32) :
    (proposal.approvedBy approver approvalCount).Open := by
  unfold Open approvedBy
  split
  · exact .inr rfl
  · exact opened

theorem UpgradeProposal.Supporters.next
    (supporters : proposal.Supporters store (approval :: approvals)) {after : Store}
    (same : after.signer = store.signer) :
    (proposal.approvedBy approval.approver (proposal.approvalCount + 1)).Supporters after
      approvals where
  distinct := (List.nodup_cons.mp supporters.distinct).2
  signed other among := supporters.signed other (List.mem_cons_of_mem _ among)
  members other among := by
    rw [Store.isSigner_of_signer same]
    exact supporters.members other (List.mem_cons_of_mem _ among)
  new other among := by
    intro approved
    rcases List.mem_append.mp approved with earlier | now
    · exact supporters.new other (List.mem_cons_of_mem _ among) earlier
    · apply (List.nodup_cons.mp supporters.distinct).1
      rw [← List.mem_singleton.mp now]
      exact List.mem_map_of_mem among
  fits := by
    have fits := supporters.fits
    rw [List.length_cons, Nat.add_comm approvals.length, ← Nat.add_assoc] at fits
    exact fits

/-- One approval after the other goes through and leaves the proposal open, with all of them
on it. -/
theorem run_approvals (decided : proposal.Decided)
    (found : store.upgradeProposal proposalId = some proposal) (opened : proposal.Open)
    (supporters : proposal.Supporters store approvals) :
    Run.MeetsAlong step Call.Goes (approvals.map (Approval.call proposalId)) store ∧
      ∃ last, (Run.run step (approvals.map (Approval.call proposalId)) store).upgradeProposal
          proposalId = some last ∧
        last.made = proposal.made ∧ last.Open ∧ last.Decided ∧
        last.approvalCount = proposal.approvalCount + approvals.length := by
  induction approvals generalizing store proposal with
  | nil => exact ⟨trivial, proposal, found, rfl, opened, decided, rfl⟩
  | cons approval rest ih =>
      have first : approval ∈ approval :: rest := List.mem_cons_self ..
      have new := supporters.new approval first
      have fits : proposal.approvalCount + 1 ≤ u32Max :=
        (Nat.add_le_add_left (by simp) _).trans supporters.fits
      obtain ⟨after, run, written, signers⟩ := approveUpgrade_goes
        (supporters.signed approval first) (supporters.members approval first) found opened new fits
      have goes : (approval.call proposalId).Goes store := succeeds_iff.mpr ⟨(), _, run⟩
      have stepped : step (approval.call proposalId) store = after := Machine.step_of_commits run
      have stored : after.upgradeProposal proposalId =
          some (proposal.approvedBy approval.approver (proposal.approvalCount + 1)) := by
        rw [written]
        exact Function.update_self ..
      obtain ⟨going, last, lastStored, made, lastOpen, lastDecided, counted⟩ :=
        ih (decided.approved new) stored (UpgradeProposal.open_approvedBy opened _)
          (supporters.next signers)
      rw [List.map_cons, Run.MeetsAlong, Run.run, stepped]
      refine ⟨⟨goes, going⟩, last, lastStored, made, lastOpen, lastDecided, ?_⟩
      rw [counted, List.length_cons]
      exact Nat.add_right_comm _ 1 _

theorem UpgradeProposal.terms_of_made {last : UpgradeProposal} (same : last.made = proposal.made) :
    last.newWasmHash = proposal.newWasmHash ∧
      last.requiredApprovals = proposal.requiredApprovals ∧
      last.executionTime = proposal.executionTime := by
  refine ⟨?_, ?_, ?_⟩
  · change last.made.newWasmHash = proposal.made.newWasmHash
    rw [same]
  · change last.made.requiredApprovals = proposal.made.requiredApprovals
    rw [same]
  · change last.made.executionTime = proposal.made.executionTime
    rw [same]

theorem UpgradeProposal.Decided.ready (decided : proposal.Decided) (opened : proposal.Open)
    (enough : proposal.requiredApprovals ≤ proposal.approvalCount) :
    proposal.status = .approved := by
  rcases opened with pending | approved
  · exact absurd (decided.lacking pending) (Nat.not_lt.mpr enough)
  · exact approved

/-- From every state of every run, the approvals of an open proposal by enough signers go through
one after the other, and so does an execution after the timelock, which installs its code. -/
theorem quorum_suffices (installed : BytesN 32) (calls : List Call)
    (found : (Run.run step calls (.deployed installed)).upgradeProposal proposalId = some proposal)
    (opened : proposal.Open)
    (supporters : proposal.Supporters (Run.run step calls (.deployed installed)) approvals)
    (quorum : proposal.requiredApprovals ≤ proposal.approvalCount + approvals.length)
    (signed : env.authorised executor = true)
    (waited : proposal.executionTime ≤ env.timestamp)
    (uploaded : env.uploaded proposal.newWasmHash = true) :
    let before := Run.run step calls (.deployed installed)
    let after := Run.run step (carryOut proposalId approvals env executor) before
    Run.MeetsAlong step Call.Goes (carryOut proposalId approvals env executor) before ∧
      after.installed = proposal.newWasmHash ∧
      after.Executed proposalId proposal.newWasmHash := by
  have decided := (run_sound calls installed).2.decided proposalId proposal found
  obtain ⟨going, last, stored, made, lastOpen, lastDecided, counted⟩ :=
    run_approvals decided found opened supporters
  obtain ⟨newWasmHash, required, executionTime⟩ := UpgradeProposal.terms_of_made made
  have ready := lastDecided.ready lastOpen (by rw [required, counted]; exact quorum)
  obtain ⟨after, run⟩ := executeUpgrade_goes signed stored ready
    (by rw [executionTime]; exact waited) (by rw [newWasmHash]; exact uploaded)
  have goes : (⟨env, .executeUpgrade executor proposalId⟩ : Call).Goes _ :=
    succeeds_iff.mpr ⟨(), _, run⟩
  have ran : Run.run step (carryOut proposalId approvals env executor)
      (Run.run step calls (.deployed installed)) = after := by
    rw [carryOut, Run.run_append]
    have stepped : step ⟨env, .executeUpgrade executor proposalId⟩ _ = after :=
      Machine.step_of_commits run
    exact stepped
  obtain ⟨executed, again, _, installs, _, written, _⟩ := executeUpgrade_installs run
  cases again.symm.trans stored
  intro before final
  rw [show final = after from ran]
  refine ⟨(Run.meetsAlong_append ..).mpr ⟨going, goes, trivial⟩, installs.trans newWasmHash,
    { last with status := .executed }, ?_, rfl, newWasmHash⟩
  rw [written]
  exact Function.update_self ..

end Liveness

/-- Signers 1 and 2, a timelock of 100 seconds, and a proposal. -/
def pairCalls : List Call :=
  [callBy 1 0 (.initializeTimelock ⟨1⟩ 100 2), callBy 1 0 (.addSigner ⟨1⟩ ⟨2⟩), proposed]

def pairProposal : UpgradeProposal :=
  .fresh ⟨0, fun _ => true, fun _ => true⟩ 0 ⟨1⟩ (.repeated 32 1) "upgrade" 2 100

/-- Each signer approves on a day of their own, and the execution comes after the timelock. -/
def pairApprovals : List Approval :=
  [⟨⟨20, fun address => address = ⟨1⟩, fun _ => false⟩, ⟨1⟩⟩,
    ⟨⟨60, fun address => address = ⟨2⟩, fun _ => false⟩, ⟨2⟩⟩]

theorem quorum_suffices_pair :
    let before := Run.run step pairCalls (.deployed (.repeated 32 0))
    let carried := carryOut 0 pairApprovals ⟨200, fun _ => true, fun _ => true⟩ ⟨7⟩
    let after := Run.run step carried before
    Run.MeetsAlong step Call.Goes carried before ∧ after.installed = .repeated 32 1 ∧
      after.Executed 0 (.repeated 32 1) :=
  @quorum_suffices _ pairProposal _ _ _ (.repeated 32 0) pairCalls (by decide +kernel)
    (.inl rfl)
    { distinct := by decide
      signed := by decide
      members := by decide +kernel
      new := by decide
      fits := by decide }
    (by decide) rfl (by decide) rfl

end LeaseFlow.Timelock
