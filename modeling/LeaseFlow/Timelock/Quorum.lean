import LeaseFlow.Timelock.Effect

/-!
# Upgrades wait for a quorum

The deeds of a run are what its calls did to the proposals.  Every stored proposal accounts for
its approvals by deeds, and every deed still stands in the store, so an execution finds the
deeds that warrant it.
-/

set_option autoImplicit false

namespace LeaseFlow.Timelock

open Transaction

/-! ## Deeds -/

/-- What a call that goes through does to a proposal.  A proposal is entered with the terms it
fixes, an approval with whether its approver is a signer. -/
inductive Deed where
  | proposed (proposalId : U64) (requiredApprovals : U32) (createdAt timelockDuration : U64)
  | approved (proposalId : U64) (approver : Address) (asSigner : Bool)
  | executed (proposalId : U64)
  | cancelled (proposalId : U64)
  deriving DecidableEq

def Call.deed (call : Call) (store : Store) : Option Deed :=
  match call.operation with
  | .proposeUpgrade _ _ _ =>
      some (.proposed (store.proposalCount.getD 0) (store.minApprovals.getD 3) call.env.timestamp
        (store.timelockDuration.getD 1209600))
  | .approveUpgrade approver proposalId =>
      some (.approved proposalId approver (store.isSigner approver))
  | .executeUpgrade _ proposalId => some (.executed proposalId)
  | .cancelUpgrade _ proposalId _ => some (.cancelled proposalId)
  | _ => none

/-- The deeds of a run, oldest first. -/
def deeds (calls : List Call) (store : Store) : List Deed :=
  Machine.log Call.body Call.deed calls store

/-- The deeds that have to come before an execution. -/
structure Warranted (proposalId : U64) (now : U64) (deeds : List Deed) : Prop where
  proposed : ∃ requiredApprovals createdAt timelockDuration,
    .proposed proposalId requiredApprovals createdAt timelockDuration ∈ deeds
  quorum : ∀ requiredApprovals createdAt timelockDuration,
    .proposed proposalId requiredApprovals createdAt timelockDuration ∈ deeds →
      ∃ approvers : List Address, approvers.Nodup ∧ requiredApprovals ≤ approvers.length ∧
        ∀ approver ∈ approvers, .approved proposalId approver true ∈ deeds
  waited : ∀ requiredApprovals createdAt timelockDuration,
    .proposed proposalId requiredApprovals createdAt timelockDuration ∈ deeds →
      createdAt + timelockDuration ≤ now
  standing : .cancelled proposalId ∉ deeds
  first : .executed proposalId ∉ deeds

/-! ## Proposals and deeds -/

/-- The proposal and its approvals were entered. -/
structure UpgradeProposal.Recorded (proposalId : U64) (deeds : List Deed)
    (proposal : UpgradeProposal) : Prop where
  proposed : ∃ createdAt timelockDuration,
    .proposed proposalId proposal.requiredApprovals createdAt timelockDuration ∈ deeds
  distinct : proposal.approvals.Nodup
  counted : proposal.approvalCount = proposal.approvals.length
  signed : ∀ approver ∈ proposal.approvals, .approved proposalId approver true ∈ deeds
  ready : proposal.status = .approved → proposal.requiredApprovals ≤ proposal.approvalCount

/-- The store still shows what was done. -/
def Deed.Stands (store : Store) : Deed → Prop
  | .proposed proposalId requiredApprovals createdAt timelockDuration =>
      ∃ proposal, store.upgradeProposal proposalId = some proposal ∧
        proposal.requiredApprovals = requiredApprovals ∧
        proposal.executionTime = createdAt + timelockDuration
  | .approved _ _ _ => True
  | .executed proposalId =>
      ∃ proposal, store.upgradeProposal proposalId = some proposal ∧ proposal.status = .executed
  | .cancelled proposalId =>
      ∃ proposal, store.upgradeProposal proposalId = some proposal ∧ proposal.status = .cancelled

/-- Before the module is set up nobody is a signer and nothing is proposed. -/
structure Store.Idle (store : Store) : Prop where
  signers : ∀ address, store.isSigner address = false
  proposals : ∀ proposalId, store.upgradeProposal proposalId = none

structure Store.Kept (store : Store) (deeds : List Deed) : Prop where
  idle : store.timelockDuration = none → store.Idle
  numbered : ∀ proposalId proposal, store.upgradeProposal proposalId = some proposal →
    proposalId < store.proposalCount.getD 0
  recorded : ∀ proposalId proposal, store.upgradeProposal proposalId = some proposal →
    proposal.Recorded proposalId deeds
  stands : ∀ deed ∈ deeds, deed.Stands store
  once : ∀ proposalId, deeds.count (.executed proposalId) ≤ 1

/-- The terms of a proposal stay, and so does its end. -/
structure UpgradeProposal.Succeeds (next proposal : UpgradeProposal) : Prop where
  required : next.requiredApprovals = proposal.requiredApprovals
  executionTime : next.executionTime = proposal.executionTime
  executed : proposal.status = .executed → next.status = .executed
  cancelled : proposal.status = .cancelled → next.status = .cancelled

section Kept

variable {before after : Store} {entered extra : List Deed} {proposalId : U64}
  {proposal next : UpgradeProposal}

theorem UpgradeProposal.Recorded.mono (recorded : proposal.Recorded proposalId entered) :
    proposal.Recorded proposalId (entered ++ extra) := by
  obtain ⟨createdAt, timelockDuration, entry⟩ := recorded.proposed
  exact ⟨⟨createdAt, timelockDuration, List.mem_append_left _ entry⟩, recorded.distinct,
    recorded.counted, fun approver among => List.mem_append_left _ (recorded.signed approver among),
    recorded.ready⟩

theorem Deed.Stands.later {deed : Deed}
    (goes_on : ∀ proposalId proposal, before.upgradeProposal proposalId = some proposal →
      ∃ next, after.upgradeProposal proposalId = some next ∧ next.Succeeds proposal)
    (stands : deed.Stands before) : deed.Stands after := by
  cases deed with
  | proposed proposalId requiredApprovals createdAt timelockDuration =>
      obtain ⟨proposal, found, required, timed⟩ := stands
      obtain ⟨next, stored, succeeds⟩ := goes_on proposalId proposal found
      exact ⟨next, stored, succeeds.required.trans required, succeeds.executionTime.trans timed⟩
  | approved proposalId approver asSigner => trivial
  | executed proposalId =>
      obtain ⟨proposal, found, ended⟩ := stands
      obtain ⟨next, stored, succeeds⟩ := goes_on proposalId proposal found
      exact ⟨next, stored, succeeds.executed ended⟩
  | cancelled proposalId =>
      obtain ⟨proposal, found, ended⟩ := stands
      obtain ⟨next, stored, succeeds⟩ := goes_on proposalId proposal found
      exact ⟨next, stored, succeeds.cancelled ended⟩

theorem UpgradeProposal.succeeds_refl (proposal : UpgradeProposal) : proposal.Succeeds proposal :=
  ⟨rfl, rfl, id, id⟩

theorem Store.Kept.same (kept : before.Kept entered) (founded : after.timelockDuration ≠ none)
    (proposals : after.upgradeProposal = before.upgradeProposal)
    (numbered : ∀ proposalId proposal, before.upgradeProposal proposalId = some proposal →
      proposalId < after.proposalCount.getD 0) : after.Kept entered where
  idle unset := absurd unset founded
  numbered := by
    rw [proposals]
    exact numbered
  recorded := by
    rw [proposals]
    exact kept.recorded
  stands deed among := by
    refine (kept.stands deed among).later fun proposalId proposal found => ?_
    exact ⟨proposal, by rw [proposals, found], proposal.succeeds_refl⟩
  once := kept.once

theorem Store.Kept.write {deed : Deed} (kept : before.Kept entered)
    (founded : after.timelockDuration ≠ none)
    (written : after.upgradeProposal =
      Function.update before.upgradeProposal proposalId (some next))
    (within : proposalId < after.proposalCount.getD 0)
    (counted : before.proposalCount.getD 0 ≤ after.proposalCount.getD 0)
    (succeeds : ∀ proposal, before.upgradeProposal proposalId = some proposal →
      next.Succeeds proposal)
    (recorded : next.Recorded proposalId (entered ++ [deed])) (stands : deed.Stands after)
    (first : ∀ other, deed = .executed other → .executed other ∉ entered) :
    after.Kept (entered ++ [deed]) where
  idle unset := absurd unset founded
  numbered other stored found := by
    rw [written] at found
    by_cases same : other = proposalId
    · exact same ▸ within
    · rw [Function.update_of_ne same] at found
      exact lt_of_lt_of_le (kept.numbered other stored found) counted
  recorded other stored found := by
    rw [written] at found
    by_cases same : other = proposalId
    · subst same
      rw [Function.update_self, Option.some.injEq] at found
      exact found ▸ recorded
    · rw [Function.update_of_ne same] at found
      exact (kept.recorded other stored found).mono
  stands done among := by
    rcases List.mem_append.mp among with earlier | now
    · refine (kept.stands done earlier).later fun other stored found => ?_
      rw [written]
      by_cases same : other = proposalId
      · subst same
        exact ⟨next, Function.update_self .., succeeds stored found⟩
      · exact ⟨stored, (Function.update_of_ne same _ _).trans found, stored.succeeds_refl⟩
    · exact List.mem_singleton.mp now ▸ stands
  once other := by
    rw [List.count_append]
    by_cases executes : deed = .executed other
    · subst executes
      simp [List.count_eq_zero.mpr (first other rfl)]
    · simpa [List.count_singleton, executes] using kept.once other

/-! ## Every call -/

theorem Store.isSigner_of_idle (kept : before.Kept entered) {address : Address}
    (member : before.isSigner address = true) : before.timelockDuration ≠ none := by
  intro unset
  cases ((kept.idle unset).signers address).symm.trans member

theorem Store.founded_of_found (kept : before.Kept entered)
    (found : before.upgradeProposal proposalId = some proposal) :
    before.timelockDuration ≠ none := by
  intro unset
  cases ((kept.idle unset).proposals proposalId).symm.trans found

theorem proposeUpgrade_kept {env : Env} {proposer : Address} {newWasmHash : BytesN 32}
    {description : String} (kept : before.Kept entered)
    (member : before.isSigner proposer = true)
    (entries : after.SameEntries { before.putProposal (before.proposalCount.getD 0)
      (.fresh env (before.proposalCount.getD 0) proposer newWasmHash description
        (before.minApprovals.getD 3) (env.timestamp + before.timelockDuration.getD 1209600)) with
      proposalCount := some (before.proposalCount.getD 0 + 1) }) :
    after.Kept (entered ++ [.proposed (before.proposalCount.getD 0) (before.minApprovals.getD 3)
      env.timestamp (before.timelockDuration.getD 1209600)]) := by
  have counted : after.proposalCount.getD 0 = before.proposalCount.getD 0 + 1 := by
    rw [entries.proposalCount]
    rfl
  refine kept.write ?_
    entries.upgradeProposal ?_ ?_ (fun stored found => ?_) ?_ ?_ nofun
  · rw [entries.timelockDuration]
    exact before.isSigner_of_idle kept member
  · rw [counted]
    exact Nat.lt_succ_self _
  · rw [counted]
    exact Nat.le_succ _
  · -- the number of the new proposal is that of no other
    exact absurd (kept.numbered _ stored found) (lt_irrefl _)
  · exact ⟨⟨_, _, List.mem_append_right _ (List.mem_singleton.mpr rfl)⟩, List.nodup_nil, rfl,
      fun _ among => absurd among List.not_mem_nil, nofun⟩
  · exact ⟨_, by rw [entries.upgradeProposal]; exact Function.update_self .., rfl,
      rfl⟩

theorem UpgradeProposal.Recorded.approved {approver : Address}
    (recorded : proposal.Recorded proposalId entered) (new : approver ∉ proposal.approvals) :
    (proposal.approvedBy approver (proposal.approvalCount + 1)).Recorded proposalId
      (entered ++ [.approved proposalId approver true]) where
  proposed := by
    obtain ⟨createdAt, timelockDuration, entry⟩ := recorded.proposed
    exact ⟨createdAt, timelockDuration, List.mem_append_left _ entry⟩
  distinct := List.nodup_append.mpr ⟨recorded.distinct, List.nodup_singleton approver,
    fun _ among _ same => by
      rw [List.mem_singleton.mp same]
      rintro rfl
      exact new among⟩
  counted := by
    change _ = (proposal.approvals ++ [approver]).length
    rw [List.length_append, ← recorded.counted]
    rfl
  signed other among := by
    rcases List.mem_append.mp among with earlier | now
    · exact List.mem_append_left _ (recorded.signed other earlier)
    · rw [List.mem_singleton.mp now]
      exact List.mem_append_right _ (List.mem_singleton.mpr rfl)
  ready approved := by
    change (if proposal.requiredApprovals ≤ proposal.approvalCount + 1 then _ else _) = _ at approved
    split at approved
    · assumption
    · exact Nat.le_succ_of_le (recorded.ready approved)

theorem approveUpgrade_kept {approver : Address} (kept : before.Kept entered)
    (member : before.isSigner approver = true)
    (found : before.upgradeProposal proposalId = some proposal)
    (unexecuted : proposal.status ≠ .executed) (uncancelled : proposal.status ≠ .cancelled)
    (new : approver ∉ proposal.approvals)
    (entries : after.SameEntries (before.putProposal proposalId
      (proposal.approvedBy approver (proposal.approvalCount + 1)))) :
    after.Kept (entered ++ [.approved proposalId approver (before.isSigner approver)]) := by
  rw [member]
  have numbered : after.proposalCount = before.proposalCount :=
    entries.proposalCount
  refine kept.write ?_ entries.upgradeProposal ?_ ?_
    (fun stored same => ?_) ((kept.recorded _ _ found).approved new) trivial nofun
  · rw [entries.timelockDuration]
    exact before.isSigner_of_idle kept member
  · rw [numbered]
    exact kept.numbered _ _ found
  · rw [numbered]
  · obtain rfl := Option.some.inj (found.symm.trans same)
    exact ⟨rfl, rfl, fun executed => absurd executed unexecuted,
      fun cancelled => absurd cancelled uncancelled⟩

theorem Store.Kept.ended {deed : Deed} {status : UpgradeProposalStatus}
    (kept : before.Kept entered) (found : before.upgradeProposal proposalId = some proposal)
    (written : after.upgradeProposal =
      Function.update before.upgradeProposal proposalId (some { proposal with status := status }))
    (founded : after.timelockDuration = before.timelockDuration)
    (numbered : after.proposalCount = before.proposalCount) (unapproved : status ≠ .approved)
    (executed : proposal.status = .executed → status = .executed)
    (cancelled : proposal.status = .cancelled → status = .cancelled) (stands : deed.Stands after)
    (first : ∀ other, deed = .executed other → .executed other ∉ entered) :
    after.Kept (entered ++ [deed]) := by
  refine kept.write ?_ written ?_ ?_ (fun stored same => ?_) ?_ stands
    first
  · rw [founded]
    exact before.founded_of_found kept found
  · rw [numbered]
    exact kept.numbered _ _ found
  · rw [numbered]
  · obtain rfl := Option.some.inj (found.symm.trans same)
    exact ⟨rfl, rfl, executed, cancelled⟩
  · have recorded : proposal.Recorded proposalId (entered ++ [deed]) :=
      (kept.recorded _ _ found).mono
    exact ⟨recorded.proposed, recorded.distinct, recorded.counted, recorded.signed,
      fun approved => absurd approved unapproved⟩

theorem Store.Kept.not_mem {deed : Deed} (kept : before.Kept entered)
    (fallen : ¬ deed.Stands before) : deed ∉ entered :=
  fun among => fallen (kept.stands deed among)

/-- Every call that goes through keeps the store and the deeds together. -/
theorem Effect.kept {call : Call} (effect : Effect call.env before after call.operation)
    (kept : before.Kept entered) : after.Kept (entered ++ (call.deed before).toList) := by
  obtain ⟨env, operation⟩ := call
  cases effect with
  | @setUp admin timelockDuration minApprovals unset entries =>
      have empty := (kept.idle unset).proposals
      rw [Call.deed, Option.toList_none, List.append_nil]
      refine kept.same ?_ entries.upgradeProposal fun proposalId stored found => ?_
      · rw [entries.timelockDuration]
        exact Option.some_ne_none _
      · cases (empty proposalId).symm.trans found
  | added signed member entries | removed signed member entries =>
      rw [Call.deed, Option.toList_none, List.append_nil]
      refine kept.same ?_ entries.upgradeProposal ?_
      · rw [entries.timelockDuration]
        exact before.isSigner_of_idle kept member
      · rw [entries.proposalCount]
        exact kept.numbered
  | proposed member entries => exact proposeUpgrade_kept kept member entries
  | approved signed member found unexecuted uncancelled new entries =>
      exact approveUpgrade_kept kept member found unexecuted uncancelled new entries
  | @executed executor proposalId proposal found ready waited entries =>
      have written := entries.upgradeProposal
      refine kept.ended found written entries.timelockDuration
        entries.proposalCount nofun (fun _ => rfl) (fun cancelled => ?_)
        ⟨_, by rw [written]; exact Function.update_self .., rfl⟩ fun other same => ?_
      · cases ready.symm.trans cancelled
      · cases same
        refine kept.not_mem ?_
        rintro ⟨stored, again, ended⟩
        obtain rfl := Option.some.inj (found.symm.trans again)
        cases ready.symm.trans ended
  | @cancelled canceller proposalId reason proposal member found unexecuted entries =>
      have written := entries.upgradeProposal
      exact kept.ended found written entries.timelockDuration
        entries.proposalCount nofun (fun executed => absurd executed unexecuted)
        (fun _ => rfl) ⟨_, by rw [written]; exact Function.update_self .., rfl⟩ nofun
  | queried query same =>
      rw [same]
      cases query <;> (rw [Call.deed, Option.toList_none, List.append_nil]; exact kept)

end Kept

/-! ## Runs -/

theorem Store.deployed_kept (installed : BytesN 32) : (Store.deployed installed).Kept [] where
  idle _ := ⟨fun _ => rfl, fun _ => rfl⟩
  numbered _ _ found := by cases found
  recorded _ _ found := by cases found
  stands _ among := by cases among
  once _ := Nat.zero_le 1

theorem run_kept (calls : List Call) (installed : BytesN 32) :
    (Run.run step calls (.deployed installed)).Kept (deeds calls (.deployed installed)) :=
  Machine.invariant_log (fun _ _ _ _ run kept => (call_effect run).kept kept) calls
    (Store.deployed_kept installed)

/-- An execution that goes through finds its proposal approved. -/
theorem Store.Kept.warranted {store : Store} {entered : List Deed} {call : Call}
    {executor : Address} {proposalId : U64} (kept : store.Kept entered)
    (executes : call.operation = .executeUpgrade executor proposalId) (goes : call.Goes store) :
    Warranted proposalId call.env.timestamp entered := by
  obtain ⟨env, operation⟩ := call
  obtain rfl : operation = .executeUpgrade executor proposalId := executes
  cases call_effect goes.commits with
  | @executed _ _ proposal found ready waited entries =>
      have recorded := kept.recorded _ _ found
      have terms : ∀ requiredApprovals createdAt timelockDuration,
          .proposed proposalId requiredApprovals createdAt timelockDuration ∈ entered →
          proposal.requiredApprovals = requiredApprovals ∧
            proposal.executionTime = createdAt + timelockDuration := by
        intro requiredApprovals createdAt timelockDuration entry
        obtain ⟨stored, again, required, timed⟩ := kept.stands _ entry
        obtain rfl := Option.some.inj (found.symm.trans again)
        exact ⟨required, timed⟩
      have ended : ∀ deed, (∃ stored, store.upgradeProposal proposalId = some stored ∧
          stored.status = deed) → deed = .approved := by
        rintro status ⟨stored, again, same⟩
        obtain rfl := Option.some.inj (found.symm.trans again)
        exact same.symm.trans ready
      refine ⟨?_, fun _ _ _ entry => ?_, fun _ _ _ entry => ?_, ?_, ?_⟩
      · obtain ⟨createdAt, timelockDuration, entry⟩ := recorded.proposed
        exact ⟨_, createdAt, timelockDuration, entry⟩
      · refine ⟨proposal.approvals, recorded.distinct, ?_, recorded.signed⟩
        rw [← (terms _ _ _ entry).1, ← recorded.counted]
        exact recorded.ready ready
      · rw [← (terms _ _ _ entry).2]
        exact waited
      · exact kept.not_mem fun stands => nomatch ended _ stands
      · exact kept.not_mem fun stands => nomatch ended _ stands
  | queried query same => cases query

/-- In every run, each execution that goes through is of a proposal that was approved by a quorum
of signers, has waited and was neither cancelled nor executed before, and so no proposal is
executed twice. -/
theorem upgrades_warranted (installed : BytesN 32) (calls : List Call) :
    (∀ earlier call executor proposalId, earlier ++ [call] <+: calls →
      call.operation = .executeUpgrade executor proposalId →
      call.Goes (Run.run step earlier (.deployed installed)) →
      Warranted proposalId call.env.timestamp (deeds earlier (.deployed installed))) ∧
    ∀ proposalId, (deeds calls (.deployed installed)).count (.executed proposalId) ≤ 1 := by
  constructor
  · intro earlier call executor proposalId _ executes goes
    exact (run_kept earlier installed).warranted executes goes
  · exact (run_kept calls installed).once

end LeaseFlow.Timelock
