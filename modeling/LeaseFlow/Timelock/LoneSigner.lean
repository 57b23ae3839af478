import LeaseFlow.Timelock.Quorum

/-!
# One signer and the quorum

Any single signer changes the council.  So one of them reaches every quorum with addresses of
its own, unless it enrols nobody; and an approval outlives the membership of its approver, unless
nobody is removed who approved a proposal that is still open.
-/

set_option autoImplicit false

namespace LeaseFlow.Timelock

open Transaction

/-! ## What the council is for -/

/-- The module was set up to ask for two approvals or more, and nothing was proposed yet. -/
structure Store.Convened (store : Store) : Prop where
  founded : store.timelockDuration ≠ none
  several : 2 ≤ store.minApprovals.getD 3
  unproposed : ∀ proposalId, store.upgradeProposal proposalId = none

/-- Nobody authorised the call but the one signer, and addresses that were not signers. -/
def Call.ByLoneSigner (lone : Address) (start : Store) (call : Call) : Prop :=
  ∀ address, call.env.authorised address = true → address = lone ∨ start.isSigner address = false

def Call.UpgradesNothing (call : Call) (store : Store) : Prop :=
  ∀ executor proposalId, call.operation = .executeUpgrade executor proposalId → ¬ call.Goes store

/-- What the call executes was approved by enough addresses that are still signers. -/
def Call.UpgradesByMembers (call : Call) (store : Store) : Prop :=
  ∀ executor proposalId proposal, call.operation = .executeUpgrade executor proposalId →
    call.Goes store → store.upgradeProposal proposalId = some proposal →
      proposal.requiredApprovals ≤ (proposal.approvals.filter store.isSigner).length

/-- From the store on, one signer alone upgrades nothing. -/
def Store.ResistsLoneSigner (start : Store) : Prop :=
  ∀ lone calls, (∀ call ∈ calls, call.ByLoneSigner lone start) →
    Run.MeetsAlong step Call.UpgradesNothing calls start

/-- From the store on, only the approvals of members count. -/
def Store.CountsMembers (start : Store) : Prop :=
  ∀ calls, Run.MeetsAlong step Call.UpgradesByMembers calls start

/-! ## When the council is changed -/

/-- The call, if it goes through, makes nobody a signer who was not one at the start. -/
def Call.EnrolsNobody (start : Store) (call : Call) (store : Store) : Prop :=
  ∀ caller newSigner, call.operation = .addSigner caller newSigner → call.Goes store →
    start.isSigner newSigner = true

def UpgradeProposal.Open (proposal : UpgradeProposal) : Prop :=
  proposal.status = .pending ∨ proposal.status = .approved

/-- The call, if it goes through, removes nobody who approved an open proposal. -/
def Call.RemovesNoApprover (call : Call) (store : Store) : Prop :=
  ∀ caller signerToRemove, call.operation = .removeSigner caller signerToRemove →
    call.Goes store → ∀ proposalId proposal, store.upgradeProposal proposalId = some proposal →
      proposal.Open → signerToRemove ∉ proposal.approvals

section Written

variable {before after : Store} {proposalId : U64} {next : UpgradeProposal}

theorem Store.forall_written {P : U64 → UpgradeProposal → Prop}
    (written : after.upgradeProposal =
      Function.update before.upgradeProposal proposalId (some next))
    (all : ∀ other proposal, before.upgradeProposal other = some proposal → P other proposal)
    (new : P proposalId next) :
    ∀ other proposal, after.upgradeProposal other = some proposal → P other proposal := by
  intro other proposal found
  rw [written] at found
  by_cases same : other = proposalId
  · subst same
    rw [Function.update_self, Option.some.injEq] at found
    exact found ▸ new
  · rw [Function.update_of_ne same] at found
    exact all other proposal found

theorem Store.isSigner_of_signer (same : after.signer = before.signer) (address : Address) :
    after.isSigner address = before.isSigner address := by
  rw [isSigner, same, isSigner]

theorem Store.isSigner_putSigner_ne {entry : Option Bool} {address other : Address}
    (same : after.signer = Function.update before.signer address entry)
    (differs : other ≠ address) : after.isSigner other = before.isSigner other := by
  rw [isSigner, same, Function.update_of_ne differs, isSigner]

end Written

/-! ## A lone signer -/

/-- The lone signer is the only approver, and more than one is asked for. -/
structure Store.HeldBy (store : Store) (lone : Address) (start : Store) : Prop where
  founded : store.timelockDuration ≠ none
  several : 2 ≤ store.minApprovals.getD 3
  members : ∀ address, store.isSigner address = true → start.isSigner address = true
  proposals : ∀ proposalId proposal, store.upgradeProposal proposalId = some proposal →
    2 ≤ proposal.requiredApprovals ∧ ∀ approver ∈ proposal.approvals, approver = lone

section LoneSigner

variable {start before after : Store} {lone : Address} {call : Call}

/-- A call of the lone signer adds no other approver. -/
theorem Effect.heldBy (effect : Effect call.env before after call.operation)
    (alone : call.ByLoneSigner lone start)
    (enrols : ∀ caller newSigner, call.operation = .addSigner caller newSigner →
      start.isSigner newSigner = true) (held : before.HeldBy lone start) :
    after.HeldBy lone start := by
  obtain ⟨env, operation⟩ := call
  cases effect with
  | setUp unset entries => exact absurd unset held.founded
  | @added caller newSigner signed member entries =>
      refine ⟨entries.timelockDuration ▸ held.founded, entries.minApprovals ▸ held.several,
        fun address joined => ?_, entries.upgradeProposal ▸ held.proposals⟩
      by_cases same : address = newSigner
      · exact same ▸ enrols caller newSigner rfl
      · rw [Store.isSigner_putSigner_ne entries.signer same] at joined
        exact held.members address joined
  | @removed caller signerToRemove signed member entries =>
      refine ⟨entries.timelockDuration ▸ held.founded, entries.minApprovals ▸ held.several,
        fun address stays => ?_, entries.upgradeProposal ▸ held.proposals⟩
      by_cases same : address = signerToRemove
      · rw [Store.isSigner, entries.signer, same] at stays
        simp [Store.putSigner] at stays
      · rw [Store.isSigner_putSigner_ne entries.signer same] at stays
        exact held.members address stays
  | proposed member entries =>
      refine ⟨entries.timelockDuration ▸ held.founded, entries.minApprovals ▸ held.several,
        fun address joined => ?_, Store.forall_written entries.upgradeProposal held.proposals
          ⟨held.several, fun _ among => absurd among List.not_mem_nil⟩⟩
      exact held.members address (Store.isSigner_of_signer entries.signer address ▸ joined)
  | @approved approver proposalId proposal signed member found _ _ _ entries =>
      refine ⟨entries.timelockDuration ▸ held.founded, entries.minApprovals ▸ held.several,
        fun address joined => ?_, Store.forall_written entries.upgradeProposal held.proposals
          ⟨(held.proposals _ _ found).1, fun other among => ?_⟩⟩
      · exact held.members address (Store.isSigner_of_signer entries.signer address ▸ joined)
      · rcases List.mem_append.mp among with earlier | now
        · exact (held.proposals _ _ found).2 other earlier
        · -- a member of the council who signs this call can only be the lone one
          rw [List.mem_singleton.mp now]
          refine (alone approver signed).resolve_right fun outside => ?_
          cases outside.symm.trans (held.members approver member)
  | @executed _ proposalId proposal found _ _ entries
  | @cancelled _ proposalId _ proposal _ found _ entries =>
      have earlier := held.proposals proposalId proposal found
      refine ⟨entries.timelockDuration ▸ held.founded, entries.minApprovals ▸ held.several,
        fun address joined => ?_, Store.forall_written entries.upgradeProposal held.proposals
          earlier⟩
      exact held.members address (Store.isSigner_of_signer entries.signer address ▸ joined)
  | queried query same =>
      rw [same]
      exact held

theorem Store.HeldBy.upgradesNothing {store : Store} {entered : List Deed}
    (held : store.HeldBy lone start) (kept : store.Kept entered) :
    call.UpgradesNothing store := by
  intro executor proposalId executes goes
  obtain ⟨env, operation⟩ := call
  obtain rfl : operation = .executeUpgrade executor proposalId := executes
  cases call_effect goes.commits with
  | @executed _ _ proposal found ready waited entries =>
      have recorded := kept.recorded _ _ found
      obtain ⟨several, only⟩ := held.proposals _ _ found
      have within : proposal.approvals ⊆ [lone] := fun approver among =>
        List.mem_singleton.mpr (only approver among)
      have few : proposal.approvals.length ≤ 1 :=
        (recorded.distinct.subperm within).length_le
      have quorum := recorded.ready ready
      rw [recorded.counted] at quorum
      exact absurd (several.trans (quorum.trans few)) (by decide)
  | queried query same => cases query

/-! ## Members and former members -/

/-- Whoever approved an open proposal is a signer. -/
def Store.ApprovedByMembers (store : Store) : Prop :=
  ∀ proposalId proposal, store.upgradeProposal proposalId = some proposal → proposal.Open →
    ∀ approver ∈ proposal.approvals, store.isSigner approver = true

theorem Store.ApprovedByMembers.later (members : before.ApprovedByMembers)
    (proposals : after.upgradeProposal = before.upgradeProposal)
    (stays : ∀ proposalId proposal, before.upgradeProposal proposalId = some proposal →
      proposal.Open → ∀ approver ∈ proposal.approvals, before.isSigner approver = true →
        after.isSigner approver = true) : after.ApprovedByMembers := by
  intro proposalId proposal found opened approver among
  rw [proposals] at found
  exact stays proposalId proposal found opened approver among
    (members proposalId proposal found opened approver among)

theorem Effect.approvedByMembers (effect : Effect call.env before after call.operation)
    (removes : ∀ caller signerToRemove, call.operation = .removeSigner caller signerToRemove →
      ∀ proposalId proposal, before.upgradeProposal proposalId = some proposal →
        proposal.Open → signerToRemove ∉ proposal.approvals)
    (members : before.ApprovedByMembers) : after.ApprovedByMembers := by
  obtain ⟨env, operation⟩ := call
  have written : ∀ {proposalId : U64} {next : UpgradeProposal}, after.upgradeProposal =
        Function.update before.upgradeProposal proposalId (some next) →
      after.signer = before.signer →
      (next.Open → ∀ approver ∈ next.approvals, before.isSigner approver = true) →
      after.ApprovedByMembers := by
    intro proposalId next stored signers new
    refine Store.forall_written stored (fun other proposal found opened approver among => ?_)
      fun opened approver among => ?_
    · rw [Store.isSigner_of_signer signers]
      exact members other proposal found opened approver among
    · rw [Store.isSigner_of_signer signers]
      exact new opened approver among
  cases effect with
  | @setUp admin timelockDuration minApprovals unset entries =>
      refine members.later entries.upgradeProposal fun _ _ _ _ approver _ member => ?_
      by_cases same : approver = admin
      · rw [Store.isSigner, entries.signer, same]
        simp [Store.setUp, Store.putSigner]
      · exact (Store.isSigner_putSigner_ne entries.signer same).trans member
  | @added caller newSigner signed member entries =>
      refine members.later entries.upgradeProposal fun _ _ _ _ approver _ member => ?_
      by_cases same : approver = newSigner
      · rw [Store.isSigner, entries.signer, same]
        simp [Store.putSigner]
      · exact (Store.isSigner_putSigner_ne entries.signer same).trans member
  | @removed caller signerToRemove signed member entries =>
      refine members.later entries.upgradeProposal
        fun proposalId proposal found opened approver among member => ?_
      have other : approver ≠ signerToRemove := by
        rintro rfl
        exact removes caller approver rfl proposalId proposal found opened among
      exact (Store.isSigner_putSigner_ne entries.signer other).trans member
  | proposed member entries =>
      exact written entries.upgradeProposal entries.signer
        fun _ _ among => absurd among List.not_mem_nil
  | @approved approver proposalId proposal signed member found unexecuted uncancelled _ entries =>
      refine written entries.upgradeProposal entries.signer fun _ other among => ?_
      have opened : proposal.Open := by
        unfold UpgradeProposal.Open
        cases status : proposal.status with
        | pending => exact .inl rfl
        | approved => exact .inr rfl
        | executed => exact absurd status unexecuted
        | cancelled => exact absurd status uncancelled
      rcases List.mem_append.mp among with earlier | now
      · exact members _ _ found opened other earlier
      · rw [List.mem_singleton.mp now]
        exact member
  | executed found ready waited entries | cancelled member found unexecuted entries =>
      refine written entries.upgradeProposal entries.signer fun opened => ?_
      rcases opened with ended | ended <;> cases ended
  | queried query same =>
      rw [same]
      exact members

theorem Store.ApprovedByMembers.upgradesByMembers {store : Store} {entered : List Deed}
    (members : store.ApprovedByMembers) (kept : store.Kept entered) :
    call.UpgradesByMembers store := by
  intro executor proposalId proposal executes goes found
  obtain ⟨env, operation⟩ := call
  obtain rfl : operation = .executeUpgrade executor proposalId := executes
  cases call_effect goes.commits with
  | @executed _ _ stored again ready waited entries =>
      obtain rfl := Option.some.inj (found.symm.trans again)
      have recorded := kept.recorded _ _ found
      have all : proposal.approvals.filter store.isSigner = proposal.approvals :=
        List.filter_eq_self.mpr (members _ _ found (.inr ready))
      rw [all, ← recorded.counted]
      exact recorded.ready ready
  | queried query same => cases query

end LoneSigner

/-! ## Runs -/

section Runs

variable {start : Store}

theorem Store.Convened.kept (convened : start.Convened) : start.Kept [] where
  idle unset := absurd unset convened.founded
  numbered proposalId _ found := by cases (convened.unproposed proposalId).symm.trans found
  recorded proposalId _ found := by cases (convened.unproposed proposalId).symm.trans found
  stands _ among := by cases among
  once _ := Nat.zero_le 1

theorem Store.Convened.heldBy (convened : start.Convened) (lone : Address) :
    start.HeldBy lone start where
  founded := convened.founded
  several := convened.several
  members _ := id
  proposals proposalId _ found := by cases (convened.unproposed proposalId).symm.trans found

theorem Store.Convened.approvedByMembers (convened : start.Convened) :
    start.ApprovedByMembers :=
  fun proposalId _ found => by cases (convened.unproposed proposalId).symm.trans found

/-- What every call that meets the condition keeps decides the run, beside the deeds. -/
theorem meetsAlong_of_effect {inv : Store → Prop} {condition conclusion : Call → Store → Prop}
    (keeps : ∀ call store after, condition call store → call.Goes store →
      Effect call.env store after call.operation → inv store → inv after)
    (concludes : ∀ call store entered, inv store → store.Kept entered → conclusion call store)
    {calls : List Call} (meets : Run.MeetsAlong step condition calls start) (holds : inv start)
    (kept : start.Kept []) : Run.MeetsAlong step conclusion calls start := by
  refine @Run.meetsAlong_of_invariant _ _ step
    (fun store => inv store ∧ ∃ entered, store.Kept entered) condition conclusion
    (fun call store met both => ?_) (fun call store _ both => ?_) calls start meets
    ⟨holds, [], kept⟩
  · obtain ⟨held, entered, kept⟩ := both
    by_cases goes : call.Goes store
    · have effect := call_effect goes.commits
      exact ⟨keeps call store _ met goes effect held, _, effect.kept kept⟩
    · rw [step, Machine.step_of_not_goes goes]
      exact ⟨held, entered, kept⟩
  · obtain ⟨held, entered, kept⟩ := both
    exact concludes call store entered held kept

/-- A lone signer who enrols nobody upgrades nothing; and as long as nobody is removed who
approved an open proposal, every upgrade is one of enough members. -/
theorem council_decides (convened : start.Convened) :
    (∀ lone calls, (∀ call ∈ calls, call.ByLoneSigner lone start) →
      Run.MeetsAlong step (Call.EnrolsNobody start) calls start →
      Run.MeetsAlong step Call.UpgradesNothing calls start) ∧
    ∀ calls, Run.MeetsAlong step Call.RemovesNoApprover calls start →
      Run.MeetsAlong step Call.UpgradesByMembers calls start := by
  constructor
  · intro lone calls alone enrols
    have conditions := (Run.meetsAlong_and calls start).mpr
      ⟨Run.meetsAlong_of_forall alone start, enrols⟩
    refine @meetsAlong_of_effect start (fun store => store.HeldBy lone start) _ _
      (fun call store after meets goes effect held => ?_)
      (fun call store entered held kept => ?_) calls conditions (convened.heldBy lone)
      convened.kept
    · exact effect.heldBy meets.1
        (fun caller newSigner adds => meets.2 caller newSigner adds goes) held
    · exact held.upgradesNothing kept
  · intro calls removes
    refine meetsAlong_of_effect (fun call store after meets goes effect members => ?_)
      (fun call store entered members kept => ?_) removes convened.approvedByMembers
        convened.kept
    · exact effect.approvedByMembers
        (fun caller removed takes => meets caller removed takes goes) members
    · exact members.upgradesByMembers kept

end Runs

/-! ## A council of two -/

def callBy (account timestamp : Nat) (operation : Operation) : Call where
  env := ⟨timestamp, fun address => address == ⟨account⟩, fun _ => true⟩
  operation := operation

/-- Signers 1 and 2, both of whom are asked for, and a timelock of 100 seconds. -/
def pairCouncil : Store :=
  ((Store.deployed (.repeated 32 0)).setUp ⟨1⟩ 100 2).putSigner ⟨2⟩ (some true)

theorem pairCouncil_convened : pairCouncil.Convened where
  founded := by decide
  several := by decide
  unproposed _ := rfl

def proposed : Call :=
  callBy 1 0 (.proposeUpgrade ⟨1⟩ (.repeated 32 1) "upgrade")

theorem byLoneSigner_callBy {account timestamp : Nat} {operation : Operation}
    (either : account = 1 ∨ pairCouncil.isSigner ⟨account⟩ = false) :
    (callBy account timestamp operation).ByLoneSigner ⟨1⟩ pairCouncil := by
  intro address signed
  obtain rfl : address = ⟨account⟩ := beq_iff_eq.mp signed
  exact either.imp_left (congrArg Address.mk)

theorem council_decides_pair :
    Run.MeetsAlong step Call.UpgradesNothing
        [proposed, callBy 1 0 (.approveUpgrade ⟨1⟩ 0), callBy 7 200 (.executeUpgrade ⟨7⟩ 0)]
        pairCouncil ∧
      Run.MeetsAlong step Call.UpgradesByMembers
        [proposed, callBy 1 0 (.approveUpgrade ⟨1⟩ 0), callBy 2 0 (.approveUpgrade ⟨2⟩ 0),
          callBy 7 200 (.executeUpgrade ⟨7⟩ 0)] pairCouncil := by
  have decided := council_decides pairCouncil_convened
  refine ⟨decided.1 ⟨1⟩ _ ?_ ?_, decided.2 _ ?_⟩
  · simp only [List.forall_mem_cons]
    exact ⟨byLoneSigner_callBy (.inl rfl), byLoneSigner_callBy (.inl rfl),
      byLoneSigner_callBy (.inr (by decide)), List.forall_mem_nil _⟩
  · refine ⟨?_, ?_, ?_, trivial⟩ <;> intro caller newSigner adds <;> cases adds
  · refine ⟨?_, ?_, ?_, ?_, trivial⟩ <;> intro caller signerToRemove removes <;> cases removes

/-- Signer 1 enrols address 5 to reach the quorum of two; and signer 2, who is removed, still
counts. -/
theorem pairCouncil_overruled :
    (¬ ∀ start : Store, start.Convened → start.ResistsLoneSigner) ∧
      ¬ ∀ start : Store, start.Convened → start.CountsMembers := by
  constructor
  · intro resists
    have alone : ∀ call ∈ [callBy 1 0 (.addSigner ⟨1⟩ ⟨5⟩), proposed,
        callBy 1 0 (.approveUpgrade ⟨1⟩ 0), callBy 5 0 (.approveUpgrade ⟨5⟩ 0),
        callBy 1 100 (.executeUpgrade ⟨1⟩ 0)], call.ByLoneSigner ⟨1⟩ pairCouncil := by
      simp only [List.forall_mem_cons]
      exact ⟨byLoneSigner_callBy (.inl rfl), byLoneSigner_callBy (.inl rfl),
        byLoneSigner_callBy (.inl rfl), byLoneSigner_callBy (.inr (by decide)),
        byLoneSigner_callBy (.inl rfl), List.forall_mem_nil _⟩
    have nothing := resists pairCouncil pairCouncil_convened ⟨1⟩ _ alone
    exact nothing.2.2.2.2.1 ⟨1⟩ 0 rfl (by decide +kernel)
  · intro counts
    have byMembers := counts pairCouncil pairCouncil_convened [proposed,
      callBy 1 0 (.approveUpgrade ⟨1⟩ 0), callBy 2 0 (.approveUpgrade ⟨2⟩ 0),
      callBy 1 0 (.removeSigner ⟨1⟩ ⟨2⟩), callBy 1 100 (.executeUpgrade ⟨1⟩ 0)]
    have quorum := byMembers.2.2.2.2.1 ⟨1⟩ 0 _ rfl (by decide +kernel) rfl
    exact absurd quorum (by decide +kernel)

end LeaseFlow.Timelock
