import LeaseFlow.Escrow.Effect

/-!
# Status and active flag

A lease is marked closed twice, by its status and by a bit of its flags.  Rent payment
looks at the bit only, and two of the closing calls set only the status.
-/

set_option autoImplicit false

namespace LeaseFlow

open Transaction

/-- A terminated lease is not flagged active. -/
def LeaseInstance.FlagAgrees (lease : LeaseInstance) : Prop :=
  lease.status = .terminated → lease.flags.has .active = false

def Escrow.FlagsAgree (escrow : Escrow) : Prop :=
  ∀ leaseId lease, escrow.leases.lookup leaseId = some lease → lease.FlagAgrees

/-- The calls that terminate a lease and leave its flags alone, on a lease flagged active. -/
def Call.LeavesActive (lease : LeaseInstance) : Call → Prop
  | .concludeLease .. => lease.flags.has .active = true
  | .resolveDispute .. => lease.flags.has .active = true
  | _ => False

def Invocation.LeavesActive (invocation : Invocation) (world : World) : Prop :=
  ∃ leaseId lease, invocation.call.subject invocation.env = some leaseId ∧
    world.leases.lookup leaseId = some lease ∧ invocation.call.LeavesActive lease

/-- The call is a rent payment for a terminated lease, and goes through. -/
def Invocation.PaysTerminated (invocation : Invocation) (world : World) : Prop :=
  ∃ leaseId payer paymentAmount lease,
    invocation.call = .payLeaseInstanceRent leaseId payer paymentAmount ∧
    invocation.Committed world ∧ world.leases.lookup leaseId = some lease ∧
    lease.status = .terminated

/-! ## One record -/

section Record

variable {env : Env} {world : World} {leaseId : LeaseId} {lease next : LeaseInstance} {call : Call}

theorem LeaseInstance.flagAgrees_of_open (running : next.status ≠ .terminated) :
    next.FlagAgrees :=
  fun terminated => absurd terminated running

theorem LeaseInstance.flagAgrees_iff_of_terminated (terminated : next.status = .terminated) :
    next.FlagAgrees ↔ ¬ next.flags.has .active = true := by
  rw [Bool.not_eq_true]
  exact ⟨fun agrees => agrees terminated, fun cleared _ => cleared⟩

theorem Call.not_leavesActive_of_amended (amends : call.amended = some leaseId) :
    ¬ call.LeavesActive lease := by
  cases call <;> first | exact id | cases amends

theorem LeaseChange.flagAgrees_iff {record : Option LeaseInstance} {entries : List DepositEntry}
    (change : LeaseChange env world leaseId lease call record entries)
    (agrees : lease.FlagAgrees) (kept : record = some next) :
    next.FlagAgrees ↔ ¬ call.LeavesActive lease := by
  cases change with
  | amended amends terms =>
      cases kept
      refine iff_of_true (fun terminated => ?_) (Call.not_leavesActive_of_amended amends)
      rw [terms.active]
      exact agrees (terms.status.symm.trans terminated)
  | settled =>
      cases kept
      exact iff_of_true agrees id
  | concluded =>
      cases kept
      exact LeaseInstance.flagAgrees_iff_of_terminated rfl
  | resolved =>
      cases kept
      exact LeaseInstance.flagAgrees_iff_of_terminated rfl
  | disputed =>
      cases kept
      exact iff_of_true (LeaseInstance.flagAgrees_of_open (by simp)) id
  | fallbackDisputed =>
      cases kept
      exact iff_of_true (LeaseInstance.flagAgrees_of_open (by simp)) id
  | released =>
      cases kept
      exact iff_of_true (fun _ => LeaseFlags.has_clear _ _) id
  | reclaimed =>
      cases kept
      exact iff_of_true (fun _ => LeaseFlags.has_clear _ _) id
  | slashed =>
      cases kept
      exact iff_of_true (fun _ => LeaseFlags.has_clear _ _) id
  | deployed =>
      cases kept
      exact iff_of_true agrees id
  | withdrawn =>
      cases kept
      exact iff_of_true agrees id
  | boughtOut => cases kept
  | terminated => cases kept
  | endedEarly => cases kept
  | swept => cases kept

theorem LeaseChange.not_leavesActive_of_removed {record : Option LeaseInstance}
    {entries : List DepositEntry}
    (change : LeaseChange env world leaseId lease call record entries)
    (removed : record = none) : ¬ call.LeavesActive lease := by
  cases change with
  | boughtOut => exact id
  | terminated => exact id
  | endedEarly => exact id
  | swept => exact id
  | _ => cases removed

theorem Opening.flagAgrees (opening : Opening env world call leaseId lease) :
    lease.FlagAgrees := by
  apply LeaseInstance.flagAgrees_of_open
  cases opening with
  | proposed fresh => simp [proposedLease]
  | billed => simp [billedLease]

theorem Opening.not_leavesActive {other : LeaseInstance}
    (opening : Opening env world call leaseId lease) : ¬ call.LeavesActive other := by
  cases opening <;> exact id

end Record

/-! ## The store -/

section Store

variable {before after : Escrow} {leaseId : LeaseId} {record : Option LeaseInstance}
  {entries : List DepositEntry}

theorem Escrow.Moved.flagsAgree_iff (moved : before.Moved leaseId record entries after)
    (agree : before.FlagsAgree) :
    after.FlagsAgree ↔ ∀ next, record = some next → next.FlagAgrees := by
  constructor
  · intro agreeAfter next kept
    exact agreeAfter leaseId next (moved.lookup_self.trans kept)
  · intro agrees
    unfold Escrow.FlagsAgree
    rw [moved.leases]
    exact Table.forall_set agree agrees

theorem Invocation.leavesActive_iff {invocation : Invocation} {world : World}
    {lease : LeaseInstance} (subject : invocation.call.subject invocation.env = some leaseId)
    (found : world.leases.lookup leaseId = some lease) :
    invocation.LeavesActive world ↔ invocation.call.LeavesActive lease := by
  constructor
  · rintro ⟨other, stored, names, refound, leaves⟩
    obtain rfl : leaseId = other := Option.some.inj (subject.symm.trans names)
    obtain rfl : lease = stored := Option.some.inj (found.symm.trans refound)
    exact leaves
  · intro leaves
    exact ⟨leaseId, lease, subject, found, leaves⟩

theorem Movement.flagsAgree_iff {invocation : Invocation} {world : World}
    (movement : Movement invocation.env invocation.call world after)
    (agree : world.toEscrow.FlagsAgree) :
    after.FlagsAgree ↔ ¬ invocation.LeavesActive world := by
  cases movement with
  | still silent leases _ =>
      refine iff_of_true ?_ ?_
      · unfold Escrow.FlagsAgree
        rw [leases]
        exact agree
      · rintro ⟨_, _, names, _⟩
        cases silent.symm.trans names
  | opened opening moved =>
      refine iff_of_true ((moved.flagsAgree_iff agree).mpr fun next kept => ?_) ?_
      · cases kept
        exact opening.flagAgrees
      · rintro ⟨_, _, _, _, leaves⟩
        exact opening.not_leavesActive leaves
  | @changed _ lease record _ found change moved =>
      rw [moved.flagsAgree_iff agree, Invocation.leavesActive_iff change.subject found]
      cases kept : record with
      | none =>
          refine iff_of_true (fun next absent => ?_) (change.not_leavesActive_of_removed kept)
          cases absent
      | some next =>
          rw [← change.flagAgrees_iff (agree _ lease found) kept]
          constructor
          · intro agrees
            exact agrees next rfl
          · intro agrees other same
            rwa [← Option.some.inj same]

end Store

/-! ## Runs -/

theorem step_flagsAgree_iff {invocation : Invocation} {world : World}
    (agree : world.toEscrow.FlagsAgree) :
    (step invocation world).toEscrow.FlagsAgree ↔
      (invocation.Committed world → ¬ invocation.LeavesActive world) := by
  exact step_keeps_iff agree fun next run => (dispatch_effect run).movement.flagsAgree_iff agree

theorem not_paysTerminated {invocation : Invocation} {world : World}
    (agree : world.toEscrow.FlagsAgree) : ¬ invocation.PaysTerminated world := by
  rintro ⟨leaseId, payer, paymentAmount, lease, names, committed, found, terminated⟩
  obtain ⟨env, call⟩ := invocation
  change call = _ at names
  subst names
  have flagged : lease.flags.has .active = true := payLeaseInstanceRent_active found committed.commits
  rw [agree leaseId lease found terminated] at flagged
  cases flagged

/-- In a run from a new deployment, status and flag agree in every state and no rent is
accepted for a terminated lease, exactly when no committed call terminates a lease and
leaves it flagged active. -/
theorem flags_agree_iff (config : ConfigStore) (billing : BillingStore)
    (securityCouncil : Option SecurityCouncil) (calls : List Invocation) :
    (Run.MeetsAlong step (fun invocation world => (step invocation world).toEscrow.FlagsAgree)
        calls (World.genesis config billing securityCouncil) ∧
      Run.MeetsAlong step (fun invocation world => ¬ invocation.PaysTerminated world)
        calls (World.genesis config billing securityCouncil)) ↔
    Run.MeetsAlong step (fun invocation world =>
      invocation.Committed world → ¬ invocation.LeavesActive world)
      calls (World.genesis config billing securityCouncil) := by
  have initially : (World.genesis config billing securityCouncil).toEscrow.FlagsAgree := by
    intro leaseId lease found
    cases found
  have decided : ∀ (invocation : Invocation) (world : World), True →
      world.toEscrow.FlagsAgree → ((step invocation world).toEscrow.FlagsAgree ↔
        (invocation.Committed world → ¬ invocation.LeavesActive world)) :=
    fun _ _ _ agree => step_flagsAgree_iff agree
  have along := @Run.invariant_along_iff _ _ step (fun _ => True)
    (fun world => world.toEscrow.FlagsAgree) _ (fun _ _ _ => trivial) decided calls
    (World.genesis config billing securityCouncil) trivial initially
  constructor
  · rintro ⟨agree, _⟩
    exact along.mp agree
  · intro meets
    refine ⟨along.mpr meets, ?_⟩
    exact @Run.meetsAlong_of_invariant _ _ step (fun world => world.toEscrow.FlagsAgree) _ _
      (fun _ _ kept agree => (step_flagsAgree_iff agree).mpr kept)
      (fun _ _ _ agree => not_paysTerminated agree) calls _ meets initially

/-- A concluded lease stays flagged active and takes rent. -/
theorem concluded_lease_takes_rent :
    ¬ (Run.run step [propose 50 7 200 50, callAt 60 (.concludeLease 7 ⟨1⟩ 0)]
        freshWorld).toEscrow.FlagsAgree ∧
      (callAt 70 (.payLeaseInstanceRent 7 ⟨2⟩ 10)).PaysTerminated
        (Run.run step [propose 50 7 200 50, callAt 60 (.concludeLease 7 ⟨1⟩ 0)] freshWorld) := by
  constructor
  · intro agree
    have cleared := agree 7 _ rfl rfl
    cases cleared
  · exact ⟨7, ⟨2⟩, 10, _, rfl, show _ = true by decide, rfl, rfl⟩

end LeaseFlow
