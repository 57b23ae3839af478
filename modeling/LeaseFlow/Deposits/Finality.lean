import LeaseFlow.Escrow.Effect

/-!
# Finality of the lease and deposit states

Which calls move a terminated lease or a settled deposit back to an open state.
-/

set_option autoImplicit false

namespace LeaseFlow

open Transaction

def LeaseInstance.Closed (lease : LeaseInstance) : Prop :=
  lease.status = .terminated ∨ lease.depositStatus = .settled

/-- Neither a termination nor a settlement of the first record is undone in the second. -/
structure LeaseInstance.Absorbs (lease next : LeaseInstance) : Prop where
  status : lease.status = .terminated → next.status = .terminated
  depositStatus : lease.depositStatus = .settled → next.depositStatus = .settled

/-- Every record that is still stored afterwards kept what was final in it. -/
def Escrow.Final (before after : Escrow) : Prop :=
  ∀ leaseId lease next, before.leases.lookup leaseId = some lease →
    after.leases.lookup leaseId = some next → lease.Absorbs next

/-- The calls that look at too little of the record they overwrite. -/
def Call.Reopens (lease : LeaseInstance) : Call → Prop
  | .disputeDeposit .. => lease.Closed
  | .initMutualReleaseFb .. => lease.depositStatus = .settled
  | .createLeaseWithContinuousBilling .. => lease.Closed
  | _ => False

/-- The call would overwrite what is final in the record of its subject. -/
def Invocation.Reopens (invocation : Invocation) (world : World) : Prop :=
  ∃ leaseId lease, invocation.call.subject invocation.env = some leaseId ∧
    world.leases.lookup leaseId = some lease ∧ invocation.call.Reopens lease

/-! ## One record -/

section Record

variable {env : Env} {world : World} {leaseId : LeaseId} {lease next : LeaseInstance} {call : Call}

theorem LeaseInstance.Absorbs.of_same (status : next.status = lease.status)
    (depositStatus : next.depositStatus = lease.depositStatus) : lease.Absorbs next :=
  ⟨status.trans, depositStatus.trans⟩

theorem LeaseInstance.Absorbs.of_final (status : next.status = .terminated)
    (depositStatus : next.depositStatus = .settled) : lease.Absorbs next :=
  ⟨fun _ => status, fun _ => depositStatus⟩

/-- A record that is open afterwards undoes whatever was final before. -/
theorem LeaseInstance.absorbs_open_iff (running : next.status ≠ .terminated)
    (unsettled : next.depositStatus ≠ .settled) : lease.Absorbs next ↔ ¬ lease.Closed := by
  constructor
  · rintro absorbs (terminated | settled)
    · exact running (absorbs.status terminated)
    · exact unsettled (absorbs.depositStatus settled)
  · intro unclosed
    exact ⟨fun terminated => absurd (.inl terminated) unclosed,
      fun settled => absurd (.inr settled) unclosed⟩

theorem Call.not_reopens_of_amended (amends : call.amended = some leaseId) :
    ¬ call.Reopens lease := by
  cases call <;> first | exact id | cases amends

theorem LeaseChange.absorbs_iff {record : Option LeaseInstance} {entries : List DepositEntry}
    (change : LeaseChange env world leaseId lease call record entries)
    (kept : record = some next) : lease.Absorbs next ↔ ¬ call.Reopens lease := by
  cases change with
  | amended amends terms =>
      cases kept
      exact iff_of_true (.of_same terms.status terms.depositStatus)
        (Call.not_reopens_of_amended amends)
  | settled =>
      cases kept
      exact iff_of_true ⟨id, fun _ => rfl⟩ id
  | concluded =>
      cases kept
      exact iff_of_true (.of_final rfl rfl) id
  | resolved =>
      cases kept
      exact iff_of_true (.of_final rfl rfl) id
  | disputed =>
      cases kept
      exact LeaseInstance.absorbs_open_iff (by simp) (by simp)
  | fallbackDisputed running =>
      cases kept
      rw [LeaseInstance.absorbs_open_iff (by simp) (by simp)]
      refine not_congr ⟨?_, .inr⟩
      rintro (terminated | settled)
      · rw [terminated] at running
        rcases running with active | expired
        · cases active
        · cases expired
      · exact settled
  | released =>
      cases kept
      exact iff_of_true (.of_final rfl rfl) id
  | reclaimed =>
      cases kept
      exact iff_of_true ⟨fun _ => rfl, id⟩ id
  | slashed =>
      cases kept
      exact iff_of_true ⟨id, fun _ => rfl⟩ id
  | deployed =>
      cases kept
      exact iff_of_true (.of_same rfl rfl) id
  | withdrawn =>
      cases kept
      exact iff_of_true (.of_same rfl rfl) id
  | boughtOut => cases kept
  | terminated => cases kept
  | endedEarly => cases kept
  | swept => cases kept

theorem LeaseChange.not_reopens_of_removed {record : Option LeaseInstance}
    {entries : List DepositEntry}
    (change : LeaseChange env world leaseId lease call record entries)
    (removed : record = none) : ¬ call.Reopens lease := by
  cases change with
  | boughtOut => exact id
  | terminated => exact id
  | endedEarly => exact id
  | swept => exact id
  | _ => cases removed

theorem Opening.absorbs_iff {opened : LeaseInstance}
    (opening : Opening env world call leaseId opened)
    (found : world.leases.lookup leaseId = some lease) :
    lease.Absorbs opened ↔ ¬ call.Reopens lease := by
  cases opening with
  | proposed fresh => cases fresh.symm.trans found
  | billed => exact LeaseInstance.absorbs_open_iff (by simp [billedLease]) (by simp [billedLease])

end Record

/-! ## The store -/

section Store

variable {before after : Escrow} {leaseId : LeaseId} {record : Option LeaseInstance}
  {entries : List DepositEntry}

/-- Only the record that moved can lose its finality. -/
theorem Escrow.Moved.final_iff (moved : before.Moved leaseId record entries after) :
    before.Final after ↔ ∀ lease next, before.leases.lookup leaseId = some lease →
      record = some next → lease.Absorbs next := by
  constructor
  · intro final lease next found kept
    exact final leaseId lease next found (moved.lookup_self.trans kept)
  · intro absorbs other lease next found stored
    rcases eq_or_ne other leaseId with rfl | differs
    · exact absorbs lease next found (moved.lookup_self.symm.trans stored)
    · rw [moved.lookup_other differs, found] at stored
      cases stored
      exact .of_same rfl rfl

theorem Invocation.reopens_iff {invocation : Invocation} {world : World}
    (subject : invocation.call.subject invocation.env = some leaseId) :
    invocation.Reopens world ↔
      ∃ lease, world.leases.lookup leaseId = some lease ∧ invocation.call.Reopens lease := by
  constructor
  · rintro ⟨other, lease, names, found, reopens⟩
    obtain rfl : leaseId = other := Option.some.inj (subject.symm.trans names)
    exact ⟨lease, found, reopens⟩
  · rintro ⟨lease, found, reopens⟩
    exact ⟨leaseId, lease, subject, found, reopens⟩

theorem Movement.final_iff {invocation : Invocation} {world : World}
    (movement : Movement invocation.env invocation.call world after) :
    world.toEscrow.Final after ↔ ¬ invocation.Reopens world := by
  cases movement with
  | still silent leases _ =>
      refine iff_of_true (fun leaseId lease next found stored => ?_) ?_
      · rw [leases, found] at stored
        cases stored
        exact .of_same rfl rfl
      · rintro ⟨leaseId, _, names, _⟩
        cases silent.symm.trans names
  | opened opening moved =>
      rw [moved.final_iff, Invocation.reopens_iff opening.subject]
      constructor
      · rintro absorbs ⟨lease, found, reopens⟩
        exact (opening.absorbs_iff found).mp (absorbs lease _ found rfl) reopens
      · intro unopened lease next found kept
        cases kept
        exact (opening.absorbs_iff found).mpr fun reopens => unopened ⟨lease, found, reopens⟩
  | @changed _ lease record _ found change moved =>
      rw [moved.final_iff, Invocation.reopens_iff change.subject]
      constructor
      · rintro absorbs ⟨other, stored, reopens⟩
        obtain rfl : lease = other := Option.some.inj (found.symm.trans stored)
        cases kept : record with
        | some next => exact (change.absorbs_iff kept).mp (absorbs lease next found kept) reopens
        | none => exact change.not_reopens_of_removed kept reopens
      · intro unopened other next stored kept
        obtain rfl : lease = other := Option.some.inj (found.symm.trans stored)
        exact (change.absorbs_iff kept).mpr fun reopens => unopened ⟨lease, found, reopens⟩

end Store

/-- A committed call keeps every termination and settlement exactly when it does not
reopen the record of its subject. -/
theorem step_final_iff {invocation : Invocation} {world : World}
    (committed : invocation.Committed world) :
    world.toEscrow.Final (step invocation world).toEscrow ↔ ¬ invocation.Reopens world :=
  (dispatch_effect committed.commits).movement.final_iff

theorem conclusion_final :
    (step (propose 50 7 200 50) freshWorld).toEscrow.Final
      (step (callAt 60 (.concludeLease 7 ⟨1⟩ 0))
        (step (propose 50 7 200 50) freshWorld)).toEscrow :=
  (step_final_iff (show _ = true by decide)).mpr (by rintro ⟨_, _, _, _, reopens⟩; exact reopens)

/-- A concluded lease is terminated and settled; a dispute of its deposit reopens both. -/
theorem dispute_reopens_concluded_lease :
    ¬ (Run.run step [propose 50 7 200 50, callAt 60 (.concludeLease 7 ⟨1⟩ 0)]
        freshWorld).toEscrow.Final
      (Run.run step [propose 50 7 200 50, callAt 60 (.concludeLease 7 ⟨1⟩ 0),
        callAt 70 (.disputeDeposit 7 ⟨2⟩)] freshWorld).toEscrow := by
  intro final
  have absorbs := final 7 _ _ rfl rfl
  cases absorbs.status rfl

end LeaseFlow
