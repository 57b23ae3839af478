import LeaseFlow.Portfolio.Tracking
import LeaseFlow.Archive.Removal

/-!
# Portfolio size accounting

The tracked total of a landlord is meant to be the number of leases it holds.  Only
proposals, early terminations and slashes update it; every other call that opens, closes or
removes a lease leaves it behind, and a slash counts down a lease that was closed before.
-/

set_option autoImplicit false

namespace LeaseFlow

open Transaction

/-- The tracked total of every landlord is the number of leases it holds. -/
def Escrow.Counted (escrow : Escrow) : Prop :=
  ∀ landlord, escrow.velocity.totalLeases landlord = escrow.heldLeases landlord

def World.terminated (world : World) (leaseId : LeaseId) : Prop :=
  ∃ lease, world.leases.lookup leaseId = some lease ∧ lease.status = .terminated

/-- The call changes the number of held leases as it changes the tracked total.  A lease with
continuous billing is opened over a held lease of the same landlord, a closing path that
does not count closes a terminated lease, a dispute reopens none, and a slash finds no lease
left to count down. -/
def Call.KeepsCount (env : Env) (world : World) : Call → Prop
  | .createLeaseWithContinuousBilling params =>
      (world.leases.lookup (billingLeaseId env)).any (LeaseInstance.heldBy params.landlord) = true
  | .payLeaseInstanceRent leaseId _ paymentAmount =>
      world.boughtOutBy leaseId paymentAmount = true → world.terminated leaseId
  | .terminateLease leaseId _ => world.terminated leaseId
  | .concludeLease leaseId _ _ => world.terminated leaseId
  | .resolveDispute leaseId _ _ => world.terminated leaseId
  | .reclaim leaseId _ => world.terminated leaseId
  | .disputeDeposit leaseId _ => ¬ world.terminated leaseId
  | .mutualDepositRelease .. => False
  | .sweepExpiredProposals .. => False
  | .executeDepositSlash payload => ∀ lease, world.leases.lookup payload.leaseId = some lease →
      world.velocity.totalLeases lease.landlord = 0
  | _ => True

/-! ## One record -/

section Record

variable {env : Env} {world after : World} {leaseId : LeaseId} {lease next : LeaseInstance}
  {call : Call}

theorem LeaseInstance.heldBy_iff {landlord : Address} :
    lease.heldBy landlord = true ↔ lease.landlord = landlord ∧ lease.status ≠ .terminated :=
  decide_eq_true_iff

theorem LeaseInstance.heldBy_eq_iff (parties : next.landlord = lease.landlord) :
    (∀ landlord, lease.heldBy landlord = next.heldBy landlord) ↔
      (lease.status = .terminated ↔ next.status = .terminated) := by
  have split (landlord : Address) : lease.heldBy landlord = next.heldBy landlord ↔
      (lease.landlord = landlord → (lease.status = .terminated ↔ next.status = .terminated)) := by
    rw [Bool.eq_iff_iff, LeaseInstance.heldBy_iff, LeaseInstance.heldBy_iff, parties,
      and_congr_right_iff, not_iff_not]
  exact ⟨fun same => (split lease.landlord).mp (same _) rfl, fun same landlord =>
    (split landlord).mpr fun _ => same⟩

theorem LeaseInstance.not_heldBy_iff :
    (∀ landlord, lease.heldBy landlord = false) ↔ lease.status = .terminated := by
  simp [LeaseInstance.heldBy]

theorem LeaseInstance.open_of_running (running : lease.status = .active ∨ lease.status = .expired) :
    lease.status ≠ .terminated := by
  intro terminated
  rcases running with active | expired
  · cases active.symm.trans terminated
  · cases expired.symm.trans terminated

theorem World.terminated_iff (found : world.leases.lookup leaseId = some lease) :
    world.terminated leaseId ↔ lease.status = .terminated := by
  simp [World.terminated, found]

theorem Escrow.Moved.heldLeases {record : Option LeaseInstance} {entries : List DepositEntry}
    {before after : Escrow} (moved : before.Moved leaseId record entries after)
    (landlord : Address) :
    after.heldLeases landlord +
        ((before.leases.lookup leaseId).any (LeaseInstance.heldBy landlord)).toNat =
      before.heldLeases landlord + (record.any (LeaseInstance.heldBy landlord)).toNat := by
  rw [Escrow.heldLeases, moved.leases]
  exact Table.count_set ..

/-- With the trackers as they were, the totals stay right exactly when the record counts for
every landlord as the one it replaces. -/
theorem Escrow.Moved.counted_iff {record : Option LeaseInstance} {entries : List DepositEntry}
    {before after : Escrow} (moved : before.Moved leaseId record entries after)
    (kept : after.velocity = before.velocity) (counted : before.Counted) :
    after.Counted ↔ ∀ landlord, (before.leases.lookup leaseId).any (LeaseInstance.heldBy landlord) =
      record.any (LeaseInstance.heldBy landlord) := by
  refine forall_congr' fun landlord => ?_
  have total := counted landlord
  have held := moved.heldLeases landlord
  rw [kept, total]
  change (before.heldLeases landlord : Nat) = after.heldLeases landlord ↔ _
  generalize Option.any _ (before.leases.lookup leaseId) = replaced at held ⊢
  generalize record.any _ = written at held ⊢
  cases replaced <;> cases written <;> simp at held ⊢ <;> omega

theorem Escrow.Moved.counted_kept_iff {entries : List DepositEntry} {before after : Escrow}
    (moved : before.Moved leaseId (some next) entries after)
    (found : before.leases.lookup leaseId = some lease) (parties : next.landlord = lease.landlord)
    (kept : after.velocity = before.velocity) (counted : before.Counted) :
    after.Counted ↔ (lease.status = .terminated ↔ next.status = .terminated) := by
  rw [moved.counted_iff kept counted, found]
  exact LeaseInstance.heldBy_eq_iff parties

theorem Escrow.Moved.counted_closed_iff {entries : List DepositEntry} {before after : Escrow}
    (moved : before.Moved leaseId (some next) entries after) (closed : next.status = .terminated)
    (found : before.leases.lookup leaseId = some lease) (parties : next.landlord = lease.landlord)
    (kept : after.velocity = before.velocity) (counted : before.Counted) :
    after.Counted ↔ lease.status = .terminated := by
  rw [moved.counted_kept_iff found parties kept counted]
  exact ⟨fun same => same.mpr closed, fun terminated => iff_of_true terminated closed⟩

theorem Escrow.Moved.counted_open_iff {entries : List DepositEntry} {before after : Escrow}
    (moved : before.Moved leaseId (some next) entries after) (running : next.status ≠ .terminated)
    (found : before.leases.lookup leaseId = some lease) (parties : next.landlord = lease.landlord)
    (kept : after.velocity = before.velocity) (counted : before.Counted) :
    after.Counted ↔ lease.status ≠ .terminated := by
  rw [moved.counted_kept_iff found parties kept counted]
  exact ⟨fun same terminated => running (same.mp terminated),
    fun open' => iff_of_false open' running⟩

theorem Escrow.Moved.counted_removed_iff {entries : List DepositEntry} {before after : Escrow}
    (moved : before.Moved leaseId none entries after)
    (found : before.leases.lookup leaseId = some lease)
    (kept : after.velocity = before.velocity) (counted : before.Counted) :
    after.Counted ↔ lease.status = .terminated := by
  rw [moved.counted_iff kept counted, found]
  exact LeaseInstance.not_heldBy_iff

theorem LeaseInstance.heldBy_replaced_iff {stored : Option LeaseInstance}
    (running : next.status ≠ .terminated) :
    (∀ landlord, stored.any (LeaseInstance.heldBy landlord) = next.heldBy landlord) ↔
      stored.any (LeaseInstance.heldBy next.landlord) = true := by
  have holds : next.heldBy next.landlord = true := LeaseInstance.heldBy_iff.mpr ⟨rfl, running⟩
  constructor
  · intro same
    rw [same, holds]
  · intro held
    cases stored with
    | none => cases held
    | some lease =>
        obtain ⟨parties, open'⟩ := LeaseInstance.heldBy_iff.mp held
        exact (LeaseInstance.heldBy_eq_iff parties.symm).mpr (iff_of_false open' running)

end Record

/-! ## One call -/

section Calls

variable {env : Env} {world after : World} {call : Call}

theorem Tracking.velocity_of_aside (tracking : Tracking env call world after)
    (unproposed : call.proposes = none) (unended : call.endedLease = none) :
    after.velocity = world.velocity := by
  cases tracking with
  | kept _ _ velocity => exact velocity
  | enlarged proposes => cases unproposed.symm.trans proposes
  | terminated ends => cases unended.symm.trans ends

theorem Call.keepsCount_of_still (silent : call.subject env = none) :
    call.KeepsCount env world := by
  cases call <;> trivial

theorem Call.aside_of_still (silent : call.subject env = none) :
    call.proposes = none ∧ call.endedLease = none := by
  cases call <;> first | exact ⟨rfl, rfl⟩ | cases silent

theorem Call.aside_of_amended {leaseId : LeaseId} (amends : call.amended = some leaseId) :
    call.proposes = none ∧ call.endedLease = none := by
  cases call <;> first | exact ⟨rfl, rfl⟩ | cases amends

theorem VelocityStore.totalLeases_track {velocity : VelocityStore} {landlord other : Address}
    {tracker : VelocityTracker} :
    (velocity.track landlord tracker).totalLeases other =
      if other = landlord then tracker.totalLeases else velocity.totalLeases other := by
  unfold VelocityStore.totalLeases
  split
  · next same => rw [same, VelocityStore.trackerOf_track]
  · next differs => rw [VelocityStore.trackerOf_track_of_ne differs]

theorem Escrow.Moved.counted_track_iff {leaseId : LeaseId} {record : Option LeaseInstance}
    {entries : List DepositEntry} {before after : Escrow} {landlord : Address}
    {tracker : VelocityTracker} (moved : before.Moved leaseId record entries after)
    (tracked : after.velocity = before.velocity.track landlord tracker) (counted : before.Counted)
    (others : ∀ other, other ≠ landlord →
      (before.leases.lookup leaseId).any (LeaseInstance.heldBy other) =
        record.any (LeaseInstance.heldBy other)) :
    after.Counted ↔ tracker.totalLeases = after.heldLeases landlord := by
  constructor
  · intro after_counted
    rw [← after_counted landlord, tracked, VelocityStore.totalLeases_track, if_pos rfl]
  · intro total other
    rw [tracked, VelocityStore.totalLeases_track]
    split
    · next same => rw [same, total]
    · next differs =>
        have held := moved.heldLeases other
        rw [others other differs, ← counted other] at held
        exact (Nat.add_right_cancel held).symm

theorem counted_of_proposed {leaseId : LeaseId} {lease : LeaseInstance}
    {entries : List DepositEntry} {before after : Escrow}
    (moved : before.Moved leaseId (some lease) entries after)
    (fresh : before.leases.lookup leaseId = none) (running : lease.status ≠ .terminated)
    (tracked : after.velocity = before.velocity.track lease.landlord
      (before.velocity.trackerOf lease.landlord).enlarged) (counted : before.Counted) :
    after.Counted := by
  have held := moved.heldLeases lease.landlord
  have holds : lease.heldBy lease.landlord = true := LeaseInstance.heldBy_iff.mpr ⟨rfl, running⟩
  rw [fresh, Option.any_some, holds, ← counted lease.landlord] at held
  refine (moved.counted_track_iff tracked counted fun other differs => ?_).mpr held.symm
  rw [fresh, Option.any_some, Option.any_none, eq_comm, Bool.eq_false_iff]
  exact fun heldBy => differs (LeaseInstance.heldBy_iff.mp heldBy).1.symm

theorem counted_of_endedEarly {leaseId : LeaseId} {lease : LeaseInstance} {now : U64}
    {entries : List DepositEntry} {before after : Escrow}
    (moved : before.Moved leaseId none entries after)
    (found : before.leases.lookup leaseId = some lease) (running : lease.status ≠ .terminated)
    (tracked : after.velocity = before.velocity.track lease.landlord
      ((before.velocity.trackerOf lease.landlord).terminated now)) (counted : before.Counted) :
    after.Counted := by
  have held := moved.heldLeases lease.landlord
  have holds : lease.heldBy lease.landlord = true := LeaseInstance.heldBy_iff.mpr ⟨rfl, running⟩
  rw [found, Option.any_some, holds, ← counted lease.landlord] at held
  refine (moved.counted_track_iff tracked counted fun other differs => ?_).mpr
    (Nat.sub_eq_of_eq_add held.symm)
  rw [found, Option.any_some, Option.any_none, Bool.eq_false_iff]
  exact fun heldBy => differs (LeaseInstance.heldBy_iff.mp heldBy).1.symm

/-- A slash counts down a lease that stays as held as it was. -/
theorem counted_slashed_iff {leaseId : LeaseId} {lease : LeaseInstance} {now : U64}
    {entries : List DepositEntry} {before after : Escrow}
    (moved : before.Moved leaseId (some lease.slashed) entries after)
    (found : before.leases.lookup leaseId = some lease)
    (tracked : after.velocity = before.velocity.track lease.landlord
      ((before.velocity.trackerOf lease.landlord).terminated now)) (counted : before.Counted) :
    after.Counted ↔ before.velocity.totalLeases lease.landlord = 0 := by
  have same (landlord : Address) : lease.heldBy landlord = lease.slashed.heldBy landlord := rfl
  have held := moved.heldLeases lease.landlord
  rw [found, Option.any_some, Option.any_some, ← same, ← counted lease.landlord] at held
  have kept := Nat.add_right_cancel held
  rw [moved.counted_track_iff tracked counted fun other _ => by
    rw [found, Option.any_some, Option.any_some, same], kept]
  have drained (total : Nat) : total - 1 = total ↔ total = 0 := by omega
  exact drained _

theorem Call.keepsCount_of_amended {leaseId : LeaseId} {lease : LeaseInstance}
    (amends : call.amended = some leaseId) (run : Commits (dispatch env call) world () after)
    (stored : after.leases.lookup leaseId = some lease) : call.KeepsCount env world := by
  cases call with
  | payLeaseInstanceRent other payer paymentAmount =>
      obtain rfl : other = leaseId := Option.some.inj amends
      intro bought
      cases stored.symm.trans ((payLeaseInstanceRent_removes_iff run).mp bought)
  | _ => trivial

/-- From a store with the right totals, a committed call leaves them right exactly when it
keeps the count. -/
theorem dispatch_counted_iff (quiet : world.velocity.Quiet)
    (counted : world.toEscrow.Counted) (run : Commits (dispatch env call) world () after) :
    after.toEscrow.Counted ↔ call.KeepsCount env world := by
  have tracking := dispatch_tracking quiet run
  cases (dispatch_effect run).movement with
  | still silent leases _ =>
      obtain ⟨unproposed, unended⟩ := Call.aside_of_still silent
      refine iff_of_true (fun landlord => ?_) (Call.keepsCount_of_still silent)
      rw [Escrow.heldLeases, leases, tracking.velocity_of_aside unproposed unended]
      exact counted landlord
  | opened opening moved =>
      cases opening with
      | proposed fresh =>
          refine iff_of_true ?_ trivial
          exact counted_of_proposed moved fresh (by nofun) (createLeaseInstance_velocity run) counted
      | billed =>
          rw [moved.counted_iff (tracking.velocity_of_aside rfl rfl) counted]
          exact LeaseInstance.heldBy_replaced_iff (by nofun)
  | changed found change moved =>
      cases change with
      | amended amends terms =>
          obtain ⟨unproposed, unended⟩ := Call.aside_of_amended amends
          have velocity := tracking.velocity_of_aside unproposed unended
          rw [moved.counted_kept_iff found terms.landlord velocity counted, terms.status]
          exact iff_of_true Iff.rfl (Call.keepsCount_of_amended amends run moved.lookup_self)
      | boughtOut priced reached =>
          have bought := (payLeaseInstanceRent_removes_iff run).mpr moved.lookup_self
          rw [moved.counted_removed_iff found (tracking.velocity_of_aside rfl rfl) counted,
            Call.KeepsCount, imp_iff_right bought, World.terminated_iff found]
      | settled =>
          rw [moved.counted_kept_iff found rfl (tracking.velocity_of_aside rfl rfl) counted]
          exact iff_of_true Iff.rfl trivial
      | concluded =>
          rw [moved.counted_closed_iff rfl found rfl (tracking.velocity_of_aside rfl rfl) counted,
            Call.KeepsCount, World.terminated_iff found]
      | resolved =>
          rw [moved.counted_closed_iff rfl found rfl (tracking.velocity_of_aside rfl rfl) counted,
            Call.KeepsCount, World.terminated_iff found]
      | disputed =>
          rw [moved.counted_open_iff (by nofun) found rfl (tracking.velocity_of_aside rfl rfl)
            counted, Call.KeepsCount, World.terminated_iff found]
      | fallbackDisputed running =>
          rw [moved.counted_open_iff (by nofun) found rfl (tracking.velocity_of_aside rfl rfl)
            counted]
          exact iff_of_true (LeaseInstance.open_of_running running) trivial
      | released running =>
          rw [moved.counted_closed_iff rfl found rfl (tracking.velocity_of_aside rfl rfl) counted]
          exact iff_of_false (LeaseInstance.open_of_running running) id
      | reclaimed =>
          rw [moved.counted_closed_iff rfl found rfl (tracking.velocity_of_aside rfl rfl) counted,
            Call.KeepsCount, World.terminated_iff found]
      | terminated =>
          rw [moved.counted_removed_iff found (tracking.velocity_of_aside rfl rfl) counted,
            Call.KeepsCount, World.terminated_iff found]
      | endedEarly running timely =>
          obtain ⟨_, lookup, _, velocity⟩ := executeEarlyTermination_velocity run
          cases found.symm.trans lookup
          exact iff_of_true (counted_of_endedEarly moved found running velocity counted) trivial
      | swept pending =>
          rw [moved.counted_removed_iff found (tracking.velocity_of_aside rfl rfl) counted]
          refine iff_of_false (fun terminated => ?_) id
          cases pending.symm.trans terminated
      | slashed names ended =>
          subst names
          obtain ⟨_, lookup, _, velocity⟩ := executeDepositSlash_velocity run
          cases found.symm.trans lookup
          rw [counted_slashed_iff moved found velocity counted, Call.KeepsCount, found]
          simp
      | deployed =>
          rw [moved.counted_kept_iff found rfl (tracking.velocity_of_aside rfl rfl) counted]
          exact iff_of_true Iff.rfl trivial
      | withdrawn =>
          rw [moved.counted_kept_iff found rfl (tracking.velocity_of_aside rfl rfl) counted]
          exact iff_of_true Iff.rfl trivial

end Calls

/-! ## Runs -/

/-- In a run from a new deployment the tracked totals are right in every state exactly when
every committed call keeps the count. -/
theorem portfolios_counted_iff (config : ConfigStore) (billing : BillingStore)
    (securityCouncil : Option SecurityCouncil) (calls : List Invocation) :
    Run.MeetsAlong step (fun invocation world => (step invocation world).toEscrow.Counted) calls
      (World.genesis config billing securityCouncil) ↔
    Run.MeetsAlong step (fun invocation world =>
      invocation.Committed world → invocation.call.KeepsCount invocation.env world) calls
      (World.genesis config billing securityCouncil) := by
  refine @Run.invariant_along_iff _ _ step Reachable (fun world => world.toEscrow.Counted) _
    (fun call _ reached => reached.next call) (fun invocation world reached counted => ?_) calls _
    (.genesis config billing securityCouncil) fun _ => rfl
  exact step_keeps_iff counted fun next run =>
    dispatch_counted_iff reached.safeguards.quiet counted run

/-- A concluded lease is counted and not held any more. -/
theorem concluded_lease_miscounted :
    let concluded := Run.run step [propose 50 7 100 0, callAt 60 (.concludeLease 7 ⟨1⟩ 0)] freshWorld
    concluded.velocity.totalLeases ⟨1⟩ = 1 ∧ concluded.heldLeases ⟨1⟩ = 0 ∧
      ¬ concluded.toEscrow.Counted := by
  refine ⟨rfl, rfl, fun counted => ?_⟩
  cases counted ⟨1⟩

end LeaseFlow
