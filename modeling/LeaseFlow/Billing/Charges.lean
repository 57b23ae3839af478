import LeaseFlow.Billing.Bookkeeping
import LeaseFlow.Foundations.Tiling

/-!
# The time a lease is billed for

A billing runs from the start of its cycle to the ledger time, or to the end of the lease, and
moves the cycle on by one period only.  Beside the storage a run keeps the invoices of a lease
since its registration.  They tile the lease exactly as long as every cycle starts where the
invoice before it ended.
-/

set_option autoImplicit false

namespace LeaseFlow.Billing

open Transaction Run

/-! ## Invoices beside the storage -/

/-- The invoices of a lease since it was registered, newest first, the arrears its payments have
posted to it, and when it was last billed. -/
structure BilledTime where
  invoices : List BillingCycle
  reposted : Int
  billedAt : U64

/-- The seconds an invoice charges. -/
def BillingCycle.seconds (cycle : BillingCycle) : Finset Nat :=
  Finset.Ico cycle.cycleStart (cycle.cycleStart + cycle.actualDurationSeconds)

def BilledTime.seconds (time : BilledTime) : Finset Nat :=
  Tiling.covered (time.invoices.map BillingCycle.seconds)

def Books.owed (leaseId : U64) (books : Books) : Int :=
  (books.leases.lookup leaseId).elim 0 ActiveLease.totalOwed

/-- A committed billing of the lease adds its invoice, a payment what it posts; a registration
starts over. -/
def Operation.keepTime (env : Env) (leaseId : U64) (before after : Books) (time : BilledTime) :
    Operation → BilledTime
  | .registerLeaseBilling registered .. => if registered = leaseId then ⟨[], 0, 0⟩ else time
  | .processBillingCycle billed _ =>
      if billed = leaseId then
        { time with
          invoices := (after.cycles.lookup env.sequence).toList ++ time.invoices
          billedAt := env.timestamp }
      else time
  | .processPayment .. =>
      { time with reposted := time.reposted + (after.owed leaseId - before.owed leaseId) }
  | .executePullPayment .. =>
      { time with reposted := time.reposted + (after.owed leaseId - before.owed leaseId) }
  | _ => time

def keepTime (leaseId : U64) (call : Call) (store : Store) (time : BilledTime) : BilledTime :=
  if call.body.succeeds store = true then
    call.operation.keepTime call.env leaseId store.books (step call store).books time
  else time

/-! ## Every second once -/

/-- The lease owes every billed second, which lie within it and in one invoice each. -/
structure ActiveLease.ChargedOnce (lease : ActiveLease) (time : BilledTime) : Prop where
  owed : lease.totalOwed - time.reposted = lease.rentPerSecond * time.seconds.card
  apart : (time.invoices.map BillingCycle.seconds).Pairwise Disjoint
  within : time.seconds ⊆ Finset.Ico lease.startTime lease.endTime

/-- Every second of the lease until the given time that lies before its current cycle has been
billed. -/
def ActiveLease.BilledUntil (timestamp : U64) (lease : ActiveLease) (time : BilledTime) : Prop :=
  ∀ second, lease.startTime ≤ second → second < min timestamp lease.endTime →
    second < lease.lastBillingCycle → second ∈ time.seconds

/-- The lease is charged by the second, and its next cycle has begun. -/
structure ActiveLease.Due (timestamp next : U64) (lease : ActiveLease) : Prop where
  perSecond : 0 < lease.rentPerSecond
  active : lease.status = .active ∧ lease.billingEnabled = true
  follows : nextCycleTime lease = some next
  begun : next ≤ timestamp

/-- A billing of the lease never underflows; after it, as after every call, each second is charged
once; and none before the current cycle is left out. -/
structure ChargesOnce (leaseId : U64) (call : Call) (before after : Store × BilledTime) : Prop where
  settles : ∀ processor lease next, call.operation = .processBillingCycle leaseId processor →
    before.1.leases.lookup leaseId = some lease → lease.Due call.env.timestamp next →
    actualDuration call.env.timestamp next lease ≠ none
  charged : ∀ lease, after.1.leases.lookup leaseId = some lease → 0 < lease.rentPerSecond →
    lease.ChargedOnce after.2
  covers : ∀ processor lease, call.operation = .processBillingCycle leaseId processor →
    call.body.succeeds before.1 = true → after.1.leases.lookup leaseId = some lease →
    0 < lease.rentPerSecond → lease.BilledUntil call.env.timestamp after.2

/-- The lease is not billed in a cycle that begins after its end; and the cycle of every billing
that goes through begins where the invoice before it ended. -/
def Call.BillsInStep (leaseId : U64) (call : Call) (state : Store × BilledTime) : Prop :=
  ∀ processor lease next, call.operation = .processBillingCycle leaseId processor →
    state.1.leases.lookup leaseId = some lease → lease.Due call.env.timestamp next →
    next ≤ lease.endTime ∧
      (call.body.succeeds state.1 = true → ∀ last ∈ state.2.invoices.head?,
        last.cycleStart + last.actualDurationSeconds = next)

def Call.billsLease (leaseId : U64) (call : Call) : Bool :=
  match call.operation with
  | .processBillingCycle billed _ => decide (billed = leaseId)
  | _ => false

/-- The lease is billed at times that do not decrease. -/
def BilledInOrder (leaseId : U64) (calls : List Call) : Prop :=
  (calls.filter (Call.billsLease leaseId)).Pairwise fun earlier later =>
    earlier.env.timestamp ≤ later.env.timestamp

instance (leaseId : U64) (calls : List Call) : Decidable (BilledInOrder leaseId calls) :=
  inferInstanceAs (Decidable (List.Pairwise _ _))

/-! ## Tiled leases -/

/-- The invoices tile the lease from its start to the finish. -/
structure ActiveLease.TiledTo (lease : ActiveLease) (time : BilledTime) (finish : Nat) : Prop where
  covers : lease.startTime ≤ finish
  seconds : time.seconds = Finset.Ico lease.startTime finish
  apart : (time.invoices.map BillingCycle.seconds).Pairwise Disjoint
  owed : lease.totalOwed - time.reposted = lease.rentPerSecond * (finish - lease.startTime : Nat)
  unbilled : time.invoices.head? = none → lease.lastBillingCycle = 0 ∧ finish = lease.startTime
  billed : ∀ last, time.invoices.head? = some last →
    lease.lastBillingCycle = last.cycleStart ∧ lease.startTime ≤ last.cycleStart ∧
      finish = last.cycleStart + last.actualDurationSeconds ∧
      finish = min time.billedAt lease.endTime

section Lease

variable {lease : ActiveLease} {time : BilledTime} {finish : Nat} {timestamp next duration : U64}

theorem ActiveLease.TiledTo.chargedOnce (tiled : lease.TiledTo time finish) :
    lease.ChargedOnce time := by
  constructor
  · rw [tiled.owed, tiled.seconds, Nat.card_Ico]
  · exact tiled.apart
  · rw [tiled.seconds]
    cases head : time.invoices.head? with
    | none =>
        rw [(tiled.unbilled head).2, Finset.Ico_self]
        exact Finset.empty_subset _
    | some last =>
        obtain ⟨_, _, _, ends⟩ := tiled.billed last head
        apply Finset.Ico_subset_Ico_right
        rw [ends]
        exact min_le_right _ _

theorem ActiveLease.TiledTo.nextCycle (tiled : lease.TiledTo time finish)
    (follows : nextCycleTime lease = some next) :
    lease.startTime ≤ next ∧ (time.invoices.head? = none → next = finish) := by
  unfold nextCycleTime at follows
  split at follows
  · cases follows
    exact ⟨le_rfl, fun head => (tiled.unbilled head).2.symm⟩
  · next billed =>
      obtain ⟨_, rfl⟩ := Checked.upTo_eq_some.mp follows
      cases head : time.invoices.head? with
      | none => exact absurd (tiled.unbilled head).1 billed
      | some last =>
          obtain ⟨current, started, _⟩ := tiled.billed last head
          rw [current]
          exact ⟨started.trans (Nat.le_add_right _ _), fun absent => by cases absent⟩

theorem actualDuration_eq (lasted : actualDuration timestamp next lease = some duration) :
    next + duration = min timestamp lease.endTime := by
  unfold actualDuration at lasted
  split at lasted
  · next late =>
      obtain ⟨within, rfl⟩ := Checked.difference_eq_some.mp lasted
      rw [Nat.add_sub_of_le within, min_eq_right (le_of_lt late)]
  · next running =>
      obtain ⟨within, rfl⟩ := Checked.difference_eq_some.mp lasted
      rw [Nat.add_sub_of_le within, min_eq_left (not_lt.mp running)]

/-- A cycle that has begun underflows exactly when it begins after the end of the lease. -/
theorem actualDuration_ne_none_iff (begun : next ≤ timestamp) :
    actualDuration timestamp next lease ≠ none ↔ next ≤ lease.endTime := by
  unfold actualDuration
  split
  · next late => simp [subU64, Checked.difference]
  · next running =>
      refine iff_of_true ?_ (begun.trans (not_lt.mp running))
      simp [subU64, Checked.difference, begun]

end Lease

/-! ## One billing -/

/-- The time kept of a lease after a billing. -/
def BilledTime.bill (invoice : BillingCycle) (timestamp : U64) (time : BilledTime) : BilledTime :=
  { time with invoices := invoice :: time.invoices, billedAt := timestamp }

section Bill

variable {env : Env} {lease : ActiveLease} {time : BilledTime} {finish : Nat}
  {next duration cycleEnd : U64} {rent totalOwed : I128} {invoice : BillingCycle}

theorem BilledTime.bill_seconds (timestamp : U64) (starts : invoice.cycleStart = next)
    (lasts : invoice.actualDurationSeconds = duration) :
    (time.bill invoice timestamp).seconds = Finset.Ico next (next + duration) ∪ time.seconds := by
  rw [← starts, ← lasts]
  rfl

theorem ActiveLease.TiledTo.meets_iff (tiled : lease.TiledTo time finish)
    (follows : nextCycleTime lease = some next) :
    (∀ last ∈ time.invoices.head?, last.cycleStart + last.actualDurationSeconds = next) ↔
      next = finish := by
  cases head : time.invoices.head? with
  | none => exact iff_of_true (by simp) ((tiled.nextCycle follows).2 head)
  | some last =>
      obtain ⟨_, _, ends, _⟩ := tiled.billed last head
      rw [ends]
      simp [eq_comm]

theorem ActiveLease.TiledTo.finish_le (tiled : lease.TiledTo time finish)
    (follows : nextCycleTime lease = some next)
    (lasted : actualDuration env.timestamp next lease = some duration)
    (ordered : time.billedAt ≤ env.timestamp) : finish ≤ next + duration := by
  cases head : time.invoices.head? with
  | none =>
      rw [(tiled.nextCycle follows).2 head]
      exact Nat.le_add_right _ _
  | some last =>
      obtain ⟨_, _, _, ends⟩ := tiled.billed last head
      rw [actualDuration_eq lasted, ends]
      exact min_le_min_right _ ordered

theorem ActiveLease.TiledTo.bill (tiled : lease.TiledTo time next)
    (charge : Charge env lease next duration cycleEnd rent totalOwed)
    (perSecond : 0 < lease.rentPerSecond) (starts : invoice.cycleStart = next)
    (lasts : invoice.actualDurationSeconds = duration) :
    (lease.charge next totalOwed).TiledTo (time.bill invoice env.timestamp) (next + duration) where
  covers := tiled.covers.trans (Nat.le_add_right _ _)
  seconds := by
    rw [BilledTime.bill_seconds _ starts lasts, tiled.seconds]
    exact Tiling.follows_covered tiled.covers (Nat.le_add_right _ _)
  apart := by
    apply List.pairwise_cons.mpr
    constructor
    · apply Tiling.disjoint_covered_iff.mp
      change Disjoint (BillingCycle.seconds invoice) time.seconds
      rw [tiled.seconds, BillingCycle.seconds, starts, disjoint_comm]
      exact Finset.Ico_disjoint_Ico_consecutive _ _ _
    · exact tiled.apart
  owed := by
    have rented := charge.charged
    rw [calculatedRent, if_pos perSecond] at rented
    have product := (Checked.within_eq_some.mp rented).2
    have sum := (Checked.within_eq_some.mp charge.owed).2
    have before := tiled.owed
    change totalOwed - time.reposted =
      lease.rentPerSecond * (next + duration - lease.startTime : Nat)
    rw [Nat.sub_add_comm tiled.covers, Nat.cast_add, mul_add, ← before, ← sum, ← product]
    exact (sub_add_eq_add_sub _ _ _).symm
  unbilled absent := by cases absent
  billed last head := by
    cases head
    exact ⟨starts.symm, by rw [starts]; exact tiled.covers, by rw [starts, lasts],
      actualDuration_eq charge.lasted⟩

/-- A billing charges each second once and leaves none out exactly when it begins where the
invoice before it ended. -/
theorem ActiveLease.TiledTo.bill_iff (tiled : lease.TiledTo time finish)
    (charge : Charge env lease next duration cycleEnd rent totalOwed)
    (perSecond : 0 < lease.rentPerSecond) (ordered : time.billedAt ≤ env.timestamp)
    (starts : invoice.cycleStart = next) (lasts : invoice.actualDurationSeconds = duration) :
    ((lease.charge next totalOwed).ChargedOnce (time.bill invoice env.timestamp) ∧
        (lease.charge next totalOwed).BilledUntil env.timestamp (time.bill invoice env.timestamp)) ↔
      ∀ last ∈ time.invoices.head?, last.cycleStart + last.actualDurationSeconds = next := by
  have from' := (tiled.nextCycle charge.next).1
  have later := tiled.finish_le charge.next charge.lasted ordered
  have until' := actualDuration_eq charge.lasted
  have follows := Tiling.follows_iff tiled.covers from' (Nat.le_add_right next duration) later
  rw [tiled.meets_iff charge.next]
  constructor
  · intro billed
    obtain ⟨charged, covers⟩ := billed
    apply follows.mp
    constructor
    · have apart := (List.pairwise_cons.mp charged.apart).1
      have whole := Tiling.disjoint_covered_iff.mpr apart
      change Disjoint (BillingCycle.seconds invoice) time.seconds at whole
      rwa [tiled.seconds, BillingCycle.seconds, starts, lasts] at whole
    · intro second after before
      have early : second < min env.timestamp lease.endTime := by
        rw [← until']
        exact before.trans_le (Nat.le_add_right _ _)
      have billed := covers second after early before
      rwa [BilledTime.bill_seconds _ starts lasts, tiled.seconds] at billed
  · intro same
    have gapless := (follows.mpr same).2
    subst same
    refine ⟨(tiled.bill charge perSecond starts lasts).chargedOnce, ?_⟩
    intro second after _ before
    rw [BilledTime.bill_seconds _ starts lasts, tiled.seconds]
    exact gapless second after before

end Bill

/-! ## Every other step -/

/-- The times and the rate of a lease, and the start of its current cycle. -/
structure ActiveLease.SamePlan (before after : ActiveLease) : Prop where
  startTime : after.startTime = before.startTime
  endTime : after.endTime = before.endTime
  rentPerSecond : after.rentPerSecond = before.rentPerSecond
  lastBillingCycle : after.lastBillingCycle = before.lastBillingCycle

theorem ActiveLease.TiledTo.follow {lease later : ActiveLease} {time timeAfter : BilledTime}
    {finish : Nat} (tiled : lease.TiledTo time finish) (plan : lease.SamePlan later)
    (invoices : timeAfter.invoices = time.invoices) (billedAt : timeAfter.billedAt = time.billedAt)
    (owed : later.totalOwed - timeAfter.reposted = lease.totalOwed - time.reposted) :
    later.TiledTo timeAfter finish := by
  constructor
  · rw [plan.startTime]
    exact tiled.covers
  · rw [BilledTime.seconds, invoices, plan.startTime]
    exact tiled.seconds
  · rw [invoices]
    exact tiled.apart
  · rw [owed, plan.rentPerSecond, plan.startTime]
    exact tiled.owed
  · rw [invoices, plan.lastBillingCycle, plan.startTime]
    exact tiled.unbilled
  · rw [invoices, plan.lastBillingCycle, plan.startTime, plan.endTime, billedAt]
    exact tiled.billed

/-- The invoices of the lease tile it, where it is charged by the second. -/
def Books.Tiled (leaseId : U64) (time : BilledTime) (books : Books) : Prop :=
  ∀ lease, books.leases.lookup leaseId = some lease → 0 < lease.rentPerSecond →
    ∃ finish, lease.TiledTo time finish

section Steps

variable {env : Env} {operation : Operation} {books after : Books} {time : BilledTime}
  {leaseId cycleId : U64} {call : Call} {state : Store × BilledTime}

theorem Books.Tiled.of_same (tiled : books.Tiled leaseId time)
    (leases : after.leases = books.leases) : after.Tiled leaseId time := by
  rw [Books.Tiled, leases]
  exact tiled

theorem Books.Tiled.putLease {other : U64} {stored written : ActiveLease}
    (tiled : books.Tiled leaseId time) (found : books.leases.lookup other = some stored)
    (plan : stored.SamePlan written) (owed : written.totalOwed = stored.totalOwed) :
    (books.putLease other written).Tiled leaseId time := by
  intro lease kept perSecond
  rw [Books.putLease, Table.lookup_set] at kept
  by_cases same : leaseId = other
  · subst same
    rw [if_pos rfl] at kept
    cases kept
    rw [plan.rentPerSecond] at perSecond
    obtain ⟨finish, tiles⟩ := tiled stored found perSecond
    exact ⟨finish, tiles.follow plan rfl rfl (by rw [owed])⟩
  · rw [if_neg same] at kept
    exact tiled lease kept perSecond

theorem Books.Tiled.putLease_ne {other : U64} {written : ActiveLease}
    (tiled : books.Tiled leaseId time) (differs : leaseId ≠ other) :
    (books.putLease other written).Tiled leaseId time := by
  intro lease kept perSecond
  rw [Books.putLease, Table.lookup_set_ne _ _ differs] at kept
  exact tiled lease kept perSecond

theorem Books.Tiled.register {lease : ActiveLease} (unbilled : lease.lastBillingCycle = 0)
    (owed : lease.totalOwed = 0) : (books.putLease leaseId lease).Tiled leaseId ⟨[], 0, 0⟩ := by
  intro stored kept perSecond
  rw [Books.putLease, Table.lookup_set_self] at kept
  cases kept
  refine ⟨lease.startTime, ?_⟩
  constructor
  · exact le_rfl
  · exact (Finset.Ico_self _).symm
  · exact List.Pairwise.nil
  · rw [owed]
    simp
  · intro _
    exact ⟨unbilled, rfl⟩
  · intro last head
    cases head

theorem Payment.tiled {payer : Address} {amount : I128}
    (payment : Payment env payer cycleId amount books after) (tiled : books.Tiled leaseId time) :
    after.Tiled leaseId
      { time with reposted := time.reposted + (after.owed leaseId - books.owed leaseId) } := by
  obtain ⟨unpaid, cycle, lease, totalPaid, totalOwed, posting⟩ := payment.posting
  intro later kept perSecond
  have before : ∃ earlier, books.leases.lookup leaseId = some earlier ∧ earlier.SamePlan later := by
    rw [posting.leases, Table.lookup_set] at kept
    by_cases same : leaseId = cycle.leaseId
    · rw [if_pos same] at kept
      cases kept
      exact ⟨lease, by rw [same, posting.leased], rfl, rfl, rfl, rfl⟩
    · rw [if_neg same] at kept
      exact ⟨later, kept, rfl, rfl, rfl, rfl⟩
  obtain ⟨earlier, found, plan⟩ := before
  have perSecondBefore := perSecond
  rw [plan.rentPerSecond] at perSecondBefore
  obtain ⟨finish, tiles⟩ := tiled earlier found perSecondBefore
  refine ⟨finish, tiles.follow plan rfl rfl ?_⟩
  simp only [Books.owed, found, kept, Option.elim_some]
  linarith

theorem Effect.tiled_of_other (effect : Effect env operation books after)
    (tiled : books.Tiled leaseId time)
    (other : ∀ processor, operation ≠ .processBillingCycle leaseId processor) :
    after.Tiled leaseId (operation.keepTime env leaseId books after time) := by
  cases effect with
  | initialized fresh =>
      intro lease kept
      simp [Books.setUp] at kept
  | @registered _ treasury registered =>
      rw [Operation.keepTime]
      by_cases same : registered = leaseId
      · subst same
        rw [if_pos rfl]
        exact Books.Tiled.register rfl rfl
      · rw [if_neg same]
        exact tiled.putLease_ne (Ne.symm same)
  | @charged _ billed processor lease nextCycle duration cycleEnd processed rent totalOwed =>
      have differs : billed ≠ leaseId := by
        intro same
        subst same
        exact other processor rfl
      rw [Operation.keepTime, if_neg differs]
      have kept : (books.putLease billed (lease.charge nextCycle totalOwed)).Tiled leaseId time :=
        tiled.putLease_ne (Ne.symm differs)
      exact kept.of_same rfl
  | paid payment => exact payment.tiled tiled
  | @granted _ granted nonce lessee authorizedAmount expiryTimestamp signature lease authorized
      unexpired next found =>
      have kept : (books.putLease granted
          (lease.authorize authorizedAmount expiryTimestamp)).Tiled leaseId time :=
        tiled.putLease found ⟨rfl, rfl, rfl, rfl⟩ rfl
      exact kept.of_same rfl
  | pulled granted active unexpired found covered payment =>
      exact payment.tiled (tiled.of_same rfl)
  | terminated found stored entitled authorized =>
      exact tiled.putLease found ⟨rfl, rfl, rfl, rfl⟩ rfl
  | paused stored authorized => exact tiled.of_same rfl
  | configured stored authorized => exact tiled
  | distributed stored authorized held within accepted sent available => exact tiled.of_same rfl

/-! ## Every billing -/

theorem Effect.bill {processor : Address}
    (effect : Effect env (.processBillingCycle leaseId processor) books after) :
    ∃ lease next duration cycleEnd rent totalOwed,
      books.leases.lookup leaseId = some lease ∧
      Charge env lease next duration cycleEnd rent totalOwed ∧
      after.leases = books.leases.set leaseId (some (lease.charge next totalOwed)) ∧
      after.cycles.lookup env.sequence =
        some (.opened env.sequence leaseId lease rent next cycleEnd duration) := by
  cases effect with
  | charged found charge counted =>
      exact ⟨_, _, _, _, _, _, found, charge, rfl, Table.lookup_set_self ..⟩

theorem Operation.keepTime_bill {processor : Address} {invoice : BillingCycle}
    (written : after.cycles.lookup env.sequence = some invoice) :
    (Operation.processBillingCycle leaseId processor).keepTime env leaseId books after time =
      time.bill invoice env.timestamp := by
  rw [Operation.keepTime, if_pos rfl, written]
  rfl

theorem Effect.tiled_of_bill {processor : Address}
    (effect : Effect env (.processBillingCycle leaseId processor) books after)
    (tiled : books.Tiled leaseId time)
    (meets : ∀ lease next, books.leases.lookup leaseId = some lease → lease.Due env.timestamp next →
      ∀ last ∈ time.invoices.head?, last.cycleStart + last.actualDurationSeconds = next) :
    after.Tiled leaseId
      ((Operation.processBillingCycle leaseId processor).keepTime env leaseId books after time) := by
  obtain ⟨lease, next, duration, cycleEnd, rent, totalOwed, found, charge, leases, written⟩ :=
    effect.bill
  rw [Operation.keepTime_bill written]
  intro later kept perSecond
  rw [leases, Table.lookup_set_self] at kept
  cases kept
  obtain ⟨finish, tiles⟩ := tiled lease found perSecond
  have due : lease.Due env.timestamp next := ⟨perSecond, charge.active, charge.next, charge.due⟩
  have same := (tiles.meets_iff charge.next).mp (meets lease next found due)
  subst same
  exact ⟨next + duration, tiles.bill charge perSecond rfl rfl⟩

/-- Billed seconds are charged once, without gaps, exactly when the billing begins at the end of
the invoice before. -/
theorem Effect.charges_iff {processor : Address}
    (effect : Effect env (.processBillingCycle leaseId processor) books after)
    (tiled : books.Tiled leaseId time) (ordered : time.billedAt ≤ env.timestamp) :
    (∀ lease, after.leases.lookup leaseId = some lease → 0 < lease.rentPerSecond →
        lease.ChargedOnce
            ((Operation.processBillingCycle leaseId processor).keepTime env leaseId books after time) ∧
          lease.BilledUntil env.timestamp
            ((Operation.processBillingCycle leaseId processor).keepTime env leaseId books after
              time)) ↔
      ∀ lease next, books.leases.lookup leaseId = some lease → lease.Due env.timestamp next →
        ∀ last ∈ time.invoices.head?, last.cycleStart + last.actualDurationSeconds = next := by
  obtain ⟨lease, next, duration, cycleEnd, rent, totalOwed, found, charge, leases, written⟩ :=
    effect.bill
  rw [Operation.keepTime_bill written, leases, Table.lookup_set_self]
  constructor
  · intro charged stored starts at' due
    rw [found] at at'
    cases at'
    have same : starts = next := Option.some.inj (due.follows.symm.trans charge.next)
    subst same
    obtain ⟨finish, tiles⟩ := tiled lease found due.perSecond
    exact (tiles.bill_iff charge due.perSecond ordered rfl rfl).mp
      (charged _ rfl due.perSecond)
  · intro meets later kept perSecond
    cases kept
    obtain ⟨finish, tiles⟩ := tiled lease found perSecond
    have due : lease.Due env.timestamp next := ⟨perSecond, charge.active, charge.next, charge.due⟩
    exact (tiles.bill_iff charge perSecond ordered rfl rfl).mpr (meets lease next found due)

end Steps

section Calls

variable {leaseId : U64} {call : Call} {state : Store × BilledTime}

theorem step_tiled (tiled : state.1.books.Tiled leaseId state.2)
    (inStep : call.BillsInStep leaseId state) :
    (annotate step (keepTime leaseId) call state).1.books.Tiled leaseId
      (annotate step (keepTime leaseId) call state).2 := by
  rcases annotate_cases (keepTime leaseId) (fun _ _ _ => rfl) call state with
    ⟨committed, outcome, kept⟩ | ⟨refused, kept⟩
  · have effect := outcome.effect
    rw [kept]
    by_cases billing : ∃ processor, call.operation = .processBillingCycle leaseId processor
    · obtain ⟨processor, billing⟩ := billing
      rw [billing] at effect ⊢
      apply effect.tiled_of_bill tiled
      intro lease next found due
      exact (inStep processor lease next billing found due).2 committed
    · exact effect.tiled_of_other tiled (not_exists.mp billing)
  · rw [kept]
    exact tiled

theorem Call.BillsInStep.settles (inStep : call.BillsInStep leaseId state) (processor : Address)
    (lease : ActiveLease) (next : U64)
    (billing : call.operation = .processBillingCycle leaseId processor)
    (found : state.1.leases.lookup leaseId = some lease) (due : lease.Due call.env.timestamp next) :
    actualDuration call.env.timestamp next lease ≠ none :=
  (actualDuration_ne_none_iff due.begun).mpr (inStep processor lease next billing found due).1

theorem ChargesOnce.begins {after : Store × BilledTime}
    (once : ChargesOnce leaseId call state after) {processor : Address} {lease : ActiveLease}
    {next : U64} (billing : call.operation = .processBillingCycle leaseId processor)
    (found : state.1.leases.lookup leaseId = some lease) (due : lease.Due call.env.timestamp next) :
    next ≤ lease.endTime :=
  (actualDuration_ne_none_iff due.begun).mp (once.settles processor lease next billing found due)

theorem chargesOnce_of_other (tiled : state.1.books.Tiled leaseId state.2)
    (other : ∀ processor, call.operation ≠ .processBillingCycle leaseId processor) :
    ChargesOnce leaseId call state (annotate step (keepTime leaseId) call state) ∧
      call.BillsInStep leaseId state := by
  have inStep : call.BillsInStep leaseId state := by
    intro processor lease next billing
    exact absurd billing (other processor)
  refine ⟨?_, inStep⟩
  constructor
  · intro processor lease next billing
    exact absurd billing (other processor)
  · intro lease stored perSecond
    obtain ⟨finish, tiles⟩ := step_tiled tiled inStep lease stored perSecond
    exact tiles.chargedOnce
  · intro processor lease billing
    exact absurd billing (other processor)

theorem chargesOnce_billed_iff {processor : Address} (tiled : state.1.books.Tiled leaseId state.2)
    (ordered : state.2.billedAt ≤ call.env.timestamp)
    (billing : call.operation = .processBillingCycle leaseId processor)
    (committed : call.body.succeeds state.1 = true)
    (effect : Effect call.env call.operation state.1.books (step call state.1).books) :
    ChargesOnce leaseId call state (annotate step (keepTime leaseId) call state) ↔
      call.BillsInStep leaseId state := by
  have kept : (annotate step (keepTime leaseId) call state).2 =
      (Operation.processBillingCycle leaseId processor).keepTime call.env leaseId state.1.books
        (step call state.1).books state.2 := by
    rw [annotate, keepTime, if_pos committed, billing]
  rw [billing] at effect
  have charges := effect.charges_iff tiled ordered
  rw [← kept] at charges
  constructor
  · intro once other lease next billed found due
    refine ⟨once.begins billed found due, fun _ => ?_⟩
    apply charges.mp _ lease next found due
    intro later stored perSecond
    exact ⟨once.charged later stored perSecond,
      once.covers processor later billing committed stored perSecond⟩
  · intro inStep
    have charged := charges.mpr fun lease next found due =>
      (inStep processor lease next billing found due).2 committed
    constructor
    · exact inStep.settles
    · intro lease stored perSecond
      exact (charged lease stored perSecond).1
    · intro _ lease _ _ stored perSecond
      exact (charged lease stored perSecond).2

/-- A refused call charges nothing, so only an underflow is at stake. -/
theorem chargesOnce_refused_iff (tiled : state.1.books.Tiled leaseId state.2)
    (refused : call.body.succeeds state.1 = false) :
    ChargesOnce leaseId call state state ↔ call.BillsInStep leaseId state := by
  constructor
  · intro once processor lease next billing found due
    refine ⟨once.begins billing found due, fun committed => ?_⟩
    cases refused.symm.trans committed
  · intro inStep
    constructor
    · exact inStep.settles
    · intro lease stored perSecond
      obtain ⟨finish, tiles⟩ := tiled lease stored perSecond
      exact tiles.chargedOnce
    · intro _ _ _ committed
      cases refused.symm.trans committed

/-- A call charges each second once exactly when it bills in step. -/
theorem chargesOnce_iff (tiled : state.1.books.Tiled leaseId state.2)
    (ordered : call.billsLease leaseId = true → state.2.billedAt ≤ call.env.timestamp) :
    ChargesOnce leaseId call state (annotate step (keepTime leaseId) call state) ↔
      call.BillsInStep leaseId state := by
  rcases annotate_cases (keepTime leaseId) (fun _ _ _ => rfl) call state with
    ⟨committed, outcome, _⟩ | ⟨refused, kept⟩
  · by_cases billing : ∃ processor, call.operation = .processBillingCycle leaseId processor
    · obtain ⟨processor, billing⟩ := billing
      have bills : call.billsLease leaseId = true := by simp [Call.billsLease, billing]
      exact chargesOnce_billed_iff tiled (ordered bills) billing committed outcome.effect
    · obtain ⟨once, inStep⟩ := chargesOnce_of_other tiled (not_exists.mp billing)
      exact iff_of_true once inStep
  · rw [kept]
    exact chargesOnce_refused_iff tiled refused

end Calls

/-! ## Runs -/

theorem keepTime_billedAt_le {leaseId : U64} {call : Call} {store : Store} {time : BilledTime}
    {bound : U64} (before : time.billedAt ≤ bound)
    (now : call.billsLease leaseId = true → call.env.timestamp ≤ bound) :
    (keepTime leaseId call store time).billedAt ≤ bound := by
  rw [keepTime]
  split
  · cases billing : call.operation with
    | registerLeaseBilling registered =>
        rw [Operation.keepTime]
        split
        · exact Nat.zero_le bound
        · exact before
    | processBillingCycle billed processor =>
        rw [Operation.keepTime]
        split
        · next same => exact now (by simp [Call.billsLease, billing, same])
        · exact before
    | initializeContract => exact before
    | processPayment => exact before
    | grantPaymentAuthorization => exact before
    | executePullPayment => exact before
    | terminateLeaseBilling => exact before
    | toggleEmergencyPause => exact before
    | updateBillingConfig => exact before
    | distributeRentTreasury => exact before
  · exact before

theorem billedInOrder_cons {leaseId : U64} {call : Call} {rest : List Call}
    (ordered : BilledInOrder leaseId (call :: rest)) :
    BilledInOrder leaseId rest ∧
      (call.billsLease leaseId = true → ∀ other ∈ rest, other.billsLease leaseId = true →
        call.env.timestamp ≤ other.env.timestamp) := by
  rw [BilledInOrder, List.filter_cons] at ordered
  split at ordered
  · obtain ⟨first, others⟩ := List.pairwise_cons.mp ordered
    refine ⟨others, fun _ other listed bills => ?_⟩
    exact first other (List.mem_filter.mpr ⟨listed, bills⟩)
  · next idle => exact ⟨ordered, fun bills => absurd bills idle⟩

/-- Calls that bill in order never go back behind the last billing. -/
theorem ordered_along {leaseId : U64} {calls : List Call} {state : Store × BilledTime}
    (ordered : BilledInOrder leaseId calls)
    (later : ∀ call ∈ calls, call.billsLease leaseId = true →
      state.2.billedAt ≤ call.env.timestamp) :
    MeetsAlong (annotate step (keepTime leaseId))
      (fun call state => call.billsLease leaseId = true → state.2.billedAt ≤ call.env.timestamp)
      calls state := by
  induction calls generalizing state with
  | nil => trivial
  | cons call rest ih =>
      obtain ⟨others, first⟩ := billedInOrder_cons ordered
      refine ⟨later call List.mem_cons_self, ih others ?_⟩
      intro other listed bills
      apply keepTime_billedAt_le
      · exact later other (List.mem_cons_of_mem call listed) bills
      · intro now
        exact first now other listed bills

/-- Along a run that bills the lease in order no billing underflows, each second is charged once
and none is left out exactly when every billing is in step. -/
theorem seconds_charged_once_iff (leaseId : U64) (calls : List Call)
    (ordered : BilledInOrder leaseId calls) :
    MeetsAlong (annotate step (keepTime leaseId))
      (fun call state =>
        ChargesOnce leaseId call state (annotate step (keepTime leaseId) call state)) calls
      (newModule, ⟨[], 0, 0⟩) ↔
      MeetsAlong (annotate step (keepTime leaseId)) (Call.BillsInStep leaseId) calls
        (newModule, ⟨[], 0, 0⟩) := by
  have along := @ordered_along leaseId calls (newModule, ⟨[], 0, 0⟩) ordered
    fun call _ _ => Nat.zero_le _
  have both := @meetsAlong_iff _ _ (annotate step (keepTime leaseId)) (fun _ => True)
    (fun state => state.1.books.Tiled leaseId state.2)
    (fun call state =>
      (call.billsLease leaseId = true → state.2.billedAt ≤ call.env.timestamp) ∧
        ChargesOnce leaseId call state (annotate step (keepTime leaseId) call state))
    (fun call state =>
      (call.billsLease leaseId = true → state.2.billedAt ≤ call.env.timestamp) ∧
        call.BillsInStep leaseId state)
    (fun _ _ _ => trivial)
    (fun call state _ tiled => and_congr_right fun ordered => chargesOnce_iff tiled ordered)
    (fun call state _ tiled met => step_tiled tiled ((chargesOnce_iff tiled met.1).mp met.2))
    calls (newModule, ⟨[], 0, 0⟩) trivial (fun lease found => by
      simp [newModule, Store.books, Store.leases] at found)
  rwa [meetsAlong_and, meetsAlong_and, and_iff_right along, and_iff_right along] at both

/-- A lease from 10 to 18, in periods of 3, is billed at the given times. -/
def billedAt (times : List U64) : List Call :=
  ⟨.willing 10 1, .initializeContract ⟨9⟩ ⟨8⟩⟩ ::
  ⟨.willing 10 2, .registerLeaseBilling 7 ⟨1⟩ ⟨2⟩ ⟨3⟩ 0 2 ⟨4⟩ 10 18 3⟩ ::
  times.map fun time => ⟨.willing time time, .processBillingCycle 7 ⟨1⟩⟩

/-- The record of that lease. -/
def shortLease : ActiveLease :=
  .registered 7 ⟨1⟩ ⟨2⟩ ⟨3⟩ 0 2 ⟨4⟩ 10 18 3 ⟨8⟩

theorem billsInStep_of_lease {leaseId : U64} {call : Call} {state : Store × BilledTime}
    {stored : ActiveLease} {starts : U64} (found : state.1.leases.lookup leaseId = some stored)
    (follows : nextCycleTime stored = some starts) (within : starts ≤ stored.endTime)
    (meets : ∀ last ∈ state.2.invoices.head?,
      last.cycleStart + last.actualDurationSeconds = starts) : call.BillsInStep leaseId state := by
  intro processor lease next billing kept due
  rw [found] at kept
  cases kept
  have same : next = starts := Option.some.inj (due.follows.symm.trans follows)
  subst same
  exact ⟨within, fun _ => meets⟩

/-- Billed at the end of every period, and once after the end of the lease, it is charged once for
each of its seconds. -/
theorem billed_every_period_charges_once :
    MeetsAlong (annotate step (keepTime 7))
      (fun call state => ChargesOnce 7 call state (annotate step (keepTime 7) call state))
      (billedAt [13, 16, 20]) (newModule, ⟨[], 0, 0⟩) := by
  apply (seconds_charged_once_iff 7 (billedAt [13, 16, 20]) (by decide)).mpr
  refine ⟨?_, ?_, ?_, ?_, ?_, trivial⟩
  · intro processor lease next billing
    cases billing
  · intro processor lease next billing
    cases billing
  · apply @billsInStep_of_lease _ _ _ shortLease 10 <;> decide
  · apply @billsInStep_of_lease _ _ _ (shortLease.charge 10 6) 13 <;> decide
  · apply @billsInStep_of_lease _ _ _ (shortLease.charge 13 12) 16 <;> decide

/-- Billed two seconds late, at 15, the lease is charged up to 15, and the next billing starts
at 13 again. -/
theorem late_billing_charges_twice :
    BilledInOrder 7 (billedAt [15, 16]) ∧
      ¬ MeetsAlong (annotate step (keepTime 7))
        (fun call state => ChargesOnce 7 call state (annotate step (keepTime 7) call state))
        (billedAt [15, 16]) (newModule, ⟨[], 0, 0⟩) := by
  constructor
  · decide
  · intro once
    have second := once.2.2.2.1
    have charged := second.charged (shortLease.charge 13 16) (by decide) (by decide)
    have apart := charged.apart
    revert apart
    decide

end LeaseFlow.Billing
