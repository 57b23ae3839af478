import LeaseFlow.Billing.Bookkeeping
import LeaseFlow.Foundations.Ledger

/-!
# Balances of leases and invoices

A lease is charged the rent of every invoice, and a payment that falls short charges the
arrears again.  Beside the storage a run keeps what was accepted for each invoice; the
balances of the leases are the open amounts of their invoices as long as every invoice is
paid in full or not at all.
-/

set_option autoImplicit false

namespace LeaseFlow.Billing

open Transaction Run

/-! ## Payments beside the storage -/

/-- A committed call enters its payment under the cycle; a new cycle starts without one. -/
def Operation.enter (env : Env) (books : Books) (accepted : U64 → Int) : Operation → U64 → Int
  | .processBillingCycle _ _ => Function.update accepted env.sequence 0
  | .processPayment _ cycleId paymentAmount => Ledger.credit cycleId paymentAmount accepted
  | .executePullPayment _ cycleId _ _ =>
      Ledger.credit cycleId ((books.cycles.lookup cycleId).elim 0 BillingCycle.rentAmount) accepted
  | _ => accepted

/-- What was accepted for each stored cycle. -/
def accept (call : Call) (store : Store) (accepted : U64 → Int) : U64 → Int :=
  if call.body.succeeds store = true then call.operation.enter call.env store.books accepted
  else accepted

/-- What is left to pay of a cycle of the lease. -/
def BillingCycle.openAmount (accepted : U64 → Int) (leaseId : U64) (cycle : BillingCycle) : Int :=
  if cycle.leaseId = leaseId then cycle.rentAmount - accepted cycle.cycleId else 0

/-- What is left to pay of all cycles of the lease. -/
def Books.openAmount (accepted : U64 → Int) (leaseId : U64) (books : Books) : Int :=
  books.cycles.total (BillingCycle.openAmount accepted leaseId)

/-- No cycle is overpaid, every lease owes the open amounts of its cycles, and the settlement
reports them as arrears. -/
structure BalancesExact (store : Store) (accepted : U64 → Int) : Prop where
  within : ∀ cycleId cycle, store.cycles.lookup cycleId = some cycle →
    accepted cycleId ≤ cycle.rentAmount
  balanced : ∀ leaseId lease, store.leases.lookup leaseId = some lease →
    lease.totalOwed - lease.totalPaid = store.books.openAmount accepted leaseId
  reported : ∀ env leaseId remaining arrears,
    Commits (calculateFinalSettlement env leaseId) store (remaining, arrears) store →
    arrears = store.books.openAmount accepted leaseId

/-- A lease is registered over a settled one only; a billing charges no negative rent and
replaces no open invoice; and a payment is the whole rent. -/
def Operation.KeepsBalances (env : Env) (books : Books) : Operation → Prop
  | .registerLeaseBilling leaseId .. =>
      ∀ lease, books.leases.lookup leaseId = some lease → lease.totalOwed = lease.totalPaid
  | .processBillingCycle leaseId _ =>
      (∀ lease, books.leases.lookup leaseId = some lease →
        0 < lease.rentPerSecond ∨ 0 ≤ lease.rentAmount) ∧
      ∀ cycle, books.cycles.lookup env.sequence = some cycle →
        cycle.status = .processed ∨ cycle.rentAmount = 0
  | .processPayment _ cycleId paymentAmount =>
      ∀ cycle, books.cycles.lookup cycleId = some cycle → paymentAmount = cycle.rentAmount
  | _ => True

def Call.KeepsBalances (call : Call) (store : Store) : Prop :=
  call.body.succeeds store = true → call.operation.KeepsBalances call.env store.books

/-! ## Balances of the books -/

structure Books.Exact (accepted : U64 → Int) (books : Books) : Prop where
  within : ∀ cycleId cycle, books.cycles.lookup cycleId = some cycle →
    accepted cycleId ≤ cycle.rentAmount
  balanced : ∀ leaseId lease, books.leases.lookup leaseId = some lease →
    lease.totalOwed - lease.totalPaid = books.openAmount accepted leaseId

theorem calculateFinalSettlement_arrears {env : Env} {store : Store} {leaseId : U64}
    {remaining arrears : I128}
    (run : Commits (calculateFinalSettlement env leaseId) store (remaining, arrears) store) :
    ∃ lease, store.leases.lookup leaseId = some lease ∧
      arrears = lease.totalOwed - lease.totalPaid := by
  simp [calculateFinalSettlement] at run
  obtain ⟨lease, found, cycles, _, _, reported⟩ := run
  exact ⟨lease, found, (Checked.within_eq_some.mp reported).2.symm⟩

/-- The settlement reports the balance of the lease, so the books decide. -/
theorem balancesExact_iff {store : Store} {accepted : U64 → Int} :
    BalancesExact store accepted ↔ store.books.Exact accepted := by
  constructor
  · intro balances
    exact ⟨balances.within, balances.balanced⟩
  · intro balances
    refine ⟨balances.within, balances.balanced, fun env leaseId remaining arrears run => ?_⟩
    obtain ⟨lease, found, rfl⟩ := calculateFinalSettlement_arrears run
    exact balances.balanced leaseId lease found

/-- A cycle has been paid in full or not at all. -/
structure BillingCycle.AllOrNothing (accepted : Int) (cycle : BillingCycle) : Prop where
  arrears : cycle.arrearsAmount = 0
  unpaid : cycle.status ≠ .processed → accepted = 0
  paid : cycle.status = .processed → accepted = cycle.rentAmount

def Books.AllOrNothing (accepted : U64 → Int) (books : Books) : Prop :=
  ∀ cycleId cycle, books.cycles.lookup cycleId = some cycle →
    cycle.AllOrNothing (accepted cycleId)

section Steps

variable {env : Env} {operation : Operation} {books after : Books} {accepted : U64 → Int}
  {leaseId cycleId : U64}

theorem openAmount_of_lease (accepted : U64 → Int) (cycle : BillingCycle) :
    cycle.openAmount accepted cycle.leaseId = cycle.rentAmount - accepted cycle.cycleId :=
  if_pos rfl

theorem openAmount_of_other {cycle : BillingCycle} (differs : cycle.leaseId ≠ leaseId) :
    cycle.openAmount accepted leaseId = 0 :=
  if_neg differs

theorem Books.WellKept.openAmount_unregistered (wellKept : books.WellKept)
    (absent : books.leases.lookup leaseId = none) : books.openAmount accepted leaseId = 0 := by
  have nothing : books.openAmount accepted leaseId = books.cycles.total fun _ => 0 := by
    apply Table.total_congr
    intro cycleId cycle found
    apply openAmount_of_other
    intro same
    have leased := wellKept.leased cycleId cycle found
    rw [same, absent] at leased
    cases leased
  rw [nothing]
  simp [Table.total]

/-- The write of a cycle opens its amount and drops that of the cycle it replaces. -/
theorem Books.WellKept.openAmount_putCycle {acceptedAfter : U64 → Int} {cycle : BillingCycle}
    (wellKept : books.WellKept) (cycles : after.cycles = books.cycles.set cycleId (some cycle))
    (agree : ∀ other, other ≠ cycleId → acceptedAfter other = accepted other) (leaseId : U64) :
    after.openAmount acceptedAfter leaseId +
        (books.cycles.lookup cycleId).elim 0 (BillingCycle.openAmount accepted leaseId) =
      books.openAmount accepted leaseId + cycle.openAmount acceptedAfter leaseId := by
  rw [Books.openAmount, cycles]
  apply Table.total_set_of_agree
  intro other stored differs found
  unfold BillingCycle.openAmount
  rw [wellKept.cycleId other stored found, agree other differs]

/-! ### Leases -/

theorem Books.Exact.putLease_iff {lease : ActiveLease} (balances : books.Exact accepted) :
    (books.putLease leaseId lease).Exact accepted ↔
      lease.totalOwed - lease.totalPaid = books.openAmount accepted leaseId := by
  constructor
  · intro still
    exact still.balanced leaseId lease (Table.lookup_set_self ..)
  · intro balanced
    refine ⟨balances.within, Table.forall_set balances.balanced fun stored same => ?_⟩
    cases same
    exact balanced

theorem Books.Exact.putLease {stored lease : ActiveLease} (balances : books.Exact accepted)
    (found : books.leases.lookup leaseId = some stored) (owed : lease.totalOwed = stored.totalOwed)
    (paid : lease.totalPaid = stored.totalPaid) :
    (books.putLease leaseId lease).Exact accepted := by
  apply balances.putLease_iff.mpr
  rw [owed, paid]
  exact balances.balanced leaseId stored found

/-- A registration starts without a balance, which is right over a settled lease only. -/
theorem Books.Exact.register_iff {lease : ActiveLease} (balances : books.Exact accepted)
    (wellKept : books.WellKept) (owed : lease.totalOwed = 0) (paid : lease.totalPaid = 0) :
    (books.putLease leaseId lease).Exact accepted ↔
      ∀ stored, books.leases.lookup leaseId = some stored →
        stored.totalOwed = stored.totalPaid := by
  rw [balances.putLease_iff, owed, paid, sub_zero]
  cases found : books.leases.lookup leaseId with
  | none =>
      rw [wellKept.openAmount_unregistered found]
      simp
  | some stored =>
      rw [← balances.balanced leaseId stored found]
      constructor
      · intro nothing other same
        cases same
        exact sub_eq_zero.mp nothing.symm
      · intro settled
        exact (sub_eq_zero.mpr (settled stored rfl)).symm

/-! ### Cycles -/

theorem Books.WellKept.balanced_iff {acceptedAfter gain : U64 → Int} {cycle : BillingCycle}
    (wellKept : books.WellKept) (cycles : after.cycles = books.cycles.set cycleId (some cycle))
    (agree : ∀ other, other ≠ cycleId → acceptedAfter other = accepted other)
    (moved : ∀ leaseId lease, after.leases.lookup leaseId = some lease →
      lease.totalOwed - lease.totalPaid = books.openAmount accepted leaseId + gain leaseId) :
    (∀ leaseId lease, after.leases.lookup leaseId = some lease →
        lease.totalOwed - lease.totalPaid = after.openAmount acceptedAfter leaseId) ↔
      ∀ leaseId lease, after.leases.lookup leaseId = some lease →
        gain leaseId +
            (books.cycles.lookup cycleId).elim 0 (BillingCycle.openAmount accepted leaseId) =
          cycle.openAmount acceptedAfter leaseId := by
  apply forall_congr'
  intro leaseId
  apply forall_congr'
  intro lease
  apply imp_congr_right
  intro found
  have change := wellKept.openAmount_putCycle cycles agree leaseId
  rw [moved leaseId lease found]
  constructor
  · intro balanced
    linarith
  · intro balanced
    linarith

theorem Books.Exact.moved {lease written : ActiveLease} {change : Int}
    (balances : books.Exact accepted) (found : books.leases.lookup leaseId = some lease)
    (balance : written.totalOwed - written.totalPaid =
      lease.totalOwed - lease.totalPaid + change)
    (other : U64) (stored : ActiveLease)
    (kept : (books.leases.set leaseId (some written)).lookup other = some stored) :
    stored.totalOwed - stored.totalPaid =
      books.openAmount accepted other + if leaseId = other then change else 0 := by
  rw [Table.lookup_set] at kept
  by_cases same : other = leaseId
  · subst same
    rw [if_pos rfl] at kept
    cases kept
    rw [if_pos rfl, balance, balances.balanced other lease found]
  · rw [if_neg same] at kept
    rw [if_neg (Ne.symm same), add_zero, balances.balanced other stored kept]

/-- A billing charges the rent of its cycle, which is right exactly when the rent is not negative
and nothing was open of a cycle it replaces. -/
theorem Books.Exact.bill_iff {lease charged : ActiveLease} {cycle : BillingCycle}
    (balances : books.Exact accepted) (wellKept : books.WellKept)
    (settled : books.AllOrNothing accepted)
    (found : books.leases.lookup leaseId = some lease)
    (cycles : after.cycles = books.cycles.set cycleId (some cycle))
    (leases : after.leases = books.leases.set leaseId (some charged))
    (named : cycle.cycleId = cycleId) (leased : cycle.leaseId = leaseId)
    (owed : charged.totalOwed = lease.totalOwed + cycle.rentAmount)
    (paid : charged.totalPaid = lease.totalPaid) :
    after.Exact (Function.update accepted cycleId 0) ↔
      0 ≤ cycle.rentAmount ∧ ∀ stored, books.cycles.lookup cycleId = some stored →
        stored.status = .processed ∨ stored.rentAmount = 0 := by
  have agree : ∀ other, other ≠ cycleId →
      Function.update accepted cycleId 0 other = accepted other :=
    fun other differs => Function.update_of_ne differs 0 accepted
  have opened (other : U64) : cycle.openAmount (Function.update accepted cycleId 0) other =
      if leaseId = other then cycle.rentAmount else 0 := by
    rw [BillingCycle.openAmount, leased, named, Function.update_self, sub_zero]
  have balance : charged.totalOwed - charged.totalPaid =
      lease.totalOwed - lease.totalPaid + cycle.rentAmount := by
    rw [owed, paid]
    ring
  have balanced := wellKept.balanced_iff cycles agree
    (by
      rw [leases]
      exact balances.moved found balance)
  have replaced (stored : BillingCycle) (at' : books.cycles.lookup cycleId = some stored) :
      stored.rentAmount - accepted stored.cycleId = 0 ↔
        stored.status = .processed ∨ stored.rentAmount = 0 := by
    have whole := settled cycleId stored at'
    rw [wellKept.cycleId cycleId stored at']
    by_cases processed : stored.status = .processed
    · rw [whole.paid processed]
      simp [processed]
    · rw [whole.unpaid processed]
      simp [processed]
  constructor
  · intro still
    constructor
    · have within := still.within cycleId cycle (by rw [cycles, Table.lookup_set_self])
      rwa [Function.update_self] at within
    · intro stored at'
      have kept : ∃ other, after.leases.lookup stored.leaseId = some other := by
        rw [leases, Table.lookup_set]
        split
        · exact ⟨charged, rfl⟩
        · exact Option.isSome_iff_exists.mp (wellKept.leased cycleId stored at')
      obtain ⟨other, kept⟩ := kept
      have change := balanced.mp still.balanced stored.leaseId other kept
      rw [opened, at', Option.elim_some, openAmount_of_lease] at change
      apply (replaced stored at').mp
      linarith
  · intro fine
    obtain ⟨nonneg, replaces⟩ := fine
    constructor
    · rw [cycles]
      apply Table.forall_set_ne
      · intro other stored differs kept
        rw [agree other differs]
        exact balances.within other stored kept
      · rwa [Function.update_self]
    · apply balanced.mpr
      intro other stored _
      rw [opened]
      cases at' : books.cycles.lookup cycleId with
      | none => exact add_zero _
      | some replacedCycle =>
          have closed := (replaced replacedCycle at').mpr (replaces replacedCycle at')
          rw [Option.elim_some, BillingCycle.openAmount, closed, ite_self, add_zero]

theorem payCycle_arrears {timestamp : U64} {amount : I128} {unpaid cycle : BillingCycle}
    (settled : payCycle timestamp amount unpaid = some cycle) :
    cycle.arrearsAmount =
      if amount = unpaid.rentAmount then unpaid.arrearsAmount else unpaid.rentAmount - amount := by
  unfold payCycle at settled
  split at settled
  · next whole =>
      cases settled
      exact (if_pos whole).symm
  · next short =>
      obtain ⟨arrearsAmount, missing, settled⟩ := Option.bind_eq_some_iff.mp settled
      obtain ⟨_, rfl⟩ := Checked.within_eq_some.mp missing
      cases settled
      exact (if_neg short).symm

theorem payCycle_status {timestamp : U64} {amount : I128} {unpaid cycle : BillingCycle}
    (settled : payCycle timestamp amount unpaid = some cycle) :
    cycle.status = if amount = unpaid.rentAmount then .processed else .failed := by
  unfold payCycle at settled
  split at settled
  · next whole =>
      cases settled
      exact (if_pos whole).symm
  · next short =>
      obtain ⟨arrearsAmount, _, settled⟩ := Option.bind_eq_some_iff.mp settled
      cases settled
      exact (if_neg short).symm

/-- What the payment of a cycle without arrears leaves open is charged to the lease again. -/
theorem Posting.reposted {amount : I128} {unpaid cycle : BillingCycle} {lease : ActiveLease}
    {totalPaid totalOwed : I128}
    (posting : Posting env cycleId amount books after unpaid cycle lease totalPaid totalOwed)
    (clear : unpaid.arrearsAmount = 0) :
    totalOwed = lease.totalOwed + (unpaid.rentAmount - amount) := by
  have arrears : cycle.arrearsAmount = unpaid.rentAmount - amount := by
    rw [payCycle_arrears posting.settled, clear]
    split
    · next whole => exact (sub_eq_zero.mpr whole.symm).symm
    · rfl
  have owed := posting.owed
  rw [owedAfter, arrears] at owed
  split at owed
  · exact (Checked.within_eq_some.mp owed).2.symm
  · next covered =>
      have nothing : unpaid.rentAmount - amount = 0 :=
        le_antisymm (not_lt.mp covered) (sub_nonneg.mpr posting.within)
      rw [nothing, add_zero]
      exact (Option.some.inj owed).symm

/-- A payment of a cycle that was not paid before is right exactly when it is the whole rent. -/
theorem Posting.exact_iff {amount : I128} {unpaid cycle : BillingCycle} {lease : ActiveLease}
    {totalPaid totalOwed : I128}
    (posting : Posting env cycleId amount books after unpaid cycle lease totalPaid totalOwed)
    (balances : books.Exact accepted) (wellKept : books.WellKept)
    (settled : books.AllOrNothing accepted) :
    after.Exact (Ledger.credit cycleId amount accepted) ↔ amount = unpaid.rentAmount := by
  have untouched := settled cycleId unpaid posting.found
  have unpaidYet := untouched.unpaid posting.unsettled
  have same := payCycle_sameInvoice posting.settled
  have named := wellKept.cycleId cycleId unpaid posting.found
  have agree : ∀ other, other ≠ cycleId →
      Ledger.credit cycleId amount accepted other = accepted other :=
    fun other differs => Ledger.credit_of_ne differs
  have paid := (Checked.within_eq_some.mp posting.paid).2
  have owed := posting.reposted untouched.arrears
  have before (other : U64) : unpaid.openAmount accepted other =
      if cycle.leaseId = other then unpaid.rentAmount else 0 := by
    rw [BillingCycle.openAmount, same.leaseId, named, unpaidYet, sub_zero]
  have opened (other : U64) : cycle.openAmount (Ledger.credit cycleId amount accepted) other =
      if cycle.leaseId = other then unpaid.rentAmount - amount else 0 := by
    rw [BillingCycle.openAmount, same.cycleId, same.rentAmount, named, Ledger.credit_self,
      unpaidYet, zero_add]
  have balance : totalOwed - totalPaid =
      lease.totalOwed - lease.totalPaid + (unpaid.rentAmount - amount - amount) := by
    rw [owed, ← paid]
    ring
  have balanced := wellKept.balanced_iff posting.cycles agree
    (by
      rw [posting.leases]
      exact balances.moved posting.leased balance)
  constructor
  · intro still
    have kept : after.leases.lookup cycle.leaseId = some (lease.credit totalPaid totalOwed) := by
      rw [posting.leases, Table.lookup_set_self]
    have change := balanced.mp still.balanced cycle.leaseId _ kept
    rw [posting.found, Option.elim_some, before, opened, if_pos rfl, if_pos rfl,
      if_pos rfl] at change
    linarith
  · intro whole
    constructor
    · rw [posting.cycles]
      apply Table.forall_set_ne
      · intro other stored differs kept
        rw [agree other differs]
        exact balances.within other stored kept
      · rw [Ledger.credit_self, unpaidYet, zero_add, same.rentAmount]
        exact posting.within
    · apply balanced.mpr
      intro other stored _
      rw [posting.found, Option.elim_some, before, opened, whole]
      split
      · ring
      · rfl

/-- A whole payment leaves every cycle paid in full or not at all. -/
theorem Posting.allOrNothing {amount : I128} {unpaid cycle : BillingCycle} {lease : ActiveLease}
    {totalPaid totalOwed : I128}
    (posting : Posting env cycleId amount books after unpaid cycle lease totalPaid totalOwed)
    (settled : books.AllOrNothing accepted) (whole : amount = unpaid.rentAmount) :
    after.AllOrNothing (Ledger.credit cycleId amount accepted) := by
  have untouched := settled cycleId unpaid posting.found
  rw [Books.AllOrNothing, posting.cycles]
  apply Table.forall_set_ne
  · intro other stored differs kept
    rw [Ledger.credit_of_ne differs]
    exact settled other stored kept
  · have status := payCycle_status posting.settled
    rw [if_pos whole] at status
    constructor
    · rw [payCycle_arrears posting.settled, if_pos whole]
      exact untouched.arrears
    · intro unprocessed
      exact absurd status unprocessed
    · intro _
      rw [Ledger.credit_self, untouched.unpaid posting.unsettled, zero_add, whole,
        (payCycle_sameInvoice posting.settled).rentAmount]

theorem Books.AllOrNothing.bill {cycle : BillingCycle} (settled : books.AllOrNothing accepted)
    (cycles : after.cycles = books.cycles.set cycleId (some cycle))
    (pending : cycle.status = .pending) (clear : cycle.arrearsAmount = 0) :
    after.AllOrNothing (Function.update accepted cycleId 0) := by
  rw [Books.AllOrNothing, cycles]
  apply Table.forall_set_ne
  · intro other stored differs kept
    rw [Function.update_of_ne differs]
    exact settled other stored kept
  · rw [Function.update_self]
    constructor
    · exact clear
    · intro _
      rfl
    · intro processed
      cases pending.symm.trans processed

/-! ### Effects -/

theorem calculatedRent_nonneg_iff {duration : U64} {lease : ActiveLease} {rent : I128}
    (charged : calculatedRent duration lease = some rent) :
    0 ≤ rent ↔ 0 < lease.rentPerSecond ∨ 0 ≤ lease.rentAmount := by
  unfold calculatedRent at charged
  split at charged
  · next perSecond =>
      obtain ⟨_, rfl⟩ := Checked.within_eq_some.mp charged
      exact iff_of_true (mul_nonneg perSecond.le (Int.natCast_nonneg duration)) (.inl perSecond)
  · next fixed =>
      cases charged
      exact (or_iff_right fixed).symm

theorem forall_found {α : Type} {found : Option α} {value : α} {P : α → Prop}
    (same : found = some value) : (∀ other, found = some other → P other) ↔ P value := by
  rw [same]
  simp

theorem Books.Exact.of_same (balances : books.Exact accepted) (cycles : after.cycles = books.cycles)
    (leases : after.leases = books.leases) : after.Exact accepted := by
  constructor
  · rw [cycles]
    exact balances.within
  · intro leaseId lease found
    rw [leases] at found
    rw [Books.openAmount, cycles]
    exact balances.balanced leaseId lease found

theorem Effect.exact_iff (effect : Effect env operation books after)
    (balances : books.Exact accepted) (wellKept : books.WellKept) (settled : books.AllOrNothing accepted) :
    after.Exact (operation.enter env books accepted) ↔ operation.KeepsBalances env books := by
  cases effect with
  | initialized fresh =>
      refine iff_of_true ⟨?_, ?_⟩ trivial
      · intro cycleId cycle found
        simp [Books.setUp] at found
      · intro leaseId lease found
        simp [Books.setUp] at found
  | registered enabled held => exact balances.register_iff wellKept rfl rfl
  | @charged _ leaseId processor lease nextCycle duration cycleEnd processed rent totalOwed found
      charge counted =>
      have owed := (Checked.within_eq_some.mp charge.owed).2.symm
      change Books.Exact (Function.update accepted env.sequence 0) _ ↔ _
      refine Iff.trans (@Books.Exact.bill_iff books _ accepted leaseId env.sequence lease
        (lease.charge nextCycle totalOwed) (.opened env.sequence leaseId lease rent nextCycle cycleEnd
        duration) balances wellKept settled found rfl rfl rfl rfl owed rfl) ?_
      apply and_congr_left'
      rw [forall_found found]
      exact calculatedRent_nonneg_iff charge.charged
  | @paid _ _ payer cycleId amount payment =>
      obtain ⟨unpaid, cycle, lease, totalPaid, totalOwed, posting⟩ := payment.posting
      apply (posting.exact_iff balances wellKept settled).trans
      exact (@forall_found _ _ _ (fun stored => amount = stored.rentAmount) posting.found).symm
  | @granted _ leaseId nonce lessee authorizedAmount expiryTimestamp signature lease authorized
      unexpired next found =>
      have stored : (books.putLease leaseId
          (lease.authorize authorizedAmount expiryTimestamp)).Exact accepted :=
        balances.putLease found rfl rfl
      exact iff_of_true (stored.of_same rfl rfl) trivial
  | pulled granted active unexpired found covered payment =>
      obtain ⟨unpaid, cycle, lease, totalPaid, totalOwed, posting⟩ := payment.posting
      have same := Option.some.inj (found.symm.trans posting.found)
      refine iff_of_true ?_ trivial
      rw [Operation.enter, found, Option.elim_some]
      apply (posting.exact_iff (balances.of_same rfl rfl) (wellKept.of_same rfl rfl) settled).mpr
      rw [same]
  | terminated found stored entitled authorized =>
      exact iff_of_true (balances.putLease found rfl rfl) trivial
  | paused stored authorized => exact iff_of_true (balances.of_same rfl rfl) trivial
  | configured stored authorized => exact iff_of_true balances trivial
  | distributed stored authorized held within accepted sent available =>
      exact iff_of_true (balances.of_same rfl rfl) trivial

theorem Effect.allOrNothing (effect : Effect env operation books after)
    (settled : books.AllOrNothing accepted) (keeps : operation.KeepsBalances env books) :
    after.AllOrNothing (operation.enter env books accepted) := by
  cases effect with
  | initialized fresh =>
      intro cycleId cycle found
      simp [Books.setUp] at found
  | registered enabled held => exact settled
  | charged found charge counted => exact settled.bill rfl rfl rfl
  | paid payment =>
      obtain ⟨unpaid, cycle, lease, totalPaid, totalOwed, posting⟩ := payment.posting
      exact posting.allOrNothing settled (keeps unpaid posting.found)
  | granted authorized unexpired next found => exact settled
  | pulled granted active unexpired found covered payment =>
      obtain ⟨unpaid, cycle, lease, totalPaid, totalOwed, posting⟩ := payment.posting
      have same := Option.some.inj (found.symm.trans posting.found)
      rw [Operation.enter, found, Option.elim_some]
      apply posting.allOrNothing settled
      rw [same]
  | terminated found stored entitled authorized => exact settled
  | paused stored authorized => exact settled
  | configured stored authorized => exact settled
  | distributed stored authorized held within accepted sent available => exact settled

end Steps

/-! ## Runs -/

/-- The states of a run that keeps the balances. -/
structure Balanced (state : Store × (U64 → Int)) : Prop where
  balances : state.1.books.Exact state.2
  settled : state.1.books.AllOrNothing state.2

theorem newModule_balanced : Balanced (newModule, fun _ => 0) where
  balances :=
    { within := fun cycleId cycle found => by simp [newModule, Store.books, Store.cycles] at found
      balanced := fun leaseId lease found => by
        simp [newModule, Store.books, Store.leases] at found }
  settled := fun cycleId cycle found => by simp [newModule, Store.books, Store.cycles] at found

theorem step_exact_iff {call : Call} {state : Store × (U64 → Int)}
    (wellKept : state.1.books.WellKept) (balanced : Balanced state) :
    BalancesExact (annotate step accept call state).1 (annotate step accept call state).2 ↔
      call.KeepsBalances state.1 := by
  rw [balancesExact_iff, Call.KeepsBalances]
  rcases annotate_cases accept (fun _ _ _ => rfl) call state with
    ⟨committed, outcome, kept⟩ | ⟨refused, kept⟩
  · rw [kept]
    apply (outcome.effect.exact_iff balanced.balances wellKept balanced.settled).trans
    exact (imp_iff_right committed).symm
  · rw [kept]
    exact iff_of_true balanced.balances fun committed => by cases refused.symm.trans committed

theorem step_balanced {call : Call} {state : Store × (U64 → Int)}
    (wellKept : state.1.books.WellKept) (balanced : Balanced state)
    (keeps : call.KeepsBalances state.1) : Balanced (annotate step accept call state) := by
  refine ⟨balancesExact_iff.mp ((step_exact_iff wellKept balanced).mpr keeps), ?_⟩
  rcases annotate_cases accept (fun _ _ _ => rfl) call state with
    ⟨committed, outcome, kept⟩ | ⟨refused, kept⟩
  · rw [kept]
    exact outcome.effect.allOrNothing balanced.settled (keeps committed)
  · rw [kept]
    exact balanced.settled

/-- The balances are exact in every state of a run exactly when every step keeps them. -/
theorem balances_exact_iff (calls : List Call) :
    (∀ earlier, earlier <+: calls →
      BalancesExact (run (annotate step accept) earlier (newModule, fun _ => 0)).1
        (run (annotate step accept) earlier (newModule, fun _ => 0)).2) ↔
      MeetsAlong step Call.KeepsBalances calls newModule := by
  have along : MeetsAlong (annotate step accept)
      (fun call state => BalancesExact (annotate step accept call state).1
        (annotate step accept call state).2) calls (newModule, fun _ => 0) ↔
      MeetsAlong (annotate step accept) (fun call state => call.KeepsBalances state.1) calls
        (newModule, fun _ => 0) := by
    apply @meetsAlong_iff _ _ _ (fun state => state.1.books.WellKept) Balanced
    · intro call state wellKept
      exact step_wellKept call state.1 wellKept
    · intro call state wellKept balanced
      exact step_exact_iff wellKept balanced
    · intro call state wellKept balanced balances
      exact step_balanced wellKept balanced ((step_exact_iff wellKept balanced).mp balances)
    · exact newModule_wellKept
    · exact newModule_balanced
  have everywhere := @forall_prefix_iff _ _ (annotate step accept)
    (fun state => BalancesExact state.1 state.2) calls (newModule, fun _ => 0)
  have initially : BalancesExact newModule fun _ => 0 :=
    balancesExact_iff.mpr newModule_balanced.balances
  rw [everywhere, and_iff_right initially, along]
  exact @meetsAlong_annotate _ _ step _ accept Call.KeepsBalances calls (newModule, fun _ => 0)

/-- A tenant pays 40 of a rent of 100. -/
def partialPayment : List Call :=
  [⟨.willing 100 1, .initializeContract ⟨9⟩ ⟨8⟩⟩,
   ⟨.willing 100 2, .registerLeaseBilling 7 ⟨1⟩ ⟨2⟩ ⟨3⟩ 100 0 ⟨4⟩ 100 1000 300⟩,
   ⟨.willing 100 3, .processBillingCycle 7 ⟨1⟩⟩,
   ⟨.willing 110 4, .processPayment ⟨2⟩ 3 40⟩]

/-- The lease owes 60 for the cycle and is charged with 120. -/
theorem partialPayment_charges_twice :
    ¬ ∀ earlier, earlier <+: partialPayment →
      BalancesExact (run (annotate step accept) earlier (newModule, fun _ => 0)).1
        (run (annotate step accept) earlier (newModule, fun _ => 0)).2 := by
  intro balances
  have balanced := (balances partialPayment (List.prefix_refl _)).balanced 7
    { ActiveLease.registered 7 ⟨1⟩ ⟨2⟩ ⟨3⟩ 100 0 ⟨4⟩ 100 1000 300 ⟨8⟩ with
      lastBillingCycle := 100, totalOwed := 160, totalPaid := 40 } (by decide)
  revert balanced
  decide

end LeaseFlow.Billing
