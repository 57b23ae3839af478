import LeaseFlow.Calendar.TerminationRefund
import LeaseFlow.Dunning.GracePeriod
import LeaseFlow.Dunning.Growth

/-!
# Refunds of amicable terminations

Either party may end an active lease.  The refund is capped by the rent that was paid, a recent
payment costs a tenth of it, and the lease is closed with it, for good.
-/

set_option autoImplicit false

namespace LeaseFlow.Dunning

open Transaction Run Table

/-! ## The size of a refund -/

section Amounts

variable {monthlyRent paidAmount : Int} {originalStart originalEnd timestamp : Nat}

/-- A refund that is found lies between nothing and what was paid. -/
theorem calculateTerminationRefund_bounds {refund : Option I64} (rent_nonneg : 0 ≤ monthlyRent)
    (paid_nonneg : 0 ≤ paidAmount)
    (calculated : LeaseflowMath.calculateTerminationRefund monthlyRent originalStart originalEnd
      timestamp paidAmount = some refund) :
    0 ≤ refund.getD 0 ∧ refund.getD 0 ≤ paidAmount := by
  cases refund with
  | none => exact ⟨le_rfl, paid_nonneg⟩
  | some amount =>
      by_cases outside : timestamp ≤ originalStart ∨ timestamp ≥ originalEnd
      · rw [LeaseflowMath.calculateTerminationRefund, if_pos outside] at calculated
        cases calculated
      · obtain ⟨started, running⟩ := not_or.mp outside
        cases read : LeaseflowMath.getSecondsInMonth timestamp with
        | none =>
            rw [LeaseflowMath.calculateTerminationRefund, if_neg outside, read] at calculated
            cases calculated
        | some secondsInMonth =>
            rw [calculateTerminationRefund_of_reads (not_le.mp started) (not_le.mp running) read]
              at calculated
            obtain ⟨capped, found, rfl⟩ := Option.map_eq_some_iff.mp (Option.some.inj calculated)
            obtain rfl := eq_cappedRefund rent_nonneg found
            have capped_nonneg : 0 ≤ cappedRefund monthlyRent (originalEnd - timestamp)
                secondsInMonth paidAmount := cappedRefund_nonneg rent_nonneg paid_nonneg
            exact ⟨lessMargin_nonneg _, (lessMargin_le capped_nonneg).trans (min_le_right _ _)⟩

theorem exists_terminationRefund (early : timestamp < 10000000000000000) :
    ∃ refund, LeaseflowMath.calculateTerminationRefund monthlyRent originalStart originalEnd
      timestamp paidAmount = some refund := by
  have estimate := (@dayRead_of_fits timestamp (by omega)).1
  have fits : estimatedYear timestamp ≤ i32Max := by
    have most : i32Max = 2147483647 := rfl
    rw [estimate, most]
    omega
  obtain ⟨_, _, read⟩ := getSecondsInMonth_of_fits fits
  by_cases outside : timestamp ≤ originalStart ∨ timestamp ≥ originalEnd
  · rw [LeaseflowMath.calculateTerminationRefund, if_pos outside]
    exact ⟨_, rfl⟩
  · obtain ⟨started, running⟩ := not_or.mp outside
    rw [calculateTerminationRefund_of_reads (not_le.mp started) (not_le.mp running) read]
    exact ⟨_, rfl⟩

end Amounts

section Penalty

variable {env : Env} {lease : Lease} {refund : Int}

theorem refundAfterPenalty_bounds (nonneg : 0 ≤ refund) :
    0 ≤ refundAfterPenalty env lease refund ∧ refundAfterPenalty env lease refund ≤ refund := by
  unfold refundAfterPenalty
  split
  · have tenth : refund.tdiv 10 = refund / 10 := Int.tdiv_eq_ediv_of_nonneg nonneg
    have rest_nonneg : 0 ≤ refund - refund / 10 := by omega
    have rest_le : refund - refund / 10 ≤ refund := by omega
    rw [saturatingSubI64, tenth]
    exact ⟨BoundedArithmetic.saturate_nonneg rest_nonneg zero_le_i64Max,
      (BoundedArithmetic.saturate_le rest_nonneg (by decide)).trans rest_le⟩
  · exact ⟨nonneg, le_rfl⟩

theorem refundAfterPenalty_of_old
    (old : 86400 ≤ env.timestamp - lease.lastRentPaymentTimestamp) :
    refundAfterPenalty env lease refund = refund :=
  if_neg fun recent => absurd recent.1 (not_lt.mpr old)

end Penalty

/-! ## Terminations -/

section Terminations

variable {env : Env} {leaseId : U64} {lease : Lease} {caller : Address} {data : ContractData}
  {store : Store}

theorem terminateLease_commits {refund : Option I64} (stored : store.data = some data)
    (found : data.leases.lookup leaseId = some lease)
    (party : caller = lease.lessor ∨ caller = lease.lessee) (active : lease.state = .active)
    (calculated : LeaseflowMath.calculateTerminationRefund lease.rentAmount lease.startDate
      lease.endDate env.timestamp lease.totalPaidRent = some refund) :
    Commits (terminateLease env leaseId caller) store
      (refundAfterPenalty env lease (refund.getD 0))
      { data := some (data.put leaseId lease.close)
        events := .proratedRentCalculated leaseId lease.rentAmount (lease.endDate - env.timestamp)
          (refundAfterPenalty env lease (refund.getD 0)) "termination" :: store.events } := by
  simp only [terminateLease, commits_bind, commits_load, commits_leaseOf, commits_ensure,
    commits_compute, commits_publish, commits_save, commits_pure]
  exact ⟨data, store, ⟨stored, rfl⟩, lease, store, ⟨found, rfl⟩, (), store, ⟨party, rfl⟩, (), store,
    ⟨active, rfl⟩, refund, store, ⟨calculated, rfl⟩, (), _, rfl, (), _, rfl, rfl, rfl⟩

end Terminations

/-! ## Refunds of a run -/

/-- How often the contract was initialized, and the leases that were refunded, each by the
initialization it was created under and its id. -/
structure RefundBook where
  initializations : Nat
  refunded : List (Nat × U64)

/-- The book after a call: `initialize` numbers the leases anew, a termination refunds one. -/
def Call.enterRefund (call : Call) (store : Store) (book : RefundBook) : RefundBook :=
  if call.body.succeeds store = true then
    match call.operation with
    | .initializeContract _ => { book with initializations := book.initializations + 1 }
    | .terminateLease leaseId _ =>
        { book with refunded := (book.initializations, leaseId) :: book.refunded }
    | _ => book
  else book

def RefundBook.empty : RefundBook where
  initializations := 0
  refunded := []

/-- A refunded lease of the current initialization is closed. -/
structure RefundBook.Settled (book : RefundBook) (data : Option ContractData) : Prop where
  nodup : book.refunded.Nodup
  past : ∀ epoch leaseId, (epoch, leaseId) ∈ book.refunded → epoch ≤ book.initializations
  closed : ∀ leaseId, (book.initializations, leaseId) ∈ book.refunded →
    ∃ lease, leaseAt leaseId data = some lease ∧ lease.state = .closed

section Books

variable {call : Call} {store : Store}

theorem LeaseStep.not_closed {env : Env} {operation : Operation} {leaseId : U64}
    {prior lease : Lease} (change : LeaseStep env operation leaseId prior lease) :
    prior.state ≠ .closed := by
  intro closed
  cases change with
  | activated pending => cases pending.symm.trans closed
  | paid active enough => cases active.symm.trans closed
  | recovered late => cases late.symm.trans closed
  | enteredGracePeriod active lateFee => cases active.symm.trans closed
  | evicted asked late dunning expired => cases late.symm.trans closed
  | deducted evicted => cases evicted.symm.trans closed
  | billed active => cases active.symm.trans closed
  | closed active => cases active.symm.trans closed

theorem step_closed (reached : Reaches step newContract store)
    (kept : ∀ oracleAddress, call.operation ≠ .initializeContract oracleAddress)
    {leaseId : U64} {lease : Lease} (found : leaseAt leaseId store.data = some lease)
    (closed : lease.state = .closed) :
    ∃ later, leaseAt leaseId (step call store).data = some later ∧ later.state = .closed := by
  obtain ⟨calls, rfl⟩ := reached
  have deposits (leaseId : U64) (lease : Lease)
      (found : leaseAt leaseId (run step calls newContract).data = some lease) :
      0 < lease.depositAmount :=
    (run_consistent calls leaseId lease found).deposit_pos
  rcases step_effect call (run step calls newContract) with effect | same
  · obtain ⟨data, stored, record⟩ := Option.bind_eq_some_iff.mp found
    obtain ⟨later, saved, grows⟩ := effect.grows deposits kept stored
    obtain ⟨present, there⟩ := Option.isSome_iff_exists.mp (grows.leases leaseId (by
      rw [record]
      rfl))
    have laterFound : leaseAt leaseId (step call (run step calls newContract)).data =
        some present := by
      rw [saved]
      exact there
    cases step_traced (run_issued calls) laterFound with
    | new absent new => rw [found] at absent; cases absent
    | same before =>
        rw [found] at before
        cases before
        exact ⟨lease, laterFound, closed⟩
    | changed before change =>
        rw [found] at before
        cases before
        exact absurd closed change.not_closed
  · rw [same]
    exact ⟨lease, found, closed⟩

theorem Effect.of_termination {env : Env} {leaseId : U64} {caller : Address}
    {before after : Option ContractData}
    (effect : Effect env (.terminateLease leaseId caller) before after) :
    ∃ lease later, leaseAt leaseId before = some lease ∧ lease.state = .active ∧
      leaseAt leaseId after = some later ∧ later.state = .closed := by
  cases effect with
  | evicted asked => cases asked
  | idle asked => cases asked
  | closed found active party refunded =>
      exact ⟨_, _, found, active, lookup_set_self _ _ _, rfl⟩

/-- The current entries of a book remain settled by a call that refunds nothing. -/
theorem RefundBook.Settled.keep {book : RefundBook} (settled : book.Settled store.data)
    (reached : Reaches step newContract store)
    (kept : ∀ oracleAddress, call.operation ≠ .initializeContract oracleAddress) :
    book.Settled (step call store).data where
  nodup := settled.nodup
  past := settled.past
  closed leaseId listed := by
    obtain ⟨lease, found, closed⟩ := settled.closed leaseId listed
    exact step_closed reached kept found closed

theorem settled_step {book : RefundBook} (reached : Reaches step newContract store)
    (settled : book.Settled store.data) :
    (call.enterRefund store book).Settled (step call store).data := by
  unfold Call.enterRefund
  by_cases goes : call.body.succeeds store = true
  · rw [if_pos goes]
    have effect := call_effect (commits_attempt goes)
    cases asked : call.operation with
    | initializeContract oracleAddress =>
        dsimp only
        refine ⟨settled.nodup, fun epoch leaseId listed => ?_, fun leaseId listed => ?_⟩
        · exact (settled.past epoch leaseId listed).trans (Nat.le_succ _)
        · exact absurd (settled.past _ leaseId listed) (Nat.not_succ_le_self _)
    | terminateLease leaseId caller =>
        dsimp only
        rw [asked] at effect
        have keeps := @RefundBook.Settled.keep call store book settled reached (by simp [asked])
        obtain ⟨lease, later, found, active, saved, closed⟩ := effect.of_termination
        refine ⟨List.nodup_cons.mpr ⟨fun listed => ?_, settled.nodup⟩, fun epoch other listed => ?_,
          fun other listed => ?_⟩
        · -- A lease refunded before is closed, and only an active one is terminated.
          obtain ⟨refunded, before, done⟩ := settled.closed leaseId listed
          rw [found] at before
          cases before
          cases active.symm.trans done
        · rcases List.mem_cons.mp listed with same | earlier
          · cases same
            exact le_rfl
          · exact settled.past epoch other earlier
        · rcases List.mem_cons.mp listed with same | earlier
          · cases same
            exact ⟨later, saved, closed⟩
          · exact keeps.closed other earlier
    | _ =>
        exact settled.keep reached (by simp [asked])
  · rw [if_neg goes, step, attempt_of_not_succeeds (Bool.eq_false_iff.mpr goes)]
    exact settled

/-- The books of a run are settled. -/
theorem run_settled (calls : List Call) :
    (run (annotate step Call.enterRefund) calls (newContract, .empty)).2.Settled
      (run step calls newContract).data := by
  have both := @invariant _ _ (annotate step Call.enterRefund)
    (fun state => Reaches step newContract state.1 ∧ state.2.Settled state.1.data)
    (fun call state inv => ⟨inv.1.next call, settled_step inv.1 inv.2⟩) calls
    (newContract, .empty) ⟨reaches_refl newContract, .nil, nofun, nofun⟩
  have settled := both.2
  rwa [run_annotate_fst] at settled

end Books

/-- Before the ten-quadrillionth second either party of an active lease gets a refund of at most
what was paid, and less for a recent payment, if anything changes by it.  No lease is refunded
twice in a run. -/
theorem terminations_refund_once (calls : List Call) :
    (∀ (env : Env) (leaseId : U64) (lease : Lease) (caller : Address),
      leaseAt leaseId (run step calls newContract).data = some lease → lease.state = .active →
      caller = lease.lessor ∨ caller = lease.lessee → env.timestamp < 10000000000000000 →
      ∃ (whole : Option I64) (refund : Int) (after : Store),
        LeaseflowMath.calculateTerminationRefund lease.rentAmount lease.startDate lease.endDate
          env.timestamp lease.totalPaidRent = some whole ∧
        Commits (terminateLease env leaseId caller) (run step calls newContract) refund after ∧
        0 ≤ refund ∧ refund ≤ lease.totalPaidRent ∧ refund ≤ whole.getD 0 ∧
        (86400 ≤ env.timestamp - lease.lastRentPaymentTimestamp → refund = whole.getD 0)) ∧
    (run (annotate step Call.enterRefund) calls (newContract, .empty)).2.refunded.Nodup := by
  refine ⟨fun env leaseId lease caller found active party early => ?_, (run_settled calls).nodup⟩
  obtain ⟨data, stored, record⟩ := Option.bind_eq_some_iff.mp found
  have rent_pos := (run_consistent calls leaseId lease found).rent_pos
  have paid_nonneg := ((run_bounded calls data stored).leases leaseId lease record).paid_nonneg
  obtain ⟨whole, calculated⟩ := @exists_terminationRefund lease.rentAmount lease.totalPaidRent
    lease.startDate lease.endDate env.timestamp early
  obtain ⟨whole_nonneg, whole_le⟩ :=
    calculateTerminationRefund_bounds rent_pos.le paid_nonneg calculated
  obtain ⟨nonneg, le⟩ := @refundAfterPenalty_bounds env lease _ whole_nonneg
  exact ⟨whole, _, _, calculated, terminateLease_commits stored record party active calculated,
    nonneg, le.trans whole_le, le, refundAfterPenalty_of_old⟩

end LeaseFlow.Dunning
