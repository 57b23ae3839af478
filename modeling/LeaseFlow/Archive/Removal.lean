import LeaseFlow.Archive.Entries

/-!
# Calls that remove a record

Three operations archive the lease they close, and the sweep of expired proposals removes
its lease without a trace.  No other call removes a record from live storage.
-/

set_option autoImplicit false

namespace LeaseFlow

open Transaction

/-- The lease whose record a call removes if it goes through. -/
def Call.removes (world : World) : Call → Option LeaseId
  | .sweepExpiredProposals _ leaseId => some leaseId
  | call => call.archives world

section Removal

variable {env : Env} {world after : World} {leaseId : LeaseId} {lease : LeaseInstance}
  {call : Call}

theorem LeaseInstance.paid_boughtOut_iff {paymentAmount : I128} :
    (lease.paid paymentAmount).boughtOut = true ↔ ∃ price, lease.buyoutPrice = some price ∧
      price ≤ lease.cumulativePayments + paymentAmount := by
  unfold LeaseInstance.boughtOut LeaseInstance.paid
  cases lease.buyoutPrice <;> simp

theorem payLeaseInstanceRent_removes_iff {payer : Address} {paymentAmount : I128} {result : Unit}
    (run : Commits (payLeaseInstanceRent env leaseId payer paymentAmount) world result after) :
    world.boughtOutBy leaseId paymentAmount = true ↔ after.leases.lookup leaseId = none := by
  obtain ⟨lease, found, outcome⟩ := payLeaseInstanceRent_commits run
  rw [World.boughtOutBy, found, Option.any_some, LeaseInstance.paid_boughtOut_iff]
  split at outcome
  · next reached =>
      refine iff_of_true reached ?_
      rw [show after.leases = _ from congrArg Escrow.leases outcome]
      exact Table.lookup_set_self ..
  · next short =>
      obtain ⟨_, amended, _, _, stored⟩ := outcome
      refine iff_of_false short ?_
      rw [show after.leases = _ from congrArg Escrow.leases stored]
      simp [Escrow.store]

theorem Call.subject_of_removes (removes : call.removes world = some leaseId) :
    call.subject env = some leaseId := by
  cases call with
  | payLeaseInstanceRent other payer paymentAmount =>
      simp only [Call.removes, Call.archives, Option.ite_none_right_eq_some] at removes
      exact removes.2
  | _ => first | exact removes | cases removes

theorem Call.removes_of_creates (creates : call.creates env = some leaseId) :
    call.removes world = none := by
  cases call <;> first | rfl | cases creates

theorem Call.not_removes_of_amended (amends : call.amended = some leaseId)
    (run : Commits (dispatch env call) world () after)
    (stored : after.leases.lookup leaseId = some lease) : call.removes world = none := by
  cases call with
  | payLeaseInstanceRent other payer paymentAmount =>
      obtain rfl : other = leaseId := Option.some.inj amends
      apply if_neg
      intro bought
      cases stored.symm.trans ((payLeaseInstanceRent_removes_iff run).mp bought)
  | _ => first | rfl | cases amends

/-- The change removes the record exactly when its call is one that removes it. -/
theorem LeaseChange.removes_iff {record : Option LeaseInstance} {entries : List DepositEntry}
    (change : LeaseChange env world leaseId lease call record entries)
    (run : Commits (dispatch env call) world () after)
    (stored : after.leases.lookup leaseId = record) :
    record = none ↔ call.removes world = some leaseId := by
  cases change with
  | amended amends terms =>
      refine iff_of_false (by nofun) fun removes => ?_
      cases removes.symm.trans (Call.not_removes_of_amended amends run stored)
  | boughtOut priced reached =>
      refine iff_of_true rfl ?_
      exact if_pos ((payLeaseInstanceRent_removes_iff run).mpr stored)
  | terminated | endedEarly | swept => exact iff_of_true rfl rfl
  | _ => exact iff_of_false (by nofun) (by nofun)

/-- A stored record is gone after a committed call exactly when the call removes it. -/
theorem dispatch_removes_iff (run : Commits (dispatch env call) world () after)
    (stored : world.leases.lookup leaseId = some lease) :
    after.leases.lookup leaseId = none ↔ call.removes world = some leaseId := by
  have movement := (dispatch_effect run).movement
  by_cases subject : call.subject env = some leaseId
  · cases movement with
    | still silent => cases silent.symm.trans subject
    | opened opening moved =>
        obtain rfl := Option.some.inj (opening.subject.symm.trans subject)
        rw [moved.lookup_self, Call.removes_of_creates opening.creates]
        exact iff_of_false (by nofun) (by nofun)
    | changed found change moved =>
        obtain rfl := Option.some.inj (change.subject.symm.trans subject)
        rw [moved.lookup_self]
        exact change.removes_iff run moved.lookup_self
  · rw [movement.frame subject, stored]
    refine iff_of_false (by nofun) fun removes => ?_
    exact subject (Call.subject_of_removes removes)

end Removal

end LeaseFlow
