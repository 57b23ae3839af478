import LeaseFlow.KeySpace.SharedStore

/-!
# What both surfaces move of a deposit

The contract pays a deposit out by the statuses of its record.  A refund of the router looks at
the status of the lease only, takes whatever amount it is called with and leaves no trace on the
record, so that neither another refund nor a payout of the contract takes account of it.
-/

set_option autoImplicit false

namespace LeaseFlow.KeySpace

open Transaction Failure

/-- The call pays the whole deposit out only where nothing was moved, sweeps a proposal only when
its security deposit is within its total, and routes no more than is left. -/
def SharedCall.Affords (leaseId : LeaseId) (lease : LeaseInstance) (moved : Int) :
    SharedCall → Prop
  | .contract ⟨_, .executeEarlyTermination named _⟩ => named = leaseId → moved = 0
  | .contract ⟨_, .executeDepositSlash payload⟩ => payload.leaseId = leaseId → moved = 0
  | .contract ⟨_, .sweepExpiredProposals _ named⟩ => named = leaseId → 0 ≤ lease.depositAmount
  | .modules _ (.refundDepositToNftHolder named refundAmount) =>
      named = leaseId → max refundAmount 0 + moved ≤ lease.totalDeposit
  | _ => True

section Affords

variable {leaseId : LeaseId} {lease : LeaseInstance} {moved : Int} {env : Env} {call : Call}

theorem affords_of_foreign (foreign : call.subject env ≠ some leaseId) :
    (SharedCall.contract ⟨env, call⟩).Affords leaseId lease moved := by
  cases call with
  | executeEarlyTermination | executeDepositSlash | sweepExpiredProposals =>
      exact fun named => absurd (congrArg some named) foreign
  | _ => trivial

theorem affords_of_amended (amends : call.amended = some leaseId) :
    (SharedCall.contract ⟨env, call⟩).Affords leaseId lease moved := by
  cases call with
  | executeEarlyTermination | executeDepositSlash | sweepExpiredProposals => cases amends
  | _ => trivial

theorem affords_of_apart {call : ModuleCall}
    (apart : ∀ amount, call ≠ .refundDepositToNftHolder leaseId amount) :
    (SharedCall.modules env call).Affords leaseId lease moved := by
  cases call with
  | refundDepositToNftHolder named refundAmount =>
      rintro rfl
      exact absurd rfl (apart refundAmount)
  | _ => trivial

end Affords

/-! ## The course of a record -/

/-- What a record of the given amounts still allows once an amount was moved. -/
structure RefundCourse (securityDeposit depositAmount moved : Int) (lease : LeaseInstance) :
    Prop where
  securityDeposit : lease.securityDeposit = securityDeposit
  depositAmount : lease.depositAmount = depositAmount
  feeless : lease.Feeless
  unmoved : lease.status = .pending ∨ lease.status = .active → moved = 0
  unexpired : lease.status ≠ .expired

/-- No change pays out a negative amount. -/
theorem paidOut_nonneg {env : Env} {world : World} {leaseId : LeaseId} {lease : LeaseInstance}
    {call : Call} {record : Option LeaseInstance} {entries : List DepositEntry}
    (change : LeaseChange env world leaseId lease call record entries) :
    0 ≤ paidOut (forLease leaseId) entries := by
  cases change with
  | released | endedEarly | slashed =>
      rw [paidOut_forLease_shareEntries]
      exact add_nonneg (le_max_right _ _) (le_max_right _ _)
  | swept =>
      rw [paidOut_depositPayout, if_pos (by simp [forLease])]
      exact le_max_right _ _
  | _ => exact le_rfl

namespace RefundCourse

variable {env : Env} {world : World} {leaseId : LeaseId} {call : Call}
  {securityDeposit depositAmount moved : Int} {lease next : LeaseInstance}
  {record : Option LeaseInstance} {entries : List DepositEntry}

theorem totalDeposit (course : RefundCourse securityDeposit depositAmount moved lease) :
    lease.totalDeposit = securityDeposit + depositAmount := by
  rw [LeaseInstance.totalDeposit, course.securityDeposit, course.depositAmount]

theorem of_opening (opening : Opening env world call leaseId lease) :
    RefundCourse lease.securityDeposit lease.depositAmount 0 lease := by
  cases opening with
  | proposed => exact ⟨rfl, rfl, ⟨rfl, rfl⟩, fun _ => rfl, by simp [proposedLease]⟩
  | billed => exact ⟨rfl, rfl, ⟨rfl, rfl⟩, fun _ => rfl, by simp [billedLease]⟩

theorem unmoved_of_running (course : RefundCourse securityDeposit depositAmount moved lease)
    (running : lease.status = .active ∨ lease.status = .expired) : moved = 0 :=
  course.unmoved (.inr (running.resolve_right course.unexpired))

theorem terminated_of_ended (course : RefundCourse securityDeposit depositAmount moved lease)
    (ended : lease.status = .terminated ∨ lease.status = .expired) : lease.status = .terminated :=
  ended.resolve_right course.unexpired

/-- A record whose lease is over stays on course whatever was moved. -/
theorem closed {final : Int} (course : RefundCourse securityDeposit depositAmount moved lease)
    (amounts : next.securityDeposit = lease.securityDeposit ∧
      next.depositAmount = lease.depositAmount) (feeless : next.Feeless)
    (closed : next.status = .terminated ∨ next.status = .disputed) :
    RefundCourse securityDeposit depositAmount final next where
  securityDeposit := amounts.1.trans course.securityDeposit
  depositAmount := amounts.2.trans course.depositAmount
  feeless := feeless
  unmoved := by rcases closed with status | status <;> simp [status]
  unexpired := by rcases closed with status | status <;> simp [status]

/-- So does one whose status stays, as long as nothing is moved. -/
theorem stays (course : RefundCourse securityDeposit depositAmount moved lease)
    (amounts : next.securityDeposit = lease.securityDeposit ∧
      next.depositAmount = lease.depositAmount) (feeless : next.Feeless)
    (status : next.status = lease.status) :
    RefundCourse securityDeposit depositAmount moved next where
  securityDeposit := amounts.1.trans course.securityDeposit
  depositAmount := amounts.2.trans course.depositAmount
  feeless := feeless
  unmoved := status ▸ course.unmoved
  unexpired := status ▸ course.unexpired

/-- A change of the contract leaves a record on course. -/
theorem changed (course : RefundCourse securityDeposit depositAmount moved lease)
    (change : LeaseChange env world leaseId lease call (some next) entries)
    (idle : call.movesYield = false) :
    RefundCourse securityDeposit depositAmount (paidOut (forLease leaseId) entries + moved)
      next := by
  have amounts := change.sameAmounts rfl idle
  have feeless := (change.sameParties rfl).feeless course.feeless
  have still : next.status = lease.status →
      RefundCourse securityDeposit depositAmount (paidOut (forLease leaseId) [] + moved) next := by
    intro status
    rw [paidOut_nil, zero_add]
    exact course.stays amounts feeless status
  cases change with
  | amended _ terms => exact still terms.status
  | settled => exact still rfl
  | concluded | resolved | released | reclaimed =>
      exact course.closed amounts feeless (.inl rfl)
  | disputed | fallbackDisputed => exact course.closed amounts feeless (.inr rfl)
  | slashed _ ended =>
      exact course.closed amounts feeless (.inl (course.terminated_of_ended ended))
  | deployed | withdrawn => cases idle

/-- A payout of the contract stays within the deposit exactly if the call affords it. -/
theorem within_iff (course : RefundCourse securityDeposit depositAmount moved lease)
    (held : 0 ≤ securityDeposit + depositAmount) (nonneg : 0 ≤ moved)
    (within : moved ≤ securityDeposit + depositAmount)
    (change : LeaseChange env world leaseId lease call record entries) :
    paidOut (forLease leaseId) entries + moved ≤ securityDeposit + depositAmount ↔
      (SharedCall.contract ⟨env, call⟩).Affords leaseId lease moved := by
  have total := course.totalDeposit
  have still : paidOut (forLease leaseId) [] + moved ≤ securityDeposit + depositAmount := by
    rwa [paidOut_nil, zero_add]
  have whole : securityDeposit + depositAmount + moved ≤ securityDeposit + depositAmount ↔
      moved = 0 := by omega
  cases change with
  | amended amends => exact iff_of_true still (affords_of_amended amends)
  | released running split returned slashed =>
      refine iff_of_true ?_ trivial
      rw [paidOut_forLease_shareEntries, course.unmoved_of_running running, max_eq_left returned,
        max_eq_left slashed]
      linarith
  | endedEarly =>
      rw [paidOut_forLease_shareEntries, course.feeless.finalPenalty, total, min_eq_left held,
        sub_zero, max_self, zero_add, max_eq_left held, whole]
      exact (imp_iff_right rfl).symm
  | @slashed payload names _ _ range =>
      rw [total] at range
      have low := slashPenalty_nonneg payload.damageSeverity held
      have high := slashPenalty_le payload.damageSeverity held
      rw [paidOut_forLease_shareEntries, total, slashRefund_eq payload.damageSeverity held range,
        max_eq_left low, max_eq_left (sub_nonneg.mpr high), add_sub_cancel, whole]
      exact (imp_iff_right names).symm
  | swept pending =>
      rw [paidOut_depositPayout, if_pos (by simp [forLease]), course.unmoved (.inl pending),
        add_zero, course.securityDeposit, max_le_iff, and_iff_left held, le_add_iff_nonneg_right,
        ← course.depositAmount]
      exact (imp_iff_right rfl).symm
  | _ => exact iff_of_true still trivial

end RefundCourse

/-! ## The account of a lease -/

namespace SharedEffect

variable {leaseId : LeaseId} {before after : Option LeaseInstance} {call : SharedCall}
  {amount securityDeposit depositAmount moved : Int}

theorem course (effect : SharedEffect leaseId before after call amount)
    (stays : call.StaysOn leaseId)
    (course : ∀ lease, before = some lease →
      RefundCourse securityDeposit depositAmount moved lease) :
    ∀ next, after = some next →
      RefundCourse securityDeposit depositAmount (amount + moved) next := by
  intro next kept
  cases effect with
  | foreign _ record | aside _ record =>
      rw [zero_add]
      exact course next (record.symm.trans kept)
  | changed found change =>
      subst kept
      exact (course _ found).changed change (stays change.subject).2
  | tokenised found record =>
      obtain rfl := Option.some.inj (record.symm.trans kept)
      rw [zero_add]
      have here := course _ found
      exact here.stays ⟨rfl, rfl⟩ ⟨here.feeless.1, here.feeless.2⟩ rfl
  | refunded found ended record =>
      obtain rfl := Option.some.inj (found.symm.trans (record.symm.trans kept))
      have here := course _ found
      exact here.closed ⟨rfl, rfl⟩ here.feeless (.inl (here.terminated_of_ended ended))
  | released found running record =>
      obtain rfl := Option.some.inj (record.symm.trans kept)
      have here := course _ found
      exact here.closed ⟨rfl, rfl⟩ ⟨here.feeless.1, here.feeless.2⟩ (.inl rfl)

/-- Nothing that was moved is taken back. -/
theorem nonneg (effect : SharedEffect leaseId before after call amount)
    (held : 0 ≤ securityDeposit + depositAmount)
    (course : ∀ lease, before = some lease →
      RefundCourse securityDeposit depositAmount moved lease) : 0 ≤ amount := by
  cases effect with
  | foreign | aside | tokenised => exact le_rfl
  | changed _ change => exact paidOut_nonneg change
  | refunded => exact le_max_right _ _
  | released found =>
      rw [(course _ found).totalDeposit]
      exact held

/-- What was moved stays within the deposit exactly if the call affords what it moves. -/
theorem within_iff (effect : SharedEffect leaseId before after call amount)
    (held : 0 ≤ securityDeposit + depositAmount) (nonneg : 0 ≤ moved)
    (within : moved ≤ securityDeposit + depositAmount)
    (course : ∀ lease, before = some lease →
      RefundCourse securityDeposit depositAmount moved lease) :
    amount + moved ≤ securityDeposit + depositAmount ↔
      ∀ lease, before = some lease → call.Affords leaseId lease moved := by
  have still : 0 + moved ≤ securityDeposit + depositAmount := by rwa [zero_add]
  have found_iff {lease : LeaseInstance} (found : before = some lease) :
      (∀ other, before = some other → call.Affords leaseId other moved) ↔
        call.Affords leaseId lease moved := by
    simp [found]
  cases effect with
  | foreign foreign => exact iff_of_true still fun _ _ => affords_of_foreign foreign
  | aside apart => exact iff_of_true still fun _ _ => affords_of_apart apart
  | tokenised => exact iff_of_true still fun _ _ => trivial
  | changed found change =>
      rw [found_iff found]
      exact (course _ found).within_iff held nonneg within change
  | refunded found =>
      rw [found_iff found, ← (course _ found).totalDeposit]
      exact (imp_iff_right rfl).symm
  | released found running =>
      have here := course _ found
      refine iff_of_true ?_ fun _ _ => trivial
      rw [here.unmoved_of_running running, add_zero, here.totalDeposit]

end SharedEffect

/-- What was paid and routed on a lease since an earlier store. -/
def SharedStore.movedSince (leaseId : LeaseId) (store start : SharedStore) : Int :=
  store.moved leaseId - start.moved leaseId

/-- The record of a lease, if any, is on course with what was moved. -/
structure SharedStore.OnCourse (leaseId : LeaseId) (securityDeposit depositAmount : Int)
    (store start : SharedStore) : Prop where
  nonneg : 0 ≤ store.movedSince leaseId start
  course : ∀ lease, store.record leaseId = some lease →
    RefundCourse securityDeposit depositAmount (store.movedSince leaseId start) lease

/-! ## Runs -/

section Runs

variable (gaps : Gaps) (sha256 : String → BytesN 32) (others : LeaseId → StoredLease)

/-- A call that goes through affords what it moves on the lease. -/
def AffordsAlong (leaseId : LeaseId) (start : SharedStore) (call : SharedCall)
    (store : SharedStore) : Prop :=
  Machine.Goes (SharedCall.body gaps sha256 others) call store →
    ∀ lease, store.record leaseId = some lease →
      call.Affords leaseId lease (store.movedSince leaseId start)

variable {gaps} {sha256} {others} {before start store : SharedStore} {leaseId : LeaseId}
  {securityDeposit depositAmount : Int} {call : SharedCall}

theorem movedSince_of_moved {next : SharedStore} {amount : Int}
    (moves : next.moved leaseId = amount + store.moved leaseId) :
    next.movedSince leaseId start = amount + store.movedSince leaseId start := by
  rw [SharedStore.movedSince, moves, add_sub_assoc]
  rfl

/-- What was moved was nonnegative, and the record is on course, after every call. -/
theorem onCourse_step (held : 0 ≤ securityDeposit + depositAmount) (stays : call.StaysOn leaseId)
    (onCourse : store.OnCourse leaseId securityDeposit depositAmount start) :
    (sharedStep gaps sha256 others call store).OnCourse leaseId securityDeposit depositAmount
      start := by
  by_cases goes : Machine.Goes (SharedCall.body gaps sha256 others) call store
  · obtain ⟨amount, effect, moves⟩ := sharedCall_effect stays goes.commits
    have moved : SharedStore.movedSince _ _ start = _ := movedSince_of_moved moves
    constructor
    · rw [moved]
      exact add_nonneg (effect.nonneg held onCourse.course) onCourse.nonneg
    · rw [moved]
      exact effect.course stays onCourse.course
  · rwa [sharedStep, Machine.step_of_not_goes goes]

theorem within_step_iff (held : 0 ≤ securityDeposit + depositAmount)
    (stays : call.StaysOn leaseId)
    (onCourse : store.OnCourse leaseId securityDeposit depositAmount start)
    (within : store.movedSince leaseId start ≤ securityDeposit + depositAmount) :
    (sharedStep gaps sha256 others call store).movedSince leaseId start ≤
        securityDeposit + depositAmount ↔
      AffordsAlong gaps sha256 others leaseId start call store := by
  refine @Machine.step_keeps_iff _ _ _ _ _ _
    (fun store : SharedStore => store.movedSince leaseId start ≤ securityDeposit + depositAmount)
    _ within fun next run => ?_
  obtain ⟨amount, effect, moves⟩ := sharedCall_effect stays run
  rw [movedSince_of_moved moves]
  exact effect.within_iff held onCourse.nonneg within onCourse.course

/-- A creation puts the record it opens on course. -/
theorem onCourse_of_created {creation : LeaseFlow.Invocation} {lease : LeaseInstance}
    (created : Commits (SharedCall.body gaps sha256 others (.contract creation)) before () start)
    (creates : creation.call.creates creation.env = some leaseId)
    (stored : start.record leaseId = some lease) :
    start.OnCourse leaseId lease.securityDeposit lease.depositAmount start := by
  obtain ⟨world, ran, rfl⟩ := (commits_within _ _).mp ((commits_raising _ _ _).mp created)
  obtain ⟨opened, opening, moved⟩ := (dispatch_effect ran).movement.opening creates
  obtain rfl : opened = lease := Option.some.inj (moved.lookup_self.symm.trans stored)
  constructor
  · rw [SharedStore.movedSince, sub_self]
  · intro other found
    obtain rfl := Option.some.inj (stored.symm.trans found)
    rw [SharedStore.movedSince, sub_self]
    exact .of_opening opening

/-- From a creation on, what both surfaces move on a lease stays within its recorded deposit
exactly if that is nonnegative and every call affords what it moves. -/
theorem refunds_bounded_along_iff (gaps : Gaps) (sha256 : String → BytesN 32)
    (others : LeaseId → StoredLease) {creation : LeaseFlow.Invocation} {before start : SharedStore}
    {leaseId : LeaseId} {lease : LeaseInstance} {calls : List SharedCall}
    (created : Commits (SharedCall.body gaps sha256 others (.contract creation)) before () start)
    (creates : creation.call.creates creation.env = some leaseId)
    (stored : start.record leaseId = some lease)
    (stays : ∀ call ∈ calls, call.StaysOn leaseId) :
    (∀ earlier, earlier <+: calls →
        (Run.run (sharedStep gaps sha256 others) earlier start).movedSince leaseId start ≤
          lease.totalDeposit) ↔
      0 ≤ lease.totalDeposit ∧
        Run.MeetsAlong (sharedStep gaps sha256 others) (AffordsAlong gaps sha256 others leaseId start)
          calls start := by
  have unmoved : start.movedSince leaseId start = 0 := sub_self _
  have decided (held : 0 ≤ lease.totalDeposit) := @Run.invariant_along_iff_given _ _
    (sharedStep gaps sha256 others) (fun call _ => call.StaysOn leaseId)
    (fun store => store.OnCourse leaseId lease.securityDeposit lease.depositAmount start)
    (fun store => store.movedSince leaseId start ≤ lease.totalDeposit)
    (AffordsAlong gaps sha256 others leaseId start)
    (fun call store stays => onCourse_step held stays)
    (fun call store stays => within_step_iff held stays) calls start
    (Run.meetsAlong_of_forall stays start) (onCourse_of_created created creates stored)
    (by rw [unmoved]; exact held)
  constructor
  · intro bounded
    have held : 0 ≤ lease.totalDeposit := unmoved ▸ bounded [] List.nil_prefix
    exact ⟨held, (decided held).mp bounded⟩
  · rintro ⟨held, meets⟩
    exact (decided held).mpr meets

end Runs

/-! ## A deposit that is moved twice -/

/-- Nothing lies in the store of the modules. -/
def emptyModules : Storage where
  persistent _ := none
  temporary _ := none
  instanceData _ := none
  events := []

abbrev sampleStep : SharedCall → SharedStore → SharedStore :=
  sharedStep lowHalfGaps (fun _ => .repeated 32 0) fun _ => rentedLease

/-- Lease `7` is proposed, with a deposit of `200`. -/
def proposedStore : SharedStore :=
  sampleStep (.contract (propose 50 7 200 0)) ⟨freshWorld, emptyModules⟩

theorem proposedStore_created :
    Commits (SharedCall.body lowHalfGaps (fun _ => .repeated 32 0) (fun _ => rentedLease)
      (.contract (propose 50 7 200 0))) ⟨freshWorld, emptyModules⟩ () proposedStore :=
  commits_attempt (by decide +kernel)

def modulesCallAt (timestamp : U64) (call : ModuleCall) : SharedCall :=
  .modules (openLedger timestamp 0) call

/-- The lease is concluded, and its deposit is refunded in two parts. -/
def refundCalls (first second : I128) : List SharedCall :=
  [modulesCallAt 60 (.mintLessorRightsToken 7 ⟨1⟩),
    .contract (callAt 70 (.concludeLease 7 ⟨1⟩ 0)),
    modulesCallAt 80 (.refundDepositToNftHolder 7 first),
    modulesCallAt 90 (.refundDepositToNftHolder 7 second)]

theorem refundCalls_staysOn (first second : I128) :
    ∀ call ∈ refundCalls first second, call.StaysOn 7 := by
  intro call listed
  simp only [refundCalls, List.mem_cons, List.not_mem_nil, or_false] at listed
  rcases listed with rfl | rfl | rfl | rfl
  exacts [trivial, fun _ => ⟨rfl, rfl⟩, trivial, trivial]

/-- The refunds are within what is left. -/
theorem concludedRefunds_bounded :
    (Run.run sampleStep (refundCalls 120 80) proposedStore).movedSince 7 proposedStore ≤ 200 := by
  have creates : (propose 50 7 200 0).call.creates (propose 50 7 200 0).env = some 7 := rfl
  refine (refunds_bounded_along_iff lowHalfGaps (fun _ => .repeated 32 0) (fun _ => rentedLease)
    proposedStore_created creates rfl (refundCalls_staysOn 120 80)).mpr ⟨by decide, ?_⟩ _
    (List.prefix_refl _)
  have first : ∀ lease ∈ (Run.run sampleStep ((refundCalls 120 80).take 2) proposedStore).record 7,
      max 120 0 + (Run.run sampleStep ((refundCalls 120 80).take 2) proposedStore).movedSince 7
        proposedStore ≤ lease.totalDeposit := by decide +kernel
  have second : ∀ lease ∈ (Run.run sampleStep ((refundCalls 120 80).take 3) proposedStore).record 7,
      max 80 0 + (Run.run sampleStep ((refundCalls 120 80).take 3) proposedStore).movedSince 7
        proposedStore ≤ lease.totalDeposit := by decide +kernel
  exact ⟨fun _ _ _ => trivial, fun _ _ _ => trivial, fun _ lease found _ => first lease found,
    fun _ lease found _ => second lease found, trivial⟩

/-- A refund moves the whole deposit of a concluded lease, and a second one moves it again. -/
theorem concluded_deposit_refunded_twice :
    ¬ ∀ (gaps : Gaps) (sha256 : String → BytesN 32) (others : LeaseId → StoredLease)
      (creation : LeaseFlow.Invocation) (before start : SharedStore) (leaseId : LeaseId)
      (lease : LeaseInstance) (calls : List SharedCall),
      Commits (SharedCall.body gaps sha256 others (.contract creation)) before () start →
      creation.call.creates creation.env = some leaseId →
      start.record leaseId = some lease → 0 ≤ lease.totalDeposit →
      (∀ call ∈ calls, call.StaysOn leaseId) →
      (Run.run (sharedStep gaps sha256 others) calls start).movedSince leaseId start ≤
        lease.totalDeposit := by
  intro bounded
  have moved := bounded lowHalfGaps (fun _ => .repeated 32 0) (fun _ => rentedLease)
    (propose 50 7 200 0) ⟨freshWorld, emptyModules⟩ proposedStore 7 _ (refundCalls 200 200)
    proposedStore_created rfl rfl (by decide) (refundCalls_staysOn 200 200)
  exact absurd moved (by decide +kernel)

end LeaseFlow.KeySpace
