import LeaseFlow.Collateral.Effect
import LeaseFlow.Foundations.Run

/-!
# The life of a margin call

A margin call is issued once and stays stored, whatever becomes of it.  A termination asks only
whether its grace period is over, and a new call is issued only where none is stored.
-/

set_option autoImplicit false

namespace LeaseFlow.Collateral

open Transaction

/-! ## What becomes of a margin call -/

/-- What an operation that goes through does to the margin call of a lease. -/
inductive CallChange (operation : Operation) (leaseId : U64) :
    Option MarginCall → Option MarginCall → Prop where
  | kept {stored : Option MarginCall} : CallChange operation leaseId stored stored
  | cleared {stored : Option MarginCall} : CallChange operation leaseId stored none
  | issued {marginCall : MarginCall} (active : marginCall.status = .active) :
      CallChange operation leaseId none (some marginCall)
  | answered {additionalCollateral : I128} {tokenAddress : Address} {marginCall : MarginCall}
      {factor : U32}
      (fulfils : operation = .fulfillMarginCall leaseId additionalCollateral tokenAddress) :
      CallChange operation leaseId (some marginCall) (some (marginCall.answered factor))
  | executed {marginCall : MarginCall}
      (executes : operation = .executeEmergencyTermination leaseId) :
      CallChange operation leaseId (some marginCall) (some marginCall.executed)

section Changes

variable {env : Env} {before after : Store} {leaseId : U64}

theorem CheckOutcome.callChange (checked : CheckOutcome env leaseId before after) (operation : Operation)
    (other : U64) :
    CallChange operation other (before.marginCalls other) (after.marginCalls other) := by
  cases checked with
  | refused | rated _ | warned _ => exact .kept
  | called _ new _ | unpaused _ new _ =>
      change CallChange _ _ _ (Function.update before.marginCalls leaseId _ other)
      by_cases same : other = leaseId
      · subst same
        rw [Function.update_self, new]
        exact .issued rfl
      · rw [Function.update_of_ne same]
        exact .kept

theorem CheckOutcome.marginCalls_of_some {marginCall : MarginCall}
    (checked : CheckOutcome env leaseId before after) {other : U64}
    (found : before.marginCalls other = some marginCall) :
    after.marginCalls other = some marginCall := by
  cases checked with
  | refused | rated _ | warned _ => exact found
  | called _ new _ | unpaused _ new _ =>
      have differs : other ≠ leaseId := by
        rintro rfl
        cases new.symm.trans found
      exact (Function.update_of_ne differs _ _).trans found

theorem ChecksTo.marginCalls_of_some {marginCall : MarginCall} (checks : ChecksTo env before after)
    (found : before.marginCalls leaseId = some marginCall) :
    after.marginCalls leaseId = some marginCall := by
  induction checks with
  | refl => exact found
  | tail _ last ih =>
      obtain ⟨_, checked⟩ := last
      exact checked.marginCalls_of_some ih

theorem ChecksTo.callChange (checks : ChecksTo env before after) (operation : Operation)
    (leaseId : U64) :
    CallChange operation leaseId (before.marginCalls leaseId) (after.marginCalls leaseId) := by
  induction checks using Relation.ReflTransGen.head_induction_on with
  | refl => exact .kept
  | @head first middle step later ih =>
      obtain ⟨other, checked⟩ := step
      cases found : first.marginCalls leaseId with
      | some marginCall =>
          have kept := checked.marginCalls_of_some found
          rw [ChecksTo.marginCalls_of_some later kept]
          exact .kept
      | none =>
          have change := checked.callChange operation leaseId
          rw [found] at change
          generalize issued : middle.marginCalls leaseId = next at change ih
          cases change with
          | kept | cleared => exact ih
          | issued active =>
              rw [ChecksTo.marginCalls_of_some later issued]
              exact .issued active

theorem Effect.callChange {operation : Operation} (effect : Effect env before after operation)
    (leaseId : U64) :
    CallChange operation leaseId (before.marginCalls leaseId) (after.marginCalls leaseId) := by
  cases effect with
  | begun => exact .cleared
  | registered | queried _ => exact .kept
  | @registeredShort other _ _ _ _ _ _ _ _ new _ =>
      change CallChange _ _ _ (Function.update before.marginCalls other _ leaseId)
      by_cases same : leaseId = other
      · subst same
        rw [Function.update_self, new]
        exact .issued rfl
      · rw [Function.update_of_ne same]
        exact .kept
  | checked checked => exact checked.callChange _ leaseId
  | batched checks => exact checks.callChange _ leaseId
  | @fulfilled other _ _ marginCall _ _ _ factor fulfillable =>
      rw [Store.fulfilled_marginCalls]
      by_cases same : leaseId = other
      · subst same
        rw [Function.update_self, fulfillable.found]
        exact .answered rfl
      · rw [Function.update_of_ne same]
        exact .kept
  | @executed other marginCall _ _ found _ =>
      change CallChange _ _ _ (Function.update before.marginCalls other _ leaseId)
      by_cases same : leaseId = other
      · subst same
        rw [Function.update_self, found]
        exact .executed rfl
      · rw [Function.update_of_ne same]
        exact .kept

end Changes

/-! ## Settled margin calls -/

/-- The call issues a margin call for the lease. -/
def Call.Issues (call : Call) (store : Store) (leaseId : U64) : Prop :=
  store.marginCalls leaseId = none ∧ (step call store).marginCalls leaseId ≠ none

/-- The call is a fulfilment that sets the margin call of the lease to satisfied. -/
def Call.Satisfies (call : Call) (store : Store) (leaseId : U64) : Prop :=
  (∃ additionalCollateral tokenAddress,
    call.operation = .fulfillMarginCall leaseId additionalCollateral tokenAddress) ∧
  call.Goes store ∧ ∃ marginCall, (step call store).marginCalls leaseId = some marginCall ∧
    marginCall.status = .satisfied

/-- The leases whose last margin call was satisfied at some time. -/
def Call.recordSettled (call : Call) (store : Store) (settled : U64 → Prop) (leaseId : U64) :
    Prop :=
  call.Satisfies store leaseId ∨ (settled leaseId ∧ ¬ call.Issues store leaseId)

/-- The monitor with the settled leases beside its store. -/
abbrev settlingStep : Call → Store × (U64 → Prop) → Store × (U64 → Prop) :=
  Run.annotate step Call.recordSettled

def Store.HasActiveCall (store : Store) (leaseId : U64) : Prop :=
  ∃ marginCall, store.marginCalls leaseId = some marginCall ∧ marginCall.status = .active

/-- The check rates the lease below the critical threshold, and no margin call is active. -/
structure Call.ChecksShort (call : Call) (store : Store) (leaseId : U64)
    (record : CollateralHealth) (fiat : I128) (factor : U32) : Prop where
  checks : call.operation = .checkCollateralHealth leaseId
  assessed : store.Assessed call.env leaseId record fiat factor
  short : factor < criticalHealthThreshold
  inactive : ¬ store.HasActiveCall leaseId

/-- A settled lease is not terminated, and a lease that falls short again gets a new margin
call. -/
structure Call.EndsMarginCalls (call : Call) (state : Store × (U64 → Prop)) : Prop where
  final : ∀ leaseId, call.operation = .executeEmergencyTermination leaseId →
    call.Goes state.1 → ¬ state.2 leaseId
  renewed : ∀ leaseId record fiat factor,
    call.ChecksShort state.1 leaseId record fiat factor → call.Goes state.1 ∧
      ∃ marginCall, (step call state.1).marginCalls leaseId = some marginCall ∧
        marginCall.status = .active ∧ marginCall.issuedAt = call.env.timestamp

/-- No satisfied margin call of a recorded lease is executed after its grace period; and a lease
that falls short has no margin call of any status, a top-up and a deadline in range, and a lessee
whose utility is not paused. -/
structure Call.AvoidsStoredCalls (call : Call) (store : Store) : Prop where
  unsatisfied : ∀ leaseId marginCall, call.operation = .executeEmergencyTermination leaseId →
    store.collateralHealth leaseId ≠ none → store.marginCalls leaseId = some marginCall →
      marginCall.gracePeriodEnd < call.env.timestamp → marginCall.status ≠ .satisfied
  issuable : ∀ leaseId record fiat factor, call.ChecksShort store leaseId record fiat factor →
    store.marginCalls leaseId = none ∧
      (store.reassessed call.env record fiat factor).requiredTopup ≠ none ∧
      call.env.timestamp + store.grace ≤ u64Max ∧
      store.isUtilityPaused (call.env.generated 1) = false

/-- The settled leases are those whose stored margin call is satisfied. -/
structure Settled (state : Store × (U64 → Prop)) : Prop where
  recorded : ∀ leaseId marginCall, state.1.marginCalls leaseId = some marginCall →
    marginCall.status = .satisfied → state.2 leaseId
  satisfied : ∀ leaseId marginCall, state.2 leaseId →
    state.1.marginCalls leaseId = some marginCall → marginCall.status = .satisfied

section Settling

variable {call : Call} {state : Store × (U64 → Prop)} {store : Store} {leaseId : U64}

/-- The settled leases stay right as long as no settled lease is terminated. -/
theorem Settled.next (settled : Settled state)
    (final : ∀ leaseId, call.operation = .executeEmergencyTermination leaseId →
      call.Goes state.1 → ¬ state.2 leaseId) : Settled (settlingStep call state) := by
  obtain ⟨store, isSettled⟩ := state
  by_cases goes : call.Goes store
  · have changes := (call_effect goes.commits).callChange
    constructor
    · intro leaseId marginCall found satisfied
      change (step call store).marginCalls leaseId = _ at found
      change call.Satisfies store leaseId ∨ _
      have change := changes leaseId
      rw [found] at change
      generalize stored : store.marginCalls leaseId = earlier at change
      cases change with
      | kept =>
          refine .inr ⟨settled.recorded leaseId marginCall stored satisfied, fun issues => ?_⟩
          cases stored.symm.trans issues.1
      | issued active => cases active.symm.trans satisfied
      | answered fulfils => exact .inl ⟨⟨_, _, fulfils⟩, goes, _, found, satisfied⟩
      | executed executes => cases satisfied
    · intro leaseId marginCall isNow found
      change (step call store).marginCalls leaseId = _ at found
      rcases isNow with ⟨_, _, stored, again, satisfied⟩ | ⟨earlier, unissued⟩
      · exact Option.some.inj (again.symm.trans found) ▸ satisfied
      · have change := changes leaseId
        rw [found] at change
        generalize stored : store.marginCalls leaseId = previous at change
        cases change with
        | kept => exact settled.satisfied leaseId marginCall earlier stored
        | issued active =>
            exact absurd ⟨stored, found ▸ Option.some_ne_none _⟩ unissued
        | @answered _ _ marginCall factor fulfils =>
            have was := settled.satisfied leaseId marginCall earlier stored
            simp [MarginCall.answered, was]
        | executed executes => exact absurd earlier (final leaseId executes goes)
  · have same : step call store = store := Machine.step_of_not_goes goes
    constructor
    · intro leaseId marginCall found satisfied
      change (step call store).marginCalls leaseId = _ at found
      rw [same] at found
      refine .inr ⟨settled.recorded leaseId marginCall found satisfied, fun issues => ?_⟩
      cases found.symm.trans issues.1
    · intro leaseId marginCall isNow found
      change (step call store).marginCalls leaseId = _ at found
      rw [same] at found
      rcases isNow with ⟨_, went, _⟩ | ⟨earlier, _⟩
      · exact absurd went goes
      · exact settled.satisfied leaseId marginCall earlier found

theorem Store.Assessed.unique {env : Env} {record other : CollateralHealth} {fiat value : I128}
    {factor ratio : U32} (assessed : store.Assessed env leaseId record fiat factor)
    (again : store.Assessed env leaseId other value ratio) :
    other = record ∧ value = fiat ∧ ratio = factor := by
  obtain rfl := Option.some.inj (again.found.symm.trans assessed.found)
  obtain rfl := Option.some.inj (again.valued.symm.trans assessed.valued)
  obtain rfl := Option.some.inj (again.rated.symm.trans assessed.rated)
  exact ⟨rfl, rfl, rfl⟩

theorem Call.ChecksShort.goes_iff {record : CollateralHealth} {fiat : I128} {factor : U32}
    (short : call.ChecksShort store leaseId record fiat factor) :
    (call.Goes store ∧ ∃ marginCall, (step call store).marginCalls leaseId = some marginCall ∧
        marginCall.status = .active ∧ marginCall.issuedAt = call.env.timestamp) ↔
      store.marginCalls leaseId = none ∧
        (store.reassessed call.env record fiat factor).requiredTopup ≠ none ∧
        call.env.timestamp + store.grace ≤ u64Max ∧
        store.isUtilityPaused (call.env.generated 1) = false := by
  obtain ⟨env, operation⟩ := call
  obtain ⟨checks, assessed, below, inactive⟩ := short
  obtain rfl : operation = .checkCollateralHealth leaseId := checks
  constructor
  · rintro ⟨goes, -⟩
    have committed : Commits (checkCollateralHealth env 0 leaseId) store () _ := goes.commits
    obtain ⟨other, value, ratio, again, ⟨enough, _⟩ | ⟨_, issues⟩⟩ :=
      (commits_checkCollateralHealth _).mp committed
    · obtain ⟨rfl, rfl, rfl⟩ := assessed.unique again
      exact absurd below (not_lt.mpr enough)
    · obtain ⟨rfl, rfl, rfl⟩ := assessed.unique again
      obtain ⟨stored, topup, issuable, unpaused, _⟩ := (commits_triggerMarginCall _).mp issues
      obtain rfl := issuable.eq_reassessed
      exact ⟨issuable.new, issuable.topup ▸ Option.some_ne_none topup, issuable.timely, unpaused⟩
  · rintro ⟨new, topped, timely, unpaused⟩
    obtain ⟨topup, sum⟩ := Option.ne_none_iff_exists'.mp topped
    have issuable : (store.warned env 0 leaseId record fiat factor).Issuable env leaseId
        (store.reassessed env record fiat factor) topup :=
      ⟨Function.update_self .., new, sum, timely⟩
    have committed : Commits (checkCollateralHealth env 0 leaseId) store ()
        ((store.warned env 0 leaseId record fiat factor).issued env leaseId (env.generated 1)
          (store.reassessed env record fiat factor) topup) :=
      (commits_checkCollateralHealth _).mpr ⟨record, fiat, factor, assessed,
        .inr ⟨below, (commits_triggerMarginCall _).mpr ⟨_, topup, issuable, unpaused, rfl⟩⟩⟩
    refine ⟨succeeds_iff.mpr ⟨(), _, committed⟩, ?_⟩
    have left : step ⟨env, .checkCollateralHealth leaseId⟩ store = _ :=
      @Machine.step_of_commits _ _ _ Call.body ⟨env, .checkCollateralHealth leaseId⟩ _ _ committed
    rw [left]
    exact ⟨_, Function.update_self .., rfl, rfl⟩

/-- Where the settled leases are right, a call ends the margin calls as meant exactly if it meets
no stored one. -/
theorem Settled.endsMarginCalls_iff (settled : Settled state) :
    call.EndsMarginCalls state ↔ call.AvoidsStoredCalls state.1 := by
  constructor
  · intro ends
    refine ⟨fun leaseId marginCall executes recorded found late satisfied => ?_,
      fun leaseId record fiat factor short => ?_⟩
    · obtain ⟨env, operation⟩ := call
      obtain rfl : operation = .executeEmergencyTermination leaseId := executes
      have goes := executeEmergencyTermination_goes_iff.mpr ⟨marginCall, found, late, recorded⟩
      exact ends.final leaseId rfl goes (settled.recorded leaseId marginCall found satisfied)
    · exact short.goes_iff.mp (ends.renewed leaseId record fiat factor short)
  · intro avoids
    refine ⟨fun leaseId executes goes isSettled => ?_, fun leaseId record fiat factor short => ?_⟩
    · obtain ⟨env, operation⟩ := call
      obtain rfl : operation = .executeEmergencyTermination leaseId := executes
      obtain ⟨marginCall, found, late, recorded⟩ := executeEmergencyTermination_goes_iff.mp goes
      exact avoids.unsatisfied leaseId marginCall rfl recorded found late
        (settled.satisfied leaseId marginCall isSettled found)
    · exact short.goes_iff.mpr (avoids.issuable leaseId record fiat factor short)

end Settling

/-! ## Runs -/

/-- In every run the margin calls end as meant exactly if the terminations and the checks meet no
stored ones. -/
theorem marginCalls_end_iff (calls : List Call) :
    Run.MeetsAlong settlingStep Call.EndsMarginCalls calls (Store.empty, fun _ => False) ↔
      Run.MeetsAlong step Call.AvoidsStoredCalls calls Store.empty := by
  have initially : Settled (Store.empty, fun _ => False) :=
    ⟨fun _ _ found => absurd found (by simp [Store.empty]),
      fun _ _ isSettled => False.elim isSettled⟩
  rw [← @Run.meetsAlong_annotate _ _ step _ Call.recordSettled Call.AvoidsStoredCalls calls
    (Store.empty, fun _ => False)]
  exact @Run.meetsAlong_iff _ _ settlingStep (fun _ => True) Settled _ _ (fun _ _ _ => trivial)
    (fun call state _ settled => settled.endsMarginCalls_iff)
    (fun call state _ settled ends => settled.next ends.final) calls _ trivial initially

/-! ## A satisfied margin call -/

/-- A call at the placeholder price, where the first generated address is 100. -/
def callAt (timestamp : Nat) (operation : Operation) : Call where
  env := ⟨timestamp, fun address => address == ⟨1⟩, placeholderPrice timestamp,
    fun drawn => ⟨100 + drawn⟩⟩
  operation := operation

/-- The monitor with a grace period of 100 seconds. -/
def initialized : Call :=
  callAt 0 (.initializeMonitor ⟨1⟩ ⟨2⟩ 9500 100)

/-- One unit of token 3 for lease 1 of lessee 7, worth half of what is asked for. -/
def registeredShort : Call :=
  callAt 0 (.registerLeaseCollateral 1 ⟨7⟩ ⟨3⟩ 1 200000000)

def toppedUp : Call :=
  callAt 50 (.fulfillMarginCall 1 1 ⟨3⟩)

/-- Lease 1 is terminated after its margin call was satisfied in time. -/
theorem satisfied_call_executed :
    ¬ ∀ calls, Run.MeetsAlong settlingStep Call.EndsMarginCalls calls
      (Store.empty, fun _ => False) := by
  intro ends
  have along := ends [initialized, registeredShort, toppedUp,
    callAt 200 (.executeEmergencyTermination 1)]
  refine along.2.2.2.1.final 1 rfl (by decide +kernel) (.inl ⟨⟨1, ⟨3⟩, rfl⟩, by decide +kernel, ?_⟩)
  exact ⟨_, rfl, by decide +kernel⟩

end LeaseFlow.Collateral
