import LeaseFlow.Collateral.MarginCalls

/-!
# Top-ups and what they bring in

A fulfilment adds to the recorded collateral without moving a token or asking for a signature, and
prices it as the token its caller names.  A registration and the initialiser write over what is
recorded.
-/

set_option autoImplicit false

namespace LeaseFlow.Collateral

open Transaction

def Store.recordedAmount (store : Store) (leaseId : U64) : Option I128 :=
  (store.collateralHealth leaseId).map CollateralHealth.collateralAmount

/-- The health factor of the recorded collateral at a price. -/
def CollateralHealth.factorAt (record : CollateralHealth) (price : PriceData) : Checked U32 := do
  let fiat ← fiatValue record.collateralAmount price
  fiatRatio fiat record.minimumFiatCollateral

/-- The call is a fulfilment by a positive amount of the token of the lease, which a party that
authorised it transferred. -/
def Call.TopsUp (call : Call) (store : Store) (leaseId : U64) (record : CollateralHealth) : Prop :=
  ∃ additionalCollateral tokenAddress payer,
    call.operation = .fulfillMarginCall leaseId additionalCollateral tokenAddress ∧
    call.Goes store ∧ 0 < additionalCollateral ∧ call.env.authorised payer = true ∧
    (step call store).transfers =
      ⟨record.collateralToken, payer, additionalCollateral⟩ :: store.transfers ∧
    (step call store).recordedAmount leaseId = some (record.collateralAmount + additionalCollateral)

/-- What is recorded of a lease stays, or is topped up. -/
def Call.AmountsToppedUp (call : Call) (store : Store) : Prop :=
  ∀ leaseId record, store.collateralHealth leaseId = some record →
    (step call store).recordedAmount leaseId = some record.collateralAmount ∨
      call.TopsUp store leaseId record

def Store.HasSatisfiedCall (store : Store) (leaseId : U64) : Prop :=
  ∃ marginCall, store.marginCalls leaseId = some marginCall ∧ marginCall.status = .satisfied

/-- A margin call becomes satisfied at the price of the token of the lease. -/
def Call.SatisfiesAtOwnPrice (call : Call) (store : Store) : Prop :=
  ∀ leaseId, ¬ store.HasSatisfiedCall leaseId → (step call store).HasSatisfiedCall leaseId →
    ∃ record factor, (step call store).collateralHealth leaseId = some record ∧
      record.factorAt (call.env.quote record.collateralToken) = some factor ∧
      criticalHealthThreshold ≤ factor

/-- Nothing is recorded when the monitor is initialised, a lease is registered again with the
amount that is recorded, and a fulfilment adds nothing. -/
def Operation.LeavesAmounts (store : Store) : Operation → Prop
  | .initializeMonitor _ _ _ _ => ∀ leaseId, store.collateralHealth leaseId = none
  | .registerLeaseCollateral leaseId _ _ collateralAmount _ =>
      ∀ record, store.collateralHealth leaseId = some record →
        collateralAmount = record.collateralAmount
  | .fulfillMarginCall _ additionalCollateral _ => additionalCollateral = 0
  | _ => True

def Call.LeavesAmounts (call : Call) (store : Store) : Prop :=
  call.Goes store → call.operation.LeavesAmounts store

/-- The token that a fulfilment names, if it goes through, is quoted like that of the lease. -/
def Call.NamesOwnPrice (call : Call) (store : Store) : Prop :=
  call.Goes store → ∀ leaseId additionalCollateral tokenAddress record,
    call.operation = .fulfillMarginCall leaseId additionalCollateral tokenAddress →
    store.collateralHealth leaseId = some record →
      (call.env.quote tokenAddress).price = (call.env.quote record.collateralToken).price ∧
      (call.env.quote tokenAddress).decimals = (call.env.quote record.collateralToken).decimals

section Amounts

variable {env : Env} {before after : Store} {leaseId : U64}

theorem Store.recordedAmount_putHealth {record : CollateralHealth}
    (written : after.collateralHealth =
      Function.update before.collateralHealth leaseId (some record)) (other : U64) :
    after.recordedAmount other =
      if other = leaseId then some record.collateralAmount else before.recordedAmount other := by
  unfold recordedAmount
  rw [written]
  by_cases same : other = leaseId
  · subst same
    simp
  · simp [same]

theorem Store.recordedAmount_kept {record : CollateralHealth} (next : CollateralHealth)
    (found : before.collateralHealth leaseId = some record)
    (written : after.collateralHealth =
      Function.update before.collateralHealth leaseId (some next))
    (amount : next.collateralAmount = record.collateralAmount) (other : U64) :
    after.recordedAmount other = before.recordedAmount other := by
  rw [Store.recordedAmount_putHealth written]
  by_cases same : other = leaseId
  · rw [if_pos same, same, recordedAmount, found, amount, Option.map_some]
  · rw [if_neg same]

theorem CheckOutcome.recordedAmount (checked : CheckOutcome env leaseId before after) (other : U64) :
    after.recordedAmount other = before.recordedAmount other := by
  cases checked with
  | refused => rfl
  | rated assessed | warned assessed | called assessed _ _ | unpaused assessed _ _ =>
      exact Store.recordedAmount_kept (before.reassessed env _ _ _) assessed.found rfl rfl other

theorem ChecksTo.recordedAmount (checks : ChecksTo env before after) (leaseId : U64) :
    after.recordedAmount leaseId = before.recordedAmount leaseId := by
  induction checks with
  | refl => rfl
  | tail _ last ih =>
      obtain ⟨_, checked⟩ := last
      exact (checked.recordedAmount leaseId).trans ih

theorem ChecksTo.transfers (checks : ChecksTo env before after) :
    after.transfers = before.transfers := by
  induction checks with
  | refl => rfl
  | tail _ last ih =>
      obtain ⟨_, checked⟩ := last
      rw [← ih]
      cases checked <;> rfl

/-- No operation asks for a transfer. -/
theorem Effect.transfers {operation : Operation} (effect : Effect env before after operation) :
    after.transfers = before.transfers := by
  cases effect with
  | begun | registered | registeredShort _ _ | executed _ _ | queried _ => rfl
  | checked checked => cases checked <;> rfl
  | batched checks => exact checks.transfers
  | fulfilled _ => exact Store.fulfilled_transfers

theorem addI128_eq_some {left right sum : I128} (added : addI128 left right = some sum) :
    sum = left + right :=
  (Checked.within_eq_some.mp added).2.symm

theorem Store.amounts_kept_iff (record : CollateralHealth)
    (written : after.collateralHealth =
      Function.update before.collateralHealth leaseId (some record)) :
    (∀ other stored, before.collateralHealth other = some stored →
        after.recordedAmount other = some stored.collateralAmount) ↔
      ∀ stored, before.collateralHealth leaseId = some stored →
        record.collateralAmount = stored.collateralAmount := by
  constructor
  · intro kept stored found
    have amount := kept leaseId stored found
    rw [Store.recordedAmount_putHealth written, if_pos rfl] at amount
    exact Option.some.inj amount
  · intro same other stored found
    rw [Store.recordedAmount_putHealth written]
    by_cases equal : other = leaseId
    · subst equal
      rw [if_pos rfl, same stored found]
    · rw [if_neg equal, Store.recordedAmount, found, Option.map_some]

/-- What goes through keeps the recorded amounts exactly if its operation leaves them. -/
theorem Effect.amounts_iff {operation : Operation}
    (effect : Effect env before after operation) :
    (∀ leaseId record, before.collateralHealth leaseId = some record →
        after.recordedAmount leaseId = some record.collateralAmount) ↔
      operation.LeavesAmounts before := by
  have kept : (∀ leaseId, after.recordedAmount leaseId = before.recordedAmount leaseId) →
      ∀ leaseId record, before.collateralHealth leaseId = some record →
        after.recordedAmount leaseId = some record.collateralAmount := by
    intro same leaseId record found
    rw [same, Store.recordedAmount, found, Option.map_some]
  cases effect with
  | begun =>
      constructor
      · intro amounts leaseId
        by_contra recorded
        obtain ⟨record, found⟩ := Option.ne_none_iff_exists'.mp recorded
        cases amounts leaseId record found
      · intro empty leaseId record found
        cases (empty leaseId).symm.trans found
  | @registered leaseId _ token amount minimum fiat factor
  | @registeredShort leaseId _ token amount minimum fiat _ factor _ _ _ =>
      exact Store.amounts_kept_iff
        (before.registration env leaseId token amount minimum fiat factor) rfl
  | checked checked => exact iff_of_true (kept checked.recordedAmount) trivial
  | batched checks => exact iff_of_true (kept checks.recordedAmount) trivial
  | @fulfilled leaseId additional _ _ record amount _ _ fulfillable =>
      rw [Store.amounts_kept_iff _ Store.fulfilled_collateralHealth]
      have sum := addI128_eq_some fulfillable.sum
      constructor
      · intro same
        have unchanged : amount = record.collateralAmount := same record fulfillable.stored
        change additional = 0
        linarith
      · intro nothing stored found
        obtain rfl := Option.some.inj (fulfillable.stored.symm.trans found)
        change additional = 0 at nothing
        change amount = record.collateralAmount
        linarith
  | @executed _ _ record _ _ stored =>
      exact iff_of_true (kept (Store.recordedAmount_kept
        { record with status := .emergencyTermination } stored rfl rfl)) trivial
  | queried query =>
      refine iff_of_true (kept fun _ => rfl) ?_
      cases query <;> trivial

theorem fiatValue_congr {amount : I128} {price other : PriceData} (same : price.price = other.price)
    (places : price.decimals = other.decimals) :
    fiatValue amount price = fiatValue amount other := by
  unfold fiatValue
  rw [same, places]

end Amounts

section Calls

variable {call : Call} {store : Store}

theorem Call.not_topsUp {leaseId : U64} {record : CollateralHealth} :
    ¬ call.TopsUp store leaseId record := by
  rintro ⟨_, _, _, _, goes, _, _, transferred, _⟩
  rw [(call_effect goes.commits).transfers] at transferred
  simp at transferred

theorem Call.amountsToppedUp_iff (call : Call) (store : Store) :
    call.AmountsToppedUp store ↔ call.LeavesAmounts store := by
  have kept : call.AmountsToppedUp store ↔ ∀ leaseId record,
      store.collateralHealth leaseId = some record →
        (step call store).recordedAmount leaseId = some record.collateralAmount := by
    refine forall_congr' fun leaseId => forall_congr' fun record => imp_congr_right fun _ => ?_
    exact or_iff_left Call.not_topsUp
  rw [kept]
  by_cases goes : call.Goes store
  · rw [(call_effect goes.commits).amounts_iff]
    exact ⟨fun leaves _ => leaves, fun leaves => leaves goes⟩
  · refine iff_of_true (fun leaseId record found => ?_) fun went => absurd went goes
    rw [step, Machine.step_of_not_goes goes, Store.recordedAmount, found, Option.map_some]

theorem Effect.fulfils_of_satisfied {env : Env} {before after : Store} {operation : Operation}
    {leaseId : U64} (effect : Effect env before after operation)
    (unsatisfied : ¬ before.HasSatisfiedCall leaseId) (satisfied : after.HasSatisfiedCall leaseId) :
    ∃ additional token marginCall record amount fiat factor,
      operation = .fulfillMarginCall leaseId additional token ∧
      before.Fulfillable env leaseId additional token marginCall record amount fiat factor ∧
      after.collateralHealth leaseId =
        some (record.toppedUp amount (env.quote token) fiat factor) ∧
      criticalHealthThreshold ≤ factor := by
  obtain ⟨marginCall, found, status⟩ := satisfied
  have change := effect.callChange leaseId
  rw [found] at change
  generalize stored : before.marginCalls leaseId = earlier at change
  cases change with
  | kept => exact absurd ⟨marginCall, stored, status⟩ unsatisfied
  | issued active => cases active.symm.trans status
  | executed _ => cases status
  | @answered additional token earlier _ fulfils =>
      subst fulfils
      cases effect with
      | @fulfilled _ _ _ marginCall record amount fiat factor fulfillable =>
          refine ⟨additional, token, marginCall, record, amount, fiat, factor, rfl, fulfillable,
            ?_, ?_⟩
          · rw [Store.fulfilled_collateralHealth, Function.update_self]
          · by_contra short
            rw [Store.fulfilled_marginCalls, Function.update_self, Option.some.injEq] at found
            have same : marginCall.status = .satisfied := by
              rw [← found, MarginCall.answered, if_neg short] at status
              exact status
            exact unsatisfied ⟨marginCall, fulfillable.found, same⟩
      | queried query => cases query

theorem Call.satisfiesAtOwnPrice_of_named (named : call.NamesOwnPrice store) :
    call.SatisfiesAtOwnPrice store := by
  intro leaseId unsatisfied satisfied
  by_cases goes : call.Goes store
  · obtain ⟨additional, token, marginCall, record, amount, fiat, factor, fulfils, fulfillable,
      written, enough⟩ := (call_effect goes.commits).fulfils_of_satisfied unsatisfied satisfied
    obtain ⟨price, places⟩ := named goes leaseId additional token record fulfils fulfillable.stored
    refine ⟨_, factor, written, ?_, enough⟩
    have valued := fulfillable.valued
    rw [fiatValue_congr price places] at valued
    change fiatValue amount (call.env.quote record.collateralToken) >>=
      (fun fiat => fiatRatio fiat record.minimumFiatCollateral) = some factor
    rw [valued]
    exact fulfillable.rated
  · rw [step, Machine.step_of_not_goes goes] at satisfied
    exact absurd satisfied unsatisfied

end Calls

/-- Along a run the recorded collateral only changes by tokens that came in exactly if no call that
goes through changes it at all; and every margin call is satisfied at the price of its token if
the fulfilments that go through name a token of that price. -/
theorem collateral_along (calls : List Call) (start : Store) :
    (Run.MeetsAlong step Call.AmountsToppedUp calls start ↔
        Run.MeetsAlong step Call.LeavesAmounts calls start) ∧
      (Run.MeetsAlong step Call.NamesOwnPrice calls start →
        Run.MeetsAlong step Call.SatisfiesAtOwnPrice calls start) := by
  constructor
  · exact @Run.meetsAlong_congr _ _ step (fun _ => True) _ _ (fun _ _ _ => trivial)
      (fun call store _ => call.amountsToppedUp_iff store) calls start trivial
  · exact fun named => named.mono fun _ _ => Call.satisfiesAtOwnPrice_of_named

theorem collateral_along_topped :
    Run.MeetsAlong step Call.SatisfiesAtOwnPrice [initialized, registeredShort, toppedUp]
      Store.empty := by
  refine (collateral_along _ Store.empty).2 ⟨?_, ?_, ?_, trivial⟩ <;>
    intro _ leaseId additionalCollateral tokenAddress record fulfils <;> cases fulfils
  exact fun _ => ⟨rfl, rfl⟩

/-- Nobody authorises the call and no token moves, and the recorded collateral of lease 1 is
doubled. -/
theorem collateral_from_nowhere :
    ¬ ∀ calls, Run.MeetsAlong step
      (fun call store => call.AmountsToppedUp store ∧ call.SatisfiesAtOwnPrice store) calls
      Store.empty := by
  intro toppedUp
  have along := toppedUp [initialized, registeredShort, callAt 50 (.fulfillMarginCall 1 1 ⟨99⟩)]
  rcases along.2.2.1.1 1 _ rfl with kept | topped
  · exact absurd kept (by decide +kernel)
  · exact Call.not_topsUp topped

end LeaseFlow.Collateral
