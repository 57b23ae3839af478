import LeaseFlow.Collateral.Topups
import LeaseFlow.Foundations.PartialMap

/-!
# Margin calls of one lessee

The records are kept for each lease, the pauses for each lessee.  An operation on a lease is
decided by the entries of the lease itself, but for the pause of the lessee: a margin call is
issued only where the utility runs, and satisfied only where it is paused.
-/

set_option autoImplicit false

namespace LeaseFlow.Collateral

open Transaction

/-! ## Outcomes of a lease -/

/-- The stores are set up alike and hold the same of the lease. -/
structure Store.AgreeOn (leaseId : U64) (store other : Store) : Prop where
  oraclePriceFeed : store.oraclePriceFeed = other.oraclePriceFeed
  healthThreshold : store.healthThreshold = other.healthThreshold
  gracePeriod : store.gracePeriod = other.gracePeriod
  collateralHealth : store.collateralHealth leaseId = other.collateralHealth leaseId
  marginCalls : store.marginCalls leaseId = other.marginCalls leaseId

/-- The lease that an operation registers, checks or fulfils. -/
def Operation.subject : Operation → Option U64
  | .registerLeaseCollateral leaseId _ _ _ _ => some leaseId
  | .checkCollateralHealth leaseId => some leaseId
  | .fulfillMarginCall leaseId _ _ => some leaseId
  | _ => none

/-- The call goes through in both stores or in neither, and leaves the same of the lease. -/
structure SameOutcome (call : Call) (leaseId : U64) (store other : Store) : Prop where
  goes : call.Goes store ↔ call.Goes other
  leaves : call.Goes store → call.Goes other →
    (step call store).AgreeOn leaseId (step call other)

/-- The operation goes through, whatever is paused. -/
inductive Operation.Passes (env : Env) (store : Store) : Operation → Prop where
  | registers {leaseId : U64} {lessee token : Address} {amount minimum fiat : I128} {factor : U32}
      (rates : store.Rates env token amount minimum fiat factor)
      (enough : criticalHealthThreshold ≤ factor) :
      Passes env store (.registerLeaseCollateral leaseId lessee token amount minimum)
  | checks {leaseId : U64} {record : CollateralHealth} {fiat : I128} {factor : U32}
      (assessed : store.Assessed env leaseId record fiat factor)
      (enough : criticalHealthThreshold ≤ factor) :
      Passes env store (.checkCollateralHealth leaseId)
  | fulfils {leaseId : U64} {additional amount fiat : I128} {token : Address}
      {marginCall : MarginCall} {record : CollateralHealth} {factor : U32}
      (fulfillable : store.Fulfillable env leaseId additional token marginCall record amount fiat
        factor) (short : factor < criticalHealthThreshold) :
      Passes env store (.fulfillMarginCall leaseId additional token)

/-- The operation pauses or resumes the utility of the lessee and goes through if it was not paused
before, or if it was. -/
inductive Operation.Turns (env : Env) (store : Store) : Operation → Address → Bool → Prop where
  | registers {leaseId : U64} {lessee token : Address} {amount minimum fiat topup : I128}
      {factor : U32} (rates : store.Rates env token amount minimum fiat factor)
      (short : factor < criticalHealthThreshold) (new : store.marginCalls leaseId = none)
      (topped : (store.registration env leaseId token amount minimum fiat factor).requiredTopup =
        some topup)
      (timely : env.timestamp + store.grace ≤ u64Max) :
      Turns env store (.registerLeaseCollateral leaseId lessee token amount minimum) lessee false
  | checks {leaseId : U64} {record : CollateralHealth} {fiat topup : I128} {factor : U32}
      (assessed : store.Assessed env leaseId record fiat factor)
      (short : factor < criticalHealthThreshold) (new : store.marginCalls leaseId = none)
      (topped : (store.reassessed env record fiat factor).requiredTopup = some topup)
      (timely : env.timestamp + store.grace ≤ u64Max) :
      Turns env store (.checkCollateralHealth leaseId) (env.generated 1) false
  | fulfils {leaseId : U64} {additional amount fiat : I128} {token : Address}
      {marginCall : MarginCall} {record : CollateralHealth} {factor : U32}
      (fulfillable : store.Fulfillable env leaseId additional token marginCall record amount fiat
        factor) (enough : criticalHealthThreshold ≤ factor) :
      Turns env store (.fulfillMarginCall leaseId additional token) marginCall.lessee true

section Outcomes

variable {env : Env} {store other : Store} {leaseId : U64} {operation : Operation}
  {lessee : Address} {paused : Bool}

theorem Store.AgreeOn.symm (agree : store.AgreeOn leaseId other) : other.AgreeOn leaseId store :=
  ⟨agree.oraclePriceFeed.symm, agree.healthThreshold.symm, agree.gracePeriod.symm,
    agree.collateralHealth.symm, agree.marginCalls.symm⟩

theorem Store.AgreeOn.grace (agree : store.AgreeOn leaseId other) : store.grace = other.grace := by
  unfold Store.grace
  rw [agree.gracePeriod]

theorem Store.AgreeOn.threshold (agree : store.AgreeOn leaseId other) :
    store.threshold = other.threshold := by
  unfold Store.threshold
  rw [agree.healthThreshold]

theorem Store.Rates.agree {token : Address} {amount minimum fiat : I128} {factor : U32}
    (agree : store.AgreeOn leaseId other) (rates : store.Rates env token amount minimum fiat factor) :
    other.Rates env token amount minimum fiat factor :=
  ⟨agree.oraclePriceFeed ▸ rates.priced, rates.valued, rates.rated⟩

theorem Store.Assessed.agree {record : CollateralHealth} {fiat : I128} {factor : U32}
    (agree : store.AgreeOn leaseId other)
    (assessed : store.Assessed env leaseId record fiat factor) :
    other.Assessed env leaseId record fiat factor :=
  ⟨agree.collateralHealth ▸ assessed.found, agree.oraclePriceFeed ▸ assessed.priced,
    assessed.dated, assessed.recent, assessed.valued, assessed.rated⟩

theorem Store.Fulfillable.agree {additional amount fiat : I128} {token : Address}
    {marginCall : MarginCall} {record : CollateralHealth} {factor : U32}
    (agree : store.AgreeOn leaseId other)
    (fulfillable : store.Fulfillable env leaseId additional token marginCall record amount fiat
      factor) :
    other.Fulfillable env leaseId additional token marginCall record amount fiat factor :=
  ⟨agree.marginCalls ▸ fulfillable.found, fulfillable.timely,
    agree.collateralHealth ▸ fulfillable.stored, fulfillable.sum,
    agree.oraclePriceFeed ▸ fulfillable.priced, fulfillable.valued, fulfillable.rated⟩

theorem Store.AgreeOn.registration (agree : store.AgreeOn leaseId other) (token : Address)
    (amount minimum fiat : I128) (factor : U32) :
    store.registration env leaseId token amount minimum fiat factor =
      other.registration env leaseId token amount minimum fiat factor := by
  unfold Store.registration
  rw [agree.threshold]

theorem Store.AgreeOn.reassessed (agree : store.AgreeOn leaseId other) (record : CollateralHealth)
    (fiat : I128) (factor : U32) :
    store.reassessed env record fiat factor = other.reassessed env record fiat factor := by
  unfold Store.reassessed
  rw [agree.threshold]

theorem Operation.Passes.agree (on : operation.subject = some leaseId)
    (agree : store.AgreeOn leaseId other) (passes : operation.Passes env store) :
    operation.Passes env other := by
  cases passes with
  | registers rates enough =>
      cases on
      exact .registers (rates.agree agree) enough
  | checks assessed enough =>
      cases on
      exact .checks (assessed.agree agree) enough
  | fulfils fulfillable short =>
      cases on
      exact .fulfils (fulfillable.agree agree) short

theorem Operation.Turns.agree (on : operation.subject = some leaseId)
    (agree : store.AgreeOn leaseId other) (turns : operation.Turns env store lessee paused) :
    operation.Turns env other lessee paused := by
  cases turns with
  | registers rates short new topped timely =>
      cases on
      rw [agree.registration] at topped
      exact .registers (rates.agree agree) short (agree.marginCalls ▸ new) topped
        (agree.grace ▸ timely)
  | checks assessed short new topped timely =>
      cases on
      rw [agree.reassessed] at topped
      exact .checks (assessed.agree agree) short (agree.marginCalls ▸ new) topped
        (agree.grace ▸ timely)
  | fulfils fulfillable enough =>
      cases on
      exact .fulfils (fulfillable.agree agree) enough

theorem Store.Rates.unique {token : Address} {amount minimum fiat value : I128}
    {factor ratio : U32} (rates : store.Rates env token amount minimum fiat factor)
    (again : store.Rates env token amount minimum value ratio) : value = fiat ∧ ratio = factor := by
  obtain rfl := Option.some.inj (again.valued.symm.trans rates.valued)
  obtain rfl := Option.some.inj (again.rated.symm.trans rates.rated)
  exact ⟨rfl, rfl⟩

theorem Store.Fulfillable.unique {additional amount sum fiat value : I128} {token : Address}
    {marginCall found : MarginCall} {record stored : CollateralHealth} {factor ratio : U32}
    (fulfillable : store.Fulfillable env leaseId additional token marginCall record amount fiat
      factor)
    (again : store.Fulfillable env leaseId additional token found stored sum value ratio) :
    found = marginCall ∧ stored = record ∧ sum = amount ∧ value = fiat ∧ ratio = factor := by
  obtain rfl := Option.some.inj (again.found.symm.trans fulfillable.found)
  obtain rfl := Option.some.inj (again.stored.symm.trans fulfillable.stored)
  obtain rfl := Option.some.inj (again.sum.symm.trans fulfillable.sum)
  obtain rfl := Option.some.inj (again.valued.symm.trans fulfillable.valued)
  obtain rfl := Option.some.inj (again.rated.symm.trans fulfillable.rated)
  exact ⟨rfl, rfl, rfl, rfl, rfl⟩

theorem Operation.Turns.not_passes (turns : operation.Turns env store lessee paused) :
    ¬ operation.Passes env store := by
  intro passes
  cases turns with
  | registers rates short _ _ _ =>
      cases passes with
      | registers again enough =>
          obtain ⟨rfl, rfl⟩ := rates.unique again
          exact absurd short (not_lt.mpr enough)
  | checks assessed short _ _ _ =>
      cases passes with
      | checks again enough =>
          obtain ⟨rfl, rfl, rfl⟩ := assessed.unique again
          exact absurd short (not_lt.mpr enough)
  | fulfils fulfillable enough =>
      cases passes with
      | fulfils again short =>
          obtain ⟨rfl, rfl, rfl, rfl, rfl⟩ := fulfillable.unique again
          exact absurd short (not_lt.mpr enough)

theorem Operation.Turns.unique {tenant : Address} {again : Bool}
    (turns : operation.Turns env store lessee paused)
    (also : operation.Turns env store tenant again) : tenant = lessee ∧ again = paused := by
  cases turns with
  | registers _ _ _ _ _ =>
      cases also with
      | registers _ _ _ _ _ => exact ⟨rfl, rfl⟩
  | checks _ _ _ _ _ =>
      cases also with
      | checks _ _ _ _ _ => exact ⟨rfl, rfl⟩
  | fulfils fulfillable _ =>
      cases also with
      | fulfils other _ =>
          obtain ⟨rfl, -⟩ := fulfillable.unique other
          exact ⟨rfl, rfl⟩

/-! ### What goes through -/

theorem goes_iff_commits {call : Call} : call.Goes store ↔ ∃ after, Commits call.body store () after :=
  succeeds_iff.trans ⟨fun ⟨_, after, run⟩ => ⟨after, run⟩, fun ⟨after, run⟩ => ⟨(), after, run⟩⟩

theorem Store.issuable_iff {record stored : CollateralHealth} {topup : I128}
    (found : store.collateralHealth leaseId = some record) :
    store.Issuable env leaseId stored topup ↔
      stored = record ∧ store.marginCalls leaseId = none ∧ record.requiredTopup = some topup ∧
        env.timestamp + store.grace ≤ u64Max := by
  constructor
  · rintro ⟨again, new, topped, timely⟩
    obtain rfl := Option.some.inj (found.symm.trans again)
    exact ⟨rfl, new, topped, timely⟩
  · rintro ⟨rfl, new, topped, timely⟩
    exact ⟨found, new, topped, timely⟩

theorem registerLeaseCollateral_goes_iff {tenant token : Address} {amount minimum : I128} :
    (∃ after, Commits (registerLeaseCollateral env leaseId tenant token amount minimum) store ()
        after) ↔
      (Operation.registerLeaseCollateral leaseId tenant token amount minimum).Passes env store ∨
        ∃ lessee paused, (Operation.registerLeaseCollateral leaseId tenant token amount
          minimum).Turns env store lessee paused ∧ store.isUtilityPaused lessee = paused := by
  constructor
  · rintro ⟨after, run⟩
    obtain ⟨fiat, factor, rates, ⟨enough, _⟩ | ⟨short, issues⟩⟩ :=
      (commits_registerLeaseCollateral _).mp run
    · exact .inl (.registers rates enough)
    · obtain ⟨record, topup, issuable, unpaused, _⟩ := (commits_triggerMarginCall _).mp issues
      obtain ⟨rfl, new, topped, timely⟩ :=
        (Store.issuable_iff (Function.update_self ..)).mp issuable
      exact .inr ⟨tenant, false, .registers rates short new topped timely, unpaused⟩
  · rintro (passes | ⟨lessee, paused, turns, same⟩)
    · cases passes with
      | registers rates enough =>
          exact ⟨_, (commits_registerLeaseCollateral _).mpr ⟨_, _, rates, .inl ⟨enough, rfl⟩⟩⟩
    · cases turns with
      | @registers _ _ _ _ _ fiat topup factor rates short new topped timely =>
          have issuable : (store.putHealth leaseId (store.registration env leaseId token amount
              minimum fiat factor)).Issuable env leaseId _ topup :=
            (Store.issuable_iff (Function.update_self ..)).mpr ⟨rfl, new, topped, timely⟩
          exact ⟨_, (commits_registerLeaseCollateral _).mpr ⟨fiat, factor, rates, .inr ⟨short,
            (commits_triggerMarginCall _).mpr ⟨_, topup, issuable, same, rfl⟩⟩⟩⟩

theorem checkCollateralHealth_goes_iff :
    (∃ after, Commits (checkCollateralHealth env 0 leaseId) store () after) ↔
      (Operation.checkCollateralHealth leaseId).Passes env store ∨
        ∃ lessee paused, (Operation.checkCollateralHealth leaseId).Turns env store lessee paused ∧
          store.isUtilityPaused lessee = paused := by
  constructor
  · rintro ⟨after, run⟩
    obtain ⟨record, fiat, factor, assessed, ⟨enough, _⟩ | ⟨short, issues⟩⟩ :=
      (commits_checkCollateralHealth _).mp run
    · exact .inl (.checks assessed enough)
    · obtain ⟨stored, topup, issuable, unpaused, _⟩ := (commits_triggerMarginCall _).mp issues
      obtain ⟨rfl, new, topped, timely⟩ :=
        (Store.issuable_iff (Function.update_self ..)).mp issuable
      exact .inr ⟨_, false, .checks assessed short new topped timely, unpaused⟩
  · rintro (passes | ⟨lessee, paused, turns, same⟩)
    · cases passes with
      | checks assessed enough =>
          exact ⟨_, (commits_checkCollateralHealth _).mpr ⟨_, _, _, assessed, .inl ⟨enough, rfl⟩⟩⟩
    · cases turns with
      | @checks _ record fiat topup factor assessed short new topped timely =>
          have issuable : (store.warned env 0 leaseId record fiat factor).Issuable env leaseId _
              topup :=
            (Store.issuable_iff (Function.update_self ..)).mpr ⟨rfl, new, topped, timely⟩
          exact ⟨_, (commits_checkCollateralHealth _).mpr ⟨record, fiat, factor, assessed,
            .inr ⟨short, (commits_triggerMarginCall _).mpr ⟨_, topup, issuable, same, rfl⟩⟩⟩⟩

theorem fulfillMarginCall_goes_iff {additional : I128} {token : Address} :
    (∃ after, Commits (fulfillMarginCall env leaseId additional token) store () after) ↔
      (Operation.fulfillMarginCall leaseId additional token).Passes env store ∨
        ∃ lessee paused, (Operation.fulfillMarginCall leaseId additional token).Turns env store
          lessee paused ∧ store.isUtilityPaused lessee = paused := by
  constructor
  · rintro ⟨after, run⟩
    obtain ⟨marginCall, record, amount, fiat, factor, fulfillable, paused, _⟩ :=
      (commits_fulfillMarginCall _).mp run
    by_cases enough : criticalHealthThreshold ≤ factor
    · exact .inr ⟨_, true, .fulfils fulfillable enough, paused enough⟩
    · exact .inl (.fulfils fulfillable (not_le.mp enough))
  · rintro (passes | ⟨lessee, paused, turns, same⟩)
    · cases passes with
      | fulfils fulfillable short =>
          exact ⟨_, (commits_fulfillMarginCall _).mpr ⟨_, _, _, _, _, fulfillable,
            fun enough => absurd short (not_lt.mpr enough), rfl⟩⟩
    · cases turns with
      | fulfils fulfillable enough =>
          exact ⟨_, (commits_fulfillMarginCall _).mpr ⟨_, _, _, _, _, fulfillable,
            fun _ => same, rfl⟩⟩

/-- An operation on a lease goes through by itself, or where it finds the utility as it needs. -/
theorem Call.goes_iff {call : Call} (on : call.operation.subject = some leaseId) :
    call.Goes store ↔ call.operation.Passes call.env store ∨ ∃ lessee paused,
      call.operation.Turns call.env store lessee paused ∧
        store.isUtilityPaused lessee = paused := by
  rw [goes_iff_commits]
  obtain ⟨env, operation⟩ := call
  cases operation with
  | registerLeaseCollateral leaseId lessee token amount minimum =>
      exact registerLeaseCollateral_goes_iff
  | checkCollateralHealth leaseId => exact checkCollateralHealth_goes_iff
  | fulfillMarginCall leaseId additional token => exact fulfillMarginCall_goes_iff
  | _ => cases on

theorem Operation.Turns.goes_iff {call : Call} (on : call.operation.subject = some leaseId)
    (turns : call.operation.Turns call.env store lessee paused) :
    call.Goes store ↔ store.isUtilityPaused lessee = paused := by
  rw [Call.goes_iff on, or_iff_right turns.not_passes]
  constructor
  · rintro ⟨tenant, again, also, same⟩
    obtain ⟨rfl, rfl⟩ := turns.unique also
    exact same
  · intro same
    exact ⟨lessee, paused, turns, same⟩

/-! ### What is left of the lease -/

theorem Store.AgreeOn.putHealth (agree : store.AgreeOn leaseId other) (record : CollateralHealth) :
    (store.putHealth leaseId record).AgreeOn leaseId (other.putHealth leaseId record) := by
  refine ⟨agree.oraclePriceFeed, agree.healthThreshold, agree.gracePeriod, ?_, agree.marginCalls⟩
  simp only [Store.putHealth, Function.update_self]

theorem Store.AgreeOn.emit (agree : store.AgreeOn leaseId other) (event : Event) :
    (store.emit event).AgreeOn leaseId (other.emit event) :=
  ⟨agree.oraclePriceFeed, agree.healthThreshold, agree.gracePeriod, agree.collateralHealth,
    agree.marginCalls⟩

theorem Store.AgreeOn.issued (agree : store.AgreeOn leaseId other) (record : CollateralHealth)
    (topup : I128) :
    (store.issued env leaseId lessee record topup).AgreeOn leaseId
      (other.issued env leaseId lessee record topup) := by
  refine ⟨agree.oraclePriceFeed, agree.healthThreshold, agree.gracePeriod, agree.collateralHealth,
    ?_⟩
  change Function.update store.marginCalls leaseId (some (store.newCall env leaseId lessee record
    topup)) leaseId = Function.update other.marginCalls leaseId (some (other.newCall env leaseId
      lessee record topup)) leaseId
  rw [Function.update_self, Function.update_self, Store.newCall, Store.newCall, agree.grace]

theorem Store.AgreeOn.triggered {after next : Store} (agree : store.AgreeOn leaseId other)
    (run : Commits (triggerMarginCall env leaseId lessee) store () after)
    (again : Commits (triggerMarginCall env leaseId lessee) other () next) :
    after.AgreeOn leaseId next := by
  obtain ⟨record, topup, issuable, _, rfl⟩ := (commits_triggerMarginCall _).mp run
  obtain ⟨stored, sum, issues, _, rfl⟩ := (commits_triggerMarginCall _).mp again
  have found := agree.collateralHealth ▸ issuable.found
  obtain rfl := Option.some.inj (found.symm.trans issues.found)
  obtain rfl := Option.some.inj (issuable.topup.symm.trans issues.topup)
  exact agree.issued record topup

theorem Store.AgreeOn.registered {tenant token : Address} {amount minimum : I128}
    {after next : Store} (agree : store.AgreeOn leaseId other)
    (run : Commits (registerLeaseCollateral env leaseId tenant token amount minimum) store ()
      after)
    (again : Commits (registerLeaseCollateral env leaseId tenant token amount minimum) other ()
      next) : after.AgreeOn leaseId next := by
  obtain ⟨fiat, factor, rates, ending⟩ := (commits_registerLeaseCollateral _).mp run
  obtain ⟨value, ratio, also, other⟩ := (commits_registerLeaseCollateral _).mp again
  obtain ⟨rfl, rfl⟩ := (rates.agree agree).unique also
  rw [← agree.registration] at other
  rcases ending with ⟨enough, rfl⟩ | ⟨short, issues⟩
  · rcases other with ⟨_, rfl⟩ | ⟨short, _⟩
    · exact agree.putHealth _
    · exact absurd short (not_lt.mpr enough)
  · rcases other with ⟨enough, _⟩ | ⟨_, issuesToo⟩
    · exact absurd short (not_lt.mpr enough)
    · exact (agree.putHealth _).triggered issues issuesToo

theorem Store.AgreeOn.checked {after next : Store} (agree : store.AgreeOn leaseId other)
    (run : Commits (checkCollateralHealth env 0 leaseId) store () after)
    (again : Commits (checkCollateralHealth env 0 leaseId) other () next) :
    after.AgreeOn leaseId next := by
  obtain ⟨record, fiat, factor, assessed, ending⟩ := (commits_checkCollateralHealth _).mp run
  obtain ⟨stored, value, ratio, also, other⟩ := (commits_checkCollateralHealth _).mp again
  obtain ⟨rfl, rfl, rfl⟩ := (assessed.agree agree).unique also
  unfold Store.warned at ending other
  rw [← agree.reassessed] at other
  rcases ending with ⟨enough, rfl⟩ | ⟨short, issues⟩
  · rcases other with ⟨_, rfl⟩ | ⟨short, _⟩
    · exact agree.putHealth _
    · exact absurd short (not_lt.mpr enough)
  · rcases other with ⟨enough, _⟩ | ⟨_, issuesToo⟩
    · exact absurd short (not_lt.mpr enough)
    · exact ((agree.putHealth _).emit _).triggered issues issuesToo

theorem Store.AgreeOn.fulfilled {additional : I128} {token : Address} {after next : Store}
    (agree : store.AgreeOn leaseId other)
    (run : Commits (fulfillMarginCall env leaseId additional token) store () after)
    (again : Commits (fulfillMarginCall env leaseId additional token) other () next) :
    after.AgreeOn leaseId next := by
  obtain ⟨marginCall, record, amount, fiat, factor, fulfillable, _, rfl⟩ :=
    (commits_fulfillMarginCall _).mp run
  obtain ⟨found, stored, sum, value, ratio, also, _, rfl⟩ := (commits_fulfillMarginCall _).mp again
  obtain ⟨rfl, rfl, rfl, rfl, rfl⟩ := (fulfillable.agree agree).unique also
  have resumed : (store.resumed ratio found.lessee).AgreeOn leaseId
      (other.resumed ratio found.lessee) := by
    unfold Store.resumed
    split
    · exact ⟨agree.oraclePriceFeed, agree.healthThreshold, agree.gracePeriod,
        agree.collateralHealth, agree.marginCalls⟩
    · exact agree
  have recorded := resumed.putHealth (stored.toppedUp sum (env.quote token) value ratio)
  refine ⟨recorded.oraclePriceFeed, recorded.healthThreshold, recorded.gracePeriod,
    recorded.collateralHealth, ?_⟩
  simp only [Store.fulfilled, Store.putCall, Function.update_self]

theorem Call.leaves {call : Call} (on : call.operation.subject = some leaseId)
    (agree : store.AgreeOn leaseId other) (goes : call.Goes store) (also : call.Goes other) :
    (step call store).AgreeOn leaseId (step call other) := by
  have run := goes.commits
  have again := also.commits
  obtain ⟨env, operation⟩ := call
  cases operation with
  | registerLeaseCollateral leaseId lessee token amount minimum =>
      cases on
      exact agree.registered run again
  | checkCollateralHealth leaseId =>
      cases on
      exact agree.checked run again
  | fulfillMarginCall leaseId additional token =>
      cases on
      exact agree.fulfilled run again
  | _ => cases on

/-- An operation on a lease has the same outcome in two stores that agree on the lease exactly if
the utility it turns is paused in both or in neither. -/
theorem sameOutcome_iff {call : Call} (on : call.operation.subject = some leaseId)
    (agree : store.AgreeOn leaseId other) :
    SameOutcome call leaseId store other ↔ ∀ lessee paused,
      call.operation.Turns call.env store lessee paused →
        store.isUtilityPaused lessee = other.isUtilityPaused lessee := by
  constructor
  · intro same lessee paused turns
    have goes := same.goes
    rw [turns.goes_iff on, (turns.agree on agree).goes_iff on] at goes
    exact Bool.eq_iff_iff.mpr (by cases paused <;> simpa using goes)
  · intro alike
    refine ⟨?_, Call.leaves on agree⟩
    rw [Call.goes_iff on, Call.goes_iff on]
    refine or_congr ⟨fun passes => passes.agree on agree,
      fun passes => passes.agree on agree.symm⟩ ?_
    refine exists_congr fun lessee => exists_congr fun paused => ?_
    constructor
    · rintro ⟨turns, same⟩
      exact ⟨turns.agree on agree, alike lessee paused turns ▸ same⟩
    · rintro ⟨turns, same⟩
      have here := turns.agree on agree.symm
      exact ⟨here, (alike lessee paused here).trans same⟩

/-! ### What is issued -/

theorem triggerMarginCall_hasActiveCall {after : Store}
    (run : Commits (triggerMarginCall env leaseId lessee) store () after) :
    after.HasActiveCall leaseId := by
  obtain ⟨record, topup, _, _, rfl⟩ := (commits_triggerMarginCall _).mp run
  exact ⟨_, Function.update_self .., rfl⟩

theorem Operation.Turns.issues {call : Call} (on : call.operation.subject = some leaseId)
    (turns : call.operation.Turns call.env store lessee false) (goes : call.Goes store) :
    (step call store).HasActiveCall leaseId := by
  have run := goes.commits
  obtain ⟨env, operation⟩ := call
  change operation.Turns env store lessee false at turns
  cases turns with
  | registers rates short new topped timely =>
      cases on
      obtain ⟨value, ratio, again, ⟨enough, _⟩ | ⟨_, issues⟩⟩ :=
        (commits_registerLeaseCollateral _).mp run
      · obtain ⟨rfl, rfl⟩ := rates.unique again
        exact absurd short (not_lt.mpr enough)
      · exact triggerMarginCall_hasActiveCall issues
  | checks assessed short new topped timely =>
      cases on
      obtain ⟨stored, value, ratio, again, ⟨enough, _⟩ | ⟨_, issues⟩⟩ :=
        (commits_checkCollateralHealth _).mp run
      · obtain ⟨rfl, rfl, rfl⟩ := assessed.unique again
        exact absurd short (not_lt.mpr enough)
      · exact triggerMarginCall_hasActiveCall issues

theorem Operation.Turns.issues_iff {call : Call} (on : call.operation.subject = some leaseId)
    (turns : call.operation.Turns call.env store lessee false) :
    (call.Goes store ∧ (step call store).HasActiveCall leaseId) ↔
      store.isUtilityPaused lessee = false := by
  rw [and_iff_left_of_imp (turns.issues on)]
  exact turns.goes_iff on

end Outcomes

/-! ## Pauses of a lessee -/

/-- The utility of a lessee is paused as long as a margin call of his is active. -/
def Store.ActivePaused (store : Store) : Prop :=
  ∀ leaseId marginCall, store.marginCalls leaseId = some marginCall →
    marginCall.status = .active → store.isUtilityPaused marginCall.lessee = true

/-- No other lease of the lessee has an active margin call. -/
def Store.NoneElse (leaseId : U64) (lessee : Address) (store : Store) : Prop :=
  ∀ other marginCall, other ≠ leaseId → store.marginCalls other = some marginCall →
    marginCall.status = .active → marginCall.lessee ≠ lessee

/-- The utility of a lessee is resumed with the last active margin call. -/
def Call.ResumesLast (call : Call) (store : Store) : Prop :=
  ∀ leaseId lessee, call.operation.subject = some leaseId →
    call.operation.Turns call.env store lessee true → store.NoneElse leaseId lessee

section Pauses

variable {env : Env} {before after : Store} {leaseId : U64} {lessee : Address}

theorem Store.isUtilityPaused_putPause_self (pause : Option UtilityTokenPause) :
    (before.putPause lessee pause).isUtilityPaused lessee = pause.isSome := by
  simp only [isUtilityPaused, putPause, Function.update_self]

theorem Store.isUtilityPaused_putPause_of_ne {address : Address} (differs : address ≠ lessee)
    (pause : Option UtilityTokenPause) :
    (before.putPause lessee pause).isUtilityPaused address = before.isUtilityPaused address := by
  simp only [isUtilityPaused, putPause, Function.update_of_ne differs]

theorem Store.ActivePaused.putCall {marginCall : MarginCall} (paused : before.ActivePaused)
    (new : marginCall.status = .active → before.isUtilityPaused marginCall.lessee = true) :
    (before.putCall leaseId marginCall).ActivePaused :=
  PartialMap.forall_update new fun other stored _ found => paused other stored found

theorem Store.ActivePaused.issued (paused : before.ActivePaused) (record : CollateralHealth)
    (topup : I128) : (before.issued env leaseId lessee record topup).ActivePaused := by
  have own : (before.issued env leaseId lessee record topup).isUtilityPaused lessee = true :=
    Store.isUtilityPaused_putPause_self (some _)
  refine PartialMap.forall_update (fun _ => own) fun other stored _ found active => ?_
  by_cases same : stored.lessee = lessee
  · rw [same]
    exact own
  · exact (Store.isUtilityPaused_putPause_of_ne same _).trans (paused other stored found active)

theorem CheckOutcome.activePaused (checked : CheckOutcome env leaseId before after)
    (paused : before.ActivePaused) : after.ActivePaused := by
  cases checked with
  | refused | rated _ | warned _ => exact paused
  | @called record fiat topup factor drawn _ _ _ =>
      have warned : (before.warned env drawn leaseId record fiat factor).ActivePaused := paused
      exact warned.issued _ topup
  | @unpaused record fiat topup factor drawn _ _ already =>
      have warned : (before.warned env drawn leaseId record fiat factor).ActivePaused := paused
      exact warned.putCall fun _ => already

theorem ChecksTo.activePaused (checks : ChecksTo env before after) (paused : before.ActivePaused) :
    after.ActivePaused := by
  induction checks with
  | refl => exact paused
  | tail _ last ih =>
      obtain ⟨_, checked⟩ := last
      exact checked.activePaused ih

theorem Store.ActivePaused.fulfilled_iff {additional amount fiat : I128} {token : Address}
    {marginCall : MarginCall} {record : CollateralHealth} {factor : U32}
    (paused : before.ActivePaused)
    (fulfillable : before.Fulfillable env leaseId additional token marginCall record amount fiat
      factor) :
    (before.fulfilled leaseId marginCall record amount (env.quote token) fiat
        factor).ActivePaused ↔
      (criticalHealthThreshold ≤ factor → before.NoneElse leaseId marginCall.lessee) := by
  by_cases enough : criticalHealthThreshold ≤ factor
  · rw [Store.fulfilled, Store.resumed, if_pos enough]
    constructor
    · rintro kept - other stored differs found active same
      have still := kept other stored ((Function.update_of_ne differs _ _).trans found) active
      rw [same] at still
      cases (Store.isUtilityPaused_putPause_self none).symm.trans still
    · intro none
      refine PartialMap.forall_update (fun active => ?_) fun other stored differs found active => ?_
      · rw [MarginCall.answered, if_pos enough] at active
        cases active
      · have apart := none enough other stored differs found active
        exact (Store.isUtilityPaused_putPause_of_ne apart _).trans
          (paused other stored found active)
  · rw [Store.fulfilled, Store.resumed, if_neg enough]
    refine iff_of_true ?_ fun reached => absurd reached enough
    refine Store.ActivePaused.putCall paused fun active => ?_
    rw [MarginCall.answered, if_neg enough] at active
    exact paused leaseId marginCall fulfillable.found active

/-- Only a fulfilment resumes a utility. -/
theorem Effect.activePaused_iff {operation : Operation}
    (effect : Effect env before after operation) (paused : before.ActivePaused) :
    after.ActivePaused ↔ Call.ResumesLast ⟨env, operation⟩ before := by
  cases effect with
  | begun =>
      refine iff_of_true (fun _ _ found => ?_) fun _ _ on => ?_
      · cases found
      · cases on
  | registered =>
      refine iff_of_true paused fun _ _ _ turns => ?_
      cases turns
  | @registeredShort leaseId _ token amount minimum fiat topup factor record _ _ =>
      have recorded : (before.putHealth leaseId (before.registration env leaseId token amount
        minimum fiat factor)).ActivePaused := paused
      refine iff_of_true (recorded.issued record topup) fun _ _ _ turns => ?_
      cases turns
  | checked checked =>
      refine iff_of_true (checked.activePaused paused) fun _ _ _ turns => ?_
      cases turns
  | batched checks =>
      refine iff_of_true (checks.activePaused paused) fun _ _ on => ?_
      cases on
  | @fulfilled leaseId _ _ marginCall _ _ _ _ fulfillable =>
      rw [paused.fulfilled_iff fulfillable]
      constructor
      · intro last _ _ on turns
        cases on
        cases turns with
        | fulfils again enough =>
            obtain ⟨rfl, -, -, -, rfl⟩ := fulfillable.unique again
            exact last enough
      · intro last enough
        exact last leaseId marginCall.lessee rfl (.fulfils fulfillable enough)
  | executed found _ =>
      refine iff_of_true (Store.ActivePaused.putCall paused fun active => ?_) fun _ _ on => ?_
      · cases active
      · cases on
  | queried query =>
      refine iff_of_true paused fun _ _ on => ?_
      cases query <;> cases on

end Pauses

/-! ## Margin calls beside each other -/

/-- An operation on a lease has the same outcome whatever else is stored exactly if the utility it
turns is paused in both stores or in neither; a lease that falls short gets its margin call exactly
if the utility of the lessee runs; and along a run the utilities stay paused exactly if each is
resumed with the last active margin call of its lessee. -/
theorem marginCalls_apart_iff (call : Call) (leaseId : U64) (store other : Store)
    (calls : List Call) :
    (call.operation.subject = some leaseId → store.AgreeOn leaseId other →
      (SameOutcome call leaseId store other ↔ ∀ lessee paused,
        call.operation.Turns call.env store lessee paused →
          store.isUtilityPaused lessee = other.isUtilityPaused lessee)) ∧
    (∀ lessee, call.operation.subject = some leaseId →
      call.operation.Turns call.env store lessee false →
      ((call.Goes store ∧ (step call store).HasActiveCall leaseId) ↔
        store.isUtilityPaused lessee = false)) ∧
    ((∀ earlier, earlier <+: calls → (Run.run step earlier Store.empty).ActivePaused) ↔
      Run.MeetsAlong step (fun call store => call.Goes store → call.ResumesLast store) calls
        Store.empty) := by
  refine ⟨sameOutcome_iff, fun lessee on turns => turns.issues_iff on, ?_⟩
  have initially : Store.empty.ActivePaused := fun _ _ found => absurd found (by simp [Store.empty])
  refine @Run.invariant_along_iff_given _ _ step (fun _ _ => True) (fun _ => True)
    Store.ActivePaused _ (fun _ _ _ _ => trivial) (fun call store _ _ paused => ?_) _ _
    (Run.meetsAlong_trivial calls Store.empty) trivial initially
  exact Machine.step_keeps_iff paused fun next run => (call_effect run).activePaused_iff paused

/-- Lessee 7 has an active margin call for lease 1, and gets none for lease 2. -/
theorem second_call_refused :
    ¬ ∀ store, Run.Reaches step Store.empty store →
      ∀ (call : Call) leaseId lessee, call.operation.subject = some leaseId →
        call.operation.Turns call.env store lessee false →
        call.Goes store ∧ (step call store).HasActiveCall leaseId := by
  intro own
  have issued := own _ ⟨[initialized, registeredShort], rfl⟩
    (callAt 10 (.registerLeaseCollateral 2 ⟨7⟩ ⟨3⟩ 1 200000000)) 2 ⟨7⟩ rfl
    (@Operation.Turns.registers _ _ _ _ _ _ _ 100000000 100000000 5000
      ⟨by decide +kernel, by decide +kernel, by decide +kernel⟩ (by decide) rfl (by decide +kernel)
      (by decide +kernel))
  exact absurd issued.1 (by decide +kernel)

end LeaseFlow.Collateral
