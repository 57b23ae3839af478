import LeaseFlow.Collateral.Operations
import Mathlib.Logic.Relation

/-!
# What a call to the collateral monitor does

`Effect` says once, for each operation, what it checked and which entries it leaves.  A check that
ends in an error inside a batch leaves what it wrote before, so `CheckOutcome` covers both endings.
-/

set_option autoImplicit false

namespace LeaseFlow.Collateral

open Transaction Failure

section Primitives

variable {before after : Store}

@[simp] theorem commits_publish (event : Event) (result : Unit) :
    Commits (publish event) before result after ↔ after = before.emit event :=
  commits_modify _ result

@[simp] theorem commits_requireAuth (env : Env) (address : Address) (result : Unit) :
    Commits (requireAuth env address) before result after ↔
      env.authorised address = true ∧ after = before :=
  commits_orTrap _ _ result

@[simp] theorem commits_computed {α : Type} (value : Checked α) (result : α) :
    Commits (computed value) before result after ↔ value = some result ∧ after = before :=
  commits_fetch value _ result

@[simp] theorem commits_getOraclePrice (env : Env) (token : Address) (price : PriceData) :
    Commits (getOraclePrice env token) before price after ↔
      before.oraclePriceFeed ≠ none ∧ price = env.quote token ∧ after = before := by
  simp only [getOraclePrice, commits_bind, commits_inspect, commits_orErr, commits_pure]
  constructor
  · rintro ⟨_, _, ⟨rfl, rfl⟩, oracle, _, ⟨found, rfl⟩, rfl, rfl⟩
    exact ⟨found ▸ Option.some_ne_none oracle, rfl, rfl⟩
  · rintro ⟨stored, rfl, rfl⟩
    obtain ⟨oracle, found⟩ := Option.ne_none_iff_exists'.mp stored
    exact ⟨_, _, ⟨rfl, rfl⟩, oracle, _, ⟨found, rfl⟩, rfl, rfl⟩

@[simp] theorem commits_getCollateralHealth (leaseId : U64) (record : CollateralHealth) :
    Commits (getCollateralHealth leaseId) before record after ↔
      before.collateralHealth leaseId = some record ∧ after = before := by
  simp [getCollateralHealth, eq_comm, and_comm]

@[simp] theorem commits_getMarginCall (leaseId : U64) (marginCall : MarginCall) :
    Commits (getMarginCall leaseId) before marginCall after ↔
      before.marginCalls leaseId = some marginCall ∧ after = before := by
  simp [getMarginCall, eq_comm, and_comm]

theorem steady_getOraclePrice (env : Env) (token : Address) :
    Steady id (getOraclePrice env token) :=
  steady_bind (steady_inspect _) fun _ => steady_bind (steady_orErr _ _) fun _ => steady_pure _

theorem steady_getCollateralHealth (leaseId : U64) : Steady id (getCollateralHealth leaseId) :=
  steady_bind (steady_inspect _) fun _ => steady_orErr _ _

end Primitives

/-! ## Margin calls -/

section MarginCalls

variable {env : Env} {before after : Store} {leaseId : U64} {lessee : Address}

/-- The margin call that `trigger_margin_call` issues on a record. -/
def Store.newCall (env : Env) (leaseId : U64) (lessee : Address) (record : CollateralHealth)
    (requiredTopup : I128) (store : Store) : MarginCall :=
  .fresh env leaseId lessee record requiredTopup (env.timestamp + store.grace)

def Store.pauseFor (env : Env) (leaseId : U64) (lessee : Address) (store : Store) : Store :=
  (store.putPause lessee (some ⟨lessee, leaseId, env.timestamp, marginCallReason, leaseId⟩)).emit
    (.utilityTokenPaused lessee leaseId marginCallReason env.timestamp)

/-- The store after a margin call has been issued. -/
def Store.issued (env : Env) (leaseId : U64) (lessee : Address) (record : CollateralHealth)
    (requiredTopup : I128) (store : Store) : Store :=
  ((store.putCall leaseId (store.newCall env leaseId lessee record requiredTopup)).pauseFor env
    leaseId lessee).emit (.marginCallExecuted leaseId lessee requiredTopup
      (env.timestamp + store.grace) record.healthFactor env.timestamp)

/-- What a margin call needs beside a lessee whose utility is not paused. -/
structure Store.Issuable (env : Env) (leaseId : U64) (record : CollateralHealth)
    (requiredTopup : I128) (store : Store) : Prop where
  found : store.collateralHealth leaseId = some record
  new : store.marginCalls leaseId = none
  topup : record.requiredTopup = some requiredTopup
  timely : env.timestamp + store.grace ≤ u64Max

@[simp] theorem commits_pauseUtilityToken (reason : String) (result : Unit) :
    Commits (pauseUtilityToken env lessee leaseId reason) before result after ↔
      before.isUtilityPaused lessee = false ∧
        after = (before.putPause lessee
          (some ⟨lessee, leaseId, env.timestamp, reason, leaseId⟩)).emit
            (.utilityTokenPaused lessee leaseId reason env.timestamp) := by
  simp only [pauseUtilityToken, commits_bind, commits_inspect, commits_check, commits_modify,
    commits_publish]
  constructor
  · rintro ⟨_, _, ⟨rfl, rfl⟩, _, _, ⟨unpaused, rfl⟩, _, _, rfl, rfl⟩
    exact ⟨unpaused, rfl⟩
  · rintro ⟨unpaused, rfl⟩
    exact ⟨_, _, ⟨rfl, rfl⟩, (), _, ⟨unpaused, rfl⟩, (), _, rfl, rfl⟩

theorem pauseUtilityToken_ends_false {reason : String}
    (run : Ends (pauseUtilityToken env lessee leaseId reason) before false after) :
    before.isUtilityPaused lessee = true ∧ after = before := by
  unfold pauseUtilityToken at run
  obtain ⟨error, faulted⟩ := run
  simp only [faults_bind, commits_inspect, not_faults_inspect, false_or] at faulted
  obtain ⟨_, _, ⟨rfl, rfl⟩, refused | ⟨_, _, _, written | ⟨_, _, _, late⟩⟩⟩ := faulted
  · obtain ⟨paused, _, rfl⟩ := faults_ensure.mp refused
    exact ⟨Bool.not_eq_false _ ▸ paused, rfl⟩
  · exact absurd written not_faults_modify
  · exact absurd late not_faults_modify

theorem commits_triggerMarginCall (result : Unit) :
    Commits (triggerMarginCall env leaseId lessee) before result after ↔
      ∃ record requiredTopup, before.Issuable env leaseId record requiredTopup ∧
        before.isUtilityPaused lessee = false ∧
        after = before.issued env leaseId lessee record requiredTopup := by
  simp only [triggerMarginCall, commits_bind, commits_getCollateralHealth, commits_inspect,
    commits_check, commits_computed, commits_checkedUpTo, commits_modify,
    commits_pauseUtilityToken, commits_publish]
  constructor
  · rintro ⟨record, _, ⟨found, rfl⟩, _, _, ⟨rfl, rfl⟩, _, _, ⟨new, rfl⟩, topup, _, ⟨sum, rfl⟩,
      _, _, ⟨rfl, rfl⟩, _, _, ⟨timely, rfl, rfl⟩, _, _, rfl, _, _, ⟨unpaused, rfl⟩, rfl⟩
    exact ⟨record, topup, ⟨found, new, sum, timely⟩, unpaused, rfl⟩
  · rintro ⟨record, topup, ⟨found, new, sum, timely⟩, unpaused, rfl⟩
    exact ⟨record, _, ⟨found, rfl⟩, _, _, ⟨rfl, rfl⟩, (), _, ⟨new, rfl⟩, topup, _, ⟨sum, rfl⟩,
      _, _, ⟨rfl, rfl⟩, _, _, ⟨timely, rfl, rfl⟩, (), _, rfl, (), _, ⟨unpaused, rfl⟩, rfl⟩

theorem triggerMarginCall_ends_false
    (run : Ends (triggerMarginCall env leaseId lessee) before false after) :
    after = before ∨ ∃ record requiredTopup, before.Issuable env leaseId record requiredTopup ∧
      before.isUtilityPaused lessee = true ∧
      after = before.putCall leaseId (before.newCall env leaseId lessee record requiredTopup) := by
  unfold triggerMarginCall at run
  rcases ends_bind_of_steady (steady_getCollateralHealth leaseId) run with same | ⟨record, read, run⟩
  · exact .inl same
  obtain ⟨found, -⟩ := (commits_getCollateralHealth _ _).mp read
  rcases ends_bind_of_steady (steady_inspect _) run with same | ⟨existing, read, run⟩
  · exact .inl same
  obtain ⟨rfl, -⟩ := (commits_inspect _ _).mp read
  rcases ends_bind_of_steady (steady_check _ _) run with same | ⟨_, read, run⟩
  · exact .inl same
  obtain ⟨new, -⟩ := (commits_check _ _ _).mp read
  rcases ends_bind_of_steady (steady_fetch _ _) run with same | ⟨topup, read, run⟩
  · exact .inl same
  obtain ⟨sum, -⟩ := (commits_computed _ _).mp read
  rcases ends_bind_of_steady (steady_inspect _) run with same | ⟨grace, read, run⟩
  · exact .inl same
  obtain ⟨rfl, -⟩ := (commits_inspect _ _).mp read
  rcases ends_bind_of_steady (steady_checkedUpTo _ _) run with same | ⟨deadline, read, run⟩
  · exact .inl same
  obtain ⟨timely, rfl, -⟩ := (commits_checkedUpTo _ _ _).mp read
  refine .inr ⟨record, topup, ⟨found, new, sum, timely⟩, ?_⟩
  rw [ends_modify_bind, ends_bind] at run
  rcases run with ⟨-, refused⟩ | ⟨_, middle, _, error, late⟩
  · obtain ⟨paused, rfl⟩ := pauseUtilityToken_ends_false refused
    exact ⟨paused, rfl⟩
  · exact absurd late not_faults_modify

end MarginCalls

/-! ## Checks -/

/-- What a check reads and computes before it writes. -/
structure Store.Assessed (env : Env) (leaseId : U64) (record : CollateralHealth) (fiat : I128)
    (factor : U32) (store : Store) : Prop where
  found : store.collateralHealth leaseId = some record
  priced : store.oraclePriceFeed ≠ none
  dated : (env.quote record.collateralToken).lastUpdate ≤ env.timestamp
  recent : env.timestamp - (env.quote record.collateralToken).lastUpdate ≤ priceStalenessThreshold
  valued : fiatValue record.collateralAmount (env.quote record.collateralToken) = some fiat
  rated : ratedFactor fiat record.minimumFiatCollateral = some factor

/-- The record with what a check computed. -/
def Store.reassessed (env : Env) (record : CollateralHealth) (fiat : I128) (factor : U32)
    (store : Store) : CollateralHealth :=
  record.rated (env.quote record.collateralToken) fiat factor (ratedStatus factor store.threshold)

def Store.warned (env : Env) (drawn : Nat) (leaseId : U64) (record : CollateralHealth)
    (fiat : I128) (factor : U32) (store : Store) : Store :=
  (store.putHealth leaseId (store.reassessed env record fiat factor)).emit
    (.collateralHealthWarning leaseId (env.generated drawn) factor fiat
      record.minimumFiatCollateral env.timestamp)

theorem ratedStatus_eq_iff (factor threshold : U32) :
    ratedStatus factor threshold = .underCollateralized ↔ factor < criticalHealthThreshold := by
  unfold ratedStatus
  split
  · next short => exact iff_of_true rfl short
  · next enough =>
      refine iff_of_false (fun same => ?_) enough
      split at same <;> cases same

/-- What a check leaves behind, whether it returns or ends in an error. -/
inductive CheckOutcome (env : Env) (leaseId : U64) (before : Store) : Store → Prop where
  | refused : CheckOutcome env leaseId before before
  | rated {record : CollateralHealth} {fiat : I128} {factor : U32}
      (assessed : before.Assessed env leaseId record fiat factor) :
      CheckOutcome env leaseId before
        (before.putHealth leaseId (before.reassessed env record fiat factor))
  | warned {record : CollateralHealth} {fiat : I128} {factor : U32} {drawn : Nat}
      (assessed : before.Assessed env leaseId record fiat factor) :
      CheckOutcome env leaseId before (before.warned env drawn leaseId record fiat factor)
  | called {record : CollateralHealth} {fiat requiredTopup : I128} {factor : U32} {drawn : Nat}
      (assessed : before.Assessed env leaseId record fiat factor)
      (new : before.marginCalls leaseId = none)
      (unpaused : before.isUtilityPaused (env.generated (drawn + 1)) = false) :
      CheckOutcome env leaseId before
        ((before.warned env drawn leaseId record fiat factor).issued env leaseId
          (env.generated (drawn + 1)) (before.reassessed env record fiat factor) requiredTopup)
  | unpaused {record : CollateralHealth} {fiat requiredTopup : I128} {factor : U32} {drawn : Nat}
      (assessed : before.Assessed env leaseId record fiat factor)
      (new : before.marginCalls leaseId = none)
      (paused : before.isUtilityPaused (env.generated (drawn + 1)) = true) :
      CheckOutcome env leaseId before
        ((before.warned env drawn leaseId record fiat factor).putCall leaseId
          (before.newCall env leaseId (env.generated (drawn + 1))
            (before.reassessed env record fiat factor) requiredTopup))

section Checks

variable {env : Env} {drawn : Nat} {leaseId : U64} {before after : Store}

theorem commits_checkCollateralHealth (result : Unit) :
    Commits (checkCollateralHealth env drawn leaseId) before result after ↔
      ∃ record fiat factor, before.Assessed env leaseId record fiat factor ∧
        ((criticalHealthThreshold ≤ factor ∧
            after = before.putHealth leaseId (before.reassessed env record fiat factor)) ∨
          (factor < criticalHealthThreshold ∧
            Commits (triggerMarginCall env leaseId (env.generated (drawn + 1)))
              (before.warned env drawn leaseId record fiat factor) () after)) := by
  simp only [checkCollateralHealth, commits_bind, commits_getCollateralHealth,
    commits_getOraclePrice, commits_checkedSub, commits_check, commits_computed, commits_inspect,
    commits_modify, commits_ite, commits_publish, commits_pure, ratedStatus_eq_iff]
  constructor
  · rintro ⟨record, _, ⟨found, rfl⟩, _, _, ⟨priced, rfl, rfl⟩, _, _, ⟨dated, rfl, rfl⟩, _, _,
      ⟨recent, rfl⟩, fiat, _, ⟨valued, rfl⟩, factor, _, ⟨rated, rfl⟩, _, _, ⟨rfl, rfl⟩, _, _, rfl,
      ending⟩
    refine ⟨record, fiat, factor, ⟨found, priced, dated, recent, valued, rated⟩, ?_⟩
    by_cases short : factor < criticalHealthThreshold
    · rw [if_pos short] at ending
      obtain ⟨_, _, rfl, issues⟩ := ending
      exact .inr ⟨short, issues⟩
    · rw [if_neg short] at ending
      exact .inl ⟨not_lt.mp short, ending.2⟩
  · rintro ⟨record, fiat, factor, ⟨found, priced, dated, recent, valued, rated⟩, ending⟩
    refine ⟨record, _, ⟨found, rfl⟩, _, _, ⟨priced, rfl, rfl⟩, _, _, ⟨dated, rfl, rfl⟩, (), _,
      ⟨recent, rfl⟩, fiat, _, ⟨valued, rfl⟩, factor, _, ⟨rated, rfl⟩, _, _, ⟨rfl, rfl⟩, (), _, rfl,
      ?_⟩
    rcases ending with ⟨enough, rfl⟩ | ⟨short, issues⟩
    · rw [if_neg (not_lt.mpr enough)]
      exact ⟨trivial, rfl⟩
    · rw [if_pos short]
      exact ⟨(), _, rfl, issues⟩

theorem Store.Issuable.eq_reassessed {record stored : CollateralHealth} {fiat topup : I128}
    {factor : U32}
    (issuable : (before.warned env drawn leaseId record fiat factor).Issuable env leaseId stored
      topup) : stored = before.reassessed env record fiat factor := by
  have found := issuable.found
  simp only [Store.warned, Store.emit, Store.putHealth, Function.update_self,
    Option.some.injEq] at found
  exact found.symm

theorem checkCollateralHealth_checked {returns : Bool}
    (run : Ends (checkCollateralHealth env drawn leaseId) before returns after) :
    CheckOutcome env leaseId before after := by
  cases returns with
  | true =>
      obtain ⟨_, committed⟩ := run
      obtain ⟨record, fiat, factor, assessed, ⟨_, rfl⟩ | ⟨_, issues⟩⟩ :=
        (commits_checkCollateralHealth _).mp committed
      · exact .rated assessed
      · obtain ⟨stored, topup, issuable, unpaused, rfl⟩ := (commits_triggerMarginCall _).mp issues
        obtain rfl := issuable.eq_reassessed
        exact .called assessed issuable.new unpaused
  | false =>
      unfold checkCollateralHealth at run
      rcases ends_bind_of_steady (steady_getCollateralHealth leaseId) run with
        rfl | ⟨record, read, run⟩
      · exact .refused
      obtain ⟨found, -⟩ := (commits_getCollateralHealth _ _).mp read
      rcases ends_bind_of_steady (steady_getOraclePrice _ _) run with rfl | ⟨price, read, run⟩
      · exact .refused
      obtain ⟨priced, rfl, -⟩ := (commits_getOraclePrice _ _ _).mp read
      rcases ends_bind_of_steady (steady_checkedSub _ _) run with rfl | ⟨age, read, run⟩
      · exact .refused
      obtain ⟨dated, rfl, -⟩ := (commits_checkedSub _ _ _).mp read
      rcases ends_bind_of_steady (steady_check _ _) run with rfl | ⟨_, read, run⟩
      · exact .refused
      obtain ⟨recent, -⟩ := (commits_check _ _ _).mp read
      rcases ends_bind_of_steady (steady_fetch _ _) run with rfl | ⟨fiat, read, run⟩
      · exact .refused
      obtain ⟨valued, -⟩ := (commits_computed _ _).mp read
      rcases ends_bind_of_steady (steady_fetch _ _) run with rfl | ⟨factor, read, run⟩
      · exact .refused
      obtain ⟨rated, -⟩ := (commits_computed _ _).mp read
      rcases ends_bind_of_steady (steady_inspect _) run with rfl | ⟨threshold, read, run⟩
      · exact .refused
      obtain ⟨rfl, -⟩ := (commits_inspect _ _).mp read
      have assessed : before.Assessed env leaseId record fiat factor :=
        ⟨found, priced, dated, recent, valued, rated⟩
      rw [ends_modify_bind] at run
      split at run
      · change Ends (modify (Store.emit _) >>= _) _ false _ at run
        rw [ends_modify_bind] at run
        rcases triggerMarginCall_ends_false run with rfl | ⟨stored, topup, issuable, paused, rfl⟩
        · exact .warned assessed
        · obtain rfl := Store.Issuable.eq_reassessed issuable
          exact .unpaused assessed issuable.new paused
      · obtain ⟨error, ended⟩ := run
        exact absurd ended not_faults_pure

end Checks

/-! ## Batches -/

/-- One check after the other. -/
def ChecksTo (env : Env) : Store → Store → Prop :=
  Relation.ReflTransGen fun before after => ∃ leaseId, CheckOutcome env leaseId before after

theorem batchHealthCheck_checks {env : Env} {drawn : Nat} {leaseIds problematic : List U64}
    {before after : Store}
    (run : Commits (batchHealthCheck env drawn leaseIds) before problematic after) :
    ChecksTo env before after := by
  induction leaseIds generalizing drawn before problematic with
  | nil =>
      obtain ⟨_, rfl⟩ := (commits_pure _ _).mp run
      exact .refl
  | cons leaseId rest ih =>
      simp only [batchHealthCheck, commits_bind, commits_handled, commits_pure] at run
      obtain ⟨returns, middle, checked, others, _, later, _, rfl⟩ := run
      exact .head ⟨leaseId, checkCollateralHealth_checked checked⟩ (ih later)

/-! ## Registrations and fulfilments -/

/-- What a registration computes before it writes. -/
structure Store.Rates (env : Env) (collateralToken : Address)
    (collateralAmount minimumFiatCollateral fiat : I128) (factor : U32) (store : Store) : Prop where
  priced : store.oraclePriceFeed ≠ none
  valued : fiatValue collateralAmount (env.quote collateralToken) = some fiat
  rated : ratedFactor fiat minimumFiatCollateral = some factor

def Store.registration (env : Env) (leaseId : U64) (collateralToken : Address)
    (collateralAmount minimumFiatCollateral fiat : I128) (factor : U32) (store : Store) :
    CollateralHealth :=
  .registered leaseId collateralToken collateralAmount minimumFiatCollateral
    (env.quote collateralToken) fiat factor (ratedStatus factor store.threshold)

/-- What a fulfilment checks and computes before it writes. -/
structure Store.Fulfillable (env : Env) (leaseId : U64) (additionalCollateral : I128)
    (tokenAddress : Address) (marginCall : MarginCall) (record : CollateralHealth)
    (collateralAmount fiat : I128) (factor : U32) (store : Store) : Prop where
  found : store.marginCalls leaseId = some marginCall
  timely : env.timestamp ≤ marginCall.gracePeriodEnd
  stored : store.collateralHealth leaseId = some record
  sum : addI128 record.collateralAmount additionalCollateral = some collateralAmount
  priced : store.oraclePriceFeed ≠ none
  valued : fiatValue collateralAmount (env.quote tokenAddress) = some fiat
  rated : fiatRatio fiat record.minimumFiatCollateral = some factor

/-- The utility of the lessee is resumed where the factor is enough. -/
def Store.resumed (factor : U32) (lessee : Address) (store : Store) : Store :=
  if criticalHealthThreshold ≤ factor then store.putPause lessee none else store

def Store.fulfilled (leaseId : U64) (marginCall : MarginCall) (record : CollateralHealth)
    (collateralAmount : I128) (price : PriceData) (fiat : I128) (factor : U32) (store : Store) :
    Store :=
  ((store.resumed factor marginCall.lessee).putHealth leaseId
    (record.toppedUp collateralAmount price fiat factor)).putCall leaseId
      (marginCall.answered factor)

section Writing

variable {env : Env} {leaseId : U64} {before after : Store}

section Fulfilled

variable {marginCall : MarginCall} {record : CollateralHealth} {collateralAmount fiat : I128}
  {price : PriceData} {factor : U32}

theorem Store.fulfilled_marginCalls :
    (before.fulfilled leaseId marginCall record collateralAmount price fiat factor).marginCalls =
      Function.update before.marginCalls leaseId (some (marginCall.answered factor)) := by
  unfold fulfilled resumed
  split <;> rfl

theorem Store.fulfilled_collateralHealth :
    (before.fulfilled leaseId marginCall record collateralAmount price fiat
      factor).collateralHealth = Function.update before.collateralHealth leaseId
        (some (record.toppedUp collateralAmount price fiat factor)) := by
  unfold fulfilled resumed
  split <;> rfl

theorem Store.fulfilled_transfers :
    (before.fulfilled leaseId marginCall record collateralAmount price fiat factor).transfers =
      before.transfers := by
  unfold fulfilled resumed
  split <;> rfl

end Fulfilled

theorem commits_registerLeaseCollateral {lessee collateralToken : Address}
    {collateralAmount minimumFiatCollateral : I128} (result : Unit) :
    Commits (registerLeaseCollateral env leaseId lessee collateralToken collateralAmount
        minimumFiatCollateral) before result after ↔
      ∃ fiat factor,
        before.Rates env collateralToken collateralAmount minimumFiatCollateral fiat factor ∧
        ((criticalHealthThreshold ≤ factor ∧
            after = before.putHealth leaseId (before.registration env leaseId collateralToken
              collateralAmount minimumFiatCollateral fiat factor)) ∨
          (factor < criticalHealthThreshold ∧ Commits (triggerMarginCall env leaseId lessee)
            (before.putHealth leaseId (before.registration env leaseId collateralToken
              collateralAmount minimumFiatCollateral fiat factor)) () after)) := by
  simp only [registerLeaseCollateral, commits_bind, commits_getOraclePrice, commits_computed,
    commits_inspect, commits_modify, commits_ite, commits_pure]
  constructor
  · rintro ⟨_, _, ⟨priced, rfl, rfl⟩, fiat, _, ⟨valued, rfl⟩, factor, _, ⟨rated, rfl⟩, _, _,
      ⟨rfl, rfl⟩, _, _, rfl, ending⟩
    refine ⟨fiat, factor, ⟨priced, valued, rated⟩, ?_⟩
    by_cases short : factor < criticalHealthThreshold
    · rw [if_pos short] at ending
      exact .inr ⟨short, ending⟩
    · rw [if_neg short] at ending
      exact .inl ⟨not_lt.mp short, ending.2⟩
  · rintro ⟨fiat, factor, ⟨priced, valued, rated⟩, ending⟩
    refine ⟨_, _, ⟨priced, rfl, rfl⟩, fiat, _, ⟨valued, rfl⟩, factor, _, ⟨rated, rfl⟩, _, _,
      ⟨rfl, rfl⟩, (), _, rfl, ?_⟩
    rcases ending with ⟨enough, rfl⟩ | ⟨short, issues⟩
    · rw [if_neg (not_lt.mpr enough)]
      exact ⟨trivial, rfl⟩
    · rw [if_pos short]
      exact issues

@[simp] theorem commits_resumeUtilityToken (lessee : Address) (result : Unit) :
    Commits (resumeUtilityToken lessee) before result after ↔
      before.isUtilityPaused lessee = true ∧ after = before.putPause lessee none := by
  simp only [resumeUtilityToken, commits_bind, commits_inspect, commits_check, commits_modify]
  constructor
  · rintro ⟨_, _, ⟨rfl, rfl⟩, _, _, ⟨paused, rfl⟩, rfl⟩
    exact ⟨paused, rfl⟩
  · rintro ⟨paused, rfl⟩
    exact ⟨_, _, ⟨rfl, rfl⟩, (), _, ⟨paused, rfl⟩, rfl⟩

theorem commits_fulfillMarginCall {additionalCollateral : I128} {tokenAddress : Address}
    (result : Unit) :
    Commits (fulfillMarginCall env leaseId additionalCollateral tokenAddress) before result
        after ↔
      ∃ marginCall record collateralAmount fiat factor,
        before.Fulfillable env leaseId additionalCollateral tokenAddress marginCall record
          collateralAmount fiat factor ∧
        (criticalHealthThreshold ≤ factor → before.isUtilityPaused marginCall.lessee = true) ∧
        after = before.fulfilled leaseId marginCall record collateralAmount
          (env.quote tokenAddress) fiat factor := by
  simp only [fulfillMarginCall, commits_bind, commits_getMarginCall, commits_check,
    commits_getCollateralHealth, commits_computed, commits_getOraclePrice, commits_ite,
    commits_resumeUtilityToken, commits_modify]
  constructor
  · rintro ⟨marginCall, _, ⟨found, rfl⟩, _, _, ⟨timely, rfl⟩, record, _, ⟨stored, rfl⟩, amount, _,
      ⟨sum, rfl⟩, _, _, ⟨priced, rfl, rfl⟩, fiat, _, ⟨valued, rfl⟩, factor, _, ⟨rated, rfl⟩,
      written⟩
    refine ⟨marginCall, record, amount, fiat, factor,
      ⟨found, timely, stored, sum, priced, valued, rated⟩, ?_⟩
    by_cases enough : criticalHealthThreshold ≤ factor
    · rw [if_pos enough] at written
      obtain ⟨_, _, ⟨paused, rfl⟩, _, _, rfl, rfl⟩ := written
      exact ⟨fun _ => paused, by rw [Store.fulfilled, Store.resumed, if_pos enough]⟩
    · rw [if_neg enough] at written
      obtain ⟨_, _, rfl, rfl⟩ := written
      exact ⟨fun reached => absurd reached enough,
        by rw [Store.fulfilled, Store.resumed, if_neg enough]⟩
  · rintro ⟨marginCall, record, amount, fiat, factor,
      ⟨found, timely, stored, sum, priced, valued, rated⟩, paused, rfl⟩
    refine ⟨marginCall, _, ⟨found, rfl⟩, (), _, ⟨timely, rfl⟩, record, _, ⟨stored, rfl⟩, amount, _,
      ⟨sum, rfl⟩, _, _, ⟨priced, rfl, rfl⟩, fiat, _, ⟨valued, rfl⟩, factor, _, ⟨rated, rfl⟩, ?_⟩
    by_cases enough : criticalHealthThreshold ≤ factor
    · rw [if_pos enough, Store.fulfilled, Store.resumed, if_pos enough]
      exact ⟨(), _, ⟨paused enough, rfl⟩, (), _, rfl, rfl⟩
    · rw [if_neg enough, Store.fulfilled, Store.resumed, if_neg enough]
      exact ⟨(), _, rfl, rfl⟩

end Writing

/-! ## Calls -/

inductive Operation.IsQuery : Operation → Prop where
  | getCollateralHealth (leaseId : U64) : IsQuery (.getCollateralHealth leaseId)
  | getMarginCall (leaseId : U64) : IsQuery (.getMarginCall leaseId)
  | isUtilityPaused (lessee : Address) : IsQuery (.isUtilityPaused lessee)

inductive Effect (env : Env) (before : Store) : Store → Operation → Prop where
  | begun {admin oracleAddress : Address} {healthThreshold : U32} {gracePeriodSeconds : U64} :
      Effect env before
        (Store.setUp healthThreshold gracePeriodSeconds
          { before with oraclePriceFeed := some oracleAddress })
        (.initializeMonitor admin oracleAddress healthThreshold gracePeriodSeconds)
  | registered {leaseId : U64} {lessee collateralToken : Address}
      {collateralAmount minimumFiatCollateral fiat : I128} {factor : U32} :
      Effect env before
        (before.putHealth leaseId (before.registration env leaseId collateralToken
          collateralAmount minimumFiatCollateral fiat factor))
        (.registerLeaseCollateral leaseId lessee collateralToken collateralAmount
          minimumFiatCollateral)
  | registeredShort {leaseId : U64} {lessee collateralToken : Address}
      {collateralAmount minimumFiatCollateral fiat requiredTopup : I128} {factor : U32}
      {record : CollateralHealth} (new : before.marginCalls leaseId = none)
      (unpaused : before.isUtilityPaused lessee = false) :
      Effect env before
        ((before.putHealth leaseId (before.registration env leaseId collateralToken
          collateralAmount minimumFiatCollateral fiat factor)).issued env leaseId lessee record
            requiredTopup)
        (.registerLeaseCollateral leaseId lessee collateralToken collateralAmount
          minimumFiatCollateral)
  | checked {leaseId : U64} {after : Store} (checked : CheckOutcome env leaseId before after) :
      Effect env before after (.checkCollateralHealth leaseId)
  | batched {leaseIds : List U64} {after : Store} (checks : ChecksTo env before after) :
      Effect env before after (.batchHealthCheck leaseIds)
  | fulfilled {leaseId : U64} {additionalCollateral : I128} {tokenAddress : Address}
      {marginCall : MarginCall} {record : CollateralHealth} {collateralAmount fiat : I128}
      {factor : U32}
      (fulfillable : before.Fulfillable env leaseId additionalCollateral tokenAddress marginCall
        record collateralAmount fiat factor) :
      Effect env before
        (before.fulfilled leaseId marginCall record collateralAmount (env.quote tokenAddress)
          fiat factor)
        (.fulfillMarginCall leaseId additionalCollateral tokenAddress)
  | executed {leaseId : U64} {marginCall : MarginCall} {record : CollateralHealth} {event : Event}
      (found : before.marginCalls leaseId = some marginCall)
      (stored : before.collateralHealth leaseId = some record) :
      Effect env before
        (((before.putCall leaseId marginCall.executed).putHealth leaseId
          { record with status := .emergencyTermination }).emit event)
        (.executeEmergencyTermination leaseId)
  | queried {operation : Operation} (query : operation.IsQuery) :
      Effect env before before operation

section Calls

variable {env : Env} {before after : Store}

theorem initializeMonitor_effect {admin oracleAddress : Address} {healthThreshold : U32}
    {gracePeriodSeconds : U64}
    (run : Commits (initializeMonitor env admin oracleAddress healthThreshold gracePeriodSeconds)
      before () after) :
    Effect env before after
      (.initializeMonitor admin oracleAddress healthThreshold gracePeriodSeconds) := by
  simp only [initializeMonitor, commits_bind, commits_requireAuth, commits_modify,
    commits_check] at run
  obtain ⟨_, _, ⟨signed, rfl⟩, _, _, rfl, _, _, ⟨bounded, rfl⟩, rfl⟩ := run
  exact .begun

theorem registerLeaseCollateral_effect {leaseId : U64} {lessee collateralToken : Address}
    {collateralAmount minimumFiatCollateral : I128}
    (run : Commits (registerLeaseCollateral env leaseId lessee collateralToken collateralAmount
      minimumFiatCollateral) before () after) :
    Effect env before after (.registerLeaseCollateral leaseId lessee collateralToken
      collateralAmount minimumFiatCollateral) := by
  obtain ⟨fiat, factor, rates, ⟨enough, rfl⟩ | ⟨short, issues⟩⟩ :=
    (commits_registerLeaseCollateral _).mp run
  · exact .registered
  · obtain ⟨record, topup, issuable, unpaused, rfl⟩ := (commits_triggerMarginCall _).mp issues
    exact .registeredShort issuable.new unpaused

theorem executeEmergencyTermination_effect {leaseId : U64}
    (run : Commits (executeEmergencyTermination env leaseId) before () after) :
    Effect env before after (.executeEmergencyTermination leaseId) := by
  simp only [executeEmergencyTermination, commits_bind, commits_getMarginCall, commits_check,
    commits_getCollateralHealth, commits_modify, commits_publish] at run
  obtain ⟨marginCall, _, ⟨found, rfl⟩, _, _, ⟨late, rfl⟩, record, _, ⟨stored, rfl⟩, _, _, rfl, _, _,
    rfl, rfl⟩ := run
  exact .executed found stored

/-- What every operation that goes through checked and wrote. -/
theorem call_effect {call : Call} (run : Commits call.body before () after) :
    Effect call.env before after call.operation := by
  obtain ⟨env, operation⟩ := call
  cases operation with
  | initializeMonitor admin oracleAddress healthThreshold gracePeriodSeconds =>
      exact initializeMonitor_effect run
  | registerLeaseCollateral leaseId lessee collateralToken collateralAmount
      minimumFiatCollateral => exact registerLeaseCollateral_effect run
  | checkCollateralHealth leaseId =>
      have returned : Ends (checkCollateralHealth env 0 leaseId) before true after := ⟨(), run⟩
      exact .checked (checkCollateralHealth_checked returned)
  | fulfillMarginCall leaseId additionalCollateral tokenAddress =>
      obtain ⟨marginCall, record, amount, fiat, factor, fulfillable, _, rfl⟩ :=
        (commits_fulfillMarginCall _).mp run
      exact .fulfilled fulfillable
  | executeEmergencyTermination leaseId => exact executeEmergencyTermination_effect run
  | batchHealthCheck leaseIds =>
      obtain ⟨_, _, checks, finished⟩ := (commits_bind _ _ _).mp run
      obtain ⟨_, rfl⟩ := (commits_pure _ _).mp finished
      exact .batched (batchHealthCheck_checks checks)
  | getCollateralHealth leaseId =>
      obtain ⟨_, _, read, finished⟩ := (commits_bind _ _ _).mp run
      obtain ⟨_, rfl⟩ := (commits_pure _ _).mp finished
      obtain ⟨_, rfl⟩ := (commits_getCollateralHealth _ _).mp read
      exact .queried (.getCollateralHealth leaseId)
  | getMarginCall leaseId =>
      obtain ⟨_, _, read, finished⟩ := (commits_bind _ _ _).mp run
      obtain ⟨_, rfl⟩ := (commits_pure _ _).mp finished
      obtain ⟨_, rfl⟩ := (commits_getMarginCall _ _).mp read
      exact .queried (.getMarginCall leaseId)
  | isUtilityPaused lessee =>
      obtain ⟨_, _, read, finished⟩ := (commits_bind _ _ _).mp run
      obtain ⟨_, rfl⟩ := (commits_pure _ _).mp finished
      obtain ⟨_, rfl⟩ := (commits_inspect _ _).mp read
      exact .queried (.isUtilityPaused lessee)

/-- A termination goes through where a margin call is stored, its grace period is over, and the
collateral is recorded. -/
theorem executeEmergencyTermination_goes_iff {leaseId : U64} {store : Store} :
    (⟨env, .executeEmergencyTermination leaseId⟩ : Call).Goes store ↔
      ∃ marginCall, store.marginCalls leaseId = some marginCall ∧
        marginCall.gracePeriodEnd < env.timestamp ∧ store.collateralHealth leaseId ≠ none := by
  refine succeeds_iff.trans ?_
  simp only [Call.body, executeEmergencyTermination, commits_bind, commits_getMarginCall,
    commits_check, commits_getCollateralHealth, commits_modify, commits_publish]
  constructor
  · rintro ⟨_, _, marginCall, _, ⟨found, rfl⟩, _, _, ⟨late, rfl⟩, record, _, ⟨stored, rfl⟩, _⟩
    exact ⟨marginCall, found, late, stored ▸ Option.some_ne_none record⟩
  · rintro ⟨marginCall, found, late, recorded⟩
    obtain ⟨record, stored⟩ := Option.ne_none_iff_exists'.mp recorded
    exact ⟨(), _, marginCall, _, ⟨found, rfl⟩, (), _, ⟨late, rfl⟩, record, _, ⟨stored, rfl⟩, (), _,
      rfl, (), _, rfl, rfl⟩

end Calls

end LeaseFlow.Collateral
