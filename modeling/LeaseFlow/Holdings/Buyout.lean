import LeaseFlow.Holdings.Books
import LeaseFlow.Holdings.Amendments
import LeaseFlow.Safeguards.Admission

/-!
# Buyouts

Two payments close a lease once the payments counted on it reach its buyout price.  The one for
a lease instance counts what it transfers; the one for a symbol-keyed lease counts the amount
its caller names and transfers nothing.
-/

set_option autoImplicit false

namespace LeaseFlow

open Transaction

/-! ## The purchase book -/

/-- What reached the contract or the landlord in a token, from senders who authorised the
call. -/
def Outbox.received (env : Env) (token landlord : Address) (outbox : Outbox) : I128 :=
  ((outbox.payments.filter fun payment => payment.token = token ∧
    (payment.recipient = env.currentContractAddress ∨ payment.recipient = landlord) ∧
    env.authorised payment.sender = true).map TokenTransfer.amount).sum

/-- The lease a call pays for. -/
def Call.paidKey : Call → Option LeaseKey
  | .payRent leaseId _ => some (.lease leaseId)
  | .payLeaseInstanceRent leaseId _ _ => some (.leaseInstance leaseId)
  | _ => none

/-- What a call brings in of the payment token of a stored lease. -/
def Call.receives (env : Env) (world : World) (key : LeaseKey) (call : Call) : I128 :=
  (world.leaseRecord key).elim 0 fun record =>
    ((dispatch env call).attempt world).outbox.received env record.admission.paymentToken
        record.admission.landlord -
      world.outbox.received env record.admission.paymentToken record.admission.landlord

/-- What was received for the lease now stored under each key: nothing when it is created, and
then what every payment for it brings in. -/
def bookPurchase (env : Env) (world : World) (call : Call) (book : LeaseKey → I128) :
    LeaseKey → I128 :=
  match call.createdKey env, call.paidKey with
  | some key, _ => Function.update book key 0
  | none, some key => Function.update book key (book key + call.receives env world key)
  | none, none => book

/-! ## Buyouts -/

/-- The stored lease with a payment counted on it has reached its buyout price. -/
def reachedPrice (buyoutPrice : Option I128) (counted : I128) : Option I128 :=
  buyoutPrice.filter fun price => decide (price ≤ counted)

/-- The lease a payment buys out, and the price that was reached. -/
def World.buyout (world : World) : Call → Option (LeaseKey × I128)
  | .payRent leaseId paymentAmount => do
      let lease ← world.symbols.lease leaseId
      let price ← reachedPrice lease.buyoutPrice (lease.cumulativePayments + paymentAmount)
      pure (.lease leaseId, price)
  | .payLeaseInstanceRent leaseId _ paymentAmount => do
      let lease ← world.leases.lookup leaseId
      let price ← reachedPrice lease.buyoutPrice (lease.cumulativePayments + paymentAmount)
      pure (.leaseInstance leaseId, price)
  | _ => none

/-- The lease is closed: terminated under its symbol, or out of live storage. -/
def World.Closed (world : World) : LeaseKey → Prop
  | .lease leaseId => ∃ lease, world.symbols.lease leaseId = some lease ∧ lease.active = false ∧
      lease.status = .terminated
  | .leaseInstance leaseId => world.leases.lookup leaseId = none
  | .historicalLease _ => False

/-- The price of whatever the call buys out, if it goes through, was received. -/
def Invocation.BuysPaid (invocation : Invocation) (state : World × (LeaseKey → I128)) : Prop :=
  invocation.Committed state.1 → ∀ key price, state.1.buyout invocation.call = some (key, price) →
    price ≤ (bookedStep bookPurchase invocation state).2 key

/-- A payment that moves no token buys out a symbol-keyed lease that has a price. -/
def Call.BuysForNothing (world : World) (call : Call) : Prop :=
  ∃ leaseId price, world.buyout call = some (.lease leaseId, price) ∧ 0 < price

section Buyout

variable {env : Env} {world after : World} {call : Call} {book : LeaseKey → I128}

theorem reachedPrice_eq_some_iff {buyoutPrice : Option I128} {counted price : I128} :
    reachedPrice buyoutPrice counted = some price ↔ buyoutPrice = some price ∧ price ≤ counted := by
  simp [reachedPrice, Option.filter_eq_some_iff]

theorem buyout_payRent_iff {leaseId : Symbol} {paymentAmount price : I128} {key : LeaseKey} :
    world.buyout (.payRent leaseId paymentAmount) = some (key, price) ↔
      ∃ lease, world.symbols.lease leaseId = some lease ∧ lease.buyoutPrice = some price ∧
        price ≤ lease.cumulativePayments + paymentAmount ∧ key = .lease leaseId := by
  simp only [World.buyout, Option.bind_eq_bind, Option.bind_eq_some_iff, Option.pure_def,
    reachedPrice_eq_some_iff, Option.some.injEq, Prod.mk.injEq]
  constructor
  · rintro ⟨lease, found, _, ⟨priced, reached⟩, rfl, rfl⟩
    exact ⟨lease, found, priced, reached, rfl⟩
  · rintro ⟨lease, found, priced, reached, rfl⟩
    exact ⟨lease, found, price, ⟨priced, reached⟩, rfl, rfl⟩

theorem buyout_payLeaseInstanceRent_iff {leaseId : LeaseId} {payer : Address}
    {paymentAmount price : I128} {key : LeaseKey} :
    world.buyout (.payLeaseInstanceRent leaseId payer paymentAmount) = some (key, price) ↔
      ∃ lease, world.leases.lookup leaseId = some lease ∧ lease.buyoutPrice = some price ∧
        price ≤ lease.cumulativePayments + paymentAmount ∧ key = .leaseInstance leaseId := by
  simp only [World.buyout, Option.bind_eq_bind, Option.bind_eq_some_iff, Option.pure_def,
    reachedPrice_eq_some_iff, Option.some.injEq, Prod.mk.injEq]
  constructor
  · rintro ⟨lease, found, _, ⟨priced, reached⟩, rfl, rfl⟩
    exact ⟨lease, found, priced, reached, rfl⟩
  · rintro ⟨lease, found, priced, reached, rfl⟩
    exact ⟨lease, found, price, ⟨priced, reached⟩, rfl, rfl⟩

theorem buyout_paidKey {key : LeaseKey} {price : I128}
    (bought : world.buyout call = some (key, price)) : call.paidKey = some key := by
  cases call with
  | payRent leaseId paymentAmount =>
      obtain ⟨_, _, _, _, rfl⟩ := buyout_payRent_iff.mp bought
      rfl
  | payLeaseInstanceRent leaseId payer paymentAmount =>
      obtain ⟨_, _, _, _, rfl⟩ := buyout_payLeaseInstanceRent_iff.mp bought
      rfl
  | _ => cases bought

/-! ### What a buyout does -/

theorem Lease.boughtOut_iff {lease : Lease} : lease.boughtOut = true ↔
    ∃ price, lease.buyoutPrice = some price ∧ price ≤ lease.cumulativePayments := by
  unfold Lease.boughtOut
  cases lease.buyoutPrice <;> simp

theorem sendLeaseNft_sends {nftContract : Option Address} {tokenId : Option U128}
    {recipient nft : Address} {token : U128} {result : Unit}
    (run : Commits (sendLeaseNft env nftContract tokenId recipient) world result after)
    (contract : nftContract = some nft) (holds : tokenId = some token) :
    after.outbox.nftTransfers = ⟨nft, recipient, token⟩ :: world.outbox.nftTransfers := by
  subst contract holds
  simp only [sendLeaseNft, transferNft, commits_bind, commits_demand, commits_modify] at run
  obtain ⟨_, _, ⟨_, rfl⟩, rfl⟩ := run
  rfl

theorem payRent_steps {leaseId : Symbol} {paymentAmount : I128} {result : Symbol}
    (run : Commits (payRent env leaseId paymentAmount) world result after) :
    ∃ lease, world.symbols.lease leaseId = some lease ∧ lease.active = true ∧
      Commits (storePaidLease env leaseId
        { lease with cumulativePayments := lease.cumulativePayments + paymentAmount })
        world () after := by
  simp only [payRent, loadLease, commits_bind, commits_inspect, commits_expect, commits_demand,
    commits_requireKyc_iff, commits_requireStablecoin_iff, commits_checkedI128,
    commits_pure] at run
  obtain ⟨lease, _, ⟨_, _, ⟨rfl, rfl⟩, found, rfl⟩, _, _, ⟨active, rfl⟩, _, _, ⟨_, rfl⟩, _, _,
    ⟨_, rfl⟩, _, _, ⟨_, rfl, rfl⟩, _, _, stored, _, rfl⟩ := run
  exact ⟨lease, found, active, stored⟩

/-- A payment for a symbol-keyed lease buys it out exactly when it closes it. -/
theorem payRent_buys_iff {leaseId : Symbol} {paymentAmount : I128} {result : Symbol}
    (run : Commits (payRent env leaseId paymentAmount) world result after) :
    (∃ price, world.buyout (.payRent leaseId paymentAmount) = some (.lease leaseId, price)) ↔
      after.Closed (.lease leaseId) := by
  obtain ⟨lease, found, active, stored⟩ := payRent_steps run
  have bought : (∃ price, world.buyout (.payRent leaseId paymentAmount) =
      some (.lease leaseId, price)) ↔ Lease.boughtOut
        { lease with cumulativePayments := lease.cumulativePayments + paymentAmount } = true := by
    simp [buyout_payRent_iff, Lease.boughtOut_iff, found]
  rw [bought]
  simp only [storePaidLease, commits_ite, commits_bind] at stored
  split at stored
  · next reached =>
      obtain ⟨_, _, sent, saved⟩ := stored
      have closed := congrFun (saveLease_lease saved) leaseId
      rw [Function.update_self] at closed
      exact iff_of_true reached ⟨_, closed, rfl, rfl⟩
  · next short =>
      refine iff_of_false short ?_
      rintro ⟨closed, kept, inactive, _⟩
      rw [saveLease_lease stored, Function.update_self] at kept
      obtain rfl := Option.some.inj kept
      cases active.symm.trans inactive

theorem payRent_sends_nft {leaseId : Symbol} {paymentAmount price : I128} {result : Symbol}
    {lease : Lease} {nft : Address} {token : U128}
    (run : Commits (payRent env leaseId paymentAmount) world result after)
    (bought : world.buyout (.payRent leaseId paymentAmount) = some (.lease leaseId, price))
    (found : world.symbols.lease leaseId = some lease)
    (contract : lease.nftContract = some nft) (holds : lease.tokenId = some token) :
    after.outbox.nftTransfers = ⟨nft, lease.tenant, token⟩ :: world.outbox.nftTransfers := by
  obtain ⟨stored, held, active, closing⟩ := payRent_steps run
  obtain rfl := Option.some.inj (found.symm.trans held)
  obtain ⟨_, held, priced, reached, _⟩ := buyout_payRent_iff.mp bought
  obtain rfl := Option.some.inj (found.symm.trans held)
  simp only [storePaidLease, commits_ite, commits_bind] at closing
  have boughtOut : Lease.boughtOut
      { lease with cumulativePayments := lease.cumulativePayments + paymentAmount } = true :=
    Lease.boughtOut_iff.mpr ⟨price, priced, reached⟩
  rw [if_pos boughtOut] at closing
  obtain ⟨_, middle, sent, saved⟩ := closing
  have kept : after.outbox.nftTransfers = middle.outbox.nftTransfers :=
    part_kept .nftTransfers saved (by simp)
  exact kept.trans (sendLeaseNft_sends sent contract holds)

/-- A payment for a lease instance buys it out exactly when it takes it out of storage. -/
theorem payLeaseInstanceRent_buys_iff {leaseId : LeaseId} {payer : Address}
    {paymentAmount : I128} {result : Unit}
    (run : Commits (payLeaseInstanceRent env leaseId payer paymentAmount) world result after) :
    (∃ price, world.buyout (.payLeaseInstanceRent leaseId payer paymentAmount) =
        some (.leaseInstance leaseId, price)) ↔
      after.Closed (.leaseInstance leaseId) := by
  rw [World.Closed, ← payLeaseInstanceRent_removes_iff run, World.boughtOutBy, Option.any_eq_true]
  simp only [buyout_payLeaseInstanceRent_iff, LeaseInstance.paid_boughtOut_iff, and_true]
  exact exists_comm.trans (exists_congr fun lease => exists_and_left)

/-! ### What a payment brings in -/

theorem payLeaseInstanceRent_payments {leaseId : LeaseId} {payer : Address}
    {paymentAmount : I128} {result : Unit}
    (run : Commits (payLeaseInstanceRent env leaseId payer paymentAmount) world result after) :
    ∃ lease, world.leases.lookup leaseId = some lease ∧ env.authorised payer = true ∧
      after.outbox.payments =
        ⟨lease.paymentToken, payer, env.currentContractAddress, paymentAmount⟩ ::
          world.outbox.payments := by
  obtain ⟨lease, settled, found, _, collected, closing⟩ := payLeaseInstanceRent_steps run
  simp only [payLeaseInstanceRent, commits_bind, commits_requireAuth] at run
  obtain ⟨_, _, ⟨authorised, _⟩, _⟩ := run
  simp only [collectRent, transfer, commits_bind, commits_demand, commits_modify] at collected
  obtain ⟨_, _, ⟨_, start, ⟨_, same⟩, rfl⟩, _, w2, credited, _, w3, partially, executed⟩ := collected
  have kept : after.outbox.payments =
      ⟨lease.paymentToken, payer, env.currentContractAddress, paymentAmount⟩ ::
        start.outbox.payments :=
    (part_kept .payments closing (by simp)).trans
      ((part_kept .payments executed (by simp)).trans
        ((part_kept .payments partially (by simp)).trans (part_kept .payments credited (by simp))))
  rw [same] at kept
  exact ⟨lease, found, authorised, kept⟩

theorem receives_payLeaseInstanceRent {leaseId : LeaseId} {payer : Address}
    {paymentAmount : I128}
    (run : Commits (dispatch env (.payLeaseInstanceRent leaseId payer paymentAmount)) world ()
      after) :
    Call.receives env world (.leaseInstance leaseId)
      (.payLeaseInstanceRent leaseId payer paymentAmount) = paymentAmount := by
  obtain ⟨lease, found, authorised, paid⟩ := payLeaseInstanceRent_payments run
  have same : (dispatch env (.payLeaseInstanceRent leaseId payer paymentAmount)).attempt world =
      after := attempt_of_commits run
  simp [Call.receives, World.leaseRecord, found, same, Outbox.received, paid,
    LeaseRecord.admission, LeaseInstance.admission, authorised]

theorem receives_payRent {leaseId : Symbol} {paymentAmount : I128} {key : LeaseKey}
    (run : Commits (dispatch env (.payRent leaseId paymentAmount)) world () after) :
    Call.receives env world key (.payRent leaseId paymentAmount) = 0 := by
  have same : (dispatch env (.payRent leaseId paymentAmount)).attempt world = after :=
    attempt_of_commits run
  have kept : after.outbox.payments = world.outbox.payments :=
    @dispatch_kept _ _ _ _ .payments run (by simp)
  unfold Call.receives
  cases world.leaseRecord key with
  | none => rfl
  | some record => simp [same, Outbox.received, kept]

/-! ## The invariant -/

/-- Nothing is counted on a lease instance beyond what was received for it, no rent is withheld
from one, and nothing was received for a symbol-keyed lease. -/
structure CountsBacked (world : World) (book : LeaseKey → I128) : Prop where
  counted : ∀ leaseId lease, world.leases.lookup leaseId = some lease →
    lease.cumulativePayments ≤ book (.leaseInstance leaseId)
  withheld : ∀ leaseId lease, world.leases.lookup leaseId = some lease → lease.withheldRent ≤ 0
  nothing : ∀ leaseId, book (.lease leaseId) = 0

theorem bookPurchase_of_created {key : LeaseKey} (creates : call.createdKey env = some key) :
    bookPurchase env world call book = Function.update book key 0 := by
  rw [bookPurchase, creates]

theorem bookPurchase_of_paid {key : LeaseKey} (pays : call.paidKey = some key) :
    bookPurchase env world call book =
      Function.update book key (book key + call.receives env world key) := by
  cases call with
  | payRent | payLeaseInstanceRent =>
      cases pays
      rfl
  | _ => cases pays

theorem bookPurchase_of_silent (creates : call.createdKey env = none)
    (pays : call.paidKey = none) : bookPurchase env world call book = book := by
  rw [bookPurchase, creates, pays]

theorem Call.createdKey_of_creates {leaseId : LeaseId} (creates : call.creates env = some leaseId) :
    call.createdKey env = some (.leaseInstance leaseId) := by
  cases call with
  | createLeaseInstance | createLeaseWithContinuousBilling =>
      cases creates
      rfl
  | _ => cases creates

theorem Call.creates_of_createdKey {leaseId : LeaseId}
    (creates : call.createdKey env = some (.leaseInstance leaseId)) :
    call.creates env = some leaseId := by
  cases call with
  | createLeaseInstance | createLeaseWithContinuousBilling =>
      cases creates
      rfl
  | _ => cases creates

theorem bookPurchase_of_aside {key : LeaseKey} (creates : call.createdKey env ≠ some key)
    (pays : call.paidKey ≠ some key) : bookPurchase env world call book key = book key := by
  cases created : call.createdKey env with
  | some other =>
      rw [bookPurchase_of_created created]
      exact Function.update_of_ne (fun same => creates (created.trans (congrArg some same.symm))) ..
  | none =>
      cases paid : call.paidKey with
      | some other =>
          rw [bookPurchase_of_paid paid]
          exact Function.update_of_ne (fun same => pays (paid.trans (congrArg some same.symm))) ..
      | none => rw [bookPurchase_of_silent created paid]

theorem CountsBacked.recounted {leaseId : LeaseId} {lease : LeaseInstance}
    (backed : CountsBacked world book) (run : Commits (dispatch env call) world () after)
    (keeps : call.createdKey env ≠ some (.leaseInstance leaseId))
    (found : world.leases.lookup leaseId = some lease) :
    call.recount leaseId lease ≤ bookPurchase env world call book (.leaseInstance leaseId) := by
  have counted := backed.counted leaseId lease found
  cases call with
  | payLeaseInstanceRent paid payer paymentAmount =>
      by_cases same : paid = leaseId
      · subst same
        rw [bookPurchase_of_paid rfl, Function.update_self, receives_payLeaseInstanceRent run,
          Call.recount, if_pos rfl]
        exact Int.add_le_add_right counted paymentAmount
      · rw [bookPurchase_of_aside keeps (by simpa [Call.paidKey] using same), Call.recount,
          if_neg same]
        exact counted
  | verifyRepair repaired inspector =>
      rw [bookPurchase_of_aside keeps (Option.some_ne_none _).symm, Call.recount]
      split
      · have withheld := backed.withheld leaseId lease found
        exact (Int.add_le_add_left withheld _).trans ((Int.add_zero _).le.trans counted)
      · exact counted
  | _ =>
      rw [bookPurchase_of_aside keeps (by simp [Call.paidKey])]
      exact counted

theorem CountsBacked.kept (backed : CountsBacked world book)
    (run : Commits (dispatch env call) world () after) :
    CountsBacked after (bookPurchase env world call book) := by
  have opened {leaseId : LeaseId} {next : LeaseInstance}
      (creates : call.creates env = some leaseId)
      (stored : after.leases.lookup leaseId = some next) :
      next.cumulativePayments = 0 ∧ next.withheldRent = 0 := by
    obtain ⟨lease, opening, moved⟩ := (dispatch_effect run).movement.opening creates
    rw [moved.lookup_self] at stored
    obtain rfl := Option.some.inj stored
    cases opening <;> exact ⟨rfl, rfl⟩
  refine ⟨fun leaseId next stored => ?_, fun leaseId next stored => ?_, fun leaseId => ?_⟩
  · by_cases creates : call.creates env = some leaseId
    · rw [(opened creates stored).1,
        bookPurchase_of_created (Call.createdKey_of_creates creates), Function.update_self]
    · obtain ⟨lease, found⟩ := dispatch_appears run stored creates
      rw [dispatch_recounts run creates found stored]
      exact backed.recounted run (fun key => creates (Call.creates_of_createdKey key)) found
  · by_cases creates : call.creates env = some leaseId
    · exact (opened creates stored).2.le
    · obtain ⟨lease, found⟩ := dispatch_appears run stored creates
      have withheld := backed.withheld leaseId lease found
      have books := congrArg RentBooks.withheldRent (dispatch_rebooks run creates found stored).2
      change next.withheldRent = _ at books
      rw [books]
      cases call with
      | verifyRepair | payLeaseInstanceRent | withdrawRent =>
          simp only [Call.rebook]
          split <;> first | exact le_rfl | exact withheld
      | _ => exact withheld
  · cases created : call.createdKey env with
    | some key =>
        rw [bookPurchase_of_created created, Function.update_apply]
        split
        · rfl
        · exact backed.nothing leaseId
    | none =>
        cases call with
        | payRent other paymentAmount =>
            rw [bookPurchase_of_paid rfl, Function.update_apply, receives_payRent run]
            split <;> simp [backed.nothing]
        | _ =>
            rw [bookPurchase_of_aside (by simp [created]) (by simp [Call.paidKey])]
            exact backed.nothing leaseId

/-- The purchase of an instance is paid for; that of a symbol-keyed lease is when it costs
nothing. -/
theorem CountsBacked.price_le_iff {key : LeaseKey} {price : I128} (backed : CountsBacked world book)
    (run : Commits (dispatch env call) world () after)
    (bought : world.buyout call = some (key, price)) :
    price ≤ bookPurchase env world call book key ↔ ¬ call.BuysForNothing world := by
  cases call with
  | payRent leaseId paymentAmount =>
      obtain ⟨_, _, _, _, rfl⟩ := buyout_payRent_iff.mp bought
      rw [bookPurchase_of_paid rfl, Function.update_self, receives_payRent run, backed.nothing]
      simp [Call.BuysForNothing, bought]
  | payLeaseInstanceRent leaseId payer paymentAmount =>
      obtain ⟨lease, found, _, reached, rfl⟩ := buyout_payLeaseInstanceRent_iff.mp bought
      have counted := backed.counted leaseId lease found
      refine iff_of_true ?_ ?_
      · rw [bookPurchase_of_paid rfl, Function.update_self, receives_payLeaseInstanceRent run]
        exact reached.trans (Int.add_le_add_right counted paymentAmount)
      · rintro ⟨other, _, symbol, _⟩
        cases bought.symm.trans symbol
  | _ => cases bought

end Buyout

/-- Nothing has been counted on a stored lease instance yet. -/
structure World.Uncounted (world : World) : Prop where
  counted : ∀ leaseId lease, world.leases.lookup leaseId = some lease → lease.cumulativePayments ≤ 0
  withheld : ∀ leaseId lease, world.leases.lookup leaseId = some lease → lease.withheldRent ≤ 0

theorem World.genesis_uncounted (config : ConfigStore) (billing : BillingStore)
    (securityCouncil : Option SecurityCouncil) :
    (World.genesis config billing securityCouncil).Uncounted :=
  ⟨fun _ _ found => (by cases found), fun _ _ found => (by cases found)⟩

/-- From a store on which nothing is counted, every buyout of a run is paid for exactly when no
payment that moves no token buys out a lease that has a price. -/
theorem buyouts_paid_iff (calls : List Invocation) {world : World} (uncounted : world.Uncounted) :
    Run.MeetsAlong (bookedStep bookPurchase) Invocation.BuysPaid calls (world, fun _ => 0) ↔
      Run.MeetsAlong step (fun invocation world => invocation.Committed world →
        ¬ invocation.call.BuysForNothing world) calls world := by
  have kept (invocation : Invocation) (state : World × (LeaseKey → I128))
      (backed : CountsBacked state.1 state.2) :
      CountsBacked (bookedStep bookPurchase invocation state).1
        (bookedStep bookPurchase invocation state).2 := by
    change CountsBacked (step invocation state.1) (invocation.enter bookPurchase state.1 state.2)
    by_cases committed : invocation.Committed state.1
    · rw [enter_of_committed committed]
      exact backed.kept committed.commits
    · rw [enter_of_refused committed, step_of_not_committed committed]
      exact backed
  have agree (invocation : Invocation) (state : World × (LeaseKey → I128))
      (backed : CountsBacked state.1 state.2) :
      invocation.BuysPaid state ↔
        (invocation.Committed state.1 → ¬ invocation.call.BuysForNothing state.1) := by
    unfold Invocation.BuysPaid
    refine imp_congr_right fun committed => ?_
    rw [show (bookedStep bookPurchase invocation state).2 = _ from enter_of_committed committed]
    constructor
    · rintro paid ⟨leaseId, price, bought, costs⟩
      exact (backed.price_le_iff committed.commits bought).mp (paid _ price bought)
        ⟨leaseId, price, bought, costs⟩
    · intro priced key price bought
      exact (backed.price_le_iff committed.commits bought).mpr priced
  refine (Run.meetsAlong_congr kept agree ?_).trans (@Run.meetsAlong_annotate _ _ step _ _
    (fun invocation world => invocation.Committed world →
      ¬ invocation.call.BuysForNothing world) calls (world, fun _ => 0))
  exact ⟨uncounted.counted, uncounted.withheld, fun _ => rfl⟩

/-- Landlord 1 proposes a lease to tenant 2 and names a price of 100 for it, which the tenant
pays. -/
def paidBuyout : List Invocation :=
  [propose 50 7 200 50, callAt 60 (.setLeaseInstanceBuyoutPrice 7 ⟨1⟩ 100),
    callAt 70 (.payLeaseInstanceRent 7 ⟨2⟩ 100)]

theorem paidBuyout_paid :
    Run.MeetsAlong (bookedStep bookPurchase) Invocation.BuysPaid paidBuyout
      (freshWorld, fun _ => 0) := by
  apply (buyouts_paid_iff paidBuyout (World.genesis_uncounted _ _ _)).mpr
  refine ⟨fun _ bought => ?_, fun _ bought => ?_, fun _ bought => ?_, trivial⟩
  all_goals
    obtain ⟨_, _, priced, _⟩ := bought
    cases buyout_paidKey priced

/-- Landlord 1 registers a lease to tenant 2; then a stranger names a price of 100 for it and
pays it without a signature. -/
def unpaidBuyout : List Invocation :=
  [register 1 2, ⟨unsignedLedger 60, .setBuyoutPrice "lease" ⟨1⟩ 100⟩,
    ⟨unsignedLedger 70, .payRent "lease" 100⟩]

/-- A store with a lease of landlord 1 to tenant 2 that holds NFT 9 and has its price set. -/
def furnishedWorld : World :=
  { freshWorld with symbols := { freshWorld.symbols with
      lease := Function.update freshWorld.symbols.lease "lease"
        (some { pendingLease ⟨1⟩ ⟨2⟩ 0 50 0 "" ⟨3⟩ with
          nftContract := some ⟨8⟩, tokenId := some 9, buyoutPrice := some 100 }) } }

/-- The payments close the leases, one of them gives its NFT away, and no token was received. -/
theorem unpaidBuyout_not_paid :
    ¬ Run.MeetsAlong (bookedStep bookPurchase) Invocation.BuysPaid unpaidBuyout
        (freshWorld, fun _ => 0) ∧
      ¬ Run.MeetsAlong (bookedStep bookPurchase) Invocation.BuysPaid
        [⟨unsignedLedger 70, .payRent "lease" 100⟩] (furnishedWorld, fun _ => 0) ∧
      (step ⟨unsignedLedger 70, .payRent "lease" 100⟩ furnishedWorld).outbox.nftTransfers =
        [⟨⟨8⟩, ⟨2⟩, 9⟩] ∧
      (step ⟨unsignedLedger 70, .payRent "lease" 100⟩ furnishedWorld).outbox.payments = [] := by
  refine ⟨?_, ?_, rfl, rfl⟩
  · rintro ⟨_, _, paid, _⟩
    have price := paid (show _ = true by decide) (.lease "lease") 100 rfl
    revert price
    decide
  · rintro ⟨paid, _⟩
    have price := paid (show _ = true by decide) (.lease "lease") 100 rfl
    revert price
    decide

end LeaseFlow
