import LeaseFlow.Calendar.TerminationRefund
import LeaseFlow.Dunning.Volatility

/-!
# Bills at the oracle's price

A fiat-pegged billing asks the oracle twice: the first answer gives the amount, the second is
recorded.  The quotient is checked against the upper end of `i64` only before it is narrowed.
-/

set_option autoImplicit false

namespace LeaseFlow.Dunning

open Transaction Run Table

/-- The bill follows the price: the lease pays the pegged amount at it, rounded down, and the
record of the lease and the event show the same price. -/
def FollowsPrice (env : Env) (leaseId : U64) (lease : Lease) (config : FiatPegConfig)
    (price : PriceData) (store after : Store) : Prop :=
  0 < price.price ∧ ∃ (amount : Int) (later : Lease), 0 < amount ∧
    amount = config.targetUsdAmount * 10 ^ price.decimals / price.price ∧
    leaseAt leaseId after.data = some later ∧ later.lastOraclePrice = some price.price ∧
    later.totalPaidRent = lease.totalPaidRent + amount ∧
    after.events = .fiatPeggedRentBilled leaseId config.targetUsdAmount price.price amount
      env.timestamp config.assetAddress :: store.events

/-! ## Pegs of stored leases -/

theorem LeaseStep.fiatPegConfig {env : Env} {operation : Operation} {leaseId : U64}
    {prior lease : Lease} (change : LeaseStep env operation leaseId prior lease) :
    lease.fiatPegConfig = prior.fiatPegConfig := by
  cases change <;> rfl

/-- Every peg was valid at the creation of its lease and has not changed. -/
theorem reached_fiatPegValid {store : Store} (reached : Reaches step newContract store) :
    ∀ leaseId lease, leaseAt leaseId store.data = some lease → fiatPegValid lease.fiatPegConfig := by
  have both := @Reaches.invariant _ _ step
    (fun store => Reaches step newContract store ∧ ∀ leaseId lease,
      leaseAt leaseId store.data = some lease → fiatPegValid lease.fiatPegConfig)
    newContract store reached
  refine (both (fun call store inv => ⟨inv.1.next call, fun leaseId lease stored => ?_⟩)
    ⟨reaches_refl newContract, fun leaseId lease found => ?_⟩).2
  · obtain ⟨calls, same⟩ := inv.1
    have issued := run_issued calls
    rw [same] at issued
    cases step_traced issued stored with
    | new absent new => exact new.fiatPeg
    | same found => exact inv.2 leaseId lease found
    | changed found change =>
        rw [change.fiatPegConfig]
        exact inv.2 leaseId _ found
  · simp [leaseAt, newContract] at found

/-! ## Amounts -/

theorem Bill.amount_eq {config : FiatPegConfig} {price : PriceData} {amount : Int}
    (bill : Bill config price amount) (target_nonneg : 0 ≤ config.targetUsdAmount)
    (price_pos : 0 < price.price) :
    amount = config.targetUsdAmount * 10 ^ price.decimals / price.price := by
  obtain ⟨crypto, converted, within, rfl⟩ := bill.converted
  have scaled_nonneg : 0 ≤ config.targetUsdAmount * 10 ^ price.decimals :=
    mul_nonneg target_nonneg (pow_nonneg (by decide) _)
  unfold cryptoAmount at converted
  obtain ⟨factor, powered, scaling⟩ := Option.bind_eq_some_iff.mp converted
  obtain ⟨scaled, multiplied, dividing⟩ := Option.bind_eq_some_iff.mp scaling
  obtain ⟨_, rfl⟩ := Checked.within_eq_some.mp powered
  obtain ⟨_, rfl⟩ := Checked.within_eq_some.mp multiplied
  rw [if_neg price_pos.ne'] at dividing
  obtain ⟨_, rfl⟩ := Checked.within_eq_some.mp dividing
  rw [Int.tdiv_eq_ediv_of_nonneg scaled_nonneg] at within ⊢
  exact (asI64_of_range (Int.ediv_nonneg scaled_nonneg price_pos.le) within).symm

/-! ## Billings -/

section Billings

variable {env : Env} {leaseId : U64} {store after : Store}

/-- What a billing that goes through has read, computed, recorded and published. -/
theorem processFiatPeggedRentPayment_bills
    (run : Commits (processFiatPeggedRentPayment env leaseId) store () after) :
    ∃ lease config billed recorded amount totalPaidRent,
      leaseAt leaseId store.data = some lease ∧ lease.fiatPegConfig = some config ∧
      Quote env 0 lease config billed ∧ Bill config billed amount ∧
      Quote env 1 lease config recorded ∧
      addI64 lease.totalPaidRent amount = some totalPaidRent ∧
      leaseAt leaseId after.data = some (lease.bill env.timestamp recorded totalPaidRent) ∧
      after.events = .fiatPeggedRentBilled leaseId config.targetUsdAmount recorded.price amount
        env.timestamp config.assetAddress :: store.events := by
  simp only [processFiatPeggedRentPayment, commits_bind, commits_load, commits_leaseOf,
    commits_ensure, commits_fetch, commits_compute, commits_publish, commits_save] at run
  obtain ⟨data, _, ⟨stored, rfl⟩, lease, _, ⟨found, rfl⟩, _, _, ⟨active, rfl⟩, config, _,
    ⟨pegged, rfl⟩, _, _, ⟨enabled, rfl⟩, amount, _, billed, recorded, _, quoted, totalPaidRent, _,
    ⟨total, rfl⟩, _, _, rfl, rfl⟩ := run
  obtain ⟨price, first, bill, rfl⟩ := calculateFiatPeggedRent_bill pegged enabled billed
  obtain ⟨second, rfl⟩ := getOraclePrice_quote pegged quoted
  refine ⟨lease, config, price, recorded, amount, totalPaidRent, ?_, pegged, first, bill, second,
    total, lookup_set_self _ _ _, rfl⟩
  rw [stored]
  exact found

/-- A billing that goes through follows the price of the first answer exactly when that price is
positive and the second answer gives the same. -/
theorem billing_follows_price_iff (calls : List Call)
    (billed : Commits (processFiatPeggedRentPayment env leaseId) (run step calls newContract) ()
      after) :
    ∃ lease config first second, leaseAt leaseId (run step calls newContract).data = some lease ∧
      lease.fiatPegConfig = some config ∧
      env.oracleReply 0 config.oracleAddress config.assetAddress = .priceData first ∧
      env.oracleReply 1 config.oracleAddress config.assetAddress = .priceData second ∧
      (FollowsPrice env leaseId lease config first (run step calls newContract) after ↔
        0 < first.price ∧ second.price = first.price) := by
  obtain ⟨lease, config, first, second, amount, totalPaidRent, found, pegged, quoted, bill, again,
    total, saved, published⟩ := processFiatPeggedRentPayment_bills billed
  refine ⟨lease, config, first, second, found, pegged, quoted.reply, again.reply, ?_⟩
  constructor
  · rintro ⟨price_pos, _, later, _, _, stored, recorded, _, _⟩
    rw [saved] at stored
    cases stored
    exact ⟨price_pos, Option.some.inj recorded⟩
  · rintro ⟨price_pos, same⟩
    have valid := reached_fiatPegValid ⟨calls, rfl⟩ leaseId lease found
    rw [pegged] at valid
    obtain ⟨_, rfl⟩ := Checked.within_eq_some.mp total
    refine ⟨price_pos, amount, _, bill.positive, bill.amount_eq valid.1.le price_pos, saved, ?_,
      rfl, ?_⟩
    · rw [← same]
      rfl
    · rw [published, same]

end Billings

/-! ## Bills of one lease -/

/-- The oracle answers the first query of a call with one price and later ones with another. -/
def answers (first second : PriceData) : Env :=
  ⟨1000, fun query _ _ => .priceData (if query = 0 then first else second)⟩

/-- One answer at a positive price. -/
theorem one_answer_followed : ∃ lease config after,
    Commits (processFiatPeggedRentPayment (answers ⟨100000000, 1000, 7⟩ ⟨100000000, 1000, 7⟩) 1)
      (run step peggedLease newContract) () after ∧
    FollowsPrice (answers ⟨100000000, 1000, 7⟩ ⟨100000000, 1000, 7⟩) 1 lease config
      ⟨100000000, 1000, 7⟩ (run step peggedLease newContract) after := by
  have goes : (processFiatPeggedRentPayment (answers ⟨100000000, 1000, 7⟩ ⟨100000000, 1000, 7⟩)
      1).succeeds (run step peggedLease newContract) = true := by decide
  obtain ⟨_, after, billed⟩ := succeeds_iff.mp goes
  obtain ⟨lease, config, first, second, _, _, reply, again, follows⟩ :=
    billing_follows_price_iff peggedLease billed
  cases reply
  cases again
  exact ⟨lease, config, after, billed, follows.mpr ⟨by decide, rfl⟩⟩

/-- A price of minus one narrows to a positive bill, and a second answer is recorded in place of
the one that was billed. -/
theorem answers_misbilled :
    (∃ after, Commits (processFiatPeggedRentPayment (answers ⟨-1, 1000, 17⟩ ⟨-1, 1000, 17⟩) 1)
        (run step peggedLease newContract) () after ∧
      ∀ lease, ¬ FollowsPrice (answers ⟨-1, 1000, 17⟩ ⟨-1, 1000, 17⟩) 1 lease twentyPercentPeg
        ⟨-1, 1000, 17⟩ (run step peggedLease newContract) after) ∧
    ∃ after, Commits (processFiatPeggedRentPayment
        (answers ⟨100000000, 1000, 7⟩ ⟨110000000, 1000, 7⟩) 1)
        (run step peggedLease newContract) () after ∧
      ∀ lease, ¬ FollowsPrice (answers ⟨100000000, 1000, 7⟩ ⟨110000000, 1000, 7⟩) 1 lease
        twentyPercentPeg ⟨100000000, 1000, 7⟩ (run step peggedLease newContract) after := by
  constructor
  · have goes : (processFiatPeggedRentPayment (answers ⟨-1, 1000, 17⟩ ⟨-1, 1000, 17⟩)
        1).succeeds (run step peggedLease newContract) = true := by decide
    obtain ⟨_, after, billed⟩ := succeeds_iff.mp goes
    exact ⟨after, billed, fun lease follows => absurd follows.1 (by decide)⟩
  · have goes : (processFiatPeggedRentPayment (answers ⟨100000000, 1000, 7⟩ ⟨110000000, 1000, 7⟩)
        1).succeeds (run step peggedLease newContract) = true := by decide
    obtain ⟨_, after, billed⟩ := succeeds_iff.mp goes
    obtain ⟨_, config, _, recorded, _, _, _, _, _, _, again, _, saved, _⟩ :=
      processFiatPeggedRentPayment_bills billed
    refine ⟨after, billed, fun lease follows => ?_⟩
    obtain ⟨_, _, later, _, _, stored, price, _, _⟩ := follows
    have reply := again.reply
    cases reply
    rw [saved] at stored
    cases stored
    cases price

end LeaseFlow.Dunning
