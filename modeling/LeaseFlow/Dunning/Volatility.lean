import LeaseFlow.Dunning.Growth

/-!
# The volatility check between billings

A fiat-pegged billing records the oracle's price with the oracle's own timestamp, and the next
billing compares its price with it while that timestamp is at most an hour old.
-/

set_option autoImplicit false

namespace LeaseFlow.Dunning

open Transaction Run

/-! ## Recorded prices -/

/-- The lease records the price under the oracle's timestamp. -/
structure Lease.Records (price : I128) (timestamp : U64) (lease : Lease) : Prop where
  price : lease.lastOraclePrice = some price
  timestamp : lease.lastOracleTimestamp = some timestamp

/-- The call is a fiat-pegged billing of the lease that goes through. -/
def Call.Bills (leaseId : U64) (call : Call) (store : Store) : Prop :=
  call.operation = .processFiatPeggedRentPayment leaseId ∧ call.body.succeeds store = true

/-- The call neither bills the lease nor wipes it. -/
def Call.SparesLease (leaseId : U64) (call : Call) (store : Store) : Prop :=
  ¬ call.Bills leaseId store ∧ ∀ oracleAddress, call.operation ≠ .initializeContract oracleAddress

/-- Two successful billings of a lease with no other one between them. -/
structure Consecutive (leaseId : U64) (earlier : List Call) (first : Call) (between : List Call)
    (second : Call) : Prop where
  opens : first.Bills leaseId (run step earlier newContract)
  spares : MeetsAlong step (Call.SparesLease leaseId) between
    (run step (earlier ++ [first]) newContract)
  closes : second.Bills leaseId (run step (earlier ++ first :: between) newContract)

section Prices

variable {env : Env} {operation : Operation} {leaseId : U64} {prior lease : Lease} {price : I128}
  {timestamp : U64}

/-- Only a billing of the lease changes the recorded price. -/
theorem LeaseStep.records (change : LeaseStep env operation leaseId prior lease)
    (other : operation ≠ .processFiatPeggedRentPayment leaseId)
    (records : prior.Records price timestamp) : lease.Records price timestamp := by
  cases change with
  | activated pending => exact ⟨records.price, records.timestamp⟩
  | paid active enough => exact ⟨records.price, records.timestamp⟩
  | recovered late => exact ⟨records.price, records.timestamp⟩
  | enteredGracePeriod active lateFee => exact ⟨records.price, records.timestamp⟩
  | evicted asked late dunning expired => exact ⟨records.price, records.timestamp⟩
  | deducted evicted => exact ⟨records.price, records.timestamp⟩
  | billed active => exact absurd rfl other
  | closed active => exact ⟨records.price, records.timestamp⟩

/-- The lease under the id records the price. -/
def RecordsAt (leaseId : U64) (price : I128) (timestamp : U64) (store : Store) : Prop :=
  ∃ lease, leaseAt leaseId store.data = some lease ∧ lease.Records price timestamp

theorem RecordsAt.step {call : Call} {store : Store} (reached : Reaches step newContract store)
    (spares : call.SparesLease leaseId store) (recorded : RecordsAt leaseId price timestamp store) :
    RecordsAt leaseId price timestamp (step call store) := by
  obtain ⟨prior, found, records⟩ := recorded
  have kept : ∃ lease, leaseAt leaseId (Dunning.step call store).data = some lease := by
    have grown := (grown_iff reached call).mpr fun resets => by
      obtain ⟨⟨oracleAddress, initialises⟩, _⟩ := resets
      exact spares.2 oracleAddress initialises
    obtain ⟨data, stored, leased⟩ := Option.bind_eq_some_iff.mp found
    obtain ⟨later, saved, grows⟩ := grown data stored
    have remains := grows.leases leaseId (by rw [leased]; rfl)
    rw [saved]
    exact Option.isSome_iff_exists.mp remains
  obtain ⟨lease, stored⟩ := kept
  refine ⟨lease, stored, ?_⟩
  by_cases accepted : call.body.succeeds store = true
  · obtain ⟨calls, rfl⟩ := reached
    cases step_traced (run_issued calls) stored with
    | new absent new => cases absent.symm.trans found
    | same same =>
        cases found.symm.trans same
        exact records
    | changed same change =>
        cases found.symm.trans same
        exact change.records (fun bills => spares.1 ⟨bills, accepted⟩) records
  · rw [Dunning.step, attempt_of_not_succeeds (Bool.eq_false_iff.mpr accepted)] at stored
    cases found.symm.trans stored
    exact records

theorem RecordsAt.run {calls : List Call} {store : Store}
    (reached : Reaches Dunning.step newContract store)
    (spared : MeetsAlong Dunning.step (Call.SparesLease leaseId) calls store)
    (recorded : RecordsAt leaseId price timestamp store) :
    RecordsAt leaseId price timestamp (Run.run Dunning.step calls store) := by
  have both : Reaches Dunning.step newContract (Run.run Dunning.step calls store) ∧
      RecordsAt leaseId price timestamp (Run.run Dunning.step calls store) :=
    @invariant_along _ _ Dunning.step (Call.SparesLease leaseId)
      (fun store => Reaches Dunning.step newContract store ∧
        RecordsAt leaseId price timestamp store)
      (fun call store spares inv => ⟨inv.1.next call, inv.2.step inv.1 spares⟩) _ _ spared
      ⟨reached, recorded⟩
  exact both.2

end Prices

/-! ## Billings -/

theorem Call.Bills.effect {leaseId : U64} {call : Call} {store : Store}
    (bills : call.Bills leaseId store) :
    ∃ prior lease config price, leaseAt leaseId store.data = some prior ∧
      leaseAt leaseId (step call store).data = some lease ∧
      lease.Records price.price price.timestamp ∧ prior.fiatPegConfig = some config ∧
      lease.fiatPegConfig = some config ∧ Quote call.env 1 prior config price := by
  have effect := call_effect (commits_attempt bills.2)
  rw [bills.1] at effect
  change Effect call.env _ store.data (step call store).data at effect
  generalize store.data = before at effect
  generalize (step call store).data = after at effect
  cases effect with
  | @billed data _ prior config _ recorded _ _ found active pegged enabled first bill second total =>
      exact ⟨prior, _, config, recorded, found, Table.lookup_set_self _ _ _, ⟨rfl, rfl⟩, pegged,
        pegged, second⟩
  | evicted asked => cases asked
  | idle asked => cases asked

theorem priceChange_eq {last price change : I128} (changed : priceChange last price = some change) :
    change = (|price - last| * 10000).tdiv last := by
  unfold priceChange at changed
  split at changed
  · next rises =>
      obtain ⟨difference, subtracted, changed⟩ := Option.bind_eq_some_iff.mp changed
      obtain ⟨scaled, multiplied, changed⟩ := Option.bind_eq_some_iff.mp changed
      obtain ⟨_, rfl⟩ := Checked.within_eq_some.mp subtracted
      obtain ⟨_, rfl⟩ := Checked.within_eq_some.mp multiplied
      rw [abs_of_pos (sub_pos.mpr rises)]
      exact (Option.some.inj changed).symm
  · next falls =>
      obtain ⟨difference, subtracted, changed⟩ := Option.bind_eq_some_iff.mp changed
      obtain ⟨scaled, multiplied, changed⟩ := Option.bind_eq_some_iff.mp changed
      obtain ⟨_, rfl⟩ := Checked.within_eq_some.mp subtracted
      obtain ⟨_, rfl⟩ := Checked.within_eq_some.mp multiplied
      rw [abs_sub_comm, abs_of_nonneg (sub_nonneg.mpr (not_lt.mp falls))]
      exact (Option.some.inj changed).symm

/-- A quote within an hour of the recorded timestamp is close to the recorded price. -/
theorem Quote.close {env : Env} {query : Nat} {prior : Lease} {config : FiatPegConfig}
    {price : PriceData} {last : I128} {timestamp : U64} (quote : Quote env query prior config price)
    (records : prior.Records last timestamp) (positive : 0 < last)
    (recent : env.timestamp ≤ timestamp + 3600) :
    |price.price - last| * 10000 / last ≤ config.volatilityThreshold := by
  have compared : volatilityChecked env prior = some last := by
    have within : env.timestamp - timestamp ≤ 3600 := Nat.sub_le_iff_le_add'.mpr recent
    rw [volatilityChecked, records.price, records.timestamp]
    exact if_pos ⟨within, positive⟩
  obtain ⟨change, changed, bounded⟩ := quote.stable last compared
  have nonneg : 0 ≤ |price.price - last| * 10000 := by positivity
  rw [← Int.tdiv_eq_ediv_of_nonneg nonneg, ← priceChange_eq changed]
  exact bounded

/-- Where the second of two consecutive billings comes within an hour of the oracle timestamp
the first one recorded, their prices differ by at most the lease's threshold. -/
theorem consecutive_billings_stable {leaseId : U64} {earlier : List Call} {first : Call}
    {between : List Call} {second : Call}
    (billings : Consecutive leaseId earlier first between second) :
    ∃ lease config price timestamp later,
      RecordsAt leaseId price timestamp (run step (earlier ++ [first]) newContract) ∧
      leaseAt leaseId (run step (earlier ++ first :: between ++ [second]) newContract).data =
        some lease ∧
      lease.lastOraclePrice = some later ∧ lease.fiatPegConfig = some config ∧
      (0 < price → second.env.timestamp ≤ timestamp + 3600 →
        |later - price| * 10000 / price ≤ config.volatilityThreshold) := by
  obtain ⟨_, billed, _, price, _, stored, records, _⟩ := billings.opens.effect
  obtain ⟨prior, lease, config, later, found, saved, recorded, pegged, kept, quote⟩ :=
    billings.closes.effect
  have start : RecordsAt leaseId price.price price.timestamp
      (run step (earlier ++ [first]) newContract) := by
    rw [run_append]
    exact ⟨billed, stored, records⟩
  have split : run step (earlier ++ first :: between) newContract =
      run step between (run step (earlier ++ [first]) newContract) := by
    rw [← run_append, List.append_assoc, List.singleton_append]
  have finish := start.run ⟨earlier ++ [first], rfl⟩ billings.spares
  rw [← split] at finish
  obtain ⟨same, present, last⟩ := finish
  cases found.symm.trans present
  refine ⟨lease, config, price.price, price.timestamp, later.price, start, ?_, recorded.price, kept,
    fun positive recent => quote.close last positive recent⟩
  rw [run_append]
  exact saved

/-! ## Two billings on fixed prices -/

def twentyPercentPeg : FiatPegConfig := ⟨true, 100, ⟨5⟩, ⟨9⟩, 900, 2000⟩

/-- A pegged lease is created and activated. -/
def peggedLease : List Call :=
  [.initializeContract ⟨9⟩,
    .createLease ⟨1⟩ ⟨2⟩ 1000 2000 5 9000 10 500 [] (some twentyPercentPeg),
    .activateLease 1 ⟨2⟩].map (⟨⟨0, fun _ _ _ => .panicked⟩, ·⟩)

def billing (timestamp : U64) (price : PriceData) : Call :=
  ⟨⟨timestamp, fun _ _ _ => .priceData price⟩, .processFiatPeggedRentPayment 1⟩

/-- Half an hour after a fresh quote a price ten percent up is billed. -/
theorem fresh_quote_billings_stable :
    ∃ lease config price timestamp later,
      RecordsAt 1 price timestamp
        (run step (peggedLease ++ [billing 1000 ⟨100000000, 1000, 7⟩]) newContract) ∧
      leaseAt 1 (run step (peggedLease ++ billing 1000 ⟨100000000, 1000, 7⟩ :: [] ++
        [billing 2800 ⟨110000000, 2800, 7⟩]) newContract).data = some lease ∧
      lease.lastOraclePrice = some later ∧ lease.fiatPegConfig = some config ∧
      (0 < price → 2800 ≤ timestamp + 3600 →
        |later - price| * 10000 / price ≤ config.volatilityThreshold) := by
  have first : (billing 1000 ⟨100000000, 1000, 7⟩).Bills 1 (run step peggedLease newContract) :=
    ⟨rfl, by decide⟩
  have second : (billing 2800 ⟨110000000, 2800, 7⟩).Bills 1
      (run step (peggedLease ++ [billing 1000 ⟨100000000, 1000, 7⟩]) newContract) :=
    ⟨rfl, by decide⟩
  exact consecutive_billings_stable ⟨first, trivial, second⟩

/-- Fifty minutes after a quote that was fifteen minutes old a price nine times up is billed. -/
theorem old_quote_admits_jump :
    ∃ lease,
      Consecutive 1 peggedLease (billing 1000 ⟨100000000, 100, 7⟩) []
        (billing 4000 ⟨900000000, 4000, 7⟩) ∧
      4000 ≤ 1000 + 3600 ∧
      RecordsAt 1 100000000 100
        (run step (peggedLease ++ [billing 1000 ⟨100000000, 100, 7⟩]) newContract) ∧
      leaseAt 1 (run step (peggedLease ++ billing 1000 ⟨100000000, 100, 7⟩ :: [] ++
        [billing 4000 ⟨900000000, 4000, 7⟩]) newContract).data = some lease ∧
      lease.lastOraclePrice = some 900000000 ∧ lease.fiatPegConfig = some twentyPercentPeg ∧
      ¬ |(900000000 : Int) - 100000000| * 10000 / 100000000 ≤
        twentyPercentPeg.volatilityThreshold := by
  have first : (billing 1000 ⟨100000000, 100, 7⟩).Bills 1 (run step peggedLease newContract) :=
    ⟨rfl, by decide⟩
  have second : (billing 4000 ⟨900000000, 4000, 7⟩).Bills 1
      (run step (peggedLease ++ [billing 1000 ⟨100000000, 100, 7⟩]) newContract) :=
    ⟨rfl, by decide⟩
  have recorded : (leaseAt 1 (run step (peggedLease ++ [billing 1000 ⟨100000000, 100, 7⟩])
      newContract).data).map (fun lease => (lease.lastOraclePrice, lease.lastOracleTimestamp)) =
      some (some 100000000, some 100) := by decide
  obtain ⟨billed, stored, facts⟩ := Option.map_eq_some_iff.mp recorded
  obtain ⟨price, timestamp⟩ := Prod.mk.inj facts
  have final : (leaseAt 1 (run step (peggedLease ++ billing 1000 ⟨100000000, 100, 7⟩ :: [] ++
      [billing 4000 ⟨900000000, 4000, 7⟩]) newContract).data).map
      (fun lease => (lease.lastOraclePrice, lease.fiatPegConfig)) =
      some (some 900000000, some twentyPercentPeg) := by decide
  obtain ⟨lease, saved, facts⟩ := Option.map_eq_some_iff.mp final
  obtain ⟨later, pegged⟩ := Prod.mk.inj facts
  exact ⟨lease, ⟨first, trivial, second⟩, by decide, ⟨billed, stored, price, timestamp⟩, saved,
    later, pegged, by decide⟩

end LeaseFlow.Dunning
