import LeaseFlow.Collateral.Topups

/-!
# What the health factor tells

The value of collateral at a price is scaled down by the distance of the price's decimals from
eight, on both sides of eight, and the ratio to the minimum is cut to 32 bits.  The factor tells the
truth for prices of at least eight decimals and ratios below `2 ^ 32`.
-/

set_option autoImplicit false

namespace LeaseFlow.Collateral

open Transaction

/-- The price with one more decimal digit. -/
def PriceData.finer (price : PriceData) : PriceData :=
  { price with price := price.price * 10, decimals := price.decimals + 1 }

/-- By how many digits a product with the price is scaled down. -/
def PriceData.places (price : PriceData) : Nat :=
  if 8 ≤ price.decimals then price.decimals - 8 else 8 - price.decimals

/-- The value of the amount in parts of ten thousand of the minimum. -/
def healthRatio (amount : I128) (price : PriceData) (minimum : I128) : Int :=
  amount * price.price / 10 ^ price.places * 10000 / minimum

/-- The lease that the call rates, and the price that it does it at. -/
def Call.rates (call : Call) (store : Store) : Option (U64 × PriceData) :=
  match call.operation with
  | .registerLeaseCollateral leaseId _ collateralToken _ _ =>
      some (leaseId, call.env.quote collateralToken)
  | .checkCollateralHealth leaseId =>
      (store.collateralHealth leaseId).map fun record =>
        (leaseId, call.env.quote record.collateralToken)
  | .fulfillMarginCall leaseId _ tokenAddress => some (leaseId, call.env.quote tokenAddress)
  | _ => none

/-- The call goes through and stores the record, rated at the price. -/
structure Call.Stores (call : Call) (store : Store) (price : PriceData)
    (record : CollateralHealth) : Prop where
  goes : call.Goes store
  rated : ∃ leaseId, call.rates store = some (leaseId, price) ∧
    (step call store).collateralHealth leaseId = some record

/-! ## Arithmetic -/

section Arithmetic

/-- A quotient and the one by a divisor a hundred times as large are within one unit where the
first is at most one. -/
theorem scaled_twice_iff {product scale : Int} (product_nonneg : 0 ≤ product)
    (scale_pos : 0 < scale) :
    |product * 10 / scale - product / (scale * 10)| ≤ 1 ↔ 50 * product < scale * 10 := by
  have coarse : product / (scale * 10) = product * 10 / scale / 100 := by
    have hundred : scale * 100 = scale * 10 * 10 := by omega
    rw [Int.ediv_ediv_of_nonneg scale_pos.le, hundred,
      Int.mul_ediv_mul_of_pos_left _ _ (by decide)]
  have fine_nonneg : 0 ≤ product * 10 / scale :=
    Int.ediv_nonneg (mul_nonneg product_nonneg (by decide)) scale_pos.le
  have small : product * 10 / scale < 2 ↔ 50 * product < scale * 10 := by
    rw [Int.ediv_lt_iff_lt_mul scale_pos]
    omega
  rw [coarse, ← small]
  generalize product * 10 / scale = fine at *
  rw [abs_le]
  omega

theorem ten_thousand_le_ratio_iff {value minimum : Int} (minimum_pos : 0 < minimum) :
    10000 ≤ value * 10000 / minimum ↔ minimum ≤ value := by
  rw [Int.le_ediv_iff_mul_le minimum_pos]
  omega

theorem asU32_cast (value : I128) : (asU32 value : Int) = value % 2 ^ 32 :=
  Int.toNat_of_nonneg (Int.emod_nonneg _ (by decide))

end Arithmetic

section Values

variable {amount fiat fine minimum : I128} {price : PriceData} {factor : U32}

theorem mulI128_eq_some {left right product : I128} (computed : mulI128 left right = some product) :
    product = left * right :=
  (Checked.within_eq_some.mp computed).2.symm

theorem divI128_eq_some {left right quotient : I128} (left_nonneg : 0 ≤ left)
    (computed : divI128 left right = some quotient) : quotient = left / right := by
  unfold divI128 at computed
  split at computed
  · cases computed
  · rw [← (Checked.within_eq_some.mp computed).2, Int.tdiv_eq_ediv_of_nonneg left_nonneg]

theorem fiatValue_eq_some (amount_nonneg : 0 ≤ amount) (price_pos : 0 < price.price)
    (valued : fiatValue amount price = some fiat) :
    fiat = amount * price.price / 10 ^ price.places := by
  simp only [fiatValue, Option.bind_eq_bind, Option.bind_eq_some_iff] at valued
  obtain ⟨product, multiplied, scale, scaled, divided⟩ := valued
  rw [mulI128_eq_some multiplied] at divided
  rw [← (Checked.within_eq_some.mp scaled).2] at divided
  exact divI128_eq_some (mul_nonneg amount_nonneg price_pos.le) divided

theorem fiatRatio_eq_some (fiat_nonneg : 0 ≤ fiat) (rated : fiatRatio fiat minimum = some factor) :
    (factor : Int) = fiat * 10000 / minimum % 2 ^ 32 := by
  simp only [fiatRatio, Option.bind_eq_bind, Option.bind_eq_some_iff, Option.some.injEq] at rated
  obtain ⟨scaled, multiplied, ratio, divided, rfl⟩ := rated
  rw [mulI128_eq_some multiplied] at divided
  rw [asU32_cast, divI128_eq_some (mul_nonneg fiat_nonneg (by decide)) divided]

theorem PriceData.places_finer_of_le (many : 8 ≤ price.decimals) :
    price.finer.places = price.places + 1 := by
  have more : 8 ≤ price.finer.decimals := many.trans (Nat.le_succ _)
  rw [places, places, if_pos more, if_pos many]
  exact Nat.sub_add_comm many

theorem PriceData.places_of_lt (few : price.decimals < 8) :
    price.places = price.finer.places + 1 := by
  rw [places, places, if_neg (not_le.mpr few)]
  by_cases eight : 8 ≤ price.finer.decimals
  · have seven : price.decimals = 7 :=
      le_antisymm (Nat.le_of_lt_succ few) (Nat.le_of_succ_le_succ eight)
    rw [if_pos eight, finer, seven]
    rfl
  · rw [if_neg eight]
    exact (Nat.sub_add_cancel (Nat.sub_pos_of_lt few)).symm

/-- One more decimal changes the value by at most a unit, for prices with at least eight of them
always, and with fewer where both values are next to nothing. -/
theorem fiatValue_finer_iff (amount_nonneg : 0 ≤ amount) (price_pos : 0 < price.price)
    (valued : fiatValue amount price = some fiat)
    (revalued : fiatValue amount price.finer = some fine) :
    |fine - fiat| ≤ 1 ↔
      8 ≤ price.decimals ∨ 50 * (amount * price.price) < 10 ^ (8 - price.decimals) := by
  have finer_pos : 0 < price.finer.price := mul_pos price_pos (by decide)
  have product_nonneg : 0 ≤ amount * price.price := mul_nonneg amount_nonneg price_pos.le
  rw [fiatValue_eq_some amount_nonneg price_pos valued,
    fiatValue_eq_some amount_nonneg finer_pos revalued]
  have product : amount * price.finer.price = amount * price.price * 10 := (mul_assoc ..).symm
  rw [product]
  generalize amount * price.price = total at *
  by_cases many : 8 ≤ price.decimals
  · have places : price.finer.places = price.places + 1 := PriceData.places_finer_of_le many
    rw [places, pow_succ, Int.mul_ediv_mul_of_pos_left _ _ (by decide), sub_self]
    exact iff_of_true (by decide) (.inl many)
  · have places : price.places = price.finer.places + 1 := PriceData.places_of_lt (not_le.mp many)
    have power : 8 - price.decimals = price.places := (if_neg many).symm
    rw [or_iff_right many, power, places, pow_succ]
    exact scaled_twice_iff product_nonneg (by positivity)

theorem healthRatio_mono {larger : I128} (le : amount ≤ larger) (price_pos : 0 < price.price)
    (minimum_pos : 0 < minimum) :
    healthRatio amount price minimum ≤ healthRatio larger price minimum := by
  have product := mul_le_mul_of_nonneg_right le price_pos.le
  have value := @Int.ediv_le_ediv _ _ (10 ^ price.places) (by positivity) product
  exact Int.ediv_le_ediv minimum_pos (mul_le_mul_of_nonneg_right value (by decide))

end Values

/-! ## What a call stores -/

section Calls

variable {call other : Call} {store otherStore : Store} {price : PriceData}
  {record larger : CollateralHealth}

theorem collateralHealth_of_written {env : Env} {leaseId : U64} {lessee : Address} {factor : U32}
    {written warned after : Store}
    (ending : (criticalHealthThreshold ≤ factor ∧ after = written) ∨
      (factor < criticalHealthThreshold ∧
        Commits (triggerMarginCall env leaseId lessee) warned () after))
    (same : warned.collateralHealth = written.collateralHealth) :
    after.collateralHealth = written.collateralHealth := by
  rcases ending with ⟨_, rfl⟩ | ⟨_, issues⟩
  · rfl
  · obtain ⟨_, _, _, _, rfl⟩ := (commits_triggerMarginCall _).mp issues
    exact same

theorem Store.putHealth_self (leaseId : U64) (store : Store) :
    (store.putHealth leaseId record).collateralHealth leaseId = some record :=
  Function.update_self ..

theorem ratedFactor_of_pos {fiat minimum : I128} (minimum_pos : 0 < minimum) :
    ratedFactor fiat minimum = fiatRatio fiat minimum :=
  if_pos minimum_pos

theorem Call.Stores.computed (stores : call.Stores store price record)
    (minimum_pos : 0 < record.minimumFiatCollateral) :
    fiatValue record.collateralAmount price = some record.currentFiatValue ∧
      fiatRatio record.currentFiatValue record.minimumFiatCollateral =
        some record.healthFactor := by
  obtain ⟨leaseId, rates, stored⟩ := stores.rated
  have run := stores.goes.commits
  change (Machine.step Call.body call store).collateralHealth leaseId = some record at stored
  generalize Machine.step Call.body call store = after at run stored
  obtain ⟨env, operation⟩ := call
  cases operation with
  | registerLeaseCollateral registered lessee token amount minimum =>
      obtain ⟨rfl, rfl⟩ := Prod.mk.inj (Option.some.inj rates)
      obtain ⟨fiat, factor, computed, written⟩ := (commits_registerLeaseCollateral _).mp run
      rw [collateralHealth_of_written written rfl, Store.putHealth_self] at stored
      cases stored
      exact ⟨computed.valued, (ratedFactor_of_pos minimum_pos).symm.trans computed.rated⟩
  | checkCollateralHealth checked =>
      obtain ⟨before, fiat, factor, assessed, written⟩ := (commits_checkCollateralHealth _).mp run
      obtain ⟨again, found, same⟩ := Option.map_eq_some_iff.mp rates
      obtain rfl := Option.some.inj (assessed.found.symm.trans found)
      obtain ⟨rfl, rfl⟩ := Prod.mk.inj same
      rw [collateralHealth_of_written written rfl, Store.putHealth_self] at stored
      cases stored
      exact ⟨assessed.valued, (ratedFactor_of_pos minimum_pos).symm.trans assessed.rated⟩
  | fulfillMarginCall fulfilled additional token =>
      obtain ⟨rfl, rfl⟩ := Prod.mk.inj (Option.some.inj rates)
      obtain ⟨marginCall, before, amount, fiat, factor, fulfillable, _, rfl⟩ :=
        (commits_fulfillMarginCall _).mp run
      rw [Store.fulfilled_collateralHealth, Function.update_self] at stored
      cases stored
      exact ⟨fulfillable.valued, fulfillable.rated⟩
  | _ => cases rates

/-- The stored factor is the low 32 bits of the ratio of the stored amount. -/
theorem Call.Stores.healthFactor (stores : call.Stores store price record)
    (minimum_pos : 0 < record.minimumFiatCollateral) (amount_nonneg : 0 ≤ record.collateralAmount)
    (price_pos : 0 < price.price) :
    record.currentFiatValue = record.collateralAmount * price.price / 10 ^ price.places ∧
      (record.healthFactor : Int) =
        healthRatio record.collateralAmount price record.minimumFiatCollateral % 2 ^ 32 := by
  obtain ⟨valued, rated⟩ := stores.computed minimum_pos
  have value := fiatValue_eq_some amount_nonneg price_pos valued
  have fiat_nonneg : 0 ≤ record.currentFiatValue := by
    rw [value]
    exact Int.ediv_nonneg (mul_nonneg amount_nonneg price_pos.le) (by positivity)
  refine ⟨value, ?_⟩
  rw [fiatRatio_eq_some fiat_nonneg rated, healthRatio, ← value]

end Calls

/-! ## The three laws -/

section Laws

variable {ratio larger : Int}

/-- Cutting two ordered ratios to 32 bits keeps their order where the larger is below `2 ^ 32`. -/
theorem cut_le_cut_iff (ratio_nonneg : 0 ≤ ratio) (le : ratio ≤ larger) :
    ratio % 2 ^ 32 ≤ larger % 2 ^ 32 ↔
      (2 ^ 32 ≤ larger → ratio % 2 ^ 32 ≤ larger % 2 ^ 32) := by
  omega

/-- Cutting a ratio to 32 bits leaves it on its side of ten thousand where it is below `2 ^ 32`. -/
theorem ten_thousand_le_cut_iff (ratio_nonneg : 0 ≤ ratio) :
    (10000 ≤ ratio % 2 ^ 32 ↔ 10000 ≤ ratio) ↔ (2 ^ 32 ≤ ratio → 10000 ≤ ratio % 2 ^ 32) := by
  omega

end Laws

/-- Rewriting a price with one more decimal keeps the value within a unit exactly if it has eight
decimals or the value is next to nothing; and of the factors that two calls store at one price for
one minimum, that of the larger amount is the larger one, and a factor reaches ten thousand where
the value reaches the minimum, exactly if the 32 bits that are left of a ratio of `2 ^ 32` or more
happen to do so. -/
theorem health_factor_laws_iff {amount fiat fine : I128} {quote price again : PriceData}
    {call other : Call} {store otherStore : Store} {record larger : CollateralHealth}
    (amount_nonneg : 0 ≤ amount) (quote_pos : 0 < quote.price)
    (valued : fiatValue amount quote = some fiat)
    (revalued : fiatValue amount quote.finer = some fine)
    (stores : call.Stores store price record) (storesLarger : other.Stores otherStore again larger)
    (samePrice : again.price = price.price) (sameDecimals : again.decimals = price.decimals)
    (price_pos : 0 < price.price)
    (sameMinimum : larger.minimumFiatCollateral = record.minimumFiatCollateral)
    (minimum_pos : 0 < record.minimumFiatCollateral)
    (collateral_nonneg : 0 ≤ record.collateralAmount)
    (le : record.collateralAmount ≤ larger.collateralAmount) :
    (|fine - fiat| ≤ 1 ↔
        8 ≤ quote.decimals ∨ 50 * (amount * quote.price) < 10 ^ (8 - quote.decimals)) ∧
      (record.healthFactor ≤ larger.healthFactor ↔
        (2 ^ 32 ≤ healthRatio larger.collateralAmount price record.minimumFiatCollateral →
          healthRatio record.collateralAmount price record.minimumFiatCollateral % 2 ^ 32 ≤
            healthRatio larger.collateralAmount price record.minimumFiatCollateral % 2 ^ 32)) ∧
      ((10000 ≤ record.healthFactor ↔
          record.minimumFiatCollateral ≤ record.currentFiatValue) ↔
        (2 ^ 32 ≤ healthRatio record.collateralAmount price record.minimumFiatCollateral →
          10000 ≤
            healthRatio record.collateralAmount price record.minimumFiatCollateral % 2 ^ 32)) := by
  obtain ⟨value, factor⟩ := stores.healthFactor minimum_pos collateral_nonneg price_pos
  have ratio_le := healthRatio_mono le price_pos minimum_pos
  have ratio_nonneg : 0 ≤
      healthRatio record.collateralAmount price record.minimumFiatCollateral :=
    Int.ediv_nonneg (mul_nonneg (Int.ediv_nonneg (mul_nonneg collateral_nonneg price_pos.le)
      (by positivity)) (by decide)) minimum_pos.le
  have largerFactor : (larger.healthFactor : Int) =
      healthRatio larger.collateralAmount price record.minimumFiatCollateral % 2 ^ 32 := by
    obtain ⟨_, same⟩ := storesLarger.healthFactor (minimum_pos.trans_eq sameMinimum.symm)
      (collateral_nonneg.trans le) (price_pos.trans_eq samePrice.symm)
    rw [same, sameMinimum, healthRatio, healthRatio, PriceData.places, PriceData.places, samePrice,
      sameDecimals]
  refine ⟨fiatValue_finer_iff amount_nonneg quote_pos valued revalued, ?_, ?_⟩
  · rw [← Int.ofNat_le, factor, largerFactor]
    exact cut_le_cut_iff ratio_nonneg ratio_le
  · have reaches : record.minimumFiatCollateral ≤ record.currentFiatValue ↔
        10000 ≤ healthRatio record.collateralAmount price record.minimumFiatCollateral := by
      rw [healthRatio, ← value, ten_thousand_le_ratio_iff minimum_pos]
    rw [reaches, ← ten_thousand_le_cut_iff ratio_nonneg, ← factor]
    exact_mod_cast Iff.rfl

/-! ## A lease with much collateral -/

/-- The monitor at work. -/
def monitored : Store :=
  step initialized Store.empty

/-- Collateral of token 3 for lease 1 of lessee 7, with a minimum of one unit of it. -/
def registeredWith (amount : I128) : Call :=
  callAt 0 (.registerLeaseCollateral 1 ⟨7⟩ ⟨3⟩ amount 100000000)

def oneDollar : PriceData :=
  placeholderPrice 0 ⟨3⟩

/-- One dollar with seven decimals. -/
def oneDollarCoarse : PriceData :=
  ⟨10000000, 7, 0, ⟨3⟩⟩

/-- The record that the registration is to leave. -/
def recordWith (amount fiat : I128) (factor : U32) (status : HealthStatus) : CollateralHealth :=
  .registered 1 ⟨3⟩ amount 100000000 oneDollar fiat factor status

theorem registeredWith_one :
    (registeredWith 1).Stores monitored oneDollar (recordWith 1 100000000 10000 .healthy) :=
  ⟨by decide +kernel, 1, rfl, by decide +kernel⟩

/-- Nearly half a million times the minimum rates below a third of it. -/
theorem registeredWith_much :
    (registeredWith 429497).Stores monitored oneDollar
      (recordWith 429497 42949700000000 2704 .underCollateralized) :=
  ⟨by decide +kernel, 1, rfl, by decide +kernel⟩

theorem registeredWith_ten :
    (registeredWith 10).Stores monitored oneDollar (recordWith 10 1000000000 100000 .healthy) :=
  ⟨by decide +kernel, 1, rfl, by decide +kernel⟩

/-- At eight decimals and ten units against one nothing goes wrong. -/
theorem registeredWith_ten_laws :
    |(100000000 : Int) - 100000000| ≤ 1 ∧
      (recordWith 1 100000000 10000 .healthy).healthFactor ≤
        (recordWith 10 1000000000 100000 .healthy).healthFactor ∧
      (10000 ≤ (recordWith 1 100000000 10000 .healthy).healthFactor ↔
        (recordWith 1 100000000 10000 .healthy).minimumFiatCollateral ≤
          (recordWith 1 100000000 10000 .healthy).currentFiatValue) := by
  have laws := @health_factor_laws_iff 1 100000000 100000000 oneDollar oneDollar oneDollar
    (registeredWith 1) (registeredWith 10) monitored monitored _ _ (by decide) (by decide)
    (by decide +kernel) (by decide +kernel) registeredWith_one registeredWith_ten rfl rfl
    (by decide) rfl (by decide) (by decide) (by decide)
  exact ⟨laws.1.mpr (.inl (by decide)), laws.2.1.mpr (by decide), laws.2.2.mpr (by decide)⟩

/-- None of the three laws holds. -/
theorem health_factor_laws_fail :
    (¬ ∀ (amount fiat fine : I128) (quote : PriceData), 0 ≤ amount → 0 < quote.price →
      fiatValue amount quote = some fiat → fiatValue amount quote.finer = some fine →
      |fine - fiat| ≤ 1) ∧
    (¬ ∀ (call other : Call) (store otherStore : Store) (price : PriceData)
      (record larger : CollateralHealth), call.Stores store price record →
      other.Stores otherStore price larger → 0 < price.price →
      larger.minimumFiatCollateral = record.minimumFiatCollateral →
      0 < record.minimumFiatCollateral → 0 ≤ record.collateralAmount →
      record.collateralAmount ≤ larger.collateralAmount →
      record.healthFactor ≤ larger.healthFactor) ∧
    ¬ ∀ (call : Call) (store : Store) (price : PriceData) (record : CollateralHealth),
      call.Stores store price record → 0 < price.price → 0 < record.minimumFiatCollateral →
      0 ≤ record.collateralAmount →
      (10000 ≤ record.healthFactor ↔
        record.minimumFiatCollateral ≤ record.currentFiatValue) := by
  refine ⟨fun invariant => ?_, fun monotone => ?_, fun truthful => ?_⟩
  · have scaled := invariant 100 100000000 10000000000 oneDollarCoarse (by decide) (by decide)
      (by decide +kernel) (by decide +kernel)
    exact absurd scaled (by decide)
  · have ordered := monotone (registeredWith 1) (registeredWith 429497) monitored monitored
      oneDollar _ _ registeredWith_one registeredWith_much (by decide) rfl (by decide) (by decide)
      (by decide)
    exact absurd ordered (by decide)
  · have reached := truthful (registeredWith 429497) monitored oneDollar _ registeredWith_much
      (by decide) (by decide) (by decide)
    exact absurd (reached.mpr (by decide)) (by decide)

end LeaseFlow.Collateral
