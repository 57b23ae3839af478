import LeaseFlow.Foundations.Proportion
import LeaseFlow.Solvency.Solvent

/-!
# What a slash leaves of a solvent tracker

The slashed part is rounded to a ratio of basis points and each component bears the ratio of
itself, rounded down again.  The total goes down by the slashed part.
-/

set_option autoImplicit false

namespace LeaseFlow.Solvency

open Transaction EscrowInvariant

/-! ## Slashing -/

namespace EscrowInvariant

/-- The slashed part of the total, rounded down. -/
def slashAmount (slashPercentageBps : U32) (self : EscrowInvariant) : I128 :=
  self.totalEscrowed * slashPercentageBps / 10000

/-- The basis points the slashed part makes of the total, rounded down. -/
def ratio (slashPercentageBps : U32) (self : EscrowInvariant) : Int :=
  self.slashAmount slashPercentageBps * 10000 / self.totalEscrowed

def components (self : EscrowInvariant) : List I128 :=
  [self.activeDeposits, self.pendingYield, self.disputedFunds]

/-- What the components bear of a slash together. -/
def borne (slashPercentageBps : U32) (self : EscrowInvariant) : Int :=
  (self.components.map (Proportion.share 10000 (self.ratio slashPercentageBps))).sum

/-- What the deductions of a slash leave. -/
def reduced (slashPercentageBps : U32) (self : EscrowInvariant) : EscrowInvariant :=
  ((((self.putActive (self.activeDeposits -
      Proportion.share 10000 (self.ratio slashPercentageBps) self.activeDeposits)).putPending
    (self.pendingYield -
      Proportion.share 10000 (self.ratio slashPercentageBps) self.pendingYield)).putDisputed
    (self.disputedFunds -
      Proportion.share 10000 (self.ratio slashPercentageBps) self.disputedFunds)).putTotal
    (self.totalEscrowed - self.slashAmount slashPercentageBps)).putVault
    (self.vaultTotalLocked - self.slashAmount slashPercentageBps)

/-- The tracker a slash hands to the closing check: what the roundings lose is counted. -/
def slashed (slashPercentageBps : U32) (self : EscrowInvariant) : EscrowInvariant :=
  if self.borne slashPercentageBps < self.slashAmount slashPercentageBps then
    (self.reduced slashPercentageBps).putDust (self.dustCumulative +
      (self.slashAmount slashPercentageBps - self.borne slashPercentageBps))
  else
    self.reduced slashPercentageBps

end EscrowInvariant

section Slashing

variable {self : EscrowInvariant} {slashPercentageBps : U32}

/-- A slash differs from its deductions in the dust counter alone. -/
theorem slashed_putDust : ∃ dustCumulative,
    self.slashed slashPercentageBps = (self.reduced slashPercentageBps).putDust dustCumulative := by
  unfold slashed
  split
  · exact ⟨_, rfl⟩
  · exact ⟨self.dustCumulative, rfl⟩

theorem slashed_totalEscrowed : (self.slashed slashPercentageBps).totalEscrowed =
    self.totalEscrowed - self.slashAmount slashPercentageBps := by
  obtain ⟨dustCumulative, slashed⟩ := @slashed_putDust self slashPercentageBps
  rw [slashed]
  rfl

theorem slashed_precisionLossCumulative :
    (self.slashed slashPercentageBps).precisionLossCumulative = self.precisionLossCumulative := by
  obtain ⟨dustCumulative, slashed⟩ := @slashed_putDust self slashPercentageBps
  rw [slashed]
  rfl

theorem asU128_of_range {value : I128} (nonneg : 0 ≤ value) (le : value ≤ i128Max) :
    asU128 value = value.toNat := by
  unfold asU128
  rw [Int.emod_eq_of_lt nonneg]
  exact le.trans_lt (by decide)

theorem asI128_of_range {value : Nat} (le : (value : Int) ≤ i128Max) : asI128 value = value := by
  apply Int.bmod_eq_of_le
  · exact le_trans (by decide) (Int.natCast_nonneg value)
  · exact le.trans_lt (by decide)

theorem slashRatio_eq {slash total : I128} (slash_nonneg : 0 ≤ slash) (total_pos : 0 < total)
    (bounded : total ≤ i128Max) (fits : slash * 10000 ≤ i128Max) :
    slashRatio slash total = some (slash * 10000 / total).toNat := by
  have slash_le : slash ≤ i128Max := by linarith
  have scaled : slash.toNat * 10000 ≤ u128Max := by
    have wide : i128Max ≤ u128Max := by decide
    zify
    rw [Int.toNat_of_nonneg slash_nonneg]
    exact fits.trans wide
  obtain ⟨part, rfl⟩ := Int.eq_ofNat_of_zero_le slash_nonneg
  obtain ⟨whole, rfl⟩ := Int.eq_ofNat_of_zero_le total_pos.le
  unfold slashRatio mulU128
  rw [if_pos total_pos, asU128_of_range slash_nonneg slash_le,
    asU128_of_range total_pos.le bounded, Checked.upTo_of_le scaled]
  norm_cast

theorem slashShare_eq {component : I128} {ratio : Int} (component_nonneg : 0 ≤ component)
    (bounded : component ≤ i128Max) (ratio_nonneg : 0 ≤ ratio) (ratio_le : ratio ≤ 10000)
    (fits : component * ratio ≤ i128Max) :
    slashShare component ratio.toNat = some (Proportion.share 10000 ratio component) := by
  have share_le : Proportion.share 10000 ratio component ≤ component :=
    Proportion.share_le (by decide) ratio_le component_nonneg
  obtain ⟨part, rfl⟩ := Int.eq_ofNat_of_zero_le component_nonneg
  obtain ⟨scaled, rfl⟩ := Int.eq_ofNat_of_zero_le ratio_nonneg
  have narrow : part * scaled ≤ u128Max := by
    have wide : i128Max ≤ u128Max := by decide
    zify
    exact fits.trans wide
  have share : Proportion.share 10000 scaled part = ((part * scaled / 10000 : Nat) : Int) := by
    unfold Proportion.share
    norm_cast
  rw [share] at share_le ⊢
  unfold slashShare mulU128
  rw [asU128_of_range component_nonneg bounded, Int.toNat_natCast, Int.toNat_natCast,
    Checked.upTo_of_le narrow, Option.bind_eq_bind, Option.bind_some,
    asI128_of_range (share_le.trans bounded)]
  rfl

/-- What the slashed part and the ratio are within. -/
structure Slashable (slashPercentageBps : U32) (tracker : EscrowInvariant) : Prop where
  raw : tracker.totalEscrowed * slashPercentageBps ≤ i128Max
  amount_nonneg : 0 ≤ tracker.slashAmount slashPercentageBps
  amount_le : tracker.slashAmount slashPercentageBps ≤ tracker.totalEscrowed
  amount_scaled : tracker.slashAmount slashPercentageBps * 10000 ≤ i128Max
  ratio_nonneg : 0 ≤ tracker.ratio slashPercentageBps
  ratio_le : tracker.ratio slashPercentageBps ≤ 10000
  ratio_bears : tracker.totalEscrowed * tracker.ratio slashPercentageBps ≤
    tracker.slashAmount slashPercentageBps * 10000

theorem slashable (total_pos : 0 < self.totalEscrowed) (bps_le : slashPercentageBps ≤ 10000)
    (fits : self.totalEscrowed * slashPercentageBps ≤ i128Max) :
    Slashable slashPercentageBps self := by
  have total := total_pos.le
  have bps : (slashPercentageBps : Int) ≤ 10000 := by exact_mod_cast bps_le
  have product_nonneg : 0 ≤ self.totalEscrowed * slashPercentageBps :=
    mul_nonneg total (Int.natCast_nonneg slashPercentageBps)
  have amount_nonneg : 0 ≤ self.slashAmount slashPercentageBps :=
    Int.ediv_nonneg product_nonneg (by decide)
  have amount_le : self.slashAmount slashPercentageBps ≤ self.totalEscrowed :=
    Int.ediv_le_of_le_mul (by decide) (mul_le_mul_of_nonneg_left bps total)
  have scaled_le : self.slashAmount slashPercentageBps * 10000 ≤
      self.totalEscrowed * slashPercentageBps := Int.ediv_mul_le _ (by decide)
  constructor
  · exact fits
  · exact amount_nonneg
  · exact amount_le
  · exact scaled_le.trans fits
  · exact Int.ediv_nonneg (mul_nonneg amount_nonneg (by decide)) total
  · apply Int.ediv_le_of_le_mul total_pos
    linarith
  · rw [mul_comm]
    exact Int.ediv_mul_le _ total_pos.ne'

theorem borne_eq : self.borne slashPercentageBps =
    Proportion.share 10000 (self.ratio slashPercentageBps) self.activeDeposits +
      Proportion.share 10000 (self.ratio slashPercentageBps) self.pendingYield +
      Proportion.share 10000 (self.ratio slashPercentageBps) self.disputedFunds := by
  simp only [borne, components, List.map_cons, List.map_nil, List.sum_cons, List.sum_nil,
    add_zero, add_assoc]

theorem slash_refused
    (refused : ¬ (slashPercentageBps ≤ 10000 ∧
      self.totalEscrowed * slashPercentageBps ≤ i128Max)) :
    ∃ violation, (applyPartialSlashing slashPercentageBps).execute self =
      (.error (.err violation), self) := by
  by_cases bps_le : slashPercentageBps ≤ 10000
  · have exceeds : ¬ self.totalEscrowed * slashPercentageBps ≤ i128Max :=
      fun fits => refused ⟨bps_le, fits⟩
    have some_total : self.totalEscrowed ≠ 0 := by
      intro empty
      apply exceeds
      rw [empty, zero_mul]
      decide
    have overflow : mulI128 self.totalEscrowed slashPercentageBps = none :=
      if_neg fun fits => exceeds fits.2
    rw [applyPartialSlashing, execute_ensure_bind bps_le, execute_get_bind, if_neg some_total]
    exact ⟨_, execute_fetch_bind_of_none overflow _ _⟩
  · exact ⟨_, execute_ensure_bind_of_not bps_le _ _⟩

theorem slash_of_empty (bps_le : slashPercentageBps ≤ 10000) (empty : self.totalEscrowed = 0) :
    (applyPartialSlashing slashPercentageBps).execute self = (.ok (), self) := by
  rw [applyPartialSlashing, execute_ensure_bind bps_le, execute_get_bind, if_pos empty]
  rfl

theorem slashAmount_of_empty (empty : self.totalEscrowed = 0) :
    self.slashAmount slashPercentageBps = 0 := by
  rw [slashAmount, empty, zero_mul]
  rfl

theorem ratio_of_empty (empty : self.totalEscrowed = 0) :
    self.ratio slashPercentageBps = 0 := by
  rw [ratio, slashAmount_of_empty empty, empty]
  rfl

theorem share_of_empty (empty : self.totalEscrowed = 0) (component : I128) :
    Proportion.share 10000 (self.ratio slashPercentageBps) component = 0 := by
  rw [ratio_of_empty empty, Proportion.share, mul_zero]
  rfl

theorem borne_of_empty (empty : self.totalEscrowed = 0) : self.borne slashPercentageBps = 0 := by
  have share := @share_of_empty self slashPercentageBps empty
  rw [borne_eq, share, share, share]
  rfl

theorem slashed_of_empty (empty : self.totalEscrowed = 0) :
    self.slashed slashPercentageBps = self := by
  have amount := @slashAmount_of_empty self slashPercentageBps empty
  have share := @share_of_empty self slashPercentageBps empty
  rw [slashed, borne_of_empty empty, amount, if_neg (lt_irrefl 0), reduced, share, share, share, amount,
    sub_zero, sub_zero, sub_zero, sub_zero, sub_zero]
  rfl

theorem components_sum (solvent : self.Solvent) : self.components.sum = self.totalEscrowed := by
  rw [← solvent.sum]
  simp only [components, List.sum_cons, List.sum_nil, add_zero, add_assoc]

/-- What the shares bear does not exceed the slashed part. -/
theorem borne_le (solvent : self.Solvent) (slashes : Slashable slashPercentageBps self) :
    self.borne slashPercentageBps ≤ self.slashAmount slashPercentageBps := by
  apply Proportion.sum_shares_le (by decide)
  rw [components_sum solvent]
  exact slashes.ratio_bears

/-- A component that is part of the total bears at most itself. -/
structure Bears (component : I128) (ratio : Int) : Prop where
  nonneg : 0 ≤ Proportion.share 10000 ratio component
  le : Proportion.share 10000 ratio component ≤ component
  computed : slashShare component ratio.toNat = some (Proportion.share 10000 ratio component)
  left : subI128 component (Proportion.share 10000 ratio component) =
    some (component - Proportion.share 10000 ratio component)

theorem bears {component : I128} (slashes : Slashable slashPercentageBps self)
    (bounded : self.totalEscrowed ≤ i128Max) (nonneg : 0 ≤ component)
    (le : component ≤ self.totalEscrowed) : Bears component (self.ratio slashPercentageBps) := by
  have fits : component * self.ratio slashPercentageBps ≤ i128Max := by
    have scaled := mul_le_mul_of_nonneg_right le slashes.ratio_nonneg
    exact scaled.trans (slashes.ratio_bears.trans slashes.amount_scaled)
  have share_nonneg : 0 ≤ Proportion.share 10000 (self.ratio slashPercentageBps) component :=
    Proportion.share_nonneg (by decide) slashes.ratio_nonneg nonneg
  have share_le : Proportion.share 10000 (self.ratio slashPercentageBps) component ≤ component :=
    Proportion.share_le (by decide) slashes.ratio_le nonneg
  constructor
  · exact share_nonneg
  · exact share_le
  · exact slashShare_eq nonneg (le.trans bounded) slashes.ratio_nonneg slashes.ratio_le fits
  · exact subI128_of_le share_nonneg share_le (le.trans bounded)

/-- What each component bears of a slash. -/
structure Bearing (slashPercentageBps : U32) (tracker : EscrowInvariant) : Prop where
  active : Bears tracker.activeDeposits (tracker.ratio slashPercentageBps)
  pending : Bears tracker.pendingYield (tracker.ratio slashPercentageBps)
  disputed : Bears tracker.disputedFunds (tracker.ratio slashPercentageBps)

theorem bearing (solvent : self.Solvent) (slashes : Slashable slashPercentageBps self) :
    Bearing slashPercentageBps self := by
  obtain ⟨sum, _, active, pending, disputed, _, bounded⟩ := solvent
  constructor
  · exact bears slashes bounded active (by linarith)
  · exact bears slashes bounded pending (by linarith)
  · exact bears slashes bounded disputed (by linarith)

theorem borne_nonneg (solvent : self.Solvent) (slashes : Slashable slashPercentageBps self) :
    0 ≤ self.borne slashPercentageBps := by
  obtain ⟨actives, pendings, disputes⟩ := bearing solvent slashes
  rw [borne_eq]
  exact add_nonneg (add_nonneg actives.nonneg pendings.nonneg) disputes.nonneg

/-- A slash counts what the roundings lose, where they lose anything, and closes with the
check. -/
theorem slash_execute_of_solvent (solvent : self.Solvent) (total_pos : 0 < self.totalEscrowed)
    (bps_le : slashPercentageBps ≤ 10000)
    (fits : self.totalEscrowed * slashPercentageBps ≤ i128Max) :
    (applyPartialSlashing slashPercentageBps).execute self =
      if self.borne slashPercentageBps < self.slashAmount slashPercentageBps then
        (do
          let dustCumulative ← safeAdd self.dustCumulative
            (self.slashAmount slashPercentageBps - self.borne slashPercentageBps)
          modify (putDust dustCumulative)
          verify : Body Unit).execute (self.reduced slashPercentageBps)
      else
        verify.execute (self.reduced slashPercentageBps) := by
  have slashes := slashable total_pos bps_le fits
  have borne_le := borne_le solvent slashes
  have vault := solvent.synchronized
  have bounded := solvent.bounded
  have borne_nonneg := borne_nonneg solvent slashes
  obtain ⟨actives, pendings, disputes⟩ := bearing solvent slashes
  have ratio : slashRatio (self.slashAmount slashPercentageBps) self.totalEscrowed =
      some (self.ratio slashPercentageBps).toNat :=
    slashRatio_eq slashes.amount_nonneg total_pos bounded slashes.amount_scaled
  have raw : mulI128 self.totalEscrowed slashPercentageBps =
      some (self.totalEscrowed * slashPercentageBps) := by
    have minimum : i128Min ≤ 0 := by decide
    apply Checked.within_eq_some.mpr
    have product := mul_nonneg total_pos.le (Int.natCast_nonneg slashPercentageBps)
    exact ⟨⟨minimum.trans product, fits⟩, rfl⟩
  have amount : (self.totalEscrowed * slashPercentageBps).tdiv 10000 =
      self.slashAmount slashPercentageBps := by
    apply Int.tdiv_eq_ediv_of_nonneg
    exact mul_nonneg total_pos.le (Int.natCast_nonneg slashPercentageBps)
  have escrowed := subI128_of_le slashes.amount_nonneg slashes.amount_le bounded
  have vaults : subI128 self.vaultTotalLocked (self.slashAmount slashPercentageBps) =
      some (self.vaultTotalLocked - self.slashAmount slashPercentageBps) := by
    rw [vault]
    exact escrowed
  rw [borne_eq] at borne_le borne_nonneg ⊢
  have partials := addI128_of_nonneg actives.nonneg pendings.nonneg
    (by linarith [disputes.nonneg, slashes.amount_le])
  have totals := addI128_of_nonneg (add_nonneg actives.nonneg pendings.nonneg) disputes.nonneg
    (by linarith [slashes.amount_le])
  rw [applyPartialSlashing, execute_ensure_bind bps_le, execute_get_bind, if_neg total_pos.ne']
  simp only [safeMul, safeAdd, safeSub, safely, compute]
  rw [execute_fetch_bind raw, amount, execute_ensure_bind slashes.amount_le,
    execute_fetch_bind ratio, execute_fetch_bind actives.computed,
    execute_fetch_bind pendings.computed, execute_fetch_bind disputes.computed,
    execute_fetch_bind actives.left, execute_modify_bind, execute_fetch_bind pendings.left,
    execute_modify_bind, execute_fetch_bind disputes.left, execute_modify_bind,
    execute_fetch_bind escrowed, execute_modify_bind, execute_fetch_bind vaults,
    execute_modify_bind, execute_fetch_bind partials, execute_fetch_bind totals]
  generalize Proportion.share 10000 (self.ratio slashPercentageBps) self.activeDeposits +
    Proportion.share 10000 (self.ratio slashPercentageBps) self.pendingYield +
    Proportion.share 10000 (self.ratio slashPercentageBps) self.disputedFunds = actualSlashTotal
      at *
  by_cases truncated : actualSlashTotal < self.slashAmount slashPercentageBps
  · have dust := subI128_of_le borne_nonneg truncated.le (slashes.amount_le.trans bounded)
    rw [if_pos truncated, if_pos truncated]
    exact execute_fetch_bind dust _ _
  · rw [if_neg truncated, if_neg truncated]
    rfl

theorem slash_execute (sound : self.Sound) (total_pos : 0 < self.totalEscrowed)
    (bps_le : slashPercentageBps ≤ 10000)
    (fits : self.totalEscrowed * slashPercentageBps ≤ i128Max) :
    (applyPartialSlashing slashPercentageBps).execute self =
      if self.borne slashPercentageBps < self.slashAmount slashPercentageBps ∧
          i128Max < self.dustCumulative +
            (self.slashAmount slashPercentageBps - self.borne slashPercentageBps) then
        (.error (.err .calculationOverflow), self.reduced slashPercentageBps)
      else
        verify.execute (self.slashed slashPercentageBps) := by
  rw [slash_execute_of_solvent sound.solvent total_pos bps_le fits, slashed]
  by_cases truncated : self.borne slashPercentageBps < self.slashAmount slashPercentageBps
  · rw [if_pos truncated, if_pos truncated]
    by_cases spills : i128Max < self.dustCumulative +
        (self.slashAmount slashPercentageBps - self.borne slashPercentageBps)
    · rw [if_pos ⟨truncated, spills⟩]
      exact execute_fetch_bind_of_none (addI128_eq_none spills) _ _
    · have dusts := addI128_of_nonneg sound.dust_nonneg (sub_nonneg.mpr truncated.le)
        (not_lt.mp spills)
      rw [if_neg fun both => spills both.2]
      exact execute_fetch_bind dusts _ _
  · rw [if_neg truncated, if_neg fun both => truncated both.1, if_neg truncated]

end Slashing

end LeaseFlow.Solvency
