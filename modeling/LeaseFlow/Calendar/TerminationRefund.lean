import LeaseFlow.Calendar.MonthLength
import LeaseFlow.Foundations.Proportion

/-!
# Refunds for the unused rest of a lease

`calculate_termination_refund` divides the rent of the unused time by the length of the month of
the termination, caps it at what was paid and takes off one unit.  The length of that month
decides whether waiting can raise a refund.  The split of a deposit stands beside them.
-/

set_option autoImplicit false

namespace LeaseFlow

/-- The refund after the one-unit margin. -/
def lessMargin (refund : Int) : Int :=
  if refund > 0 then refund - 1 else 0

/-- The rent of the unused time, at most what was paid. -/
def cappedRefund (monthlyRent : Int) (unused secondsInMonth : Nat) (paidAmount : Int) : Int :=
  min (monthlyRent * unused / secondsInMonth) paidAmount

section Refund

variable {monthlyRent paidAmount : Int} {originalStart originalEnd timestamp unused
  secondsInMonth : Nat}

theorem lessMargin_mono {fewer more : Int} (le : fewer ≤ more) :
    lessMargin fewer ≤ lessMargin more := by
  unfold lessMargin
  split <;> split <;> omega

theorem lessMargin_nonneg (refund : Int) : 0 ≤ lessMargin refund := by
  unfold lessMargin
  split <;> omega

theorem lessMargin_le {refund : Int} (nonneg : 0 ≤ refund) : lessMargin refund ≤ refund := by
  unfold lessMargin
  split <;> omega

theorem cappedRefund_nonneg (rent_nonneg : 0 ≤ monthlyRent) (paid_nonneg : 0 ≤ paidAmount) :
    0 ≤ cappedRefund monthlyRent unused secondsInMonth paidAmount :=
  le_min (Int.ediv_nonneg (mul_nonneg rent_nonneg (Int.natCast_nonneg _)) (Int.natCast_nonneg _))
    paid_nonneg

theorem cappedRefund_antitone {later laterMonth : Nat} (rent_nonneg : 0 ≤ monthlyRent)
    (month_pos : 0 < secondsInMonth) (laterMonth_pos : 0 < laterMonth)
    (shrinks : later * secondsInMonth ≤ unused * laterMonth) :
    cappedRefund monthlyRent later laterMonth paidAmount ≤
      cappedRefund monthlyRent unused secondsInMonth paidAmount := by
  refine min_le_min_right paidAmount ?_
  apply Proportion.ediv_le_ediv_of_cross (Int.natCast_pos.mpr laterMonth_pos)
    (Int.natCast_pos.mpr month_pos)
  rw [mul_assoc, mul_assoc]
  exact mul_le_mul_of_nonneg_left (by exact_mod_cast shrinks) rent_nonneg

theorem asI64_of_range {value : Int} (nonneg : 0 ≤ value) (le : value ≤ 9223372036854775807) :
    value = asI64 value := by
  have modulus : ((2 ^ 64 : Nat) : Int) = 18446744073709551616 := rfl
  refine (Int.bmod_eq_of_le ?_ ?_).symm <;> omega

theorem eq_cappedRefund {refund : Int} (rent_nonneg : 0 ≤ monthlyRent)
    (found : LeaseflowMath.refundShare monthlyRent unused secondsInMonth paidAmount =
      some refund) :
    refund = cappedRefund monthlyRent unused secondsInMonth paidAmount := by
  obtain ⟨product, multiplied, capped⟩ := Option.bind_eq_some_iff.mp found
  obtain ⟨_, rfl⟩ := Checked.within_eq_some.mp multiplied
  have product_nonneg : 0 ≤ monthlyRent * unused := mul_nonneg rent_nonneg (Int.natCast_nonneg _)
  have quotient_nonneg : 0 ≤ monthlyRent * unused / secondsInMonth :=
    Int.ediv_nonneg product_nonneg (Int.natCast_nonneg _)
  rw [Int.tdiv_eq_ediv_of_nonneg product_nonneg] at capped
  unfold cappedRefund
  dsimp only at capped
  split at capped
  · next exceeds =>
      rw [min_eq_right exceeds.le]
      exact (Option.some.inj capped).symm
  · next within =>
      split at capped
      · cases capped
      · next small =>
          rw [min_eq_left (not_lt.mp within), asI64_of_range quotient_nonneg (not_lt.mp small)]
          exact (Option.some.inj capped).symm

theorem refundShare_eq (rent_nonneg : 0 ≤ monthlyRent) (rent_le : monthlyRent ≤ i64Max)
    (unused_le : unused ≤ u64Max) (paid_le : paidAmount ≤ i64Max) :
    LeaseflowMath.refundShare monthlyRent unused secondsInMonth paidAmount =
      some (cappedRefund monthlyRent unused secondsInMonth paidAmount) := by
  have product_nonneg : 0 ≤ monthlyRent * unused := mul_nonneg rent_nonneg (Int.natCast_nonneg _)
  have product_le : monthlyRent * unused ≤ i128Max :=
    (mul_le_mul rent_le (Int.ofNat_le.mpr unused_le) (Int.natCast_nonneg _) (by decide)).trans
      (by decide)
  have product : mulI128 monthlyRent unused = some (monthlyRent * unused) :=
    if_pos ⟨(by decide : i128Min ≤ 0).trans product_nonneg, product_le⟩
  cases found : LeaseflowMath.refundShare monthlyRent unused secondsInMonth paidAmount with
  | some refund => rw [eq_cappedRefund rent_nonneg found]
  | none =>
      unfold LeaseflowMath.refundShare at found
      rw [Checked.bind_of_eq product] at found
      dsimp only at found
      split at found
      · cases found
      · next within =>
          split at found
          · next exceeds =>
              have beyond : i64Max < paidAmount := lt_of_lt_of_le exceeds (not_lt.mp within)
              exact absurd paid_le (not_le.mpr beyond)
          · cases found

theorem secondsInMonth_pos (reads : LeaseflowMath.getSecondsInMonth timestamp =
    some secondsInMonth) : 0 < secondsInMonth := by
  obtain ⟨_, ⟨_, read, _, rfl⟩, rfl⟩ := getSecondsInMonth_eq_some.mp reads
  exact Nat.mul_pos (Gregorian.monthLength_pos read.year read.month) (by decide)

/-- Strictly within the term a refund is the capped rent of the unused time, less the margin. -/
theorem calculateTerminationRefund_of_reads (started : originalStart < timestamp)
    (running : timestamp < originalEnd)
    (reads : LeaseflowMath.getSecondsInMonth timestamp = some secondsInMonth) :
    LeaseflowMath.calculateTerminationRefund monthlyRent originalStart originalEnd timestamp
        paidAmount =
      some ((LeaseflowMath.refundShare monthlyRent (originalEnd - timestamp) secondsInMonth
        paidAmount).map lessMargin) := by
  unfold LeaseflowMath.calculateTerminationRefund
  rw [if_neg (not_or.mpr ⟨not_le.mpr started, not_le.mpr running⟩), Checked.bind_of_eq reads,
    if_neg (secondsInMonth_pos reads).ne']
  rfl

/-- Waiting raises no refund while the unused time, in months as they are taken for the time of
the termination, does not grow. -/
theorem refund_antitone {later laterSeconds : Nat} (rent_nonneg : 0 ≤ monthlyRent)
    (rent_le : monthlyRent ≤ i64Max) (paid_le : paidAmount ≤ i64Max)
    (end_le : originalEnd ≤ u64Max) (started : originalStart < timestamp)
    (waits : timestamp ≤ later) (running : later < originalEnd)
    (reads : LeaseflowMath.getSecondsInMonth timestamp = some secondsInMonth)
    (readsLater : LeaseflowMath.getSecondsInMonth later = some laterSeconds)
    (shrinks : (originalEnd - later) * secondsInMonth ≤ (originalEnd - timestamp) * laterSeconds) :
    ∃ refund laterRefund,
      LeaseflowMath.calculateTerminationRefund monthlyRent originalStart originalEnd timestamp
        paidAmount = some (some refund) ∧
      LeaseflowMath.calculateTerminationRefund monthlyRent originalStart originalEnd later
        paidAmount = some (some laterRefund) ∧
      laterRefund ≤ refund := by
  have bounded (time : Nat) : originalEnd - time ≤ u64Max := (Nat.sub_le _ _).trans end_le
  rw [calculateTerminationRefund_of_reads started (waits.trans_lt running) reads,
    calculateTerminationRefund_of_reads (started.trans_le waits) running readsLater,
    refundShare_eq rent_nonneg rent_le (bounded timestamp) paid_le,
    refundShare_eq rent_nonneg rent_le (bounded later) paid_le]
  refine ⟨_, _, rfl, rfl, lessMargin_mono ?_⟩
  exact cappedRefund_antitone rent_nonneg (secondsInMonth_pos reads)
    (secondsInMonth_pos readsLater) shrinks

end Refund

/-- Within January 2023 the refund falls. -/
theorem january_refund_falls : ∃ refund laterRefund,
    LeaseflowMath.calculateTerminationRefund 3100 1672531200 1677801600 1674000000 10000 =
      some (some refund) ∧
    LeaseflowMath.calculateTerminationRefund 3100 1672531200 1677801600 1675209599 10000 =
      some (some laterRefund) ∧
    laterRefund ≤ refund :=
  refund_antitone (by decide) (by decide) (by decide) (by decide) (by decide) (by decide)
    (by decide)
    (getSecondsInMonth_of_estimate 2023 13 17 (by decide) (by decide) (by decide) (by decide)
      (by decide))
    (getSecondsInMonth_of_estimate 2023 13 30 (by decide) (by decide) (by decide) (by decide)
      (by decide))
    (by decide)

/-- From the last second of January 2023 to the first of February, the refund of the rest of
the lease rises. -/
theorem february_refund_rises :
    LeaseflowMath.calculateTerminationRefund 3100 1672531200 1677801600 1675209599 10000 =
      some (some 2999) ∧
    LeaseflowMath.calculateTerminationRefund 3100 1672531200 1677801600 1675209600 10000 =
      some (some 3320) := by
  have january : LeaseflowMath.getSecondsInMonth 1675209599 = some (31 * 86400) :=
    getSecondsInMonth_of_estimate 2023 13 30 (by decide) (by decide) (by decide) (by decide)
      (by decide)
  have february : LeaseflowMath.getSecondsInMonth 1675209600 = some (28 * 86400) :=
    getSecondsInMonth_of_estimate 2023 13 31 (by decide) (by decide) (by decide) (by decide)
      (by decide)
  rw [calculateTerminationRefund_of_reads (by decide) (by decide) january,
    calculateTerminationRefund_of_reads (by decide) (by decide) february]
  decide

/-! ## The split of a deposit -/

/-- The tenant's part is what the landlord's rounded part leaves. -/
def LeaseflowMath.calculateDepositSplit (totalDeposit : I128) (landlordBps : U32) :
    Option (I128 × I128) := do
  let landlordPct := min landlordBps 10000
  let scaled ← mulI128 totalDeposit landlordPct
  let landlordShare := scaled.tdiv 10000
  let tenantShare ← subI128 totalDeposit landlordShare
  pure (landlordShare, tenantShare)

section Split

variable {totalDeposit landlord tenant : Int} {landlordBps : Nat}

/-- The landlord's part by whole basis points. -/
def landlordPart (totalDeposit : Int) (landlordBps : Nat) : Int :=
  totalDeposit * min landlordBps 10000 / 10000

theorem landlordPart_le (nonneg : 0 ≤ totalDeposit) :
    0 ≤ landlordPart totalDeposit landlordBps ∧
      landlordPart totalDeposit landlordBps ≤ totalDeposit := by
  have rate_le : ((min landlordBps 10000 : Nat) : Int) ≤ 10000 :=
    Int.ofNat_le.mpr (min_le_right landlordBps 10000)
  have product_le := mul_le_mul_of_nonneg_left rate_le nonneg
  have product_nonneg := mul_nonneg nonneg (Int.natCast_nonneg (min landlordBps 10000))
  unfold landlordPart
  omega

/-- A split that does not overflow gives out the whole deposit, and neither part is negative. -/
theorem depositSplit_eq_some (nonneg : 0 ≤ totalDeposit) (deposit_le : totalDeposit ≤ i128Max) :
    LeaseflowMath.calculateDepositSplit totalDeposit landlordBps = some (landlord, tenant) ↔
      totalDeposit * min landlordBps 10000 ≤ i128Max ∧
        landlord = landlordPart totalDeposit landlordBps ∧
        tenant = totalDeposit - landlordPart totalDeposit landlordBps := by
  have product_nonneg := mul_nonneg nonneg (Int.natCast_nonneg (min landlordBps 10000))
  have low : i128Min ≤ 0 := by decide
  constructor
  · intro split
    obtain ⟨product, multiplied, parted⟩ := Option.bind_eq_some_iff.mp split
    obtain ⟨⟨_, fits⟩, rfl⟩ := Checked.within_eq_some.mp multiplied
    obtain ⟨rest, subtracted, paired⟩ := Option.bind_eq_some_iff.mp parted
    obtain ⟨_, rfl⟩ := Checked.within_eq_some.mp subtracted
    rw [Int.tdiv_eq_ediv_of_nonneg product_nonneg] at paired
    cases paired
    exact ⟨fits, rfl, rfl⟩
  · intro ⟨fits, landlordShare, tenantShare⟩
    obtain ⟨part_nonneg, part_le⟩ := @landlordPart_le totalDeposit landlordBps nonneg
    have scaled : mulI128 totalDeposit (min landlordBps 10000 : Nat) =
        some (totalDeposit * (min landlordBps 10000 : Nat)) :=
      if_pos ⟨low.trans product_nonneg, fits⟩
    have rest : subI128 totalDeposit (landlordPart totalDeposit landlordBps) =
        some (totalDeposit - landlordPart totalDeposit landlordBps) :=
      if_pos ⟨low.trans (by omega), (sub_le_self _ part_nonneg).trans deposit_le⟩
    unfold LeaseflowMath.calculateDepositSplit
    rw [Checked.bind_of_eq scaled, Int.tdiv_eq_ediv_of_nonneg product_nonneg]
    refine (Checked.bind_of_eq rest _).trans ?_
    rw [landlordShare, tenantShare]
    rfl

theorem landlordPart_mono {fewer more : Nat} (nonneg : 0 ≤ totalDeposit) (le : fewer ≤ more) :
    landlordPart totalDeposit fewer ≤ landlordPart totalDeposit more := by
  have rates : ((min fewer 10000 : Nat) : Int) ≤ (min more 10000 : Nat) := by
    omega
  apply Int.ediv_le_ediv (by decide)
  exact Int.mul_le_mul_of_nonneg_left rates nonneg

end Split

end LeaseFlow
