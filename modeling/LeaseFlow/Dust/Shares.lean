import LeaseFlow.Dust.Verification

/-!
# The shares of a refund

Every signer but the last gets its basis points of the total, rounded down, and the last what is
left.  The roundings lose less than a unit each, so that the last gets at most one unit more than
its own share for each of the others.
-/

set_option autoImplicit false

namespace LeaseFlow.Dust

open Transaction DustAccounting

section Shares

variable {totalAmount allocated : I128} {signerRatios : List (Address × U32)}

/-- The share of a signer that is not the last. -/
def floored (totalAmount : I128) (entry : Address × U32) : Address × I128 :=
  (entry.1, totalAmount * entry.2 / 10000)

/-- The shares of some signers and a last one. -/
theorem shares_append (earlier : List (Address × U32)) (signer : Address) (bps : U32)
    (allocated : I128) :
    shares totalAmount allocated (earlier ++ [(signer, bps)]) =
      (earlier.map fun entry => (entry.1, portion totalAmount entry.2)) ++
        [(signer, totalAmount -
          (allocated + (earlier.map fun entry => portion totalAmount entry.2).sum))] := by
  induction earlier generalizing allocated with
  | nil =>
      rw [List.map_nil, List.map_nil, List.sum_nil, add_zero]
      rfl
  | cons entry rest ih =>
      obtain ⟨first, ratio⟩ := entry
      have later : shares totalAmount allocated ((first, ratio) :: rest ++ [(signer, bps)]) =
          (first, portion totalAmount ratio) ::
            shares totalAmount (allocated + portion totalAmount ratio)
              (rest ++ [(signer, bps)]) := by
        cases rest with
        | nil => rfl
        | cons next rest => rfl
      rw [later, ih, List.map_cons, List.map_cons, List.sum_cons, add_assoc]
      rfl

theorem shares_append_of_nonneg (nonneg : 0 ≤ totalAmount) (earlier : List (Address × U32))
    (signer : Address) (bps : U32) :
    shares totalAmount 0 (earlier ++ [(signer, bps)]) =
      earlier.map (floored totalAmount) ++
        [(signer, totalAmount - (earlier.map fun entry => totalAmount * entry.2 / 10000).sum)] := by
  rw [shares_append, zero_add]
  simp only [portion_eq_floor nonneg]
  rfl

/-! ## What the shares of the others take -/

theorem floor_nonneg (nonneg : 0 ≤ totalAmount) (bps : U32) : 0 ≤ totalAmount * bps / 10000 :=
  Int.ediv_nonneg (mul_nonneg nonneg (Int.natCast_nonneg bps)) (by decide)

/-- A refund has a share for each entry. -/
theorem shares_length : (shares totalAmount allocated signerRatios).length = signerRatios.length := by
  induction signerRatios generalizing allocated with
  | nil => rfl
  | cons entry rest ih =>
      cases rest with
      | nil => rfl
      | cons next rest => exact congrArg Nat.succ ih

/-- Where the portions fit into the total, no share is below zero. -/
theorem shares_nonneg (nonneg : 0 ≤ totalAmount)
    (fits : allocated + (signerRatios.map fun entry => totalAmount * entry.2 / 10000).sum ≤
      totalAmount) :
    ∀ share ∈ (shares totalAmount allocated signerRatios).map Prod.snd, 0 ≤ share := by
  induction signerRatios generalizing allocated with
  | nil => exact List.forall_mem_nil _
  | cons entry rest ih =>
      obtain ⟨signer, bps⟩ := entry
      have portion_nonneg := floor_nonneg nonneg bps
      rw [List.map_cons, List.sum_cons, ← add_assoc] at fits
      cases rest with
      | nil =>
          rw [List.map_nil, List.sum_nil, add_zero] at fits
          intro share listed
          rw [List.mem_singleton.mp (listed : share ∈ [totalAmount - allocated])]
          exact sub_nonneg.mpr ((le_add_of_nonneg_right portion_nonneg).trans fits)
      | cons next rest =>
          rw [← portion_eq_floor nonneg] at fits portion_nonneg
          exact List.forall_mem_cons.mpr ⟨portion_nonneg, ih fits⟩

end Shares

/-! ## Calls that go through -/

/-- The shares make up the total, none exceeds it, every one but the last is rounded down, and
where the basis points make up the whole the last is its own share and less than a unit for each
of the others. -/
structure Divides (totalAmount : I128) (signerRatios : List (Address × U32))
    (individualShares : Book Address) : Prop where
  sum : (individualShares.map Prod.snd).sum = totalAmount
  length : individualShares.length = signerRatios.length
  within : ∀ entry ∈ individualShares, 0 ≤ entry.2 ∧ entry.2 ≤ totalAmount
  others : ∀ (earlier : List (Address × U32)) (signer : Address) (bps : U32),
    signerRatios = earlier ++ [(signer, bps)] →
    ∃ last, individualShares = earlier.map (floored totalAmount) ++ [(signer, last)] ∧
      ((signerRatios.map Prod.snd).sum = 10000 →
        totalAmount * bps / 10000 ≤ last ∧
          last ≤ totalAmount * bps / 10000 + (signerRatios.length - 1 : Int))

theorem sumU32_eq_some {values : List U32} {start total : U32}
    (summed : values.foldlM addU32 start = some total) : start + values.sum = total := by
  induction values generalizing start with
  | nil =>
      cases summed
      rfl
  | cons value rest ih =>
      rw [List.foldlM_cons] at summed
      obtain ⟨next, added, later⟩ := Option.bind_eq_some_iff.mp summed
      obtain ⟨_, rfl⟩ := Checked.upTo_eq_some.mp added
      rw [List.sum_cons, ← add_assoc]
      exact ih later

section Calls

variable {before after : DustAccounting} {totalAmount : I128}
  {signerRatios : List (Address × U32)} {leaseId : U64} {result : MultiSignerDustResult}

/-- What a refund that goes through has checked, and what it returns. -/
structure Refunded (totalAmount : I128) (signerRatios : List (Address × U32))
    (result : MultiSignerDustResult) : Prop where
  nonneg : 0 ≤ totalAmount
  bps_le : (signerRatios.map Prod.snd).sum ≤ 10000
  shares : result.individualShares = shares totalAmount 0 signerRatios
  sum : (result.individualShares.map Prod.snd).sum = totalAmount
  dust : result.dustAmount = 0

theorem sumFrom_sum {low high start total : Int} {amounts : List Int}
    (summed : Book.sumFrom low high start amounts = some total) : start + amounts.sum = total := by
  induction amounts generalizing start with
  | nil =>
      cases summed
      rw [List.sum_nil, add_zero]
  | cons amount rest ih =>
      obtain ⟨next, added, later⟩ := Option.bind_eq_some_iff.mp summed
      obtain ⟨_, rfl⟩ := Checked.within_eq_some.mp added
      rw [List.sum_cons, ← add_assoc]
      exact ih later

theorem multiSigner_refunded
    (run : Commits (calculateMultiSignerDust totalAmount signerRatios leaseId) before result
      after) : Refunded totalAmount signerRatios result := by
  simp [calculateMultiSignerDust, compute, safely] at run
  obtain ⟨nonneg, totalBps, bpsSummed, bps_le, split, middle, divided, summed, _, _, _, _, _,
    rfl⟩ := run
  obtain ⟨_, listed, dust⟩ := splitShares_commits divided
  have bps := sumU32_eq_some bpsSummed
  rw [Nat.zero_add] at bps
  constructor
  · exact nonneg
  · rw [bps]
    exact bps_le
  · exact listed
  · have sum := sumFrom_sum summed
    rw [zero_add] at sum
    exact sum
  · exact dust

/-- The last signer is left its own share and less than a unit for each of the others. -/
theorem last_bounds (totalAmount : I128)
    {earlier : List (Address × U32)} {signer : Address} {bps : U32}
    (split : signerRatios = earlier ++ [(signer, bps)])
    (whole : (signerRatios.map Prod.snd).sum = 10000) :
    totalAmount * bps / 10000 ≤
        totalAmount - (earlier.map fun entry => totalAmount * entry.2 / 10000).sum ∧
      totalAmount - (earlier.map fun entry => totalAmount * entry.2 / 10000).sum ≤
        totalAmount * bps / 10000 + (signerRatios.length - 1 : Int) := by
  have parts : (earlier.map fun entry => (entry.2 : Int)).sum + bps = 10000 := by
    rw [split, List.map_append, List.sum_append] at whole
    rw [sum_ratios]
    exact_mod_cast whole
  have bears : ((earlier.map fun entry => (entry.2 : Int)).sum + bps) * totalAmount =
      totalAmount * 10000 := by
    rw [parts, mul_comm]
  have left := Proportion.left_of_shares (by decide : (0 : Int) < 10000) bears
  have length : (signerRatios.length - 1 : Int) = earlier.length := by
    rw [split, List.length_append, List.length_singleton, Nat.cast_add, Nat.cast_one]
    exact add_sub_cancel_right _ _
  rw [← floors_eq_shares, Proportion.share, mul_comm (bps : Int), List.length_map] at left
  rw [length]
  exact left

/-- Each share lies between nothing and the total. -/
theorem Refunded.within (refunded : Refunded totalAmount signerRatios result)
    {entry : Address × I128} (listed : entry ∈ result.individualShares) :
    0 ≤ entry.2 ∧ entry.2 ≤ totalAmount := by
  have taken_le := sum_floors_le refunded.nonneg refunded.bps_le
  have each_nonneg := @shares_nonneg totalAmount 0 signerRatios refunded.nonneg
    ((zero_add _).trans_le taken_le)
  rw [← refunded.shares] at each_nonneg
  have member := List.mem_map_of_mem (f := Prod.snd) listed
  have share_le := List.single_le_sum each_nonneg entry.2 member
  rw [refunded.sum] at share_le
  exact ⟨each_nonneg entry.2 member, share_le⟩

/-- A refund that goes through loses nothing. -/
theorem multiSigner_divides
    (run : Commits (calculateMultiSignerDust totalAmount signerRatios leaseId) before result
      after) : Divides totalAmount signerRatios result.individualShares := by
  have refunded := multiSigner_refunded run
  constructor
  · exact refunded.sum
  · rw [refunded.shares]
    exact shares_length
  · intro entry listed
    exact refunded.within listed
  · intro earlier signer bps split
    refine ⟨_, ?_, last_bounds totalAmount split⟩
    rw [refunded.shares, split]
    exact shares_append_of_nonneg refunded.nonneg earlier signer bps

end Calls

/-- A third each of ten units, with one address twice. -/
def thirds : List (Address × U32) :=
  [(⟨1⟩, 3333), (⟨2⟩, 3333), (⟨1⟩, 3334)]

theorem thirds_divide : Divides 10 thirds [(⟨1⟩, 3), (⟨2⟩, 3), (⟨1⟩, 4)] :=
  multiSigner_divides
    (rfl : Commits (calculateMultiSignerDust 10 thirds 7) DustAccounting.new
      ⟨[(⟨1⟩, 3), (⟨2⟩, 3), (⟨1⟩, 4)], 0, 7, true⟩
      { DustAccounting.new with leaseDust := [(7, 0)], dustOperations := 1 })

end LeaseFlow.Dust
