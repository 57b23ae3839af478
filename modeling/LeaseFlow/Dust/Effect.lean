import LeaseFlow.Dust.Accounting
import LeaseFlow.Foundations.Proportion

/-!
# What a successful call writes

A refund enters no dust for its lease: every share but the last is compared with itself.  What it
can enter is dust of its signers, where an address is listed again and gets less than its first
entry is due.
-/

set_option autoImplicit false

namespace LeaseFlow.Dust

open Transaction DustAccounting

/-! ## Shares -/

/-- What the basis points make of a total. -/
def portion (totalAmount : I128) (bps : U32) : I128 :=
  (totalAmount * bps).tdiv 10000

/-- The shares of a refund of which some is allocated. -/
def shares (totalAmount : I128) : I128 → List (Address × U32) → Book Address
  | _, [] => []
  | allocated, [(signer, _)] => [(signer, totalAmount - allocated)]
  | allocated, (signer, bps) :: next :: rest =>
      (signer, portion totalAmount bps) ::
        shares totalAmount (allocated + portion totalAmount bps) (next :: rest)

/-- What the first entry of a signer is due. -/
def due (totalAmount : I128) (signerRatios : List (Address × U32)) (signer : Address) : I128 :=
  portion totalAmount ((firstRatio signerRatios signer).getD 0)

/-- The shares that fall short of what the first entry of their signer is due, and by how much. -/
def shortfalls (totalAmount : I128) (signerRatios : List (Address × U32)) :
    Book Address → Book Address
  | [] => []
  | (signer, share) :: rest =>
      if 0 < due totalAmount signerRatios signer - share then
        (signer, due totalAmount signerRatios signer - share) ::
          shortfalls totalAmount signerRatios rest
      else
        shortfalls totalAmount signerRatios rest

theorem shortfalls_nonneg (totalAmount : I128) (signerRatios : List (Address × U32))
    (listed : Book Address) : (shortfalls totalAmount signerRatios listed).Nonneg := by
  induction listed with
  | nil => exact Book.nonneg_nil
  | cons entry rest ih =>
      unfold shortfalls
      split
      · next short =>
          exact (Book.nonneg_singleton short.le).append ih
      · exact ih

section Refund

variable {before after : DustAccounting} {totalAmount : I128}

/-- A split that goes through gives the shares and tracks no dust. -/
theorem splitShares_commits {signerRatios : List (Address × U32)} {split result : Split}
    (run : Commits (splitShares totalAmount signerRatios split) before result after) :
    after = before ∧
      result.individualShares =
        split.individualShares ++ shares totalAmount split.allocatedAmount signerRatios ∧
      result.dustForLease = split.dustForLease := by
  induction signerRatios generalizing split with
  | nil =>
      obtain ⟨rfl, rfl⟩ := (commits_pure _ _).mp run
      exact ⟨rfl, (List.append_nil _).symm, rfl⟩
  | cons entry rest ih =>
      obtain ⟨signer, bps⟩ := entry
      cases rest with
      | nil =>
          simp only [splitShares, compute, safely, commits_bind, commits_fetch, commits_pure] at run
          obtain ⟨share, _, ⟨shared, rfl⟩, allocated, _, ⟨_, rfl⟩, rfl, rfl⟩ := run
          obtain ⟨_, rfl⟩ := Checked.within_eq_some.mp shared
          exact ⟨rfl, rfl, rfl⟩
      | cons next rest =>
          simp only [splitShares, compute, safely, commits_bind, commits_fetch] at run
          obtain ⟨raw, _, ⟨product, rfl⟩, allocated, _, ⟨added, rfl⟩, again, _, ⟨same, rfl⟩,
            diff, _, ⟨subtracted, rfl⟩, dust, _, ⟨tracked, rfl⟩, later⟩ := run
          obtain ⟨_, rfl⟩ := Checked.within_eq_some.mp product
          obtain ⟨_, rfl⟩ := Checked.within_eq_some.mp same
          obtain ⟨_, rfl⟩ := Checked.within_eq_some.mp added
          obtain ⟨_, rfl⟩ := Checked.within_eq_some.mp subtracted
          obtain ⟨_, rfl⟩ := Checked.within_eq_some.mp tracked
          obtain ⟨kept, listed, dust⟩ := ih later
          refine ⟨kept, ?_, ?_⟩
          · rw [listed, List.append_assoc]
            rfl
          · rw [dust, sub_self, add_zero]

theorem trackSigners_commits {signerRatios : List (Address × U32)} {listed : Book Address}
    (run : Commits (trackSigners totalAmount signerRatios listed) before () after) :
    after = { before with
      signerDust := before.signerDust ++ shortfalls totalAmount signerRatios listed } := by
  induction listed generalizing before with
  | nil =>
      obtain ⟨_, rfl⟩ := (commits_pure _ _).mp run
      rw [shortfalls, List.append_nil]
  | cons entry rest ih =>
      obtain ⟨signer, share⟩ := entry
      simp only [trackSigners, compute, safely, commits_bind, commits_fetch, commits_ite,
        commits_modify] at run
      obtain ⟨bps, _, ⟨found, rfl⟩, raw, _, ⟨product, rfl⟩, dust, _, ⟨subtracted, rfl⟩, later⟩ :=
        run
      obtain ⟨_, rfl⟩ := Checked.within_eq_some.mp product
      obtain ⟨_, rfl⟩ := Checked.within_eq_some.mp subtracted
      have expected : due totalAmount signerRatios signer = (totalAmount * bps).tdiv 10000 := by
        rw [due, found]
        rfl
      rw [← expected] at later
      unfold shortfalls
      by_cases short : due totalAmount signerRatios signer - share > 0
      · rw [if_pos short] at later
        obtain ⟨_, _, rfl, rest⟩ := later
        rw [if_pos short, ih rest, enterSigner, List.append_assoc]
        rfl
      · rw [if_neg short] at later
        rw [if_neg short, ih later]

end Refund

/-! ## Calls -/

section Calls

variable {before after : DustAccounting} {leaseId : U64}

theorem multiSigner_commits {totalAmount : I128} {signerRatios : List (Address × U32)}
    {result : MultiSignerDustResult}
    (run : Commits (calculateMultiSignerDust totalAmount signerRatios leaseId) before result
      after) :
    ∃ dustOperations, after = { before with
      leaseDust := before.leaseDust ++ [(leaseId, 0)]
      signerDust := before.signerDust ++
        shortfalls totalAmount signerRatios (shares totalAmount 0 signerRatios)
      dustOperations } := by
  simp [calculateMultiSignerDust, compute, safely] at run
  obtain ⟨_, _, _, _, split, middle, divided, _, totalDust, added, operations, _, ⟨_, tracked⟩, _⟩ :=
    run
  obtain ⟨rfl, listed, dust⟩ := splitShares_commits divided
  obtain ⟨_, rfl⟩ := Checked.within_eq_some.mp added
  rw [trackSigners_commits tracked, listed, dust]
  refine ⟨operations, ?_⟩
  rw [putOperations, enterLease, putTotal, add_zero]
  rfl

theorem rejectNegative_commits {amounts : List I128}
    (run : Commits (rejectNegative amounts) before () after) :
    after = before ∧ ∀ amount ∈ amounts, 0 ≤ amount := by
  induction amounts with
  | nil =>
      obtain ⟨_, rfl⟩ := (commits_pure _ _).mp run
      exact ⟨rfl, fun _ listed => absurd listed List.not_mem_nil⟩
  | cons amount rest ih =>
      simp only [rejectNegative, commits_bind, commits_ensure] at run
      obtain ⟨_, _, ⟨nonneg, rfl⟩, later⟩ := run
      obtain ⟨kept, others⟩ := ih later
      exact ⟨kept, List.forall_mem_cons.mpr ⟨nonneg, others⟩⟩

theorem partialSettlement_commits {totalAvailable : I128} {settlementAmounts : List I128}
    {result : PartialSettlementDustResult}
    (run : Commits (calculatePartialSettlementDust totalAvailable settlementAmounts leaseId) before
      result after) :
    0 ≤ result.dustAmount ∧ before.totalDust + result.dustAmount ≤ i128Max ∧
    ∃ dustOperations, after = { before with
      totalDust := before.totalDust + result.dustAmount
      leaseDust := before.leaseDust ++ [(leaseId, result.dustAmount)]
      dustOperations } := by
  simp [calculatePartialSettlementDust, compute, safely] at run
  obtain ⟨_, _, middle, checked, total, _, within, dust, left, totalDust, added, operations, _, rfl,
    rfl⟩ := run
  obtain ⟨rfl, _⟩ := rejectNegative_commits checked
  obtain ⟨_, rfl⟩ := Checked.within_eq_some.mp left
  obtain ⟨fits, rfl⟩ := Checked.within_eq_some.mp added
  exact ⟨sub_nonneg.mpr within, fits.2, operations, rfl⟩

theorem recovery_commits {amount : I128}
    (run : Commits (recoverDust leaseId amount) before () after) :
    0 ≤ amount ∧ ∃ leaseDust, after = { before with
      totalDust := before.totalDust - amount
      leaseDust
      dustRecovered := before.dustRecovered + amount } ∧
    Book.balance leaseDust = Book.balance before.leaseDust - amount ∧
    (∀ other, Book.balanceOf other leaseDust =
      Book.balanceOf other before.leaseDust - Book.amountFor other (leaseId, amount)) ∧
    (Book.Nonneg before.leaseDust → Book.Nonneg leaseDust) := by
  simp [recoverDust, compute, safely] at run
  obtain ⟨nonneg, index, _, lease, dust, stored, within, totalDust, lowered, recovered, raised,
    remaining, left, written⟩ := run
  obtain ⟨_, rfl⟩ := Checked.within_eq_some.mp lowered
  obtain ⟨_, rfl⟩ := Checked.within_eq_some.mp raised
  obtain ⟨_, rfl⟩ := Checked.within_eq_some.mp left
  obtain ⟨same, _⟩ := Book.amounts_of_found ‹_› stored
  refine ⟨nonneg, ?_⟩
  by_cases emptied : dust - amount = 0
  · rw [if_pos emptied] at written
    refine ⟨_, written, ?_, ?_, fun leases => Book.Nonneg.eraseIdx leases⟩
    · rw [Book.balance_eraseIdx stored, sub_eq_zero.mp emptied]
    · intro other
      rw [Book.balanceOf, Book.sum_map_eraseIdx _ stored, ← sub_eq_zero.mp emptied, ← same]
      rfl
  · rw [if_neg emptied] at written
    have left_nonneg : 0 ≤ (leaseId, dust - amount).2 := sub_nonneg.mpr within
    refine ⟨_, written, ?_, ?_, fun leases => Book.Nonneg.set leases left_nonneg⟩
    · rw [Book.balance_set stored]
      linarith
    · intro other
      rw [Book.balanceOf, Book.sum_map_set _ stored, Book.balanceOf]
      have split : Book.amountFor other (lease, dust) =
          Book.amountFor other (leaseId, amount) +
            Book.amountFor other (leaseId, dust - amount) := by
        unfold Book.amountFor
        rw [same]
        split <;> linarith
      rw [split]
      linarith

end Calls

end LeaseFlow.Dust
