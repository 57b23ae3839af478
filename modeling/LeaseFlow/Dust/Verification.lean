import LeaseFlow.Dust.Effect

/-!
# When dust accounting verifies itself

The books of leases and of the total agree after every call.  The check compares two things that
do not: what was recovered with what is left after it was taken off, and the dust of signers, to
which refunds add nothing on the side of the total.
-/

set_option autoImplicit false

namespace LeaseFlow.Dust

open Transaction DustAccounting Run

/-! ## The check -/

def DustAccounting.Verifies (self : DustAccounting) : Prop :=
  verifyDustAccounting.succeeds self = true

/-- What successful calls keep: the total is the balance of the leases, and no entry is below
zero. -/
structure DustAccounting.Booked (accounting : DustAccounting) : Prop where
  total : accounting.totalDust = Book.balance accounting.leaseDust
  leases : Book.Nonneg accounting.leaseDust
  signers : Book.Nonneg accounting.signerDust
  bounded : accounting.totalDust ≤ i128Max

theorem new_booked : DustAccounting.new.Booked where
  total := rfl
  leases := Book.nonneg_nil
  signers := Book.nonneg_nil
  bounded := by decide

theorem sumI128_eq_some {κ : Type} {book : Book κ} (nonneg : Book.Nonneg book) {total : I128} :
    sumI128 (book.map Prod.snd) = some total ↔
      Book.balance book ≤ i128Max ∧ Book.balance book = total := by
  have amounts : ∀ amount ∈ book.map Prod.snd, 0 ≤ amount := by
    intro amount listed
    obtain ⟨entry, within, rfl⟩ := List.mem_map.mp listed
    exact nonneg entry within
  have summed := @Book.sumFrom_eq_some i128Min i128Max 0 total _ (by decide) le_rfl (by decide)
    amounts
  rw [zero_add] at summed
  exact summed

/-- Of the four comparisons of the check, two can fail. -/
theorem verifies_iff {self : DustAccounting} (booked : self.Booked) :
    self.Verifies ↔
      self.dustRecovered ≤ self.totalDust ∧ Book.balance self.signerDust ≤ self.totalDust := by
  have total_nonneg : 0 ≤ self.totalDust := by
    rw [booked.total]
    exact Book.balance_nonneg booked.leases
  unfold DustAccounting.Verifies
  rw [succeeds_iff]
  simp only [verifyDustAccounting, compute, commits_bind, commits_get, commits_ensure,
    commits_fetch]
  constructor
  · intro verified
    obtain ⟨_, _, _, _, ⟨rfl, rfl⟩, _, _, ⟨_, rfl⟩, _, _, ⟨recovered, rfl⟩, _, _, ⟨_, rfl⟩, _, _,
      ⟨_, rfl⟩, signerSum, _, ⟨summed, rfl⟩, within, _⟩ := verified
    have signers := ((sumI128_eq_some booked.signers).mp summed).2
    rw [signers]
    exact ⟨recovered, within⟩
  · intro both
    have leases := (sumI128_eq_some booked.leases).mpr
      ⟨booked.total.symm.le.trans booked.bounded, booked.total.symm⟩
    have signers := (sumI128_eq_some booked.signers).mpr
      ⟨both.2.trans booked.bounded, rfl⟩
    exact ⟨(), self, self, self, ⟨rfl, rfl⟩, (), self, ⟨total_nonneg, rfl⟩, (), self,
      ⟨both.1, rfl⟩, _, self, ⟨leases, rfl⟩, (), self, ⟨rfl, rfl⟩, _, self, ⟨signers, rfl⟩,
      both.2, rfl⟩

/-! ## Successful calls -/

/-- What the shares of a refund fall short of what the first entries of their signers are due. -/
def shortage (totalAmount : I128) (signerRatios : List (Address × U32)) : Int :=
  Book.balance (shortfalls totalAmount signerRatios (shares totalAmount 0 signerRatios))

/-! ### Distinct signers -/

section Distinct

variable {totalAmount allocated : I128} {signerRatios rest : List (Address × U32)}

theorem firstRatio_of_distinct (distinct : (signerRatios.map Prod.fst).Nodup)
    {entry : Address × U32} (listed : entry ∈ signerRatios) :
    firstRatio signerRatios entry.1 = some entry.2 := by
  unfold firstRatio
  induction signerRatios with
  | nil => cases listed
  | cons first rest ih =>
      obtain ⟨fresh, others⟩ := List.nodup_cons.mp distinct
      rcases List.mem_cons.mp listed with same | later
      · have found : decide (first.1 = entry.1) = true := by
          rw [same]
          exact decide_eq_true rfl
        simp only [List.find?_cons, found]
        rw [same]
        rfl
      · have differs : ¬ first.1 = entry.1 := fun same =>
          fresh (same ▸ List.mem_map_of_mem later)
        simp only [List.find?_cons, decide_eq_false differs]
        exact ih others later

theorem sum_ratios : (signerRatios.map fun entry => (entry.2 : Int)).sum =
    ((signerRatios.map Prod.snd).sum : Nat) := by
  induction signerRatios with
  | nil => rfl
  | cons entry rest ih =>
      rw [List.map_cons, List.map_cons, List.sum_cons, List.sum_cons, Nat.cast_add, ih]

/-- Ratios of at most the whole bear the total. -/
theorem ratios_bear (nonneg : 0 ≤ totalAmount) (bps_le : (signerRatios.map Prod.snd).sum ≤ 10000) :
    (signerRatios.map fun entry => (entry.2 : Int)).sum * totalAmount ≤ totalAmount * 10000 := by
  have parts_le : (signerRatios.map fun entry => (entry.2 : Int)).sum ≤ 10000 := by
    rw [sum_ratios]
    exact_mod_cast bps_le
  rw [mul_comm]
  exact mul_le_mul_of_nonneg_left parts_le nonneg

theorem portion_eq_floor (nonneg : 0 ≤ totalAmount) (bps : U32) :
    portion totalAmount bps = totalAmount * bps / 10000 :=
  Int.tdiv_eq_ediv_of_nonneg (mul_nonneg nonneg (Int.natCast_nonneg bps))

theorem floors_eq_shares (totalAmount : I128) (earlier : List (Address × U32)) :
    (earlier.map fun entry => totalAmount * entry.2 / 10000) =
      (earlier.map fun entry => (entry.2 : Int)).map (Proportion.share 10000 totalAmount) := by
  rw [List.map_map]
  apply List.map_congr_left
  intro entry _
  rw [mul_comm]
  rfl

theorem sum_floors_le (nonneg : 0 ≤ totalAmount)
    (bps_le : (signerRatios.map Prod.snd).sum ≤ 10000) :
    (signerRatios.map fun entry => totalAmount * entry.2 / 10000).sum ≤ totalAmount := by
  rw [floors_eq_shares]
  exact Proportion.sum_shares_le (by decide) (ratios_bear nonneg bps_le)

/-- Where every signer is due its own entry and the portions fit, no share falls short. -/
theorem shortfalls_eq_nil
    (own : ∀ entry ∈ rest, due totalAmount signerRatios entry.1 = portion totalAmount entry.2)
    (fits : allocated + (rest.map fun entry => portion totalAmount entry.2).sum ≤ totalAmount) :
    shortfalls totalAmount signerRatios (shares totalAmount allocated rest) = [] := by
  induction rest generalizing allocated with
  | nil => rfl
  | cons entry rest ih =>
      obtain ⟨signer, bps⟩ := entry
      have mine : due totalAmount signerRatios signer = portion totalAmount bps :=
        own (signer, bps) (List.mem_cons_self ..)
      have others := fun entry listed => own entry (List.mem_cons_of_mem _ listed)
      rw [List.map_cons, List.sum_cons, ← add_assoc] at fits
      cases rest with
      | nil =>
          rw [List.map_nil, List.sum_nil, add_zero] at fits
          rw [shares, shortfalls, if_neg, shortfalls]
          rw [mine]
          linarith
      | cons next rest =>
          rw [shares, shortfalls, if_neg]
          · exact ih others fits
          · rw [mine, sub_self]
            exact lt_irrefl 0

/-- A refund of distinct signers adds nothing to their dust. -/
theorem shortage_of_distinct (nonneg : 0 ≤ totalAmount)
    (distinct : (signerRatios.map Prod.fst).Nodup)
    (bps_le : (signerRatios.map Prod.snd).sum ≤ 10000) :
    shortage totalAmount signerRatios = 0 := by
  have own : ∀ entry ∈ signerRatios,
      due totalAmount signerRatios entry.1 = portion totalAmount entry.2 := by
    intro entry listed
    rw [due, firstRatio_of_distinct distinct listed]
    rfl
  have fits : (signerRatios.map fun entry => portion totalAmount entry.2).sum ≤ totalAmount := by
    simp only [portion_eq_floor nonneg]
    exact sum_floors_le nonneg bps_le
  rw [shortage, shortfalls_eq_nil own (by rwa [zero_add])]
  rfl

end Distinct

/-- The dust there is covers what the call adds to the dust of signers or to what was recovered. -/
def Call.Covered : Call → DustAccounting → Prop
  | .multiSigner totalAmount signerRatios _, self =>
      Book.balance self.signerDust + shortage totalAmount signerRatios ≤ self.totalDust
  | .partialSettlement _ _ _, _ => True
  | .recovery _ amount, self =>
      self.dustRecovered + amount ≤ self.totalDust - amount ∧
        Book.balance self.signerDust ≤ self.totalDust - amount

section Step

variable {self : DustAccounting}

/-- A call that goes through commits to what the step leaves. -/
theorem step_commits {call : Call} (succeeds : call.body.succeeds self = true) :
    Commits call.body self () (step call self) := by
  obtain ⟨value, after, run⟩ := succeeds_iff.mp succeeds
  have left : step call self = after := by
    rw [step, run]
  rw [left]
  exact run

/-- What a call that goes through does to the books, as far as the check reads them. -/
structure Entered (call : Call) (before after : DustAccounting) : Prop where
  booked : before.Booked → after.Booked
  verifies : before.Verifies → before.Booked → (after.Verifies ↔ call.Covered before)

theorem multiSigner_entered {totalAmount : I128} {signerRatios : List (Address × U32)}
    {leaseId : U64} {after : DustAccounting}
    (run : Commits (Call.multiSigner totalAmount signerRatios leaseId).body self () after) :
    Entered (.multiSigner totalAmount signerRatios leaseId) self after := by
  simp only [Call.body, commits_bind, commits_pure] at run
  obtain ⟨result, _, refunded, _, rfl⟩ := run
  obtain ⟨operations, rfl⟩ := multiSigner_commits refunded
  have kept : self.Booked → DustAccounting.Booked { self with
      leaseDust := self.leaseDust ++ [(leaseId, 0)]
      signerDust := self.signerDust ++
        shortfalls totalAmount signerRatios (shares totalAmount 0 signerRatios)
      dustOperations := operations } := by
    intro booked
    constructor
    · show self.totalDust = Book.balance (self.leaseDust ++ [(leaseId, 0)])
      rw [Book.balance_append, Book.balance_singleton, add_zero]
      exact booked.total
    · exact Book.Nonneg.append booked.leases (Book.nonneg_singleton le_rfl)
    · exact Book.Nonneg.append booked.signers (shortfalls_nonneg _ _ _)
    · exact booked.bounded
  constructor
  · exact kept
  · intro verifies booked
    have recovered := ((verifies_iff booked).mp verifies).1
    rw [verifies_iff (kept booked)]
    show self.dustRecovered ≤ self.totalDust ∧ Book.balance (self.signerDust ++ _) ≤ _ ↔ _
    rw [Book.balance_append]
    exact and_iff_right recovered

theorem partialSettlement_entered {totalAvailable : I128} {settlementAmounts : List I128}
    {leaseId : U64} {after : DustAccounting}
    (run : Commits (Call.partialSettlement totalAvailable settlementAmounts leaseId).body self ()
      after) :
    Entered (.partialSettlement totalAvailable settlementAmounts leaseId) self after := by
  simp only [Call.body, commits_bind, commits_pure] at run
  obtain ⟨result, _, settled, _, rfl⟩ := run
  obtain ⟨nonneg, fits, operations, rfl⟩ := partialSettlement_commits settled
  have kept : self.Booked → DustAccounting.Booked { self with
      totalDust := self.totalDust + result.dustAmount
      leaseDust := self.leaseDust ++ [(leaseId, result.dustAmount)]
      dustOperations := operations } := by
    intro booked
    constructor
    · show self.totalDust + result.dustAmount =
        Book.balance (self.leaseDust ++ [(leaseId, result.dustAmount)])
      rw [Book.balance_append, Book.balance_singleton, booked.total]
    · exact Book.Nonneg.append booked.leases (Book.nonneg_singleton nonneg)
    · exact booked.signers
    · exact fits
  constructor
  · exact kept
  · intro verifies booked
    obtain ⟨recovered, signers⟩ := (verifies_iff booked).mp verifies
    rw [verifies_iff (kept booked)]
    have grows : self.totalDust ≤ self.totalDust + result.dustAmount := le_add_of_nonneg_right nonneg
    exact iff_of_true ⟨recovered.trans grows, signers.trans grows⟩ trivial

theorem recovery_entered {leaseId : U64} {amount : I128} {after : DustAccounting}
    (run : Commits (Call.recovery leaseId amount).body self () after) :
    Entered (.recovery leaseId amount) self after := by
  obtain ⟨nonneg, leaseDust, rfl, balance, _, leases⟩ := recovery_commits run
  have kept : self.Booked → DustAccounting.Booked { self with
      totalDust := self.totalDust - amount
      leaseDust
      dustRecovered := self.dustRecovered + amount } := by
    intro booked
    constructor
    · show self.totalDust - amount = Book.balance leaseDust
      rw [balance, booked.total]
    · exact leases booked.leases
    · exact booked.signers
    · exact (sub_le_self _ nonneg).trans booked.bounded
  constructor
  · exact kept
  · intro _ booked
    exact verifies_iff (kept booked)

theorem entered {call : Call} (succeeds : call.body.succeeds self = true) :
    Entered call self (step call self) := by
  have run := step_commits succeeds
  cases call with
  | multiSigner totalAmount signerRatios leaseId => exact multiSigner_entered run
  | partialSettlement totalAvailable settlementAmounts leaseId =>
      exact partialSettlement_entered run
  | recovery leaseId amount => exact recovery_entered run

end Step

/-! ## Runs -/

theorem new_verifies : DustAccounting.new.Verifies :=
  rfl

/-- Along a run of successful calls the accounting verifies itself in every state exactly when
the dust there is covers every call. -/
theorem verifies_along_iff {calls : List Call}
    (succeed : MeetsAlong step (fun call self => call.body.succeeds self = true) calls
      DustAccounting.new) :
    (∀ earlier, earlier <+: calls → (run step earlier DustAccounting.new).Verifies) ↔
      MeetsAlong step Call.Covered calls DustAccounting.new := by
  apply invariant_along_iff_given _ _ succeed new_booked new_verifies
  · intro call self succeeds booked
    exact (entered succeeds).booked booked
  · intro call self succeeds booked verifies
    exact (entered succeeds).verifies verifies booked

/-- A settlement that leaves 40, of which 20 are recovered. -/
def halfRecovered : List Call :=
  [.partialSettlement 100 [60] 1, .recovery 1 20]

theorem halfRecovered_verifies_iff :
    (∀ earlier, earlier <+: halfRecovered → (run step earlier DustAccounting.new).Verifies) ↔
      MeetsAlong step Call.Covered halfRecovered DustAccounting.new :=
  verifies_along_iff ⟨rfl, rfl, trivial⟩

/-- After all of the dust is recovered nothing is left to compare it with. -/
theorem allRecovered_not_verified :
    ¬ ∀ calls, MeetsAlong step (fun call self => call.body.succeeds self = true) calls
      DustAccounting.new → (run step calls DustAccounting.new).Verifies := by
  intro all
  have verified := all [.partialSettlement 100 [60] 1, .recovery 1 40] ⟨rfl, rfl, trivial⟩
  cases verified

end LeaseFlow.Dust
