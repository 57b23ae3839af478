import LeaseFlow.Dust.Shares

/-!
# Dust that is tracked and recovered

A refund reports no dust of its own, so that its report is right where nothing is rounded.  A
recovery looks at the first entry of its lease, so that it reaches all of the dust where the
entries after it are empty.
-/

set_option autoImplicit false

namespace LeaseFlow.Dust

open Transaction DustAccounting Run

/-! ## What is tracked for a lease -/

/-- The dust an operation reports, nothing where it fails. -/
def reportedDust {α : Type} (dustAmount : α → I128) (body : Body α) (self : DustAccounting) :
    I128 :=
  match body.execute self with
  | (.ok result, _) => dustAmount result
  | (.error _, _) => 0

/-- The reported dust of a lease goes up by what is reported and down by what is recovered. -/
def Call.trackDust (leaseId : U64) : Call → DustAccounting → Int → Int
  | .multiSigner totalAmount signerRatios lease, self, tracked =>
      tracked + Book.amountFor leaseId (lease, reportedDust MultiSignerDustResult.dustAmount
        (calculateMultiSignerDust totalAmount signerRatios lease) self)
  | .partialSettlement totalAvailable settlementAmounts lease, self, tracked =>
      tracked + Book.amountFor leaseId (lease, reportedDust PartialSettlementDustResult.dustAmount
        (calculatePartialSettlementDust totalAvailable settlementAmounts lease) self)
  | .recovery lease amount, _, tracked => tracked - Book.amountFor leaseId (lease, amount)

/-- The dust tracked for a lease by the calls so far, less what they recovered for it. -/
def trackedDust (leaseId : U64) (calls : List Call) : Int :=
  (run (annotate step (Call.trackDust leaseId)) calls (DustAccounting.new, 0)).2

theorem reportedDust_of_commits {α : Type} {dustAmount : α → I128} {body : Body α}
    {self after : DustAccounting} {result : α} (ran : Commits body self result after) :
    reportedDust dustAmount body self = dustAmount result := by
  rw [reportedDust, ran]

/-- The tracked dust of a lease is the balance of its entries. -/
structure Tracks (leaseId : U64) (state : DustAccounting × Int) : Prop where
  booked : state.1.Booked
  recovered_nonneg : 0 ≤ state.1.dustRecovered
  tracked : state.2 = Book.balanceOf leaseId state.1.leaseDust

theorem new_tracks (leaseId : U64) : Tracks leaseId (DustAccounting.new, 0) where
  booked := new_booked
  recovered_nonneg := Int.le_refl 0
  tracked := rfl

section Tracks

variable {leaseId : U64} {self : DustAccounting} {tracked : Int}

theorem balanceOf_entered (lease : U64) (dust : I128)
    (tracks : tracked = Book.balanceOf leaseId self.leaseDust) :
    tracked + Book.amountFor leaseId (lease, dust) =
      Book.balanceOf leaseId (self.leaseDust ++ [(lease, dust)]) := by
  rw [Book.balanceOf_append, Book.balanceOf_singleton, tracks]

theorem tracks_step {call : Call} (succeeds : call.body.succeeds self = true)
    (tracks : Tracks leaseId (self, tracked)) :
    Tracks leaseId (annotate step (Call.trackDust leaseId) call (self, tracked)) := by
  have booked := (entered succeeds).booked tracks.booked
  have run := step_commits succeeds
  have recovered := tracks.recovered_nonneg
  have balanced := tracks.tracked
  cases call with
  | multiSigner totalAmount signerRatios lease =>
      have whole := run
      simp only [Call.body, commits_bind, commits_pure] at whole
      obtain ⟨result, _, refunded, _, same⟩ := whole
      obtain ⟨operations, written⟩ := multiSigner_commits refunded
      rw [← same] at written
      have reported : reportedDust MultiSignerDustResult.dustAmount
          (calculateMultiSignerDust totalAmount signerRatios lease) self = 0 :=
        (reportedDust_of_commits refunded).trans (multiSigner_refunded refunded).dust
      constructor
      · exact booked
      · show 0 ≤ (step (.multiSigner totalAmount signerRatios lease) self).dustRecovered
        rw [written]
        exact recovered
      · show tracked + Book.amountFor leaseId (lease, _) =
          Book.balanceOf leaseId (step (.multiSigner totalAmount signerRatios lease) self).leaseDust
        rw [written, reported]
        exact balanceOf_entered lease 0 balanced
  | partialSettlement totalAvailable settlementAmounts lease =>
      have whole := run
      simp only [Call.body, commits_bind, commits_pure] at whole
      obtain ⟨result, _, settled, _, same⟩ := whole
      obtain ⟨_, _, operations, written⟩ := partialSettlement_commits settled
      rw [← same] at written
      have reported := @reportedDust_of_commits _ PartialSettlementDustResult.dustAmount _ _ _ _
        settled
      constructor
      · exact booked
      · show 0 ≤ (step (.partialSettlement totalAvailable settlementAmounts lease)
          self).dustRecovered
        rw [written]
        exact recovered
      · show tracked + Book.amountFor leaseId (lease, _) = Book.balanceOf leaseId
          (step (.partialSettlement totalAvailable settlementAmounts lease) self).leaseDust
        rw [written, reported]
        exact balanceOf_entered lease _ balanced
  | recovery lease amount =>
      obtain ⟨nonneg, leaseDust, written, _, moved, _⟩ := recovery_commits run
      constructor
      · exact booked
      · show 0 ≤ (step (.recovery lease amount) self).dustRecovered
        rw [written]
        exact add_nonneg recovered nonneg
      · show tracked - Book.amountFor leaseId (lease, amount) =
          Book.balanceOf leaseId (step (.recovery lease amount) self).leaseDust
        rw [written, moved leaseId]
        exact congrArg (· - Book.amountFor leaseId (lease, amount)) balanced

theorem tracks_run {calls : List Call}
    (succeed : MeetsAlong step (fun call self => call.body.succeeds self = true) calls
      DustAccounting.new) (leaseId : U64) :
    Tracks leaseId (run step calls DustAccounting.new, trackedDust leaseId calls) := by
  have beside := (@meetsAlong_annotate _ _ _ _ (Call.trackDust leaseId) _ calls
    (DustAccounting.new, 0)).mpr succeed
  have tracks := invariant_along (fun call state => tracks_step) beside (new_tracks leaseId)
  have same := @run_annotate_fst _ _ step _ (Call.trackDust leaseId) calls (DustAccounting.new, 0)
  rw [← same]
  exact tracks

/-! ## What can be recovered -/

theorem entry_le_total (booked : self.Booked) {dust : I128} {rest : List I128}
    (entries : Book.amounts leaseId self.leaseDust = dust :: rest) : dust ≤ self.totalDust := by
  obtain ⟨index, _, stored⟩ := Book.found_of_amounts entries
  rw [booked.total]
  apply List.single_le_sum
  · intro amount listed
    obtain ⟨entry, within, rfl⟩ := List.mem_map.mp listed
    exact booked.leases entry within
  · exact List.mem_map_of_mem (List.mem_of_getElem? stored)

/-- A recovery goes through where the first entry of the lease has enough and the sum of what was
recovered has room. -/
theorem recovery_succeeds_iff (booked : self.Booked) (recovered_nonneg : 0 ≤ self.dustRecovered)
    (leaseId : U64) (amount : I128) :
    (recoverDust leaseId amount).succeeds self = true ↔
      0 ≤ amount ∧ ∃ dust rest, Book.amounts leaseId self.leaseDust = dust :: rest ∧
        amount ≤ dust ∧ self.dustRecovered + amount ≤ i128Max := by
  have minimum : i128Min ≤ 0 := by decide
  constructor
  · intro succeeds
    obtain ⟨_, after, run⟩ := succeeds_iff.mp succeeds
    simp [recoverDust, compute, safely] at run
    obtain ⟨nonneg, index, found, lease, dust, stored, within, totalDust, _, recovered, raised,
      _⟩ := run
    obtain ⟨_, rest, entries⟩ := Book.amounts_of_found found stored
    obtain ⟨fits, _⟩ := Checked.within_eq_some.mp raised
    exact ⟨nonneg, dust, rest, entries, within, fits.2⟩
  · intro recoverable
    obtain ⟨nonneg, dust, rest, entries, within, fits⟩ := recoverable
    obtain ⟨index, found, stored⟩ := Book.found_of_amounts entries
    have dust_le := entry_le_total booked entries
    have bounded := booked.bounded
    have lowered : subI128 self.totalDust amount = some (self.totalDust - amount) := by
      apply Checked.within_eq_some.mpr
      exact ⟨⟨by linarith, by linarith⟩, rfl⟩
    have raised : addI128 self.dustRecovered amount = some (self.dustRecovered + amount) := by
      apply Checked.within_eq_some.mpr
      exact ⟨⟨by linarith, fits⟩, rfl⟩
    have left : subI128 dust amount = some (dust - amount) := by
      apply Checked.within_eq_some.mpr
      exact ⟨⟨by linarith, by linarith⟩, rfl⟩
    unfold Transaction.succeeds
    rw [recoverDust, execute_ensure_bind nonneg, execute_get_bind, execute_fetch_bind found]
    simp only [compute, safely]
    rw [execute_fetch_bind stored, execute_ensure_bind within, execute_fetch_bind lowered,
      execute_modify_bind, execute_fetch_bind raised, execute_modify_bind,
      execute_fetch_bind left]
    by_cases emptied : dust - amount = 0
    · rw [if_pos emptied]
      rfl
    · rw [if_neg emptied]
      rfl

/-- The lease has an entry, what is entered after it is empty, and the sum of what was recovered
has room for it. -/
def DustAccounting.RecoversFrom (leaseId : U64) (self : DustAccounting) : Prop :=
  ∃ dust rest, Book.amounts leaseId self.leaseDust = dust :: rest ∧
    (∀ later ∈ rest, later = 0) ∧ self.dustRecovered + dust ≤ i128Max

theorem recovers_iff (tracks : Tracks leaseId (self, tracked)) :
    (∀ amount, (recoverDust leaseId amount).succeeds self = true ↔
      0 ≤ amount ∧ amount ≤ tracked) ↔ self.RecoversFrom leaseId := by
  have nonneg : ∀ amount ∈ Book.amounts leaseId self.leaseDust, 0 ≤ amount :=
    Book.amounts_nonneg tracks.booked.leases
  have balanced : tracked = (Book.amounts leaseId self.leaseDust).sum :=
    tracks.tracked.trans (Book.balanceOf_eq_sum leaseId self.leaseDust)
  have decided := recovery_succeeds_iff tracks.booked tracks.recovered_nonneg leaseId
  constructor
  · intro recovers
    have tracked_nonneg : 0 ≤ tracked := by
      rw [balanced]
      exact List.sum_nonneg nonneg
    obtain ⟨_, dust, rest, entries, within, fits⟩ :=
      (decided tracked).mp ((recovers tracked).mpr ⟨tracked_nonneg, Int.le_refl _⟩)
    rw [entries, List.sum_cons] at balanced
    rw [entries] at nonneg
    obtain ⟨_, others⟩ := List.forall_mem_cons.mp nonneg
    have rest_nonneg := List.sum_nonneg others
    have rest_zero : rest.sum = 0 := by linarith
    have same : tracked = dust := by linarith
    refine ⟨dust, rest, entries, ?_, same ▸ fits⟩
    intro later listed
    have later_le := List.single_le_sum others later listed
    exact le_antisymm (later_le.trans rest_zero.le) (others later listed)
  · intro recovers amount
    obtain ⟨dust, rest, entries, empty, fits⟩ := recovers
    have rest_zero : rest.sum = 0 := List.sum_eq_zero empty
    rw [entries, List.sum_cons, rest_zero, add_zero] at balanced
    rw [decided amount, balanced]
    constructor
    · intro recoverable
      obtain ⟨amount_nonneg, first, others, same, within, _⟩ := recoverable
      rw [entries] at same
      rw [List.head_eq_of_cons_eq same]
      exact ⟨amount_nonneg, within⟩
    · intro within
      exact ⟨within.1, dust, rest, entries, within.2,
        (add_le_add_right within.2 _).trans fits⟩

end Tracks

/-! ## What refunds report -/

/-- A refund reports what the shares of all signers, each rounded down, leave of the total. -/
def Call.ReportsDust : Call → DustAccounting → Prop
  | .multiSigner totalAmount signerRatios leaseId, self =>
      ∀ result after,
        Commits (calculateMultiSignerDust totalAmount signerRatios leaseId) self result after →
        result.dustAmount =
          totalAmount - (signerRatios.map fun entry => totalAmount * entry.2 / 10000).sum
  | .partialSettlement _ _ _, _ => True
  | .recovery _ _, _ => True

/-- The signers share all of the total, and nothing of it is rounded. -/
def Call.Unrounded : Call → Prop
  | .multiSigner totalAmount signerRatios _ =>
      (totalAmount = 0 ∨ (signerRatios.map Prod.snd).sum = 10000) ∧
        ∀ entry ∈ signerRatios, 10000 ∣ totalAmount * entry.2
  | .partialSettlement _ _ _ => True
  | .recovery _ _ => True

section Reports

variable {totalAmount : I128} {signerRatios : List (Address × U32)}

theorem sum_floors_eq_iff (nonneg : 0 ≤ totalAmount)
    (bps_le : (signerRatios.map Prod.snd).sum ≤ 10000) :
    (signerRatios.map fun entry => totalAmount * entry.2 / 10000).sum = totalAmount ↔
      (totalAmount = 0 ∨ (signerRatios.map Prod.snd).sum = 10000) ∧
        ∀ entry ∈ signerRatios, 10000 ∣ totalAmount * entry.2 := by
  rw [floors_eq_shares, Proportion.sum_shares_eq_iff (by decide) (ratios_bear nonneg bps_le)]
  apply and_congr
  · have cast : (((signerRatios.map Prod.snd).sum : Nat) : Int) = 10000 ↔
        (signerRatios.map Prod.snd).sum = 10000 := by norm_cast
    rw [mul_comm totalAmount 10000, mul_eq_mul_right_iff, sum_ratios, or_comm, cast]
  · rw [List.forall_mem_map]
    apply forall₂_congr
    intro entry _
    rw [mul_comm]

theorem reportsDust_iff {call : Call} {self : DustAccounting}
    (succeeds : call.body.succeeds self = true) : call.ReportsDust self ↔ call.Unrounded := by
  cases call with
  | multiSigner totalAmount signerRatios leaseId =>
      have run := step_commits succeeds
      simp only [Call.body, commits_bind, commits_pure] at run
      obtain ⟨result, middle, refunded, _⟩ := run
      have facts := multiSigner_refunded refunded
      show (∀ result after, _ → _) ↔ (_ ∧ _)
      rw [← sum_floors_eq_iff facts.nonneg facts.bps_le]
      constructor
      · intro reports
        have reported := reports result middle refunded
        rw [facts.dust] at reported
        exact (sub_eq_zero.mp reported.symm).symm
      · intro whole result after run
        rw [(multiSigner_refunded run).dust, whole, sub_self]
  | partialSettlement totalAvailable settlementAmounts leaseId => exact Iff.rfl
  | recovery leaseId amount => exact Iff.rfl

end Reports

/-- After successful calls the reports are right and a lease's dust can be recovered in full
exactly when no refund was rounded and the lease has an entry that holds all of its dust, which
the sum of what was recovered has room for. -/
theorem dust_exact_iff {calls : List Call}
    (succeed : MeetsAlong step (fun call self => call.body.succeeds self = true) calls
      DustAccounting.new) (leaseId : U64) :
    (MeetsAlong step Call.ReportsDust calls DustAccounting.new ∧
      ∀ amount, (recoverDust leaseId amount).succeeds (run step calls DustAccounting.new) = true ↔
        0 ≤ amount ∧ amount ≤ trackedDust leaseId calls) ↔
    MeetsAlong step (fun call _ => call.Unrounded) calls DustAccounting.new ∧
      (run step calls DustAccounting.new).RecoversFrom leaseId := by
  apply and_congr
  · apply @meetsAlong_iff_given _ _ step (fun call self => call.body.succeeds self = true)
      (fun _ => True) (fun _ => True)
    · intro _ _ _ _
      trivial
    · intro call self succeeds _ _
      exact reportsDust_iff succeeds
    · intro _ _ _ _ _ _
      trivial
    · exact succeed
    · trivial
    · trivial
  · exact recovers_iff (tracks_run succeed leaseId)

/-- Two settlements of a lease, which leave 40 and then nothing. -/
def settledTwice : List Call :=
  [.partialSettlement 100 [60] 1, .partialSettlement 50 [50] 1]

theorem settledTwice_exact_iff :
    (MeetsAlong step Call.ReportsDust settledTwice DustAccounting.new ∧
      ∀ amount, (recoverDust 1 amount).succeeds (run step settledTwice DustAccounting.new) = true ↔
        0 ≤ amount ∧ amount ≤ trackedDust 1 settledTwice) ↔
    MeetsAlong step (fun call _ => call.Unrounded) settledTwice DustAccounting.new ∧
      (run step settledTwice DustAccounting.new).RecoversFrom 1 := by
  have succeed : MeetsAlong step (fun call self => call.body.succeeds self = true) settledTwice
      DustAccounting.new := ⟨rfl, rfl, trivial⟩
  exact dust_exact_iff succeed 1

/-- A refund of ten units to three signers, and a settlement of their lease that leaves 40. -/
def refundThenSettlement : List Call :=
  [.multiSigner 10 [(⟨1⟩, 3333), (⟨2⟩, 3333), (⟨3⟩, 3334)] 1, .partialSettlement 100 [60] 1]

/-- The refund reports nothing of the unit its shares lose, and its empty entry hides the 40 units
entered after it. -/
theorem refund_then_settlement_not_exact :
    ¬ ∀ calls, MeetsAlong step (fun call self => call.body.succeeds self = true) calls
        DustAccounting.new →
      ∀ leaseId, MeetsAlong step Call.ReportsDust calls DustAccounting.new ∧
        ∀ amount,
          (recoverDust leaseId amount).succeeds (run step calls DustAccounting.new) = true ↔
            0 ≤ amount ∧ amount ≤ trackedDust leaseId calls := by
  intro exact'
  have succeed : MeetsAlong step (fun call self => call.body.succeeds self = true)
      refundThenSettlement DustAccounting.new := ⟨rfl, rfl, trivial⟩
  have recovers := (exact' refundThenSettlement succeed 1).2 40
  have fails : (recoverDust 1 40).succeeds (run step refundThenSettlement DustAccounting.new) =
      false := rfl
  have went := recovers.mpr (by decide)
  rw [fails] at went
  cases went

end LeaseFlow.Dust
