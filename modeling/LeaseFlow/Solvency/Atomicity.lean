import LeaseFlow.Solvency.Conservation
import LeaseFlow.Solvency.Passing

/-!
# What a failed call leaves behind

The updates write field by field and check the sums when they are done, so that a call the closing
check turns down has already moved the tracker.
-/

set_option autoImplicit false

namespace LeaseFlow.Solvency

open Transaction EscrowInvariant Run

/-- The call returns an error. -/
def Operation.Fails (operation : Operation) (self : EscrowInvariant) : Prop :=
  ∃ violation, (operation.body.execute self).1 = .error (.err violation)

/-- If the call returns an error, the tracker is as it was before. -/
def Traceless (operation : Operation) (self : EscrowInvariant) : Prop :=
  operation.Fails self → step operation self = self

/-- The call is turned away before its first write, or passes every check after it. -/
def Operation.Clean : Operation → EscrowInvariant → Prop
  | .leaseCreation depositAmount, self =>
      depositAmount < 0 ∨ i128Max < self.totalEscrowed + depositAmount ∨
        u64Max < self.leaseCount + 1 ∨
        ((depositAmount ≤ 1000000 ∨
            self.precisionLossCumulative + depositAmount / 1000000 ≤ i128Max) ∧
          (0 < self.totalEscrowed ∨ 0 < depositAmount))
  | .yieldAccumulation yieldAmount, self =>
      yieldAmount < 0 ∨ self.activeDeposits < yieldAmount ∨
        self.precisionLossCumulative + yieldAmount / 1000000 ≤ i128Max
  | .disputeInitiation _, _ => True
  | .leaseSettlement tenantRefund landlordPayout protocolFee, self =>
      (tenantRefund < 0 ∨ landlordPayout < 0 ∨ protocolFee < 0) ∨
        tenantRefund + landlordPayout + protocolFee ≠ self.totalEscrowed ∨
        self.totalEscrowed = 0 ∨ self.leaseCount ≤ 1
  | .mutualRelease returnAmount slashAmount, self =>
      (returnAmount < 0 ∨ slashAmount < 0) ∨
        returnAmount + slashAmount ≠ self.totalEscrowed ∨ self.leaseCount ≤ 1
  | .partialSlashing slashPercentageBps, self =>
      10000 < slashPercentageBps ∨ i128Max < self.totalEscrowed * slashPercentageBps ∨
        (self.SplitsEvenly slashPercentageBps ∧
          (slashPercentageBps < 10000 ∨ self.leaseCount = 0))

section Traceless

variable {operation : Operation} {self : EscrowInvariant}

/-- An admitted call leaves no trace of a failure exactly when it does not fail. -/
theorem traceless_iff_passes (sound : self.Sound) :
    Traceless operation self ↔
      (operation.Admitted self → ¬ operation.Jams self →
        ¬ operation.Spills self ∧ (operation.target self).Solvent) := by
  unfold Traceless Operation.Fails
  cases outcome sound operation with
  | refused violation turned ran =>
      apply iff_of_true
      · intro _
        rw [step, leftBy, ran]
      · intro admitted
        exact absurd admitted turned
  | jammed after admitted jams ran =>
      apply iff_of_true
      · intro _
        rw [step, leftBy, ran]
      · intro _ counts
        exact absurd jams counts
  | spilt violation after admitted counts spills changed ran =>
      apply iff_of_false
      · intro traceless
        have same := traceless ⟨violation, by rw [ran]⟩
        rw [step, leftBy, ran] at same
        exact changed same
      · intro passes
        exact (passes admitted counts).1 spills
  | checked admitted counts fits ran =>
      by_cases solvent : (operation.target self).Solvent
      · apply iff_of_true
        · intro fails
          obtain ⟨violation, failed⟩ := fails
          rw [ran, verify_of_solvent solvent] at failed
          cases failed
        · intro _ _
          exact ⟨fits, solvent⟩
      · obtain ⟨violation, failed⟩ := verify_of_not_solvent solvent
        rw [failed] at ran
        apply iff_of_false
        · intro traceless
          have moved := traceless ⟨violation, by rw [ran]⟩
          rw [step, leftBy, ran] at moved
          have same : operation.target self = self := moved
          rw [same] at solvent
          exact solvent sound.solvent
        · intro passes
          exact solvent (passes admitted counts).2

theorem step_sound (sound : self.Sound) (traceless : Traceless operation self) :
    (step operation self).Sound := by
  cases succeeds : operation.body.succeeds self with
  | true => exact (completed sound succeeds).sound sound
  | false =>
      have same : step operation self = self := by
        unfold Traceless Operation.Fails at traceless
        unfold Transaction.succeeds at succeeds
        unfold step leftBy at traceless ⊢
        cases ran : operation.body.execute self with
        | mk result after =>
            rw [ran] at succeeds traceless
            cases result with
            | ok => cases succeeds
            | error fault =>
                cases fault with
                | err violation => exact traceless ⟨violation, rfl⟩
                | panic => rfl
      rw [same]
      exact sound

/-! ## The condition, call by call -/

theorem creation_traceless_iff (sound : self.Sound) (depositAmount : I128) :
    Traceless (.leaseCreation depositAmount) self ↔
      (Operation.leaseCreation depositAmount).Clean self := by
  rw [traceless_iff_passes sound]
  constructor
  · intro passes
    by_cases nonneg : 0 ≤ depositAmount
    · by_cases within : self.totalEscrowed + depositAmount ≤ i128Max
      · by_cases jams : u64Max < self.leaseCount + 1
        · exact .inr (.inr (.inl jams))
        · obtain ⟨fits, solvent⟩ := passes ⟨nonneg, within⟩ jams
          have some := (created_solvent sound.solvent nonneg within).mp solvent
          refine .inr (.inr (.inr ⟨?_, some⟩))
          by_cases large : 1000000 < depositAmount
          · have loss := simulateSorobanPrecisionLoss_of_nonneg nonneg
            rw [← loss]
            exact .inr (not_lt.mp fun exceeds => fits ⟨large, exceeds⟩)
          · exact .inl (not_lt.mp large)
      · exact .inr (.inl (not_le.mp within))
    · exact .inl (not_le.mp nonneg)
  · intro clean admitted counts
    obtain ⟨nonneg, within⟩ := admitted
    have loss := simulateSorobanPrecisionLoss_of_nonneg nonneg
    rcases clean with negative | exceeds | jams | room
    · exact absurd nonneg (not_le.mpr negative)
    · exact absurd within (not_le.mpr exceeds)
    · exact absurd jams counts
    · refine ⟨fun spills => ?_, (created_solvent sound.solvent nonneg within).mpr room.2⟩
      obtain ⟨large, exceeds⟩ := spills
      rw [loss] at exceeds
      rcases room.1 with small | fits
      · exact absurd large (not_lt.mpr small)
      · exact absurd exceeds (not_lt.mpr fits)

theorem yield_traceless_iff (sound : self.Sound) (yieldAmount : I128) :
    Traceless (.yieldAccumulation yieldAmount) self ↔
      (Operation.yieldAccumulation yieldAmount).Clean self := by
  rw [traceless_iff_passes sound]
  constructor
  · intro passes
    by_cases nonneg : 0 ≤ yieldAmount
    · by_cases within : yieldAmount ≤ self.activeDeposits
      · have fits := (passes ⟨nonneg, within⟩ not_false).1
        rw [Operation.Spills, simulateSorobanPrecisionLoss_of_nonneg nonneg] at fits
        exact .inr (.inr (not_lt.mp fits))
      · exact .inr (.inl (not_le.mp within))
    · exact .inl (not_le.mp nonneg)
  · intro clean admitted _
    obtain ⟨nonneg, within⟩ := admitted
    rcases clean with negative | exceeds | fits
    · exact absurd nonneg (not_le.mpr negative)
    · exact absurd within (not_le.mpr exceeds)
    · refine ⟨?_, yielded_solvent sound.solvent nonneg within⟩
      rw [Operation.Spills, simulateSorobanPrecisionLoss_of_nonneg nonneg]
      exact not_lt.mpr fits

theorem dispute_traceless (sound : self.Sound) (disputeAmount : I128) :
    Traceless (.disputeInitiation disputeAmount) self := by
  rw [traceless_iff_passes sound]
  intro admitted _
  exact ⟨not_false, contested_solvent sound.solvent admitted.1 admitted.2⟩

theorem settlement_traceless_iff (sound : self.Sound)
    (tenantRefund landlordPayout protocolFee : I128) :
    Traceless (.leaseSettlement tenantRefund landlordPayout protocolFee) self ↔
      (Operation.leaseSettlement tenantRefund landlordPayout protocolFee).Clean self := by
  rw [traceless_iff_passes sound]
  constructor
  · intro passes
    by_cases nonneg : 0 ≤ tenantRefund ∧ 0 ≤ landlordPayout ∧ 0 ≤ protocolFee
    · by_cases all : tenantRefund + landlordPayout + protocolFee = self.totalEscrowed
      · have dust : self.dustCumulative +
            (self.totalEscrowed - (tenantRefund + landlordPayout + protocolFee)) ≤ i128Max := by
          rw [all, sub_self, add_zero]
          exact sound.dust_le
        have total := add_nonneg (add_nonneg nonneg.1 nonneg.2.1) nonneg.2.2
        have solvent := (passes ⟨⟨nonneg, all.le⟩, dust⟩ not_false).2
        exact .inr ((settled_solvent sound.solvent total all.le).mp solvent)
      · exact .inr (.inl all)
    · simp only [not_and_or, not_le] at nonneg
      exact .inl nonneg
  · intro clean admitted _
    obtain ⟨⟨nonneg, within⟩, _⟩ := admitted
    have total := add_nonneg (add_nonneg nonneg.1 nonneg.2.1) nonneg.2.2
    rcases clean with negative | passing
    · simp only [← not_le, ← not_and_or] at negative
      exact absurd nonneg negative
    · exact ⟨not_false, (settled_solvent sound.solvent total within).mpr passing⟩

theorem release_traceless_iff (sound : self.Sound) (returnAmount slashAmount : I128) :
    Traceless (.mutualRelease returnAmount slashAmount) self ↔
      (Operation.mutualRelease returnAmount slashAmount).Clean self := by
  rw [traceless_iff_passes sound]
  constructor
  · intro passes
    by_cases nonneg : 0 ≤ returnAmount ∧ 0 ≤ slashAmount
    · by_cases all : returnAmount + slashAmount = self.totalEscrowed
      · have solvent := (passes ⟨nonneg, all⟩ not_false).2
        exact .inr (.inr (clear_solvent.mp solvent))
      · exact .inr (.inl all)
    · simp only [not_and_or, not_le] at nonneg
      exact .inl nonneg
  · intro clean admitted _
    obtain ⟨nonneg, all⟩ := admitted
    rcases clean with negative | part | few
    · simp only [← not_le, ← not_and_or] at negative
      exact absurd nonneg negative
    · exact absurd all part
    · exact ⟨not_false, clear_solvent.mpr few⟩

theorem slashing_traceless_iff (sound : self.Sound) (slashPercentageBps : U32) :
    Traceless (.partialSlashing slashPercentageBps) self ↔
      (Operation.partialSlashing slashPercentageBps).Clean self := by
  rw [traceless_iff_passes sound]
  constructor
  · intro passes
    by_cases bps_le : slashPercentageBps ≤ 10000
    · by_cases fits : self.totalEscrowed * slashPercentageBps ≤ i128Max
      · have solvent := (passes ⟨bps_le, fits⟩ not_false).2
        exact .inr (.inr ((slashed_solvent sound.solvent bps_le fits).mp solvent))
      · exact .inr (.inl (not_le.mp fits))
    · exact .inl (not_le.mp bps_le)
  · intro clean admitted _
    obtain ⟨bps_le, fits⟩ := admitted
    rcases clean with above | exceeds | even
    · exact absurd bps_le (not_le.mpr above)
    · exact absurd fits (not_le.mpr exceeds)
    · refine ⟨fun spills => ?_, (slashed_solvent sound.solvent bps_le fits).mpr even⟩
      exact absurd spills.1 (borne_not_lt sound.solvent bps_le fits even.1)

theorem traceless_iff_clean (sound : self.Sound) (operation : Operation) :
    Traceless operation self ↔ operation.Clean self := by
  cases operation with
  | leaseCreation depositAmount => exact creation_traceless_iff sound depositAmount
  | yieldAccumulation yieldAmount => exact yield_traceless_iff sound yieldAmount
  | disputeInitiation disputeAmount =>
      exact iff_of_true (dispute_traceless sound disputeAmount) trivial
  | leaseSettlement tenantRefund landlordPayout protocolFee =>
      exact settlement_traceless_iff sound tenantRefund landlordPayout protocolFee
  | mutualRelease returnAmount slashAmount =>
      exact release_traceless_iff sound returnAmount slashAmount
  | partialSlashing slashPercentageBps => exact slashing_traceless_iff sound slashPercentageBps

end Traceless

/-! ## Runs -/

/-- The failures along a run, refused calls and panics included, leave no trace exactly when
every call of it is clean in the state it is made in. -/
theorem failures_traceless_iff (calls : List Operation) :
    MeetsAlong step Traceless calls EscrowInvariant.new ↔
      MeetsAlong step Operation.Clean calls EscrowInvariant.new := by
  apply @meetsAlong_iff _ _ step (fun _ => True) Sound
  · intro _ _ _
    trivial
  · intro operation self _ sound
    exact traceless_iff_clean sound operation
  · intro operation self _ sound traceless
    exact step_sound sound traceless
  · trivial
  · exact new_sound

/-- Releasing the deposits of two leases is an error, after which nothing is escrowed. -/
theorem twoLeases_release_leaves_trace :
    ¬ ∀ calls operation, Traceless operation (run step calls EscrowInvariant.new) := by
  intro all
  have traceless := all [.leaseCreation 10, .leaseCreation 10] (.mutualRelease 20 0)
  have same := traceless ⟨.leaseCountMismatch 1 0, rfl⟩
  have escrowed := congrArg totalEscrowed same
  exact absurd escrowed (by decide)

end LeaseFlow.Solvency
