import LeaseFlow.Solvency.Slashing
import LeaseFlow.Solvency.Updates

/-!
# What a call leaves of a sound tracker

A call is turned away before its first write, panics, fails on a counter it has no room for, or
hands its tracker to the closing check.  Only the last two can write, and only the last can go
through.
-/

set_option autoImplicit false

namespace LeaseFlow.Solvency

open Transaction EscrowInvariant

namespace Operation

/-- The checks and sums before the first write. -/
def Admitted : Operation → EscrowInvariant → Prop
  | .leaseCreation depositAmount, self =>
      0 ≤ depositAmount ∧ self.totalEscrowed + depositAmount ≤ i128Max
  | .yieldAccumulation yieldAmount, self => 0 ≤ yieldAmount ∧ yieldAmount ≤ self.activeDeposits
  | .disputeInitiation disputeAmount, self =>
      0 ≤ disputeAmount ∧ disputeAmount ≤ self.activeDeposits + self.pendingYield
  | .leaseSettlement tenantRefund landlordPayout protocolFee, self =>
      ((0 ≤ tenantRefund ∧ 0 ≤ landlordPayout ∧ 0 ≤ protocolFee) ∧
        tenantRefund + landlordPayout + protocolFee ≤ self.totalEscrowed) ∧
      self.dustCumulative + (self.totalEscrowed - (tenantRefund + landlordPayout + protocolFee)) ≤
        i128Max
  | .mutualRelease returnAmount slashAmount, self =>
      (0 ≤ returnAmount ∧ 0 ≤ slashAmount) ∧ returnAmount + slashAmount = self.totalEscrowed
  | .partialSlashing slashPercentageBps, self =>
      slashPercentageBps ≤ 10000 ∧ self.totalEscrowed * slashPercentageBps ≤ i128Max

/-- The lease count overflows. -/
def Jams : Operation → EscrowInvariant → Prop
  | .leaseCreation _, self => u64Max < self.leaseCount + 1
  | _, _ => False

/-- A counter has no room for what the call adds to it after its first write. -/
def Spills : Operation → EscrowInvariant → Prop
  | .leaseCreation depositAmount, self =>
      1000000 < depositAmount ∧
        i128Max < self.precisionLossCumulative + simulateSorobanPrecisionLoss depositAmount
  | .yieldAccumulation yieldAmount, self =>
      i128Max < self.precisionLossCumulative + simulateSorobanPrecisionLoss yieldAmount
  | .partialSlashing slashPercentageBps, self =>
      self.borne slashPercentageBps < self.slashAmount slashPercentageBps ∧
        i128Max < self.dustCumulative +
          (self.slashAmount slashPercentageBps - self.borne slashPercentageBps)
  | _, _ => False

/-- The tracker a call hands to the closing check. -/
def target : Operation → EscrowInvariant → EscrowInvariant
  | .leaseCreation depositAmount => created depositAmount
  | .yieldAccumulation yieldAmount => yielded yieldAmount
  | .disputeInitiation disputeAmount => contested disputeAmount
  | .leaseSettlement tenantRefund landlordPayout protocolFee =>
      settled (tenantRefund + landlordPayout + protocolFee)
  | .mutualRelease _ _ => EscrowInvariant.clear
  | .partialSlashing slashPercentageBps => slashed slashPercentageBps

end Operation

inductive Outcome (operation : Operation) (tracker : EscrowInvariant) : Prop where
  | refused (violation : InvariantViolation) (turned : ¬ operation.Admitted tracker)
      (ran : operation.body.execute tracker = (.error (.err violation), tracker))
  | jammed (after : EscrowInvariant) (admitted : operation.Admitted tracker)
      (jams : operation.Jams tracker)
      (ran : operation.body.execute tracker = (.error .panic, after))
  | spilt (violation : InvariantViolation) (after : EscrowInvariant)
      (admitted : operation.Admitted tracker) (counts : ¬ operation.Jams tracker)
      (spills : operation.Spills tracker) (changed : after ≠ tracker)
      (ran : operation.body.execute tracker = (.error (.err violation), after))
  | checked (admitted : operation.Admitted tracker) (counts : ¬ operation.Jams tracker)
      (fits : ¬ operation.Spills tracker)
      (ran : operation.body.execute tracker = verify.execute (operation.target tracker))

section Outcome

variable {self : EscrowInvariant}

theorem creation_outcome (sound : self.Sound) (depositAmount : I128) :
    Outcome (.leaseCreation depositAmount) self := by
  by_cases nonneg : 0 ≤ depositAmount
  · by_cases within : self.totalEscrowed + depositAmount ≤ i128Max
    · have ran := creation_execute sound nonneg within
      by_cases jams : u64Max < self.leaseCount + 1
      · rw [if_pos jams] at ran
        exact .jammed _ ⟨nonneg, within⟩ jams ran
      · rw [if_neg jams] at ran
        by_cases spills : 1000000 < depositAmount ∧ i128Max < self.precisionLossCumulative +
            simulateSorobanPrecisionLoss depositAmount
        · have changed : self.deposited depositAmount ≠ self :=
            fun same => Nat.succ_ne_self _ (congrArg leaseCount same)
          rw [if_pos spills] at ran
          exact .spilt _ _ ⟨nonneg, within⟩ jams spills changed ran
        · rw [if_neg spills] at ran
          exact .checked ⟨nonneg, within⟩ jams spills ran
    · have ran := creation_of_overflow nonneg (not_le.mp within)
      exact .refused _ (fun admitted => within admitted.2) ran
  · have ran := @creation_of_negative self depositAmount (not_le.mp nonneg)
    exact .refused _ (fun admitted => nonneg admitted.1) ran

theorem yield_outcome (sound : self.Sound) (yieldAmount : I128) :
    Outcome (.yieldAccumulation yieldAmount) self := by
  by_cases admitted : 0 ≤ yieldAmount ∧ yieldAmount ≤ self.activeDeposits
  · have ran := yield_execute sound admitted.1 admitted.2
    by_cases spills : i128Max < self.precisionLossCumulative +
        simulateSorobanPrecisionLoss yieldAmount
    · have changed : self.accrued yieldAmount ≠ self := by
        intro same
        have kept : self.pendingYield + yieldAmount = self.pendingYield :=
          congrArg pendingYield same
        have zero : yieldAmount = 0 := left_eq_add.mp kept.symm
        have loss : simulateSorobanPrecisionLoss yieldAmount = 0 := by
          rw [zero]
          rfl
        rw [loss, add_zero] at spills
        exact absurd sound.precision_le (not_le.mpr spills)
      rw [if_pos spills] at ran
      exact .spilt _ _ admitted not_false spills changed ran
    · rw [if_neg spills] at ran
      exact .checked admitted not_false spills ran
  · obtain ⟨violation, ran⟩ := yield_refused admitted
    exact .refused violation admitted ran

theorem dispute_outcome (sound : self.Sound) (disputeAmount : I128) :
    Outcome (.disputeInitiation disputeAmount) self := by
  by_cases admitted : 0 ≤ disputeAmount ∧
      disputeAmount ≤ self.activeDeposits + self.pendingYield
  · have ran := dispute_execute sound.solvent admitted.1 admitted.2
    exact .checked admitted not_false not_false ran
  · obtain ⟨violation, ran⟩ := dispute_refused sound.solvent admitted
    exact .refused violation admitted ran

theorem settlement_outcome (sound : self.Sound) (tenantRefund landlordPayout protocolFee : I128) :
    Outcome (.leaseSettlement tenantRefund landlordPayout protocolFee) self := by
  by_cases admitted : (0 ≤ tenantRefund ∧ 0 ≤ landlordPayout ∧ 0 ≤ protocolFee) ∧
      tenantRefund + landlordPayout + protocolFee ≤ self.totalEscrowed
  · have ran := settlement_execute sound admitted.1 admitted.2
    by_cases spills : i128Max < self.dustCumulative +
        (self.totalEscrowed - (tenantRefund + landlordPayout + protocolFee))
    · rw [if_pos spills] at ran
      exact .refused _ (fun both => absurd both.2 (not_le.mpr spills)) ran
    · rw [if_neg spills] at ran
      exact .checked ⟨admitted, not_lt.mp spills⟩ not_false not_false ran
  · obtain ⟨violation, ran⟩ := settlement_refused admitted
    exact .refused violation (fun both => admitted both.1) ran

theorem release_outcome (sound : self.Sound) (returnAmount slashAmount : I128) :
    Outcome (.mutualRelease returnAmount slashAmount) self := by
  by_cases admitted : (0 ≤ returnAmount ∧ 0 ≤ slashAmount) ∧
      returnAmount + slashAmount = self.totalEscrowed
  · have ran := release_execute sound.solvent admitted.1 admitted.2
    exact .checked admitted not_false not_false ran
  · obtain ⟨violation, ran⟩ := release_refused admitted
    exact .refused violation admitted ran

theorem slashing_outcome (sound : self.Sound) (slashPercentageBps : U32) :
    Outcome (.partialSlashing slashPercentageBps) self := by
  by_cases admitted : slashPercentageBps ≤ 10000 ∧
      self.totalEscrowed * slashPercentageBps ≤ i128Max
  · by_cases empty : self.totalEscrowed = 0
    · -- the early return leaves what the deductions of nothing leave
      have ran : (applyPartialSlashing slashPercentageBps).execute self =
          verify.execute (self.slashed slashPercentageBps) := by
        rw [slashed_of_empty empty, verify_of_solvent sound.solvent]
        exact slash_of_empty admitted.1 empty
      have fits : ¬ Operation.Spills (.partialSlashing slashPercentageBps) self := by
        intro spills
        have amount := @slashAmount_of_empty self slashPercentageBps empty
        have borne := @borne_of_empty self slashPercentageBps empty
        have less := spills.1
        rw [amount, borne] at less
        exact lt_irrefl 0 less
      exact .checked admitted not_false fits ran
    · have total_pos := lt_of_le_of_ne sound.solvent.total_nonneg (Ne.symm empty)
      have ran := slash_execute sound total_pos admitted.1 admitted.2
      by_cases spills : self.borne slashPercentageBps < self.slashAmount slashPercentageBps ∧
          i128Max < self.dustCumulative +
            (self.slashAmount slashPercentageBps - self.borne slashPercentageBps)
      · have changed : self.reduced slashPercentageBps ≠ self := by
          intro same
          have kept : self.totalEscrowed - self.slashAmount slashPercentageBps =
              self.totalEscrowed := congrArg totalEscrowed same
          have zero : self.slashAmount slashPercentageBps = 0 := sub_eq_self.mp kept
          have slashes := slashable total_pos admitted.1 admitted.2
          have borne := borne_nonneg sound.solvent slashes
          rw [← zero] at borne
          exact absurd spills.1 (not_lt.mpr borne)
        rw [if_pos spills] at ran
        exact .spilt _ _ admitted not_false spills changed ran
      · rw [if_neg spills] at ran
        exact .checked admitted not_false spills ran
  · obtain ⟨violation, ran⟩ := slash_refused admitted
    exact .refused violation admitted ran

theorem outcome (sound : self.Sound) (operation : Operation) : Outcome operation self := by
  cases operation with
  | leaseCreation depositAmount => exact creation_outcome sound depositAmount
  | yieldAccumulation yieldAmount => exact yield_outcome sound yieldAmount
  | disputeInitiation disputeAmount => exact dispute_outcome sound disputeAmount
  | leaseSettlement tenantRefund landlordPayout protocolFee =>
      exact settlement_outcome sound tenantRefund landlordPayout protocolFee
  | mutualRelease returnAmount slashAmount =>
      exact release_outcome sound returnAmount slashAmount
  | partialSlashing slashPercentageBps => exact slashing_outcome sound slashPercentageBps

end Outcome

end LeaseFlow.Solvency
