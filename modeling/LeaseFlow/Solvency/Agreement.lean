import LeaseFlow.Solvency.Conservation
import LeaseFlow.Solvency.ModelOutcome

/-!
# When the model and the tracker agree

Side by side the two agree on a call as long as the tracker has room in its counters, leaves no
lease counted on an empty total, and is asked for no more than the active deposits; a dispute must
not find pending yield, which the tracker takes first and the model leaves alone.
-/

set_option autoImplicit false

namespace LeaseFlow.Solvency

open Transaction EscrowInvariant Run

/-! ## Agreement -/

/-- The five amounts are the same on both. -/
structure SameFunds (twins : Twins) : Prop where
  total : twins.tracker.totalEscrowed = twins.model.totalEscrowed
  active : twins.tracker.activeDeposits = twins.model.activeDeposits
  pending : twins.tracker.pendingYield = twins.model.pendingYield
  disputed : twins.tracker.disputedFunds = twins.model.disputedFunds
  vault : twins.tracker.vaultTotalLocked = twins.model.vaultTotalLocked

namespace SharedCall

/-- The call goes through on one exactly when it goes through on the other. -/
def Agrees (call : SharedCall) (twins : Twins) : Prop :=
  call.onTracker.body.succeeds twins.tracker = true ↔ call.onModel.succeeds twins.model = true

def Succeeds (call : SharedCall) (twins : Twins) : Prop :=
  call.onTracker.body.succeeds twins.tracker = true ∧ call.onModel.succeeds twins.model = true

/-- What the call has to find in the tracker, whose amounts are those of the model. -/
def Aligned : SharedCall → EscrowInvariant → Prop
  | .deposit amount, self =>
      amount < 0 ∨ i128Max < self.totalEscrowed + amount ∨ u64Max < self.leaseCount + 1 ∨
        ((amount ≤ 1000000 ∨ self.precisionLossCumulative + amount / 1000000 ≤ i128Max) ∧
          (0 < self.totalEscrowed ∨ 0 < amount))
  | .yieldAccumulation yieldAmount, self =>
      yieldAmount < 0 ∨ (yieldAmount ≤ self.activeDeposits ∧
        self.precisionLossCumulative + yieldAmount / 1000000 ≤ i128Max)
  | .dispute disputeAmount, self =>
      disputeAmount < 0 ∨ (disputeAmount ≤ self.activeDeposits ∧
        (disputeAmount = 0 ∨ self.pendingYield = 0))
  | .settlement tenantRefund landlordPayout protocolFee, self =>
      (tenantRefund < 0 ∨ landlordPayout < 0 ∨ protocolFee < 0) ∨
        self.totalEscrowed < tenantRefund + landlordPayout + protocolFee ∨
        (self.dustCumulative +
            (self.totalEscrowed - (tenantRefund + landlordPayout + protocolFee)) ≤ i128Max ∧
          (tenantRefund + landlordPayout + protocolFee ≠ self.totalEscrowed ∨
            self.totalEscrowed = 0 ∨ self.leaseCount ≤ 1))

/-- The arguments are within their type. -/
def Typed : SharedCall → Prop
  | .deposit amount => amount ≤ i128Max
  | .yieldAccumulation yieldAmount => yieldAmount ≤ i128Max
  | .dispute disputeAmount => disputeAmount ≤ i128Max
  | .settlement tenantRefund landlordPayout protocolFee =>
      tenantRefund ≤ i128Max ∧ landlordPayout ≤ i128Max ∧ protocolFee ≤ i128Max

instance (call : SharedCall) : Decidable call.Typed :=
  match call with
  | .deposit amount => inferInstanceAs (Decidable (amount ≤ i128Max))
  | .yieldAccumulation yieldAmount => inferInstanceAs (Decidable (yieldAmount ≤ i128Max))
  | .dispute disputeAmount => inferInstanceAs (Decidable (disputeAmount ≤ i128Max))
  | .settlement tenantRefund landlordPayout protocolFee =>
      inferInstanceAs (Decidable (tenantRefund ≤ i128Max ∧ landlordPayout ≤ i128Max ∧
        protocolFee ≤ i128Max))

end SharedCall

/-- Every call of the run goes through on both or on neither, and after calls that all went
through the amounts are the same. -/
structure Agreement (calls : List SharedCall) : Prop where
  outcomes : MeetsAlong both SharedCall.Agrees calls Twins.new
  funds : ∀ earlier, earlier <+: calls → MeetsAlong both SharedCall.Succeeds earlier Twins.new →
    SameFunds (run both earlier Twins.new)

/-! ## Calls in lockstep -/

/-- A tracker and its model. -/
def EscrowInvariant.modelled (self : EscrowInvariant) : Twins :=
  ⟨self, self.shadow⟩

theorem modelled_sameFunds (self : EscrowInvariant) : SameFunds self.modelled :=
  ⟨rfl, rfl, rfl, rfl, rfl⟩

/-- The call has the same result on both and leaves a sound tracker and its model. -/
def Lockstep (call : SharedCall) (self : EscrowInvariant) : Prop :=
  call.Agrees self.modelled ∧
    ∃ after : EscrowInvariant, after.Sound ∧ both call self.modelled = after.modelled

section Lockstep

variable {call : SharedCall} {self : EscrowInvariant}

theorem lockstep_of_refused (sound : self.Sound)
    (onTracker : ∃ violation,
      call.onTracker.body.execute self = (.error (.err violation), self))
    (onModel : ∃ error, call.onModel.execute self.shadow = (.error (.err error), self.shadow)) :
    Lockstep call self := by
  obtain ⟨violation, tracker⟩ := onTracker
  obtain ⟨error, model⟩ := onModel
  constructor
  · apply iff_of_false
    · rw [modelled, Transaction.succeeds, tracker]
      exact Bool.false_ne_true
    · rw [modelled, Transaction.succeeds, model]
      exact Bool.false_ne_true
  · refine ⟨self, sound, ?_⟩
    rw [both, modelled, step, leftBy, tracker, EscrowState.leftBy, model]

theorem lockstep_of_panic (sound : self.Sound)
    (onTracker : ∃ after, call.onTracker.body.execute self = (.error .panic, after))
    (onModel : ∃ after, call.onModel.execute self.shadow = (.error .panic, after)) :
    Lockstep call self := by
  obtain ⟨left, tracker⟩ := onTracker
  obtain ⟨after, model⟩ := onModel
  constructor
  · apply iff_of_false
    · rw [modelled, Transaction.succeeds, tracker]
      exact Bool.false_ne_true
    · rw [modelled, Transaction.succeeds, model]
      exact Bool.false_ne_true
  · refine ⟨self, sound, ?_⟩
    rw [both, modelled, step, leftBy, tracker, EscrowState.leftBy, model]

theorem lockstep_of_passes (sound : self.Sound)
    (onTracker : call.onTracker.body.succeeds self = true)
    (onModel : call.onModel.execute self.shadow =
      (.ok (), (call.onTracker.target self).shadow)) : Lockstep call self := by
  have done := completed sound onTracker
  constructor
  · apply iff_of_true
    · exact onTracker
    · rw [modelled, Transaction.succeeds, onModel]
  · refine ⟨call.onTracker.target self, ?_, ?_⟩
    · rw [← done.left]
      exact done.sound sound
    · rw [both, modelled, done.left, EscrowState.leftBy, onModel]
      rfl

theorem Lockstep.sameFunds (together : Lockstep call self) :
    SameFunds (both call self.modelled) := by
  obtain ⟨_, after, _, left⟩ := together
  rw [left]
  exact modelled_sameFunds after

/-- Where the model goes through, agreement means that the tracker does. -/
theorem tracker_succeeds (agrees : call.Agrees self.modelled) {after : EscrowState}
    (onModel : call.onModel.execute self.shadow = (.ok (), after)) :
    call.onTracker.body.succeeds self = true := by
  apply agrees.mpr
  rw [modelled, Transaction.succeeds, onModel]

theorem tracker_fails (agrees : call.Agrees self.modelled) {fault : EscrowState.Fault}
    {after : EscrowState} (onModel : call.onModel.execute self.shadow = (.error fault, after)) :
    ¬ call.onTracker.body.succeeds self = true := by
  intro succeeds
  have same := agrees.mp succeeds
  rw [modelled, Transaction.succeeds, onModel] at same
  cases same

/-- Where the tracker refuses and the model has taken the amount off before it fails, the active
deposits differ. -/
theorem apart_of_overdrawn {amount : I128} (positive : 0 < amount)
    (onTracker : ∃ violation,
      call.onTracker.body.execute self = (.error (.err violation), self))
    (onModel : ∃ error after, call.onModel.execute self.shadow = (.error (.err error), after) ∧
      after.activeDeposits = self.activeDeposits - amount) :
    ¬ SameFunds (both call self.modelled) := by
  obtain ⟨violation, tracker⟩ := onTracker
  obtain ⟨error, after, model, drawn⟩ := onModel
  intro same
  have active := same.active
  rw [both, modelled, step, leftBy, tracker, EscrowState.leftBy, model] at active
  have kept : self.activeDeposits = self.activeDeposits - amount := active.trans drawn
  exact positive.ne' (sub_eq_self.mp kept.symm)

end Lockstep

/-! ## The condition, call by call -/

section Aligned

variable {self : EscrowInvariant}

theorem created_shadow (amount : I128) :
    (self.created amount).shadow = (self.deposited amount).shadow := by
  obtain ⟨precision, created⟩ := @created_putPrecision self amount
  rw [created]
  rfl

theorem deposit_lockstep (sound : self.Sound) {amount : I128}
    (aligned : (SharedCall.deposit amount).Aligned self) :
    Lockstep (.deposit amount) self := by
  by_cases admitted : 0 ≤ amount ∧ self.totalEscrowed + amount ≤ i128Max
  · have ran := model_deposit_execute sound.solvent admitted.1 admitted.2
    by_cases jams : u64Max < self.leaseCount + 1
    · rw [if_pos jams] at ran
      exact lockstep_of_panic sound (panics_of_jams sound admitted jams) ⟨_, ran⟩
    · rw [if_neg jams, ← created_shadow] at ran
      rcases aligned with negative | exceeds | full | ⟨room, some⟩
      · exact absurd admitted.1 (not_le.mpr negative)
      · exact absurd admitted.2 (not_le.mpr exceeds)
      · exact absurd full jams
      · have fits : ¬ Operation.Spills (.leaseCreation amount) self := by
          intro spills
          obtain ⟨large, exceeds⟩ := spills
          rw [simulateSorobanPrecisionLoss_of_nonneg admitted.1] at exceeds
          rcases room with small | fits
          · exact absurd large (not_lt.mpr small)
          · exact absurd exceeds (not_lt.mpr fits)
        have solvent := (created_solvent sound.solvent admitted.1 admitted.2).mpr some
        have succeeds : (Operation.leaseCreation amount).body.succeeds self = true :=
          succeeds_of_passes sound admitted jams fits solvent
        exact lockstep_of_passes sound succeeds ran
  · apply lockstep_of_refused sound
    · exact refused_of_not_admitted sound admitted
    · exact model_deposit_refused admitted

theorem deposit_aligned (sound : self.Sound) {amount : I128}
    (agrees : (SharedCall.deposit amount).Agrees self.modelled) :
    (SharedCall.deposit amount).Aligned self := by
  by_cases nonneg : 0 ≤ amount
  · by_cases within : self.totalEscrowed + amount ≤ i128Max
    · by_cases jams : u64Max < self.leaseCount + 1
      · exact .inr (.inr (.inl jams))
      · have ran := model_deposit_execute sound.solvent nonneg within
        rw [if_neg jams] at ran
        have done := completed sound (tracker_succeeds agrees ran)
        have some := (created_solvent sound.solvent nonneg within).mp done.solvent
        refine .inr (.inr (.inr ⟨?_, some⟩))
        by_cases large : 1000000 < amount
        · rw [← simulateSorobanPrecisionLoss_of_nonneg nonneg]
          exact .inr (not_lt.mp fun exceeds => done.fits ⟨large, exceeds⟩)
        · exact .inl (not_lt.mp large)
    · exact .inr (.inl (not_le.mp within))
  · exact .inl (not_le.mp nonneg)

theorem yield_lockstep (sound : self.Sound) {yieldAmount : I128}
    (aligned : (SharedCall.yieldAccumulation yieldAmount).Aligned self) :
    Lockstep (.yieldAccumulation yieldAmount) self := by
  by_cases nonneg : 0 ≤ yieldAmount
  · obtain ⟨within, fits⟩ := aligned.resolve_left (not_lt.mpr nonneg)
    have ran := model_yield_execute sound.solvent nonneg within
    have room : ¬ Operation.Spills (.yieldAccumulation yieldAmount) self := by
      rw [Operation.Spills, simulateSorobanPrecisionLoss_of_nonneg nonneg]
      exact not_lt.mpr fits
    have solvent := yielded_solvent sound.solvent nonneg within
    have succeeds : (Operation.yieldAccumulation yieldAmount).body.succeeds self = true :=
      succeeds_of_passes sound ⟨nonneg, within⟩ not_false room solvent
    exact lockstep_of_passes sound succeeds ran
  · apply lockstep_of_refused sound
    · exact refused_of_not_admitted sound fun admitted => nonneg admitted.1
    · exact ⟨_, model_yield_refused (not_le.mp nonneg)⟩

theorem yield_aligned (sound : self.Sound) {yieldAmount : I128}
    (typed : yieldAmount ≤ i128Max)
    (agrees : (SharedCall.yieldAccumulation yieldAmount).Agrees self.modelled)
    (same : SameFunds (both (.yieldAccumulation yieldAmount) self.modelled)) :
    (SharedCall.yieldAccumulation yieldAmount).Aligned self := by
  by_cases nonneg : 0 ≤ yieldAmount
  · by_cases within : yieldAmount ≤ self.activeDeposits
    · have ran := model_yield_execute sound.solvent nonneg within
      have done := completed sound (tracker_succeeds agrees ran)
      have fits := done.fits
      rw [SharedCall.onTracker, Operation.Spills,
        simulateSorobanPrecisionLoss_of_nonneg nonneg] at fits
      exact .inr ⟨within, not_lt.mp fits⟩
    · have exceeds := not_le.mp within
      have positive : 0 < yieldAmount := sound.solvent.active_nonneg.trans_lt exceeds
      have refused := @refused_of_not_admitted (.yieldAccumulation yieldAmount) self sound
        fun admitted => within admitted.2
      have drawn := model_yield_overdrawn sound.solvent typed exceeds
      exact absurd same (apart_of_overdrawn positive refused drawn)
  · exact .inl (not_le.mp nonneg)

theorem dispute_lockstep (sound : self.Sound) {disputeAmount : I128}
    (aligned : (SharedCall.dispute disputeAmount).Aligned self) :
    Lockstep (.dispute disputeAmount) self := by
  by_cases nonneg : 0 ≤ disputeAmount
  · obtain ⟨within, alone⟩ := aligned.resolve_left (not_lt.mpr nonneg)
    have pending := sound.solvent.pending_nonneg
    have ran := model_dispute_execute sound.solvent nonneg within
    have reach : disputeAmount ≤ self.activeDeposits + self.pendingYield :=
      within.trans (le_add_of_nonneg_right pending)
    have none : min disputeAmount self.pendingYield = 0 := by
      rcases alone with zero | empty
      · rw [zero]
        exact min_eq_left pending
      · rw [empty]
        exact min_eq_right nonneg
    have same : (self.contested disputeAmount).shadow =
        (self.shadow.putActive (self.activeDeposits - disputeAmount)).putDisputed
          (self.disputedFunds + disputeAmount) := by
      rw [contested, none, sub_zero, sub_zero]
      rfl
    rw [← same] at ran
    have solvent := contested_solvent sound.solvent nonneg reach
    have succeeds : (Operation.disputeInitiation disputeAmount).body.succeeds self = true :=
      succeeds_of_passes sound ⟨nonneg, reach⟩ not_false not_false solvent
    exact lockstep_of_passes sound succeeds ran
  · apply lockstep_of_refused sound
    · exact refused_of_not_admitted sound fun admitted => nonneg admitted.1
    · exact ⟨_, model_dispute_refused (not_le.mp nonneg)⟩

theorem dispute_aligned (sound : self.Sound) {disputeAmount : I128}
    (typed : disputeAmount ≤ i128Max)
    (agrees : (SharedCall.dispute disputeAmount).Agrees self.modelled)
    (same : SameFunds (both (.dispute disputeAmount) self.modelled)) :
    (SharedCall.dispute disputeAmount).Aligned self := by
  by_cases nonneg : 0 ≤ disputeAmount
  · have pending_nonneg := sound.solvent.pending_nonneg
    by_cases within : disputeAmount ≤ self.activeDeposits
    · have ran := model_dispute_execute sound.solvent nonneg within
      have done := completed sound (tracker_succeeds agrees ran)
      have pending := same.pending
      rw [both, modelled, done.left, SharedCall.onModel, EscrowState.leftBy, ran] at pending
      have kept : self.pendingYield - min disputeAmount self.pendingYield = self.pendingYield :=
        pending
      have none : min disputeAmount self.pendingYield = 0 := sub_eq_self.mp kept
      refine .inr ⟨within, ?_⟩
      rcases min_choice disputeAmount self.pendingYield with least | least
      · exact .inl (least.symm.trans none)
      · exact .inr (least.symm.trans none)
    · have exceeds := not_le.mp within
      have positive : 0 < disputeAmount := sound.solvent.active_nonneg.trans_lt exceeds
      have drawn := model_dispute_overdrawn sound.solvent typed exceeds
      obtain ⟨error, after, ran, _⟩ := id drawn
      have turned : ¬ Operation.Admitted (.disputeInitiation disputeAmount) self := by
        intro admitted
        have solvent := contested_solvent sound.solvent admitted.1 admitted.2
        apply tracker_fails agrees ran
        exact succeeds_of_passes sound admitted not_false not_false solvent
      have refused := refused_of_not_admitted sound turned
      exact absurd same (apart_of_overdrawn positive refused drawn)
  · exact .inl (not_le.mp nonneg)

section Settlement

variable {tenantRefund landlordPayout protocolFee : I128}

theorem settlement_lockstep (sound : self.Sound)
    (aligned : (SharedCall.settlement tenantRefund landlordPayout protocolFee).Aligned self) :
    Lockstep (.settlement tenantRefund landlordPayout protocolFee) self := by
  by_cases admitted : (0 ≤ tenantRefund ∧ 0 ≤ landlordPayout ∧ 0 ≤ protocolFee) ∧
      tenantRefund + landlordPayout + protocolFee ≤ self.totalEscrowed
  · obtain ⟨nonneg, within⟩ := id admitted
    have total := add_nonneg (add_nonneg nonneg.1 nonneg.2.1) nonneg.2.2
    have ran := model_settlement_execute sound.solvent nonneg within
    rcases aligned with negative | exceeds | ⟨dust, passing⟩
    · simp only [← not_le, ← not_and_or] at negative
      exact absurd nonneg negative
    · exact absurd within (not_le.mpr exceeds)
    · have solvent := (settled_solvent sound.solvent total within).mpr passing
      have succeeds : (Operation.leaseSettlement tenantRefund landlordPayout
          protocolFee).body.succeeds self = true :=
        succeeds_of_passes sound ⟨admitted, dust⟩ not_false not_false solvent
      exact lockstep_of_passes sound succeeds ran
  · apply lockstep_of_refused sound
    · exact refused_of_not_admitted sound fun both => admitted both.1
    · exact model_settlement_refused sound.solvent admitted

theorem settlement_aligned (sound : self.Sound)
    (agrees : (SharedCall.settlement tenantRefund landlordPayout protocolFee).Agrees
      self.modelled) :
    (SharedCall.settlement tenantRefund landlordPayout protocolFee).Aligned self := by
  by_cases nonneg : 0 ≤ tenantRefund ∧ 0 ≤ landlordPayout ∧ 0 ≤ protocolFee
  · by_cases within : tenantRefund + landlordPayout + protocolFee ≤ self.totalEscrowed
    · have total := add_nonneg (add_nonneg nonneg.1 nonneg.2.1) nonneg.2.2
      have ran := model_settlement_execute sound.solvent nonneg within
      have done := completed sound (tracker_succeeds agrees ran)
      have passing := (settled_solvent sound.solvent total within).mp done.solvent
      exact .inr (.inr ⟨done.admitted.2, passing⟩)
    · exact .inr (.inl (not_le.mp within))
  · simp only [not_and_or, not_le] at nonneg
    exact .inl nonneg

end Settlement

theorem lockstep_of_aligned (sound : self.Sound) {call : SharedCall}
    (aligned : call.Aligned self) : Lockstep call self := by
  cases call with
  | deposit amount => exact deposit_lockstep sound aligned
  | yieldAccumulation yieldAmount => exact yield_lockstep sound aligned
  | dispute disputeAmount => exact dispute_lockstep sound aligned
  | settlement tenantRefund landlordPayout protocolFee => exact settlement_lockstep sound aligned

theorem aligned_of_agrees (sound : self.Sound) {call : SharedCall} (typed : call.Typed)
    (agrees : call.Agrees self.modelled) (same : SameFunds (both call self.modelled)) :
    call.Aligned self := by
  cases call with
  | deposit amount => exact deposit_aligned sound agrees
  | yieldAccumulation yieldAmount => exact yield_aligned sound typed agrees same
  | dispute disputeAmount => exact dispute_aligned sound typed agrees same
  | settlement tenantRefund landlordPayout protocolFee => exact settlement_aligned sound agrees

end Aligned

/-! ## Runs -/

/-- A sound tracker and its model. -/
def Matched (twins : Twins) : Prop :=
  ∃ self : EscrowInvariant, self.Sound ∧ twins = self.modelled

theorem new_matched : Matched Twins.new :=
  ⟨EscrowInvariant.new, new_sound, rfl⟩

theorem Matched.sameFunds {twins : Twins} (matched : Matched twins) : SameFunds twins := by
  obtain ⟨self, _, rfl⟩ := matched
  exact modelled_sameFunds self

theorem both_matched {call : SharedCall} {twins : Twins} (aligned : call.Aligned twins.tracker)
    (matched : Matched twins) : Matched (both call twins) := by
  obtain ⟨self, sound, rfl⟩ := matched
  obtain ⟨_, after, left, same⟩ := lockstep_of_aligned sound aligned
  exact ⟨after, left, same⟩

theorem agrees_iff_aligned {call : SharedCall} {twins : Twins} (typed : call.Typed)
    (matched : Matched twins) :
    call.Agrees twins ∧ SameFunds (both call twins) ↔ call.Aligned twins.tracker := by
  obtain ⟨self, sound, rfl⟩ := matched
  constructor
  · intro same
    exact aligned_of_agrees sound typed same.1 same.2
  · intro aligned
    have together := lockstep_of_aligned sound aligned
    exact ⟨together.1, together.sameFunds⟩

theorem agreement_of_aligned {calls : List SharedCall}
    (aligned : MeetsAlong both (fun call twins => call.Aligned twins.tracker) calls Twins.new) :
    Agreement calls := by
  constructor
  · apply meetsAlong_of_invariant _ _ aligned new_matched
    · intro call twins met matched
      exact both_matched met matched
    · intro call twins met matched
      obtain ⟨self, sound, rfl⟩ := matched
      exact (lockstep_of_aligned sound met).1
  · intro earlier within _
    have kept := invariant_along (fun call twins => both_matched) (aligned.of_prefix within)
      new_matched
    exact kept.sameFunds

/-- A run whose calls all meet the condition agrees, and the calls of a run agree, each with the
same amounts after it, exactly when they all meet the condition. -/
theorem agreement_when_aligned {calls : List SharedCall} (typed : ∀ call ∈ calls, call.Typed) :
    (MeetsAlong both (fun call twins => call.Aligned twins.tracker) calls Twins.new →
      Agreement calls) ∧
    (MeetsAlong both (fun call twins => call.Agrees twins ∧ SameFunds (both call twins)) calls
        Twins.new ↔
      MeetsAlong both (fun call twins => call.Aligned twins.tracker) calls Twins.new) := by
  constructor
  · exact agreement_of_aligned
  · apply @meetsAlong_iff_given _ _ both (fun call _ => call.Typed) (fun _ => True) Matched
    · intro _ _ _ _
      trivial
    · intro call twins typed _ matched
      exact agrees_iff_aligned typed matched
    · intro call twins typed _ matched agrees
      exact both_matched ((agrees_iff_aligned typed matched).mp agrees) matched
    · exact meetsAlong_of_forall typed Twins.new
    · trivial
    · exact new_matched

/-- A deposit that is disputed in part before it earns anything, settled in part, and then earns. -/
def disputedThenSettled : List SharedCall :=
  [.deposit 1000, .dispute 300, .settlement 100 50 50, .yieldAccumulation 200]

theorem disputedThenSettled_agrees : Agreement disputedThenSettled :=
  (agreement_when_aligned (by decide)).1
    ⟨.inr (.inr (.inr ⟨.inl (by decide), .inr (by decide)⟩)), .inr ⟨by decide, .inr rfl⟩,
      .inr (.inr ⟨by decide, .inl (by decide)⟩), .inr ⟨by decide, by decide⟩, trivial⟩

/-- A dispute that reaches into the pending yield goes through on the tracker alone. -/
theorem disputedYield_disagrees : ¬ ∀ calls, Agreement calls := by
  intro all
  have outcomes := (all [.deposit 10, .yieldAccumulation 5, .dispute 8]).outcomes
  obtain ⟨_, _, disputed, _⟩ := outcomes
  have accepted := disputed.mp rfl
  cases accepted

end LeaseFlow.Solvency
