import LeaseFlow.Escrow.Effect

/-!
# Report nonces

The nonces an oracle's accepted reports carry, over both entry points.  The stored
nonce is a high-water mark of them.
-/

set_option autoImplicit false

namespace LeaseFlow

open Transaction

/-- The nonce of the report of an oracle that a call submits and that goes through. -/
def acceptedNonce (oraclePubkey : BytesN 32) (invocation : Invocation) (world : World) :
    Option U64 :=
  match invocation.call.report with
  | some (reporter, nonce) =>
      if reporter = oraclePubkey ∧ invocation.body.succeeds world = true then some nonce else none
  | none => none

/-- The nonces of an oracle's reports that the committed calls of a run accept. -/
def acceptedNonces (oraclePubkey : BytesN 32) (calls : List Invocation) (world : World) :
    List U64 :=
  Run.emissions step (acceptedNonce oraclePubkey) calls world

section Nonces

variable {oraclePubkey : BytesN 32} {invocation : Invocation} {world : World} {nonce : U64}

theorem acceptedNonce_eq_some :
    acceptedNonce oraclePubkey invocation world = some nonce ↔
      invocation.call.report = some (oraclePubkey, nonce) ∧ invocation.Committed world := by
  unfold acceptedNonce
  split
  · next reporter submitted reports =>
      constructor
      · intro accepted
        split at accepted
        · next agrees =>
            obtain ⟨rfl, committed⟩ := agrees
            cases accepted
            exact ⟨reports, committed⟩
        · cases accepted
      · rintro ⟨same, committed⟩
        cases reports.symm.trans same
        exact if_pos ⟨rfl, committed⟩
  · next silent =>
      constructor
      · nofun
      · rintro ⟨reports, _⟩
        cases silent.symm.trans reports

theorem nonceOf_of_accepted (reports : invocation.call.report = some (oraclePubkey, nonce))
    (committed : invocation.Committed world) :
    world.oracle.nonceOf oraclePubkey < nonce ∧
      (step invocation world).oracle.nonceOf oraclePubkey = nonce := by
  obtain ⟨fresh, stored⟩ := (dispatch_effect committed.commits).reported.accepted _ _ reports
  refine ⟨fresh, ?_⟩
  rw [OracleStore.nonceOf, stored, Function.update_self]
  rfl

theorem nonceOf_of_unaccepted (silent : acceptedNonce oraclePubkey invocation world = none) :
    (step invocation world).oracle.nonceOf oraclePubkey = world.oracle.nonceOf oraclePubkey := by
  rcases step_cases invocation world with run | same
  · have reported := (dispatch_effect run).reported
    cases reports : invocation.call.report with
    | none => rw [OracleStore.nonceOf, reported.silent reports, OracleStore.nonceOf]
    | some report =>
        obtain ⟨reporter, nonce⟩ := report
        have differs : oraclePubkey ≠ reporter := by
          rintro rfl
          cases silent.symm.trans (acceptedNonce_eq_some.mpr ⟨reports, .of_commits run⟩)
        rw [OracleStore.nonceOf, (reported.accepted _ _ reports).2,
          Function.update_of_ne differs, OracleStore.nonceOf]
  · rw [same]

theorem nonceOf_highWater (oraclePubkey : BytesN 32) :
    Run.HighWater step (acceptedNonce oraclePubkey)
      (fun world => world.oracle.nonceOf oraclePubkey) where
  silent _ _ unaccepted := (nonceOf_of_unaccepted unaccepted).ge
  above _ _ _ accepted := by
    obtain ⟨reports, committed⟩ := acceptedNonce_eq_some.mp accepted
    exact (nonceOf_of_accepted reports committed).1
  covered _ _ _ accepted := by
    obtain ⟨reports, committed⟩ := acceptedNonce_eq_some.mp accepted
    exact (nonceOf_of_accepted reports committed).2.ge

end Nonces

/-- Over every run, whatever other calls it mixes in, the accepted nonces of an oracle
are strictly increasing, and so none is accepted twice. -/
theorem acceptedNonces_increasing (oraclePubkey : BytesN 32) (calls : List Invocation)
    (world : World) :
    (acceptedNonces oraclePubkey calls world).Pairwise (· < ·) ∧
      (acceptedNonces oraclePubkey calls world).Nodup := by
  have increasing := (nonceOf_highWater oraclePubkey).emissions_increasing calls world
  exact ⟨increasing, increasing.imp fun less => less.ne⟩

/-- The slash a destroyed asset would trigger is part of no committed report, so the
report a call submits is the only one it accepts. -/
theorem destroyed_report_runs_no_slash {env : Env} {world : World}
    {payload : AssetConditionMetadataPayload} {assetRegistryAddress : Address}
    {lease : LeaseInstance}
    (committed : Invocation.Committed
      ⟨env, .updateAssetConditionMetadata payload assetRegistryAddress⟩ world)
    (destroyed : payload.assetCondition = .destroyed)
    (found : world.leases.lookup payload.leaseId = some lease) : lease.status ≠ .active := by
  obtain ⟨other, stored, idle⟩ :=
    (updateAssetConditionMetadata_commits committed.commits).2 destroyed
  cases found.symm.trans stored
  exact idle

end LeaseFlow
