import LeaseFlow.Archive.FreshRecords

/-!
# Admission of new leases

The asset allowlist and the KYC provider decide who may hold a lease and in which token.  Three
of the four creations ask both before they store their record; a proposal asks neither.
-/

set_option autoImplicit false

namespace LeaseFlow

open Transaction

/-- The parties and the token a creation has to be admitted for. -/
structure Admission where
  landlord : Address
  tenant : Address
  paymentToken : Address

def LeaseInstance.admission (lease : LeaseInstance) : Admission :=
  ⟨lease.landlord, lease.tenant, lease.paymentToken⟩

def LeaseRecord.admission : LeaseRecord → Admission
  | .lease record => ⟨record.landlord, record.tenant, record.paymentToken⟩
  | .leaseInstance record => record.admission
  | .historicalLease record => record.lease.admission

/-- The token is on the allowlist, and a configured provider reports both parties verified. -/
structure Admission.Granted (admission : Admission) (env : Env) (world : World) : Prop where
  allowed : world.config.allowedAsset admission.paymentToken = true
  verified : ∀ provider, world.config.kycProvider = some provider →
    env.contracts.isVerified provider admission.landlord = true ∧
      env.contracts.isVerified provider admission.tenant = true

/-- Whatever a call creates, if it goes through, was admitted when it was made. -/
def Invocation.CreatesAdmitted (invocation : Invocation) (world : World) : Prop :=
  invocation.Committed world → ∀ key record,
    invocation.call.createdKey invocation.env = some key →
    (step invocation world).leaseRecord key = some record →
    record.admission.Granted invocation.env world

/-- What a proposal names is admitted; every other call meets this. -/
def Call.ProposesAdmitted (env : Env) (world : World) : Call → Prop
  | .createLeaseInstance _ landlord params =>
      Admission.Granted ⟨landlord, params.tenant, params.paymentToken⟩ env world
  | _ => True

section Admission

variable {env : Env} {world after : World} {landlord tenant paymentToken : Address}

theorem commits_requireKyc_iff {result : Unit} :
    Commits (requireKyc env landlord tenant) world result after ↔
      (∀ provider, world.config.kycProvider = some provider →
        env.contracts.isVerified provider landlord = true ∧
          env.contracts.isVerified provider tenant = true) ∧ after = world := by
  simp [requireKyc, and_comm]

theorem commits_requireStablecoin_iff {result : Unit} :
    Commits (requireStablecoin paymentToken) world result after ↔
      world.config.allowedAsset paymentToken = true ∧ after = world := by
  simp [requireStablecoin]

theorem admitParties_granted {result : Unit}
    (run : Commits (admitParties env landlord tenant paymentToken) world result after) :
    Admission.Granted ⟨landlord, tenant, paymentToken⟩ env world := by
  simp only [admitParties, commits_bind, commits_requireAuth, commits_requireKyc_iff,
    commits_requireStablecoin_iff] at run
  obtain ⟨_, _, ⟨_, rfl⟩, _, _, ⟨verified, rfl⟩, allowed, rfl⟩ := run
  exact ⟨allowed, verified⟩

theorem initializeLease_granted {leaseId : Symbol} {depositAmount : I128} {duration : U64}
    {propertyUri : String} {result : Bool}
    (run : Commits (initializeLease env leaseId landlord tenant depositAmount duration
      propertyUri paymentToken) world result after) :
    Admission.Granted ⟨landlord, tenant, paymentToken⟩ env world := by
  simp only [initializeLease, commits_bind] at run
  obtain ⟨_, _, admitted, _⟩ := run
  exact admitParties_granted admitted

theorem createLease_granted {result : Symbol}
    (run : Commits (createLease env landlord tenant paymentToken) world result after) :
    Admission.Granted ⟨landlord, tenant, paymentToken⟩ env world := by
  simp only [createLease, commits_bind] at run
  obtain ⟨_, _, admitted, _⟩ := run
  exact admitParties_granted admitted

theorem createLeaseWithContinuousBilling_granted {params : BillingLeaseParams} {result : LeaseId}
    (run : Commits (createLeaseWithContinuousBilling env params) world result after) :
    Admission.Granted ⟨params.landlord, params.tenant, params.paymentToken⟩ env world := by
  simp only [createLeaseWithContinuousBilling, commits_bind, commits_requireAuth,
    commits_requireKyc_iff, commits_requireStablecoin_iff] at run
  obtain ⟨_, _, ⟨_, rfl⟩, _, _, ⟨verified, rfl⟩, _, _, ⟨allowed, rfl⟩, _⟩ := run
  exact ⟨allowed, verified⟩

theorem leaseRecord_of_lease {leaseId : Symbol} {lease : Lease} {record : LeaseRecord}
    (written : after.symbols.lease = Function.update world.symbols.lease leaseId (some lease))
    (stored : after.leaseRecord (.lease leaseId) = some record) : record = .lease lease := by
  rw [World.leaseRecord, written, Function.update_self] at stored
  exact (Option.some.inj stored).symm

theorem leaseRecord_of_moved {leaseId : LeaseId} {lease : LeaseInstance}
    {entries : List DepositEntry} {record : LeaseRecord}
    (moved : world.toEscrow.Moved leaseId (some lease) entries after.toEscrow)
    (stored : after.leaseRecord (.leaseInstance leaseId) = some record) :
    record = .leaseInstance lease := by
  rw [World.leaseRecord, moved.lookup_self] at stored
  exact (Option.some.inj stored).symm

/-- The record of a committed creation was admitted, unless it is a proposal: that is admitted
exactly when what it names is. -/
theorem created_granted_iff {call : Call} {key : LeaseKey} {record : LeaseRecord}
    (run : Commits (dispatch env call) world () after)
    (creates : call.createdKey env = some key) (stored : after.leaseRecord key = some record) :
    record.admission.Granted env world ↔ call.ProposesAdmitted env world := by
  cases call with
  | createLease landlord tenant paymentToken =>
      cases creates
      obtain ⟨_, created⟩ := (commits_dropResult _ _).mp run
      obtain rfl := leaseRecord_of_lease (createLease_lease created) stored
      exact iff_of_true (createLease_granted created) trivial
  | initializeLease leaseId landlord tenant depositAmount duration propertyUri paymentToken =>
      cases creates
      obtain ⟨_, created⟩ := (commits_dropResult _ _).mp run
      obtain rfl := leaseRecord_of_lease (initializeLease_lease created) stored
      exact iff_of_true (initializeLease_granted created) trivial
  | createLeaseInstance leaseId landlord params =>
      cases creates
      obtain ⟨lease, opening, moved⟩ := (dispatch_effect run).movement.opening rfl
      obtain rfl := leaseRecord_of_moved moved stored
      cases opening
      exact Iff.rfl
  | createLeaseWithContinuousBilling params =>
      cases creates
      obtain ⟨_, created⟩ := (commits_dropResult _ _).mp run
      obtain ⟨lease, opening, moved⟩ := (dispatch_effect run).movement.opening rfl
      obtain rfl := leaseRecord_of_moved moved stored
      cases opening
      exact iff_of_true (createLeaseWithContinuousBilling_granted created) trivial
  | _ => cases creates

theorem Call.proposesAdmitted_of_silent {call : Call} (silent : call.createdKey env = none) :
    call.ProposesAdmitted env world := by
  cases call with
  | createLeaseInstance => cases silent
  | _ => trivial

/-- A call creates admitted records only exactly when, going through, it proposes only what is
admitted. -/
theorem Invocation.createsAdmitted_iff {invocation : Invocation} :
    invocation.CreatesAdmitted world ↔
      (invocation.Committed world → invocation.call.ProposesAdmitted invocation.env world) := by
  unfold Invocation.CreatesAdmitted
  refine imp_congr_right fun committed => ?_
  constructor
  · intro admitted
    cases creates : invocation.call.createdKey invocation.env with
    | none => exact Call.proposesAdmitted_of_silent creates
    | some key =>
        obtain ⟨record, written⟩ := leaseRecord_of_creation creates committed.commits
        have stored : (step invocation world).leaseRecord key = some record := by
          rw [written, Function.update_self]
        exact (created_granted_iff committed.commits creates stored).mp
          (admitted key record creates stored)
  · intro proposes key record creates stored
    exact (created_granted_iff committed.commits creates stored).mpr proposes

end Admission

/-- In a run every lease was admitted when it was created exactly when every proposal that goes
through names an allowed token and, where a provider is set, verified parties. -/
theorem creations_admitted_iff (calls : List Invocation) (world : World) :
    Run.MeetsAlong step (fun invocation world => invocation.CreatesAdmitted world) calls world ↔
      Run.MeetsAlong step (fun invocation world => invocation.Committed world →
        invocation.call.ProposesAdmitted invocation.env world) calls world :=
  @Run.meetsAlong_congr _ _ step (fun _ => True) _ _ (fun _ _ _ => trivial)
    (fun _ _ _ => Invocation.createsAdmitted_iff) calls world trivial

/-- A deployment that allows no token and whose provider has verified nobody. -/
def closedSettings : ConfigStore :=
  { openSettings with allowedAsset := fun _ => false, kycProvider := some ⟨9⟩ }

def unverifiedContracts : ExternalContracts :=
  { agreeableContracts with isVerified := fun _ _ => false }

/-- A proposal on a ledger whose provider knows neither party. -/
def unverifiedProposal : Invocation :=
  ⟨{ openLedger 50 0 with contracts := unverifiedContracts },
    .createLeaseInstance 7 ⟨1⟩ (sampleProposal 200 50)⟩

/-- The proposal goes through and stores a lease that was not admitted. -/
theorem unverifiedProposal_admitted_unchecked :
    ¬ Run.MeetsAlong step (fun invocation world => invocation.CreatesAdmitted world)
      [unverifiedProposal] (World.genesis closedSettings openBilling none) := by
  rintro ⟨admitted, _⟩
  have granted := admitted (show _ = true by decide) (.leaseInstance 7) _ rfl rfl
  cases granted.allowed

end LeaseFlow
