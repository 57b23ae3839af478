import LeaseFlow.Access.Effect
import LeaseFlow.Archive.Entries

/-!
# Closing a settled lease

A regular termination of a settled lease computes a bounty and revokes the token of the lease.
Revoking stores the token again with a time to live that ends at its expiration, which is the end
of the lease: past that time the subtraction traps.
-/

set_option autoImplicit false

namespace LeaseFlow.Access

open Transaction Failure

/-- The termination goes through and the lease lies in the archive. -/
def Archives (env : Env) (leaseId : LeaseId) (caller : Address) (lease : LeaseInstance)
    (before : Tenancy) : Prop :=
  ∃ after, Commits (terminateLease env leaseId caller) before () after ∧
    after.leases.lookup leaseId = none ∧
    after.archive.historicalLease leaseId = some ⟨lease, caller, env.timestamp⟩

/-- The bounty, if a platform fee is configured, does not overflow. -/
def BountyFits (config : ConfigStore) : Prop :=
  ∀ feeAmount, config.platformFeeAmount = some feeAmount →
    config.platformFeeToken ≠ none → config.platformFeeRecipient ≠ none →
    i128Min ≤ feeAmount * 1000 ∧ feeAmount * 1000 ≤ i128Max

/-- A token of the lease, if its record holds one, is not past its expiration, and the count of
the lease's revocations can be read and counted up. -/
def Revocable (env : Env) (leaseId : LeaseId) (lease : LeaseInstance) (tenancy : Tenancy) : Prop :=
  lease.tokenId ≠ none → ∀ tokenId token,
    tenancy.access.leaseToAccessToken leaseId = some tokenId →
    tenancy.access.accessToken tokenId = some token →
    env.timestamp ≤ token.expirationTimestamp ∧ tenancy.assets.tenantFlag leaseId = false ∧
      (tenancy.access.revocationIndex leaseId).getD 0 + 1 ≤ u64Max

section Closing

variable {env : Env} {leaseId : LeaseId} {lease : LeaseInstance} {caller : Address}

/-! ## The steps around the cascade -/

theorem payBounty_commits (pays : ∀ payment, env.contracts.acceptsTransfer payment = true)
    (feeToken feeRecipient : Address) (bounty : I128) (event : Event) (world : World) :
    ∃ paid, Commits (payBounty env feeToken feeRecipient caller bounty (publish event)) world ()
      paid := by
  unfold payBounty
  split
  · simp only [transfer, publish, commits_bind, commits_demand, commits_modify]
    exact ⟨_, (), _, ⟨(), _, ⟨pays _, rfl⟩, rfl⟩, rfl⟩
  · exact ⟨world, (commits_pure _ _).mpr ⟨rfl, rfl⟩⟩

theorem payTerminationBounty_commits_iff {world : World}
    (pays : ∀ payment, env.contracts.acceptsTransfer payment = true) :
    (∃ paid, Commits (payTerminationBounty env leaseId caller) world () paid) ↔
      BountyFits world.config := by
  simp only [payTerminationBounty, platformFee, commits_bind, commits_inspect]
  constructor
  · rintro ⟨paid, fee, _, ⟨rfl, rfl⟩, rest⟩ feeAmount amount token recipient
    obtain ⟨feeToken, token⟩ := Option.ne_none_iff_exists'.mp token
    obtain ⟨feeRecipient, recipient⟩ := Option.ne_none_iff_exists'.mp recipient
    simp only [amount, token, recipient, commits_bind, commits_checkedI128] at rest
    obtain ⟨_, _, ⟨range, _⟩, _⟩ := rest
    exact range
  · intro fits
    cases amount : world.config.platformFeeAmount with
    | none => exact ⟨world, _, _, ⟨rfl, rfl⟩, by simp⟩
    | some feeAmount =>
        cases token : world.config.platformFeeToken with
        | none => exact ⟨world, _, _, ⟨rfl, rfl⟩, by simp⟩
        | some feeToken =>
            cases recipient : world.config.platformFeeRecipient with
            | none => exact ⟨world, _, _, ⟨rfl, rfl⟩, by simp⟩
            | some feeRecipient =>
                have range := fits feeAmount amount (token ▸ Option.some_ne_none _)
                  (recipient ▸ Option.some_ne_none _)
                obtain ⟨paid, bounty⟩ := @payBounty_commits env caller pays feeToken feeRecipient
                  ((feeAmount * 1000).tdiv 10000) (.terminateBountyPaid leaseId caller
                    ((feeAmount * 1000).tdiv 10000)) world
                refine ⟨paid, _, _, ⟨rfl, rfl⟩, ?_⟩
                simp only [commits_bind, commits_checkedI128]
                exact ⟨_, _, ⟨range, rfl, rfl⟩, bounty⟩

theorem thawAsset_faults {world left : World} {registryAddress : Address} {assetId : U128}
    {fault : Fault} (faulted : Faults (thawAsset env leaseId registryAddress assetId) world fault
      left) : fault = .err .assetThawFailed := by
  simp only [thawAsset, LeaseFlow.require, okOr, updateAssets, faults_bind, faults_ensure,
    faults_fetch, not_faults_inspect, not_faults_modify, false_or, and_false, exists_false,
    or_false] at faulted
  obtain ⟨_, _, _, ⟨_, rfl, _⟩ | ⟨_, _, _, _, _, _, ⟨_, rfl, _⟩ | ⟨_, _, _, _, rfl, _⟩⟩⟩ := faulted
  all_goals rfl

theorem burnAccessTokens_commits (tokenId : Option U128) (world : World) :
    ∃ burned, Commits (burnAccessTokens leaseId tokenId) world () burned := by
  cases tokenId with
  | none => exact ⟨world, (commits_pure _ _).mpr ⟨rfl, rfl⟩⟩
  | some root => exact ⟨_, (commits_modify _ _).mpr rfl⟩

theorem resultOf_commits {α : Type} {body : Contract α} {world : World}
    (errs : ∀ fault left, Faults body world fault left → ∃ error, fault = .err error) :
    ∃ outcome left, Commits (resultOf body) world outcome left := by
  unfold Commits resultOf
  rw [execute_capture]
  rcases ran : body.execute world with ⟨outcome, left⟩
  cases outcome with
  | ok value => exact ⟨_, _, rfl⟩
  | error fault =>
      obtain ⟨error, rfl⟩ := errs fault left ran
      exact ⟨_, _, rfl⟩

/-- The thaw goes through: where it ends in an error the error is dropped. -/
theorem thawLeaseAsset_commits (world : World) :
    ∃ thawed, Commits (thawLeaseAsset env leaseId lease) world () thawed := by
  unfold thawLeaseAsset
  split
  · next registryAddress assetId _ _ =>
      obtain ⟨outcome, left, kept⟩ := @resultOf_commits _
        (thawAsset env leaseId registryAddress assetId) world
        fun _ _ faulted => ⟨_, thawAsset_faults faulted⟩
      exact ⟨left, (commits_bind _ _ _).mpr ⟨outcome, left, kept, (commits_pure _ _).mpr ⟨rfl, rfl⟩⟩⟩
  · exact ⟨world, (commits_pure _ _).mpr ⟨rfl, rfl⟩⟩

theorem closeTermination_commits (world : World) :
    ∃ left, Commits (closeTermination env leaseId lease caller) world () left ∧
      left.leases.lookup leaseId = none ∧
      left.archive.historicalLease leaseId = some ⟨lease, caller, env.timestamp⟩ := by
  obtain ⟨thawed, thaw⟩ := @thawLeaseAsset_commits env leaseId lease world
  simp only [closeTermination, archiveLease, deleteLeaseInstance, publish, commits_bind,
    commits_modify]
  exact ⟨_, ⟨(), thawed, thaw, (), _, ⟨(), _, rfl, rfl⟩, rfl⟩, Table.lookup_set_self ..,
    Function.update_self ..⟩

/-- The cascade goes through exactly when the token can be revoked. -/
theorem cascadeBurn_commits_iff {before : Tenancy} (unsublet : before.Unsublet) :
    (∃ middle, Commits (cascadeBurn env leaseId lease.tokenId) before () middle) ↔
      Revocable env leaseId lease before := by
  simp only [commits_cascadeBurn_iff unsublet, commits_revokeAccessToken_iff]
  constructor
  · rintro ⟨middle, ⟨_, other, stored, linked, found, timely, unflagged, counted, _⟩ |
      ⟨missing | unlinked, _⟩⟩ holds tokenId token mapped kept
    · obtain rfl := Option.some.inj (linked.symm.trans mapped)
      obtain rfl := Option.some.inj (found.symm.trans kept)
      exact ⟨timely, unflagged, counted⟩
    · exact absurd missing holds
    · cases kept.symm.trans (unlinked tokenId mapped)
  · intro revocable
    by_cases missing : lease.tokenId = none
    · exact ⟨before, .inr ⟨.inl missing, rfl⟩⟩
    by_cases unlinked : before.access.Unlinked leaseId
    · exact ⟨before, .inr ⟨.inr unlinked, rfl⟩⟩
    obtain ⟨tokenId, token, mapped, stored⟩ := AccessStore.linked_of_not_unlinked unlinked
    obtain ⟨timely, unflagged, counted⟩ := revocable missing tokenId token mapped stored
    exact ⟨_, .inl ⟨missing, tokenId, token, mapped, stored, timely, unflagged, counted, rfl⟩⟩

theorem Revocable.congr {before after : Tenancy} (access : after.access = before.access)
    (flags : after.assets.tenantFlag = before.assets.tenantFlag) :
    Revocable env leaseId lease after ↔ Revocable env leaseId lease before := by
  rw [Revocable, Revocable, access, flags]

/-! ## The termination -/

/-- Where the bounty can be computed, the termination of a settled lease past its end goes
through exactly when its token can be revoked. -/
theorem settled_lease_archives_iff {tenancy : Tenancy} (arises : Arises tenancy)
    (found : tenancy.leases.lookup leaseId = some lease)
    (settled : lease.depositStatus = .settled) (expired : lease.endDate ≤ env.timestamp)
    (entitled : caller = lease.landlord ∨ caller = lease.tenant ∨
      tenancy.config.admin = some caller)
    (authorised : env.authorised caller = true)
    (pays : ∀ payment, env.contracts.acceptsTransfer payment = true) :
    Archives env leaseId caller lease tenancy ↔
      BountyFits tenancy.config ∧ Revocable env leaseId lease tenancy := by
  have unsublet := arises.unsublet
  have closed : lease.depositStatus ≠ .held ∧ lease.depositStatus ≠ .disputed := by
    rw [settled]
    exact ⟨nofun, nofun⟩
  have flags {paid burned : World}
      (bounty : Commits (payTerminationBounty env leaseId caller) tenancy.toWorld () paid)
      (burn : Commits (burnAccessTokens leaseId lease.tokenId) paid () burned) :
      burned.assets.tenantFlag = tenancy.assets.tenantFlag :=
    (part_kept .tenantFlags burn (by simp)).trans (part_kept .tenantFlags bounty (by simp))
  constructor
  · rintro ⟨after, run, _⟩
    obtain ⟨other, paid, burned, middle, admitted, bounty, burn, cascade, _⟩ :=
      (commits_terminateLease_iff unsublet).mp run
    obtain rfl := Option.some.inj (found.symm.trans admitted.found)
    refine ⟨(payTerminationBounty_commits_iff pays).mp ⟨paid, bounty⟩, ?_⟩
    have same := @Revocable.congr env leaseId lease tenancy (tenancy.withWorld burned) rfl
      (flags bounty burn)
    exact same.mp ((cascadeBurn_commits_iff (unsublet.withWorld burned)).mp ⟨middle, cascade⟩)
  · rintro ⟨fits, revocable⟩
    obtain ⟨paid, bounty⟩ := (payTerminationBounty_commits_iff pays).mpr fits
    obtain ⟨burned, burn⟩ := @burnAccessTokens_commits leaseId lease.tokenId paid
    have same := @Revocable.congr env leaseId lease tenancy (tenancy.withWorld burned) rfl
      (flags bounty burn)
    obtain ⟨middle, cascade⟩ :=
      (cascadeBurn_commits_iff (unsublet.withWorld burned)).mpr (same.mpr revocable)
    obtain ⟨left, closing, gone, filed⟩ := @closeTermination_commits env leaseId lease caller burned
    refine ⟨middle.withWorld left, ?_, gone, filed⟩
    exact (commits_terminateLease_iff unsublet).mpr ⟨lease, paid, burned, middle,
      ⟨found, entitled, authorised, expired, closed⟩, bounty, burn, cascade, left, closing, rfl⟩

end Closing

/-- Every settled lease past its end can be closed. -/
def Tenancy.ClosesSettled (tenancy : Tenancy) : Prop :=
  ∀ (env : Env) leaseId lease caller,
    tenancy.leases.lookup leaseId = some lease → lease.depositStatus = .settled →
    lease.endDate ≤ env.timestamp →
    (caller = lease.landlord ∨ caller = lease.tenant ∨ tenancy.config.admin = some caller) →
    env.authorised caller = true →
    (∀ payment, env.contracts.acceptsTransfer payment = true) →
    Archives env leaseId caller lease tenancy

/-! ## A settled proposal -/

/-- Admin 1 sets a platform fee, and the tenant settles the deposit of a proposal. -/
def settledProposal (feeAmount : I128) : Tenancy :=
  Run.run step
    [operateAt 40 (.contract (.setPlatformFee ⟨1⟩ feeAmount ⟨3⟩ ⟨5⟩)),
      operateAt 50 (.contract (propose 50 7 200 50).call),
      operateAt 70 (.contract (.settleDeposit 7 ⟨2⟩))]
    (.vacant (World.genesis { openSettings with admin := some ⟨1⟩ } openBilling none))

theorem settledProposal_reachable (feeAmount : I128) : Reachable (settledProposal feeAmount) :=
  ⟨_, _, _, _, rfl⟩

theorem settledProposal_lease (feeAmount : I128) :
    ∃ lease, (settledProposal feeAmount).leases.lookup 7 = some lease ∧
      lease.depositStatus = .settled ∧ lease.endDate = 1000000 ∧ lease.tenant = ⟨2⟩ ∧
      lease.tokenId = none :=
  ⟨_, rfl, rfl, rfl, rfl, rfl⟩

/-- At its end the proposal can be closed for a fee of 50. -/
theorem settledProposal_archives :
    ∃ lease, Archives (openLedger 1000000 0) 7 ⟨2⟩ lease (settledProposal 50) := by
  obtain ⟨lease, found, settled, ended, tenant, free⟩ := settledProposal_lease 50
  refine ⟨lease, (settled_lease_archives_iff (settledProposal_reachable 50).arises found settled
    (ended ▸ le_refl _) (.inr (.inl tenant.symm)) rfl fun _ => rfl).mpr ⟨?_, ?_⟩⟩
  · intro feeAmount amount _ _
    cases amount
    decide
  · exact fun held => absurd free held

/-! ## A settled lease with a token -/

/-- The tenant settles the deposit of a lease whose token is stored. -/
def settledWorld : Tenancy :=
  step (operateAt 70 (.contract (.settleDeposit 7 ⟨2⟩))) letWorld

theorem settledWorld_arises : Arises settledWorld :=
  ⟨tenantedWorld, [mintLetting, operateAt 70 (.contract (.settleDeposit 7 ⟨2⟩))], rfl⟩

theorem settledWorld_lease :
    ∃ lease, settledWorld.leases.lookup 7 = some lease ∧ lease.depositStatus = .settled ∧
      lease.endDate = 1000050 ∧ lease.tenant = ⟨2⟩ ∧ lease.tokenId = some letTokenId := by
  have stored : (settledWorld.leases.lookup 7).any (fun lease =>
      lease.depositStatus = .settled ∧ lease.endDate = 1000050 ∧ lease.tenant = ⟨2⟩ ∧
        lease.tokenId = some letTokenId) = true := by
    decide +kernel
  obtain ⟨lease, found, fields⟩ := (Option.any_eq_true ..).mp stored
  exact ⟨lease, found, of_decide_eq_true fields⟩

theorem settledWorld_token :
    settledWorld.access.leaseToAccessToken 7 = some letTokenId ∧
      settledWorld.access.accessToken letTokenId = some letToken := by
  decide +kernel

/-- The share of a large platform fee overflows. -/
theorem settledProposal_stuck : ¬ (settledProposal (2 ^ 126)).ClosesSettled := by
  intro closes
  obtain ⟨lease, found, settled, ended, tenant, _⟩ := settledProposal_lease (2 ^ 126)
  obtain ⟨after, run, _⟩ := closes (openLedger 1000000 0) 7 lease ⟨2⟩ found settled
    (ended ▸ le_refl _) (.inr (.inl tenant.symm)) rfl fun _ => rfl
  obtain ⟨_, paid, _, _, _, bounty, _⟩ :=
    (commits_terminateLease_iff (settledProposal_reachable (2 ^ 126)).arises.unsublet).mp run
  have fits := (payTerminationBounty_commits_iff fun _ => rfl).mp ⟨paid, bounty⟩
  exact absurd (fits (2 ^ 126) rfl nofun nofun) (by decide)

/-- A second after the end of the lease its token has expired, and cannot be stored again. -/
theorem settledWorld_stuck : ¬ settledWorld.ClosesSettled := by
  intro closes
  obtain ⟨lease, found, settled, ended, tenant, held⟩ := settledWorld_lease
  obtain ⟨after, run, _⟩ := closes (openLedger 1000051 0) 7 lease ⟨2⟩ found settled
    (by rw [ended]; decide) (.inr (.inl tenant.symm)) rfl fun _ => rfl
  obtain ⟨other, _, burned, middle, admitted, _, _, cascade, _⟩ :=
    (commits_terminateLease_iff settledWorld_arises.unsublet).mp run
  obtain rfl := Option.some.inj (found.symm.trans admitted.found)
  have revocable := (cascadeBurn_commits_iff
    (settledWorld_arises.unsublet.withWorld burned)).mp ⟨middle, cascade⟩
  obtain ⟨timely, _⟩ := revocable (held ▸ Option.some_ne_none _) letTokenId letToken
    settledWorld_token.1 settledWorld_token.2
  exact absurd timely (by decide)

/-- Neither every reachable store nor every store that arises without a platform fee closes its
settled leases. -/
theorem settled_lease_stuck :
    (¬ ∀ tenancy, Reachable tenancy → tenancy.ClosesSettled) ∧
      ¬ ∀ tenancy, Arises tenancy → tenancy.config.platformFeeAmount = none →
        tenancy.ClosesSettled := by
  constructor
  · intro closes
    exact settledProposal_stuck (closes _ (settledProposal_reachable (2 ^ 126)))
  · intro closes
    exact settledWorld_stuck (closes settledWorld settledWorld_arises rfl)

end LeaseFlow.Access
