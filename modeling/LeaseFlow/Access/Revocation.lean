import LeaseFlow.Access.Minted
import LeaseFlow.Holdings.FrozenAssets

/-!
# Access ends with the lease

The token of a lease carries a flag and an expiration of its own.  Of the calls that close a
lease only the regular termination revokes the token, and only where the record holds one.
-/

set_option autoImplicit false

namespace LeaseFlow.Access

open Transaction

/-- The lease is in live storage and not terminated. -/
def Tenancy.Running (tenancy : Tenancy) (leaseId : LeaseId) : Prop :=
  ∃ lease, tenancy.leases.lookup leaseId = some lease ∧ lease.status ≠ .terminated

instance (tenancy : Tenancy) (leaseId : LeaseId) : Decidable (tenancy.Running leaseId) :=
  decidable_of_iff ((tenancy.leases.lookup leaseId).any (·.status ≠ .terminated) = true) (by
    simp [Tenancy.Running, Option.any_eq_true])

/-- Once a lease has closed, its token never again passes a verification. -/
def AccessEnds (start : Tenancy) (calls : List Invocation) : Prop :=
  ∀ earlier closing later, earlier ++ closing :: later <+: calls →
    ∀ tokenId token, (Run.run step earlier start).access.accessToken tokenId = some token →
      (Run.run step earlier start).Running token.leaseId →
      ¬ (Run.run step (earlier ++ [closing]) start).Running token.leaseId →
      ∀ (env : Env) (request : AccessVerificationRequest) response after,
        request.tokenId = tokenId →
        Commits (verifyAccessToken env request)
          (Run.run step (earlier ++ closing :: later) start) response after →
        response.isValid = false

/-- The lease a call closes, if it goes through, without revoking its token. -/
def closesSilently (env : Env) (world : World) : LeaseFlow.Call → Option LeaseId
  | .terminateLease leaseId _ =>
      if (world.leases.lookup leaseId).any (·.tokenId.isSome) then none else some leaseId
  | .createLeaseWithContinuousBilling _ => none
  | call => call.ends env world

/-- The operation does not close a lease silently while its token is unrevoked. -/
def Invocation.MindsTokens (invocation : Invocation) (tenancy : Tenancy) : Prop :=
  ∀ call tokenId token, invocation.operation = .contract call →
    tenancy.access.accessToken tokenId = some token →
    closesSilently invocation.env tenancy.toWorld call = some token.leaseId →
    token.revoked = true

section Revocation

variable {env : Env} {before after : Tenancy} {leaseId : LeaseId} {tokenId : U128}
  {token : LesseeAccessToken}

theorem verifyAccessToken_revoked {request : AccessVerificationRequest}
    {response : AccessVerificationResponse} (revoked : before.access.Revoked request.tokenId)
    (run : Commits (verifyAccessToken env request) before response after) :
    response.isValid = false := by
  obtain ⟨token, found, answer, _⟩ := verifyAccessToken_commits run
  obtain ⟨kept, stored, withdrawn⟩ := revoked
  obtain rfl := Option.some.inj (stored.symm.trans found)
  rw [answer, LesseeAccessToken.isValid, withdrawn]
  rfl

/-- A regular termination of a record that holds a token revokes the token of the lease. -/
theorem terminateLease_revokes {caller : Address} {lease : LeaseInstance}
    (unsublet : before.Unsublet) (found : before.leases.lookup leaseId = some lease)
    (held : lease.tokenId ≠ none)
    (mapped : before.access.leaseToAccessToken leaseId = some tokenId)
    (stored : before.access.accessToken tokenId = some token)
    (run : Commits (terminateLease env leaseId caller) before () after) :
    after.access.Revoked tokenId := by
  obtain ⟨other, paid, burned, middle, admitted, _, _, cascade, left, _, rfl⟩ :=
    (commits_terminateLease_iff unsublet).mp run
  obtain rfl := Option.some.inj (found.symm.trans admitted.found)
  rcases (commits_cascadeBurn_iff (unsublet.withWorld burned)).mp cascade with
    ⟨_, revoked⟩ | ⟨missing | unlinked, _⟩
  · obtain ⟨again, same, linked, _, _, _, _, rfl⟩ := commits_revokeAccessToken_iff.mp revoked
    obtain rfl := Option.some.inj (mapped.symm.trans linked)
    exact ⟨_, AccessStore.record_accessToken_self, rfl⟩
  · exact absurd missing held
  · cases stored.symm.trans (unlinked tokenId mapped)

theorem Invocation.MindsTokens.of_no_call {invocation : Invocation}
    (aside : invocation.operation.call? = none) : invocation.MindsTokens before := by
  rintro call tokenId token same
  rw [same] at aside
  cases aside

theorem Tenancy.Running.mint {minted : LeaseId} {lease : LeaseInstance}
    (running : before.Running leaseId) (found : before.leases.lookup minted = some lease)
    (world : after.toWorld = { before.toWorld with
      leases := before.leases.set minted (some (tokenisedLease env tokenId lease)) }) :
    after.Running leaseId := by
  obtain ⟨kept, stored, unended⟩ := running
  rw [Tenancy.Running, world]
  by_cases same : leaseId = minted
  · subst same
    obtain rfl := Option.some.inj (found.symm.trans stored)
    exact ⟨_, Table.lookup_set_self .., unended⟩
  · exact ⟨kept, (Table.lookup_set_ne _ _ same).trans stored, unended⟩

/-- A call of the contract that closes a lease either revokes its token or closes it silently. -/
theorem contract_closes {call : LeaseFlow.Call} (sound : before.Sound)
    (stored : before.access.accessToken tokenId = some token)
    (running : before.Running token.leaseId) (closed : ¬ after.Running token.leaseId)
    (run : Commits ((Operation.contract call).body env) before () after) :
    after.access.Revoked tokenId ∨
      closesSilently env before.toWorld call = some token.leaseId := by
  obtain ⟨lease, found, unended⟩ := running
  have advances : Commits (dispatch env call) before.toWorld () after.toWorld := by
    cases Operation.effect sound.unsublet run with
    | kept world access => exact world
    | revoked mapped stored world access => exact world
  have ends : call.ends env before.toWorld = some token.leaseId := by
    by_contra spared
    exact closed (dispatch_runs advances found unended spared)
  cases call with
  | terminateLease leaseId caller =>
      obtain rfl : leaseId = token.leaseId := Option.some.inj ends
      cases held : lease.tokenId with
      | none =>
          right
          rw [closesSilently, found]
          simp [held]
      | some root =>
          left
          have mapped := sound.wellMinted.mapped tokenId token stored
          exact terminateLease_revokes sound.unsublet found (by rw [held]; nofun) mapped stored
            ((commits_raising _ _ _).mp run)
  | createLeaseWithContinuousBilling params =>
      obtain ⟨next, opened, _, _, running⟩ := dispatch_opens advances ends
      exact absurd ⟨next, opened, running⟩ closed
  | _ => exact .inr ends

theorem Invocation.MindsTokens.revokes {invocation : Invocation}
    (minds : invocation.Goes before → invocation.MindsTokens before) (sound : before.Sound)
    (stored : before.access.accessToken tokenId = some token)
    (running : before.Running token.leaseId)
    (closed : ¬ (step invocation before).Running token.leaseId) :
    (step invocation before).access.Revoked tokenId := by
  have goes : invocation.Goes before := by
    by_contra refused
    rw [step, Machine.step_of_not_goes refused] at closed
    exact closed running
  have run := goes.commits
  have effect := Operation.effect sound.unsublet run
  have same (still : (step invocation before).toWorld = before.toWorld) : False := by
    rw [Tenancy.Running, still] at closed
    exact closed running
  cases operation : invocation.operation with
  | contract call =>
      rw [Invocation.body, operation] at run
      rcases contract_closes sound stored running closed run with revoked | silent
      · exact revoked
      · exact effect.keeps_revoked sound.wellMinted
          ⟨token, stored, minds goes call tokenId token operation stored silent⟩
  | _ =>
      rw [operation] at effect
      cases effect with
      | kept world access => exact (same world).elim
      | minted found active unmapped world access => exact absurd (running.mint found world) closed
      | verified stored world access => exact (same world).elim
      | transferred stored unrevoked world access => exact (same world).elim
      | revoked mapped stored world access => exact (same world).elim
      | renewed mapped stored unrevoked world access => exact (same world).elim

/-- In a run whose operations all mind the tokens of the leases they close, access ends with the
lease. -/
theorem access_ends_with_lease (world : World) (calls : List Invocation)
    (minds : Run.MeetsAlong step (fun invocation tenancy =>
      invocation.Goes tenancy → invocation.MindsTokens tenancy) calls (.vacant world)) :
    AccessEnds (.vacant world) calls := by
  intro earlier closing later within tokenId token stored running closed env request response
    final same run
  subst same
  have sound := (Tenancy.vacant_sound world).run earlier
  have minded := minds.at within
  rw [Run.run_append] at closed run
  have revoked := Invocation.MindsTokens.revokes minded sound stored running closed
  exact verifyAccessToken_revoked ((sound.next closing).revoked_run revoked later) run

end Revocation

/-! ## Closing with and without a revocation -/

def concludeLetting : Invocation :=
  operateAt 80 (.contract (.concludeLease 7 ⟨1⟩ 0))

def revokeLetting : Invocation :=
  operateAt 70 (.revokeAccessToken 7 .leaseTerminated)

theorem revokedLetting_minds :
    Run.MeetsAlong step (fun invocation tenancy =>
      invocation.Goes tenancy → invocation.MindsTokens tenancy)
      [mintLetting, revokeLetting, concludeLetting] (.vacant tenantedWorld) := by
  refine ⟨fun _ => .of_no_call rfl, fun _ => .of_no_call rfl,
    fun _ call tokenId token same stored silent => ?_, trivial⟩
  cases same
  have sound := (Tenancy.vacant_sound tenantedWorld).run [mintLetting, revokeLetting]
  have named : 7 = token.leaseId := Option.some.inj silent
  have mapped := sound.wellMinted.mapped tokenId token stored
  rw [← named] at mapped
  have linked : (Run.run step [mintLetting, revokeLetting]
      (.vacant tenantedWorld)).access.leaseToAccessToken 7 = some letTokenId := by
    decide +kernel
  have revoked : ((Run.run step [mintLetting, revokeLetting]
      (.vacant tenantedWorld)).access.accessToken letTokenId).map (·.revoked) = some true := by
    decide +kernel
  obtain rfl := Option.some.inj (mapped.symm.trans linked)
  exact Option.some.inj ((congrArg (Option.map LesseeAccessToken.revoked) stored).symm.trans
    revoked)

/-- The landlord revokes the token and then concludes the lease. -/
theorem revokedLetting_access_ends :
    AccessEnds (.vacant tenantedWorld) [mintLetting, revokeLetting, concludeLetting] :=
  access_ends_with_lease tenantedWorld _ revokedLetting_minds

/-- A lease is concluded while its token is valid, and the token still opens the door. -/
theorem concludedLetting_access_persists :
    ¬ ∀ world calls, AccessEnds (.vacant world) calls := by
  intro ends
  obtain ⟨after, run⟩ := @verifyAccessToken_answers (openLedger 90 0)
    (step concludeLetting letWorld) ⟨letTokenId, ⟨8⟩, .unlock, 90⟩ letToken (by decide +kernel)
    (by decide)
  have refused := ends tenantedWorld _ [mintLetting] concludeLetting []
    (List.prefix_refl _) letTokenId letToken letWorld_token (by decide +kernel)
    (by decide +kernel) _ _ _ after rfl run
  cases refused

end LeaseFlow.Access
