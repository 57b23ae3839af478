import LeaseFlow.Access.Minted

/-!
# The indexes of the lessee tokens

A token is to stand once on the list of its lessee, on no other lessee's list, and once on the
list of its asset.  Transfers, revocations and renewals store the token through the helper that
a mint uses, which puts its id on the lists again.
-/

set_option autoImplicit false

namespace LeaseFlow.Access

open Transaction Failure

structure AccessStore.Exact (store : AccessStore) : Prop where
  held : ∀ tokenId token, store.accessToken tokenId = some token →
    Listing.Indexed store.lesseeToTokens token.lessee tokenId
  located : ∀ tokenId token, store.accessToken tokenId = some token →
    (store.assetToTokens token.assetIdentifier).count tokenId = 1
  linked : ∀ tokenId token, store.accessToken tokenId = some token →
    store.leaseToAccessToken token.leaseId = some tokenId

/-- Every id on a list is that of a stored token. -/
structure AccessStore.Listed (store : AccessStore) : Prop where
  lessees : ∀ lessee tokenId, tokenId ∈ store.lesseeToTokens lessee →
    store.accessToken tokenId ≠ none
  assets : ∀ assetIdentifier tokenId, tokenId ∈ store.assetToTokens assetIdentifier →
    store.accessToken tokenId ≠ none

/-- The operations on the tokens themselves. -/
def Operation.onToken : Operation → Bool
  | .mintLesseeAccessToken .. => true
  | .verifyAccessToken .. => true
  | .transferAccessToken .. => true
  | .revokeAccessToken .. => true
  | .renewAccessToken .. => true
  | _ => false

/-- The operations that store a token again. -/
def Operation.restores : Operation → Bool
  | .transferAccessToken .. => true
  | .revokeAccessToken .. => true
  | .renewAccessToken .. => true
  | _ => false

section Indexes

variable {store : AccessStore} {tokenId : U128} {token next : LesseeAccessToken}

/-! ## Listed ids -/

theorem AccessStore.empty_listed : AccessStore.empty.Listed :=
  ⟨fun _ _ => List.not_mem_nil.elim, fun _ _ => List.not_mem_nil.elim⟩

theorem AccessStore.empty_exact : AccessStore.empty.Exact :=
  ⟨fun _ _ found => absurd found not_empty_stored, fun _ _ found => absurd found not_empty_stored,
    fun _ _ found => absurd found not_empty_stored⟩

theorem AccessStore.record_stored {other : U128} (stored : store.accessToken other ≠ none) :
    (store.record tokenId token).accessToken other ≠ none := by
  by_cases same : other = tokenId
  · subst same
    rw [AccessStore.record_accessToken_self]
    nofun
  · rwa [AccessStore.record_accessToken_ne same]

theorem AccessStore.Listed.record (listed : store.Listed) : (store.record tokenId token).Listed := by
  have own : (store.record tokenId token).accessToken tokenId ≠ none := by
    rw [AccessStore.record_accessToken_self]
    nofun
  refine ⟨fun lessee other within => ?_, fun assetIdentifier other within => ?_⟩
  · rcases Listing.mem_push_iff.mp within with earlier | ⟨_, rfl⟩
    · exact AccessStore.record_stored (listed.lessees lessee other earlier)
    · exact own
  · rcases Listing.mem_push_iff.mp within with earlier | ⟨_, rfl⟩
    · exact AccessStore.record_stored (listed.assets assetIdentifier other earlier)
    · exact own

theorem AccessStore.Listed.remap (listed : store.Listed) {fromLessee toLessee : Address}
    (stored : store.accessToken tokenId ≠ none) :
    (store.remap tokenId fromLessee toLessee).Listed := by
  refine ⟨fun lessee other within => ?_, listed.assets⟩
  rcases Listing.mem_move within with earlier | rfl
  · exact listed.lessees lessee other earlier
  · exact stored

/-- Every operation keeps the lists to the stored tokens. -/
theorem Effect.listed {env : Env} {before after : Tenancy} {call : Option LeaseFlow.Call}
    (effect : Effect env before after call) (listed : before.access.Listed) :
    after.access.Listed := by
  cases effect with
  | kept world access =>
      rw [access]
      exact listed
  | minted found active unmapped world access =>
      rw [access]
      exact listed.record
  | @verified request token stored world access =>
      have kept (other : U128) (found : before.access.accessToken other ≠ none) :
          after.access.accessToken other ≠ none := by
        rw [access]
        by_cases same : other = request.tokenId
        · subst same
          exact (Function.update_self ..).trans_ne nofun
        · exact (Function.update_of_ne same _ _).trans_ne found
      rw [access] at kept ⊢
      exact ⟨fun lessee other within => kept other (listed.lessees lessee other within),
        fun assetIdentifier other within =>
          kept other (listed.assets assetIdentifier other within)⟩
  | transferred stored unrevoked world access =>
      rw [access]
      refine listed.record.remap ?_
      rw [AccessStore.record_accessToken_self]
      nofun
  | @revoked _ leaseId tokenId token reason mapped stored world access =>
      have recorded := @AccessStore.Listed.record _ tokenId
        (token.revokedFor reason env.timestamp) listed
      rw [access]
      exact ⟨recorded.lessees, recorded.assets⟩
  | renewed mapped stored unrevoked world access =>
      rw [access]
      exact listed.record

/-! ## Exactness -/

theorem AccessStore.Exact.record_new (indexes : store.Exact) (listed : store.Listed)
    (minted : (store.record tokenId token).WellMinted)
    (fresh : store.accessToken tokenId = none) : (store.record tokenId token).Exact := by
  refine ⟨fun other kept found => ?_, fun other kept found => ?_, minted.mapped⟩
  · by_cases same : other = tokenId
    · subst same
      obtain rfl := Option.some.inj (AccessStore.record_accessToken_self.symm.trans found)
      exact Listing.indexed_push fun lessee within => listed.lessees lessee other within fresh
    · rw [AccessStore.record_accessToken_ne same] at found
      exact (indexes.held other kept found).push_other same
  · by_cases same : other = tokenId
    · subst same
      obtain rfl := Option.some.inj (AccessStore.record_accessToken_self.symm.trans found)
      exact (Listing.indexed_push fun assetIdentifier within =>
        listed.assets assetIdentifier other within fresh).once
    · rw [AccessStore.record_accessToken_ne same] at found
      exact (Listing.count_push_ne same).trans (indexes.located other kept found)

/-- A token stored again stands twice on the list of its asset. -/
theorem AccessStore.Exact.lost {after : AccessStore} (indexes : store.Exact)
    (found : store.accessToken tokenId = some token)
    (tokens : after.accessToken = (store.record tokenId next).accessToken)
    (assets : after.assetToTokens = (store.record tokenId next).assetToTokens)
    (asset : next.assetIdentifier = token.assetIdentifier) : ¬ after.Exact := by
  intro again
  have twice := again.located tokenId next (by rw [tokens, AccessStore.record_accessToken_self])
  have once := indexes.located tokenId token found
  rw [assets] at twice
  refine Listing.count_push_ne_one (List.count_pos_iff.mp ?_) twice
  rw [asset]
  omega

theorem AccessStore.Exact.amend {after : AccessStore} (indexes : store.Exact)
    (found : store.accessToken tokenId = some token)
    (tokens : after.accessToken = Function.update store.accessToken tokenId (some next))
    (lessees : after.lesseeToTokens = store.lesseeToTokens)
    (assets : after.assetToTokens = store.assetToTokens)
    (leases : after.leaseToAccessToken = store.leaseToAccessToken)
    (lessee : next.lessee = token.lessee)
    (asset : next.assetIdentifier = token.assetIdentifier) (lease : next.leaseId = token.leaseId) :
    after.Exact := by
  have original (other : U128) (kept : LesseeAccessToken)
      (stored : after.accessToken other = some kept) :
      ∃ before, store.accessToken other = some before ∧ kept.lessee = before.lessee ∧
        kept.assetIdentifier = before.assetIdentifier ∧ kept.leaseId = before.leaseId := by
    rw [tokens] at stored
    by_cases same : other = tokenId
    · subst same
      rw [Function.update_self] at stored
      obtain rfl := Option.some.inj stored
      exact ⟨token, found, lessee, asset, lease⟩
    · rw [Function.update_of_ne same] at stored
      exact ⟨kept, stored, rfl, rfl, rfl⟩
  refine ⟨fun other kept stored => ?_, fun other kept stored => ?_, fun other kept stored => ?_⟩
  · obtain ⟨before, earlier, same, _, _⟩ := original other kept stored
    rw [lessees, same]
    exact indexes.held other before earlier
  · obtain ⟨before, earlier, _, same, _⟩ := original other kept stored
    rw [assets, same]
    exact indexes.located other before earlier
  · obtain ⟨before, earlier, _, _, same⟩ := original other kept stored
    rw [leases, same]
    exact indexes.linked other before earlier

/-! ## Runs -/

variable {before : Tenancy}

/-- A call on the tokens that goes through keeps the indexes exact exactly when it does not store
a token again. -/
theorem Invocation.exact_iff {invocation : Invocation} {after : Tenancy}
    (among : invocation.operation.onToken = true) (sound : before.Sound)
    (listed : before.access.Listed) (indexes : before.access.Exact)
    (run : Commits invocation.body before () after) :
    after.access.Exact ↔ invocation.operation.restores = false := by
  have minted := (sound.commits run).wellMinted
  obtain ⟨env, operation⟩ := invocation
  cases operation with
  | mintLesseeAccessToken leaseId assetIdentifier assetType accessLevel transferable =>
      obtain ⟨tokenId, mint⟩ := commits_forget.mp ((commits_raising _ _ _).mp run)
      obtain ⟨lease, _, _, unmapped, rfl, access, _, _⟩ := mintLesseeAccessToken_commits mint
      refine iff_of_true ?_ rfl
      rw [access] at minted ⊢
      exact indexes.record_new listed minted (sound.wellMinted.fresh unmapped)
  | verifyAccessToken request =>
      obtain ⟨response, verified⟩ := commits_forget.mp ((commits_raising _ _ _).mp run)
      obtain ⟨token, stored, _, _, _, access⟩ := verifyAccessToken_commits verified
      refine iff_of_true ?_ rfl
      rw [access]
      exact indexes.amend stored rfl rfl rfl rfl rfl rfl rfl
  | transferAccessToken request =>
      obtain ⟨token, stored, _, _, _, access⟩ :=
        transferAccessToken_commits ((commits_raising _ _ _).mp run)
      refine iff_of_false ?_ nofun
      rw [access]
      exact indexes.lost stored rfl rfl rfl
  | revokeAccessToken leaseId reason =>
      obtain ⟨tokenId, token, _, stored, _, _, _, rfl⟩ :=
        commits_revokeAccessToken_iff.mp ((commits_raising _ _ _).mp run)
      refine iff_of_false ?_ nofun
      exact indexes.lost stored rfl rfl rfl
  | renewAccessToken leaseId newExpiration =>
      obtain ⟨tokenId, token, _, stored, _, _, _, access⟩ :=
        renewAccessToken_commits ((commits_raising _ _ _).mp run)
      refine iff_of_false ?_ nofun
      rw [access]
      exact indexes.lost stored rfl rfl rfl
  | _ => cases among

theorem Tenancy.Sound.listed_next (sound : before.Sound) (listed : before.access.Listed)
    (invocation : Invocation) : (step invocation before).access.Listed := by
  by_cases goes : invocation.Goes before
  · exact (Operation.effect sound.unsublet goes.commits).listed listed
  · rwa [step, Machine.step_of_not_goes goes]

theorem Invocation.exact_step_iff {invocation : Invocation}
    (among : invocation.operation.onToken = true) (sound : before.Sound)
    (listed : before.access.Listed) (indexes : before.access.Exact) :
    (step invocation before).access.Exact ↔
      (invocation.Goes before → invocation.operation.restores = false) := by
  by_cases goes : invocation.Goes before
  · rw [imp_iff_right goes]
    exact Invocation.exact_iff among sound listed indexes goes.commits
  · rw [step, Machine.step_of_not_goes goes]
    exact iff_of_true indexes fun went => absurd went goes

/-- Along a run of calls on the tokens, on any leases, the indexes are exact in every state
exactly when no token is ever stored again. -/
theorem indexes_exact_iff (world : World) (calls : List Invocation)
    (among : ∀ invocation ∈ calls, invocation.operation.onToken = true) :
    (∀ earlier, earlier <+: calls →
      (Run.run step earlier (.vacant world)).access.Exact) ↔
      Run.MeetsAlong step (fun invocation tenancy =>
        invocation.Goes tenancy → invocation.operation.restores = false) calls
        (.vacant world) :=
  @Run.invariant_along_iff_given _ _ step (fun invocation _ => invocation.operation.onToken = true)
    (fun tenancy => tenancy.Sound ∧ tenancy.access.Listed) (fun tenancy => tenancy.access.Exact) _
    (fun invocation _ _ based =>
      ⟨based.1.next invocation, based.1.listed_next based.2 invocation⟩)
    (fun _ _ among based indexes => Invocation.exact_step_iff among based.1 based.2 indexes)
    calls _ (Run.meetsAlong_of_forall among _)
    ⟨Tenancy.vacant_sound world, AccessStore.empty_listed⟩ AccessStore.empty_exact

end Indexes

/-! ## A token stored again -/

def verifyLetting : Invocation :=
  operateAt 70 (.verifyAccessToken ⟨letTokenId, ⟨8⟩, .unlock, 70⟩)

/-- A mint and a verification leave exact indexes. -/
theorem verifiedLetting_exact :
    (Run.run step [mintLetting, verifyLetting] (.vacant tenantedWorld)).access.Exact :=
  (indexes_exact_iff tenantedWorld [mintLetting, verifyLetting] (by decide)).mpr
    ⟨fun _ => rfl, fun _ => rfl, trivial⟩ _ (List.prefix_refl _)

/-- After a revocation the token stands twice on the list of its asset. -/
theorem revokedLetting_not_exact :
    ¬ ∀ world calls, (∀ invocation ∈ calls, invocation.operation.onToken = true) →
      ∀ earlier, earlier <+: calls →
        (Run.run step earlier (.vacant world)).access.Exact := by
  intro exact_along
  have indexes := exact_along tenantedWorld
    [mintLetting, operateAt 70 (.revokeAccessToken 7 .courtOrder)] (by decide) _ (List.prefix_refl _)
  have once := indexes.located letTokenId (letToken.revokedFor .courtOrder 70) (by decide +kernel)
  revert once
  decide +kernel

end LeaseFlow.Access
