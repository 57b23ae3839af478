import LeaseFlow.Access.Cascade

/-!
# The identity and the indexes of the derived tokens

The id of a derived token packs the low half of its parent's id with the time of the mint.  The
token is to stand once on the list of its lease, of its sublessee and of its zone.  A mint, a
transfer and a change of zone all store a token that is stored already through the helper that
puts its id on the lists once more.
-/

set_option autoImplicit false

namespace LeaseFlow.Access

open Transaction Failure

/-- The tokens stored for a lease. -/
def DerivedStore.tokensOf (store : DerivedStore) (leaseId : LeaseId) : Nat :=
  store.derivedToken.count fun token => token.rootLeaseId = leaseId

/-- Every stored token stands once on the list of its lease, once on the list of its sublessee
and no other, and once on the list of its zone and no other of its lease; the metrics of a lease
count its tokens.  Zones of one name share a list. -/
structure DerivedStore.Exact (store : DerivedStore) : Prop where
  leases : ∀ tokenId token, store.derivedToken.lookup tokenId = some token →
    (store.leaseToDerivedTokens token.rootLeaseId).count tokenId = 1
  sublessees : ∀ tokenId token, store.derivedToken.lookup tokenId = some token →
    Listing.Indexed store.sublesseeToDerivedTokens token.sublessee tokenId
  zones : ∀ tokenId token, store.derivedToken.lookup tokenId = some token →
    Listing.Indexed (fun zone => store.spatialZoneTokens (zone, token.rootLeaseId))
      token.spatialZone.key tokenId
  metrics : ∀ leaseId metrics, store.hierarchyMetrics leaseId = some metrics →
    metrics.totalTokens = store.tokensOf leaseId

/-- The operations that store a derived token, with what they ask for. -/
def Operation.Admitted (env : Env) (tenancy : Tenancy) : Operation → Prop
  | .mintDerivedAccessToken request =>
      ∃ parentToken parent again, Mintable env request tenancy parentToken parent again
  | .transferDerivedToken tokenId fromSublessee _ =>
      ∃ token, tenancy.derived.derivedToken.lookup tokenId = some token ∧
        Transferable env fromSublessee token
  | .updateSpatialZone tokenId newZone =>
      ∃ token, tenancy.derived.derivedToken.lookup tokenId = some token ∧
        Rezonable env newZone token
  | _ => False

def Operation.onDerived : Operation → Bool
  | .mintDerivedAccessToken .. => true
  | .transferDerivedToken .. => true
  | .updateSpatialZone .. => true
  | _ => false

/-! ## Identity -/

/-- Two ids are equal where the mints are at one time and the parents agree in their low half. -/
theorem generateUniqueDerivedTokenId_eq_iff {env other : Env} {parentTokenId otherId : U128} :
    generateUniqueDerivedTokenId env parentTokenId = generateUniqueDerivedTokenId other otherId ↔
      parentTokenId % 2 ^ 64 = otherId % 2 ^ 64 ∧
        env.timestamp.toUInt64 = other.timestamp.toUInt64 := by
  rw [← UInt64.toNat_inj]
  exact BoundedArithmetic.packed_eq_iff (UInt64.toNat_lt _) (UInt64.toNat_lt _)

theorem toUInt64_eq_iff {timestamp other : U64} (within : timestamp ≤ u64Max)
    (otherWithin : other ≤ u64Max) : timestamp.toUInt64 = other.toUInt64 ↔ timestamp = other := by
  have small (time : U64) (range : time ≤ u64Max) : time.toUInt64.toNat = time :=
    UInt64.toNat_ofNat_of_lt (Nat.lt_succ_of_le range)
  rw [← UInt64.toNat_inj, small timestamp within, small other otherWithin]

section Indexes

variable {env : Env} {before after : Tenancy} {store : DerivedStore} {tokenId : U128}
  {token next : DerivedAccessToken}

/-! ## What a call leaves -/

/-- A token that stood on the list of its lease was stored through the helper. -/
structure DerivedStore.StoredAgain (tokenId : U128) (next : DerivedAccessToken)
    (store after : DerivedStore) : Prop where
  listed : tokenId ∈ store.leaseToDerivedTokens next.rootLeaseId
  tokens : after.derivedToken = (store.record tokenId next).derivedToken
  leases : after.leaseToDerivedTokens = (store.record tokenId next).leaseToDerivedTokens

/-- A token stored again stands twice on the list of its lease. -/
theorem DerivedStore.StoredAgain.not_exact {left : DerivedStore}
    (again : DerivedStore.StoredAgain tokenId next store left) : ¬ left.Exact := by
  intro exact
  have once := exact.leases tokenId next (by rw [again.tokens, DerivedStore.record_lookup_self])
  rw [again.leases] at once
  exact Listing.count_push_ne_one again.listed once

theorem DerivedStore.Exact.listed (indexes : store.Exact)
    (found : store.derivedToken.lookup tokenId = some token) :
    tokenId ∈ store.leaseToDerivedTokens token.rootLeaseId := by
  have once := indexes.leases tokenId token found
  exact List.count_pos_iff.mp (by omega)

theorem DerivedStore.Exact.listed_record (indexes : store.Exact) {other : U128}
    (found : (store.record other next).derivedToken.lookup tokenId = some token) :
    tokenId ∈ (store.record other next).leaseToDerivedTokens token.rootLeaseId := by
  apply Listing.mem_push_iff.mpr
  by_cases same : tokenId = other
  · subst same
    rw [DerivedStore.record_lookup_self] at found
    cases found
    exact .inr ⟨rfl, rfl⟩
  · rw [DerivedStore.record_lookup_ne same] at found
    exact .inl (indexes.listed found)

/-! ## Exactness -/

variable {invocation : Invocation}

theorem Invocation.goes_iff_admitted (among : invocation.operation.onDerived = true) :
    invocation.Goes before ↔ invocation.operation.Admitted invocation.env before := by
  unfold Invocation.Goes Machine.Goes
  rw [succeeds_iff]
  obtain ⟨env, operation⟩ := invocation
  cases operation with
  | mintDerivedAccessToken request =>
      constructor
      · rintro ⟨_, after, run⟩
        obtain ⟨minted, run⟩ := commits_forget.mp ((commits_raising _ _ _).mp run)
        obtain ⟨parentToken, parent, again, admitted, _⟩ := mintDerivedAccessToken_commits run
        exact ⟨parentToken, parent, again, admitted⟩
      · rintro ⟨parentToken, parent, again, admitted⟩
        obtain ⟨minted, after, run⟩ := admitted.goes
        exact ⟨(), after, (commits_raising _ _ _).mpr (commits_forget.mpr ⟨minted, run⟩)⟩
  | transferDerivedToken tokenId fromSublessee toSublessee =>
      constructor
      · rintro ⟨_, after, run⟩
        obtain ⟨token, found, admitted, _⟩ :=
          transferDerivedToken_commits ((commits_raising _ _ _).mp run)
        exact ⟨token, found, admitted⟩
      · rintro ⟨token, found, admitted⟩
        obtain ⟨after, run⟩ := admitted.goes found toSublessee
        exact ⟨(), after, (commits_raising _ _ _).mpr run⟩
  | updateSpatialZone tokenId newZone =>
      constructor
      · rintro ⟨_, after, run⟩
        obtain ⟨token, found, admitted, _⟩ :=
          updateSpatialZone_commits ((commits_raising _ _ _).mp run)
        exact ⟨token, found, admitted⟩
      · rintro ⟨token, found, admitted⟩
        obtain ⟨after, run⟩ := admitted.goes found
        exact ⟨(), after, (commits_raising _ _ _).mpr run⟩
  | _ => cases among

theorem DerivedStore.Exact.storedAgain (indexes : before.derived.Exact)
    (among : invocation.operation.onDerived = true)
    (run : Commits invocation.body before () after) :
    ∃ store tokenId next, DerivedStore.StoredAgain tokenId next store after.derived := by
  obtain ⟨env, operation⟩ := invocation
  cases operation with
  | mintDerivedAccessToken request =>
      obtain ⟨minted, run⟩ := commits_forget.mp ((commits_raising _ _ _).mp run)
      obtain ⟨parentToken, parent, again, admitted, _, _, metrics, left⟩ :=
        mintDerivedAccessToken_commits run
      have listed := indexes.listed_record admitted.reread
      refine ⟨before.derived.sublet env request parentToken parent, request.parentTokenId,
        { again with childTokens :=
          again.childTokens ++ [generateUniqueDerivedTokenId env request.parentTokenId] },
        listed, ?_, ?_⟩
      · rw [left]
        rfl
      · rw [left]
        rfl
  | transferDerivedToken tokenId fromSublessee toSublessee =>
      obtain ⟨token, found, _, _, left⟩ :=
        transferDerivedToken_commits ((commits_raising _ _ _).mp run)
      have listed := indexes.listed found
      refine ⟨before.derived, tokenId, { token with
        sublessee := toSublessee, transferCount := token.transferCount + 1 }, listed, ?_, ?_⟩
      · rw [left]
      · rw [left]
  | updateSpatialZone tokenId newZone =>
      obtain ⟨token, found, _, _, left⟩ :=
        updateSpatialZone_commits ((commits_raising _ _ _).mp run)
      have listed := indexes.listed found
      refine ⟨before.derived, tokenId, { token with spatialZone := newZone }, listed, ?_, ?_⟩
      · rw [left]
      · rw [left]
  | _ => cases among

/-- An attempt keeps the indexes exact exactly where it is refused. -/
theorem Invocation.exact_iff_refused (among : invocation.operation.onDerived = true)
    (indexes : before.derived.Exact) :
    (step invocation before).derived.Exact ↔
      ¬ invocation.operation.Admitted invocation.env before := by
  rw [← Invocation.goes_iff_admitted among]
  by_cases goes : invocation.Goes before
  · obtain ⟨_, _, _, again⟩ := indexes.storedAgain among goes.commits
    exact iff_of_false again.not_exact (not_not_intro goes)
  · rw [step, Machine.step_of_not_goes goes]
    exact iff_of_true indexes goes

/-- The id determines the parent and the time unless two mints at one time have distinct parents
that agree in their low half, and an attempt keeps the indexes exact exactly where it is
refused. -/
theorem derived_identity_and_indexes_iff {other : Env} {parentTokenId otherId : U128}
    (within : env.timestamp ≤ u64Max) (otherWithin : other.timestamp ≤ u64Max)
    (among : invocation.operation.onDerived = true) (indexes : before.derived.Exact) :
    ((generateUniqueDerivedTokenId env parentTokenId = generateUniqueDerivedTokenId other otherId →
        parentTokenId = otherId ∧ env.timestamp = other.timestamp) ↔
      (env.timestamp = other.timestamp → parentTokenId % 2 ^ 64 = otherId % 2 ^ 64 →
        parentTokenId = otherId)) ∧
      ((step invocation before).derived.Exact ↔
        ¬ invocation.operation.Admitted invocation.env before) := by
  refine ⟨?_, Invocation.exact_iff_refused among indexes⟩
  rw [generateUniqueDerivedTokenId_eq_iff, toUInt64_eq_iff within otherWithin]
  constructor
  · intro determines time half
    exact (determines ⟨half, time⟩).1
  · intro apart same
    exact ⟨apart same.2 same.1, same.2⟩

end Indexes

/-! ## The zone of the bedroom -/

theorem subletStore_exact : subletStore.Exact where
  leases tokenId token stored := by
    obtain ⟨rfl, rfl⟩ := subletStore_lookup.mp stored
    decide
  sublessees tokenId token stored := by
    obtain ⟨rfl, rfl⟩ := subletStore_lookup.mp stored
    exact Listing.indexed_push fun _ => List.not_mem_nil
  zones tokenId token stored := by
    obtain ⟨rfl, rfl⟩ := subletStore_lookup.mp stored
    refine ⟨by decide, fun zone differs listed => ?_⟩
    rcases Listing.mem_push_iff.mp listed with none | ⟨same, _⟩
    · cases none
    · exact differs (congrArg Prod.fst same)
  metrics leaseId metrics stored := by
    cases stored

/-- The bedroom becomes a garden. -/
def rezone : Invocation :=
  ⟨openLedger 70 0, .updateSpatialZone 90 (.zone "Garden")⟩

theorem bedroom_rezonable : rezone.operation.Admitted rezone.env (settledWith subletStore) :=
  ⟨bedroom, subletStore_lookup.mpr ⟨rfl, rfl⟩, rfl, by decide, by decide⟩

/-- The token of lease 8, minted when that of lease 7 was. -/
def neighbourTokenId : U128 :=
  8 <<< 64 ||| 60

/-- Sub-leases of two leases whose tokens are of one time get one id, and the bedroom stands twice
on the list of its lease. -/
theorem rezone_loses_indexes :
    ¬ (generateUniqueDerivedTokenId (openLedger 70 0) letTokenId =
        generateUniqueDerivedTokenId (openLedger 70 0) neighbourTokenId →
          letTokenId = neighbourTokenId ∧ 70 = 70) ∧
      ¬ (step rezone (settledWith subletStore)).derived.Exact := by
  have applied := @derived_identity_and_indexes_iff (openLedger 70 0) (settledWith subletStore)
    rezone (openLedger 70 0) letTokenId neighbourTokenId (by decide) (by decide) rfl
    subletStore_exact
  refine ⟨fun determines => ?_, fun exact => ?_⟩
  · exact absurd (applied.1.mp determines rfl (by decide)) (by decide)
  · exact applied.2.mp exact bedroom_rezonable

/-- Neither half of the promise is kept. -/
theorem derived_identity_and_indexes_fail :
    (¬ ∀ (env other : Env) (parentTokenId otherId : U128), env.timestamp ≤ u64Max →
      other.timestamp ≤ u64Max → parentTokenId < 2 ^ 128 → otherId < 2 ^ 128 →
      generateUniqueDerivedTokenId env parentTokenId = generateUniqueDerivedTokenId other otherId →
        parentTokenId = otherId ∧ env.timestamp = other.timestamp) ∧
      ¬ ∀ (invocation : Invocation) before, invocation.operation.onDerived = true →
        before.derived.Exact → (step invocation before).derived.Exact := by
  refine ⟨fun determines => ?_, fun kept => ?_⟩
  · have same := determines (openLedger 70 0) (openLedger 70 0) letTokenId neighbourTokenId
      (by decide) (by decide) (by decide) (by decide) (by decide)
    exact absurd same.1 (by decide)
  · exact (Invocation.exact_iff_refused rfl subletStore_exact).mp
      (kept rezone (settledWith subletStore) rfl subletStore_exact) bedroom_rezonable

end LeaseFlow.Access
