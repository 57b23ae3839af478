import LeaseFlow.Access.Effect
import LeaseFlow.Foundations.Register

/-!
# Minted tokens

A token id carries the id of its lease in its upper half, and the lease is mapped to the token.
Every operation keeps both, so no operation ever replaces a token by that of another lease, and
a revoked token stays revoked.  The revocation log of a lease tells of its token.
-/

set_option autoImplicit false

namespace LeaseFlow.Access

open Transaction

/-- The stored tokens and the mapping of the leases agree. -/
structure AccessStore.WellMinted (store : AccessStore) : Prop where
  numbered : ∀ tokenId token, store.accessToken tokenId = some token →
    tokenId >>> 64 = token.leaseId.toNat
  mapped : ∀ tokenId token, store.accessToken tokenId = some token →
    store.leaseToAccessToken token.leaseId = some tokenId
  stored : ∀ leaseId tokenId, store.leaseToAccessToken leaseId = some tokenId →
    ∃ token, store.accessToken tokenId = some token ∧ token.leaseId = leaseId

section WellMinted

variable {store : AccessStore} {tokenId : U128} {leaseId : LeaseId} {token : LesseeAccessToken}

theorem AccessStore.not_empty_stored : ¬ AccessStore.empty.accessToken tokenId = some token := by
  intro found
  cases found

theorem AccessStore.empty_wellMinted : AccessStore.empty.WellMinted := by
  refine ⟨fun _ _ found => absurd found not_empty_stored, fun _ _ found => absurd found
    not_empty_stored, fun _ _ linked => ?_⟩
  cases linked

@[simp] theorem AccessStore.record_accessToken_self :
    (store.record tokenId token).accessToken tokenId = some token :=
  Function.update_self ..

theorem AccessStore.record_accessToken_ne {other : U128} (differs : other ≠ tokenId) :
    (store.record tokenId token).accessToken other = store.accessToken other :=
  Function.update_of_ne differs _ _

@[simp] theorem AccessStore.record_leaseToAccessToken_self :
    (store.record tokenId token).leaseToAccessToken token.leaseId = some tokenId :=
  Function.update_self ..

/-- A token may be written under the id its lease is mapped to, or under a new one if the lease
is mapped to none. -/
theorem AccessStore.WellMinted.record (minted : store.WellMinted)
    (numbered : tokenId >>> 64 = token.leaseId.toNat)
    (vacant : ∀ other, store.leaseToAccessToken token.leaseId = some other → other = tokenId) :
    (store.record tokenId token).WellMinted := by
  refine ⟨fun other kept found => ?_, fun other kept found => ?_, fun leaseId other linked => ?_⟩
  · by_cases same : other = tokenId
    · subst same
      obtain rfl := Option.some.inj (AccessStore.record_accessToken_self.symm.trans found)
      exact numbered
    · rw [AccessStore.record_accessToken_ne same] at found
      exact minted.numbered other kept found
  · by_cases same : other = tokenId
    · subst same
      obtain rfl := Option.some.inj (AccessStore.record_accessToken_self.symm.trans found)
      exact AccessStore.record_leaseToAccessToken_self
    · rw [AccessStore.record_accessToken_ne same] at found
      have linked := minted.mapped other kept found
      have apart : kept.leaseId ≠ token.leaseId := by
        intro shared
        exact same (vacant other (shared ▸ linked))
      exact (Function.update_of_ne apart _ _).trans linked
  · by_cases same : leaseId = token.leaseId
    · subst same
      rw [AccessStore.record_leaseToAccessToken_self] at linked
      obtain rfl := Option.some.inj linked
      exact ⟨token, AccessStore.record_accessToken_self, rfl⟩
    · have earlier : store.leaseToAccessToken leaseId = some other :=
        (Function.update_of_ne same _ _).symm.trans linked
      obtain ⟨kept, found, named⟩ := minted.stored leaseId other earlier
      refine ⟨kept, ?_, named⟩
      -- the ids of different leases differ in their upper halves
      have apart : other ≠ tokenId := by
        rintro rfl
        have upper := (minted.numbered other kept found).symm.trans numbered
        exact same (named.symm.trans (UInt64.toNat_inj.mp upper))
      rw [AccessStore.record_accessToken_ne apart]
      exact found

theorem AccessStore.WellMinted.amend (minted : store.WellMinted)
    (found : store.accessToken tokenId = some token) (next : LesseeAccessToken)
    (same : next.leaseId = token.leaseId) :
    { store with
      accessToken := Function.update store.accessToken tokenId (some next) }.WellMinted := by
  have linked := minted.mapped tokenId token found
  have written : Function.update store.accessToken tokenId (some next) tokenId = some next :=
    Function.update_self ..
  refine ⟨fun other kept stored => ?_, fun other kept stored => ?_, fun leaseId other mapped => ?_⟩
  · by_cases here : other = tokenId
    · subst here
      obtain rfl := Option.some.inj (written.symm.trans stored)
      rw [same]
      exact minted.numbered other token found
    · exact minted.numbered other kept ((Function.update_of_ne here _ _).symm.trans stored)
  · by_cases here : other = tokenId
    · subst here
      obtain rfl := Option.some.inj (written.symm.trans stored)
      rw [same]
      exact linked
    · exact minted.mapped other kept ((Function.update_of_ne here _ _).symm.trans stored)
  · obtain ⟨kept, stored, named⟩ := minted.stored leaseId other mapped
    by_cases here : other = tokenId
    · subst here
      obtain rfl := Option.some.inj (found.symm.trans stored)
      exact ⟨next, written, same.trans named⟩
    · exact ⟨kept, (Function.update_of_ne here _ _).trans stored, named⟩

theorem AccessStore.WellMinted.rewrite (minted : store.WellMinted)
    (found : store.accessToken tokenId = some token) (next : LesseeAccessToken)
    (same : next.leaseId = token.leaseId) : (store.record tokenId next).WellMinted := by
  refine minted.record ?_ fun other linked => ?_
  · rw [same]
    exact minted.numbered tokenId token found
  · rw [same, minted.mapped tokenId token found] at linked
    exact (Option.some.inj linked).symm

theorem AccessStore.WellMinted.fresh (minted : store.WellMinted) {env : Env}
    (unmapped : store.leaseToAccessToken leaseId = none) :
    store.accessToken (generateUniqueTokenId env leaseId) = none := by
  cases found : store.accessToken (generateUniqueTokenId env leaseId) with
  | none => rfl
  | some token =>
      have upper := minted.numbered _ token found
      rw [generateUniqueTokenId_lease] at upper
      have linked := minted.mapped _ token found
      rw [← UInt64.toNat_inj.mp upper, unmapped] at linked
      cases linked

end WellMinted

section Effect

variable {env : Env} {before after : Tenancy} {call : Option LeaseFlow.Call} {tokenId : U128}

/-- Every operation keeps the tokens and the mapping in agreement. -/
theorem Effect.wellMinted (effect : Effect env before after call)
    (minted : before.access.WellMinted) : after.access.WellMinted := by
  cases effect with
  | kept world access =>
      rw [access]
      exact minted
  | minted found active unmapped world access =>
      rw [access]
      refine minted.record (generateUniqueTokenId_lease env _) fun other linked => ?_
      cases linked.symm.trans unmapped
  | @verified request token stored world access =>
      have counted := minted.amend stored { token with
        lastVerified := env.timestamp
        verificationCount := token.verificationCount + 1 } rfl
      rw [access]
      exact ⟨counted.numbered, counted.mapped, counted.stored⟩
  | @transferred request token stored unrevoked world access =>
      have rewritten := minted.rewrite stored
        (token.handedTo request.toLessee (token.transferCount + 1)) rfl
      rw [access]
      exact ⟨rewritten.numbered, rewritten.mapped, rewritten.stored⟩
  | @revoked _ leaseId tokenId token reason mapped stored world access =>
      have rewritten := minted.rewrite stored (token.revokedFor reason env.timestamp) rfl
      rw [access]
      exact ⟨rewritten.numbered, rewritten.mapped, rewritten.stored⟩
  | renewed mapped stored unrevoked world access =>
      rw [access]
      exact minted.rewrite stored _ rfl

/-- The token is stored and revoked. -/
def AccessStore.Revoked (store : AccessStore) (tokenId : U128) : Prop :=
  ∃ token, store.accessToken tokenId = some token ∧ token.revoked = true

theorem AccessStore.Revoked.record {store : AccessStore} {other : U128}
    {token : LesseeAccessToken} (revoked : store.Revoked tokenId)
    (keeps : other = tokenId → token.revoked = true) :
    (store.record other token).Revoked tokenId := by
  by_cases same : other = tokenId
  · subst same
    exact ⟨token, AccessStore.record_accessToken_self, keeps rfl⟩
  · obtain ⟨kept, found, withdrawn⟩ := revoked
    exact ⟨kept, (AccessStore.record_accessToken_ne (Ne.symm same)).trans found, withdrawn⟩

/-- A revoked token stays revoked. -/
theorem Effect.keeps_revoked (effect : Effect env before after call)
    (minted : before.access.WellMinted) (revoked : before.access.Revoked tokenId) :
    after.access.Revoked tokenId := by
  obtain ⟨kept, found, withdrawn⟩ := revoked
  have revoked : before.access.Revoked tokenId := ⟨kept, found, withdrawn⟩
  cases effect with
  | kept world access =>
      rw [access]
      exact revoked
  | minted _ active unmapped world access =>
      rw [access]
      refine revoked.record ?_
      rintro rfl
      cases found.symm.trans (minted.fresh unmapped)
  | @verified request token stored world access =>
      rw [access]
      by_cases same : tokenId = request.tokenId
      · subst same
        obtain rfl := Option.some.inj (found.symm.trans stored)
        exact ⟨_, Function.update_self .., withdrawn⟩
      · exact ⟨kept, (Function.update_of_ne same _ _).trans found, withdrawn⟩
  | @transferred request token stored unrevoked world access =>
      rw [access]
      refine revoked.record ?_
      rintro rfl
      obtain rfl := Option.some.inj (found.symm.trans stored)
      cases withdrawn.symm.trans unrevoked
  | revoked mapped stored world access =>
      rw [access]
      exact revoked.record fun _ => rfl
  | renewed mapped stored unrevoked world access =>
      rw [access]
      refine revoked.record ?_
      rintro rfl
      obtain rfl := Option.some.inj (found.symm.trans stored)
      cases withdrawn.symm.trans unrevoked

end Effect

/-! ## Along a run -/

section Runs

variable {tenancy : Tenancy} {tokenId : U128}

/-- What every reachable store keeps. -/
structure Tenancy.Sound (tenancy : Tenancy) : Prop where
  unsublet : tenancy.Unsublet
  wellMinted : tenancy.access.WellMinted

theorem Tenancy.vacant_sound (world : World) : (Tenancy.vacant world).Sound :=
  ⟨fun _ => rfl, AccessStore.empty_wellMinted⟩

theorem Tenancy.Sound.commits {invocation : Invocation} {after : Tenancy}
    (sound : tenancy.Sound) (run : Commits invocation.body tenancy () after) : after.Sound :=
  ⟨Operation.unsublet sound.unsublet run,
    (Operation.effect sound.unsublet run).wellMinted sound.wellMinted⟩

theorem Tenancy.Sound.next (sound : tenancy.Sound) (invocation : Invocation) :
    (step invocation tenancy).Sound := by
  by_cases goes : invocation.Goes tenancy
  · exact sound.commits goes.commits
  · rwa [step, Machine.step_of_not_goes goes]

theorem Tenancy.Sound.run (sound : tenancy.Sound) (calls : List Invocation) :
    (Run.run step calls tenancy).Sound := by
  induction calls generalizing tenancy with
  | nil => exact sound
  | cons invocation rest ih => exact ih (sound.next invocation)

theorem Tenancy.Sound.revoked_run (sound : tenancy.Sound) (revoked : tenancy.access.Revoked tokenId)
    (calls : List Invocation) : (Run.run step calls tenancy).access.Revoked tokenId := by
  induction calls generalizing tenancy with
  | nil => exact revoked
  | cons invocation rest ih =>
      refine ih (sound.next invocation) ?_
      by_cases goes : invocation.Goes tenancy
      · exact (Operation.effect sound.unsublet goes.commits).keeps_revoked sound.wellMinted revoked
      · rw [step, Machine.step_of_not_goes goes]
        exact revoked

end Runs

/-! ## The course of a token -/

/-- What a mint fixes. -/
def LesseeAccessToken.fixed (token : LesseeAccessToken) :
    LeaseId × String × U64 × Bool × AssetType × AccessLevel :=
  (token.leaseId, token.assetIdentifier, token.mintedAt, token.transferable, token.assetType,
    token.accessLevel)

/-- What becomes of a token: the counts rise, it changes hands by a transfer only, and once it is
revoked it is neither handed on nor extended. -/
structure LesseeAccessToken.GoesOn (token next : LesseeAccessToken) : Prop where
  fixed : next.fixed = token.fixed
  verificationCount : token.verificationCount ≤ next.verificationCount
  transferCount : token.transferCount ≤ next.transferCount
  held : next.transferCount = token.transferCount → next.lessee = token.lessee
  revoked : token.revoked = true → next.revoked = true ∧
    next.transferCount = token.transferCount ∧
    next.expirationTimestamp = token.expirationTimestamp

/-- A token as a mint makes it, under the id it makes. -/
def Minted (tokenId : U128) (token : LesseeAccessToken) : Prop :=
  ∃ env leaseId lease assetIdentifier assetType accessLevel transferable,
    tokenId = generateUniqueTokenId env leaseId ∧
    token = .minted env leaseId lease assetIdentifier assetType accessLevel transferable

def AccessStore.revocations (store : AccessStore) (leaseId : LeaseId) : Nat :=
  (store.revocationIndex leaseId).getD 0

/-- The tokens go on, no lease gets another one, and the revocation log is only written on. -/
structure AccessStore.GoesOn (before after : AccessStore) : Prop where
  tokens : Register.Continues Minted LesseeAccessToken.GoesOn before.accessToken after.accessToken
  linked : ∀ leaseId tokenId, before.leaseToAccessToken leaseId = some tokenId →
    after.leaseToAccessToken leaseId = some tokenId
  counted : ∀ leaseId, before.revocations leaseId ≤ after.revocations leaseId
  logged : ∀ leaseId, ∀ index < before.revocations leaseId,
    after.revocationHistory (leaseId, index) = before.revocationHistory (leaseId, index)

def Tenancy.GoesOn (before after : Tenancy) : Prop :=
  before.access.GoesOn after.access

/-- What the log says of a token: of a revoked one its last revocation, of another nothing. -/
inductive AccessStore.Notes (store : AccessStore) (tokenId : U128) (token : LesseeAccessToken) :
    Prop where
  | none (unrevoked : token.revoked = false) (empty : store.revocations token.leaseId = 0)
  | last {index : Nat} {reason : RevocationReason} {time : U64} (revoked : token.revoked = true)
      (count : store.revocations token.leaseId = index + 1)
      (entry : store.revocationHistory (token.leaseId, index) = some (tokenId, reason, time))
      (revocationReason : token.revocationReason = some reason)
      (revokedAt : token.revokedAt = some time)

/-- The log has no gaps, each entry names the token of its lease, and the last one agrees with
what the token says of itself. -/
structure AccessStore.Chronicled (store : AccessStore) : Prop where
  entered : ∀ leaseId, ∀ index < store.revocations leaseId, ∃ tokenId reason time,
    store.revocationHistory (leaseId, index) = some (tokenId, reason, time) ∧
      store.leaseToAccessToken leaseId = some tokenId
  noted : ∀ tokenId token, store.accessToken tokenId = some token → store.Notes tokenId token

section Course

variable {store later : AccessStore} {tokenId : U128} {token next last : LesseeAccessToken}

theorem LesseeAccessToken.goesOn_refl (token : LesseeAccessToken) : token.GoesOn token where
  fixed := rfl
  verificationCount := le_rfl
  transferCount := le_rfl
  held _ := rfl
  revoked withdrawn := ⟨withdrawn, rfl, rfl⟩

theorem LesseeAccessToken.GoesOn.trans (one : token.GoesOn next) (two : next.GoesOn last) :
    token.GoesOn last where
  fixed := two.fixed.trans one.fixed
  verificationCount := one.verificationCount.trans two.verificationCount
  transferCount := one.transferCount.trans two.transferCount
  held same := by
    have first := one.transferCount
    have second := two.transferCount
    have middle : next.transferCount = token.transferCount := by
      rw [same] at second
      exact le_antisymm second first
    exact (two.held (same.trans middle.symm)).trans (one.held middle)
  revoked withdrawn := by
    obtain ⟨still, transfers, expiration⟩ := one.revoked withdrawn
    obtain ⟨stillLater, laterTransfers, laterExpiration⟩ := two.revoked still
    exact ⟨stillLater, laterTransfers.trans transfers, laterExpiration.trans expiration⟩

theorem AccessStore.goesOn_refl (store : AccessStore) : store.GoesOn store where
  tokens := Register.continues_refl LesseeAccessToken.goesOn_refl _
  linked _ _ mapped := mapped
  counted _ := le_rfl
  logged _ _ _ := rfl

theorem AccessStore.GoesOn.trans {first second third : AccessStore} (one : first.GoesOn second)
    (two : second.GoesOn third) : first.GoesOn third where
  tokens := one.tokens.trans (fun _ _ _ => LesseeAccessToken.GoesOn.trans) two.tokens
  linked leaseId tokenId mapped := two.linked leaseId tokenId (one.linked leaseId tokenId mapped)
  counted leaseId := (one.counted leaseId).trans (two.counted leaseId)
  logged leaseId index below := by
    rw [two.logged leaseId index (below.trans_le (one.counted leaseId)),
      one.logged leaseId index below]

/-- A token written where the log stays: over the one that is stored, or minted under a new id. -/
structure AccessStore.Writes (store : AccessStore) (tokenId : U128) (next : LesseeAccessToken)
    (later : AccessStore) : Prop where
  tokens : later.accessToken = Function.update store.accessToken tokenId (some next)
  linked : ∀ leaseId other, store.leaseToAccessToken leaseId = some other →
    later.leaseToAccessToken leaseId = some other
  history : later.revocationHistory = store.revocationHistory
  index : later.revocationIndex = store.revocationIndex

theorem AccessStore.Writes.revocations (writes : store.Writes tokenId next later)
    (leaseId : LeaseId) : later.revocations leaseId = store.revocations leaseId := by
  unfold AccessStore.revocations
  rw [writes.index]

theorem AccessStore.Writes.goesOn (writes : store.Writes tokenId next later)
    (goesOn : ∀ token, store.accessToken tokenId = some token → token.GoesOn next)
    (minted : store.accessToken tokenId = none → Minted tokenId next) : store.GoesOn later where
  tokens := by
    rw [writes.tokens]
    exact Register.continues_update LesseeAccessToken.goesOn_refl goesOn minted
  linked := writes.linked
  counted leaseId := (writes.revocations leaseId).ge
  logged leaseId index _ := by rw [writes.history]

theorem AccessStore.Writes.notes (writes : store.Writes tokenId next later) {other : U128}
    (noted : store.Notes other token) : later.Notes other token := by
  cases noted with
  | none unrevoked empty => exact .none unrevoked ((writes.revocations _).trans empty)
  | last revoked count entry revocationReason revokedAt =>
      refine .last revoked ((writes.revocations _).trans count) ?_ revocationReason revokedAt
      rw [writes.history]
      exact entry

theorem AccessStore.Writes.chronicled (writes : store.Writes tokenId next later)
    (chronicled : store.Chronicled) (noted : store.Notes tokenId next) : later.Chronicled where
  entered leaseId index below := by
    rw [writes.revocations] at below
    obtain ⟨listed, reason, time, entry, mapped⟩ := chronicled.entered leaseId index below
    refine ⟨listed, reason, time, ?_, writes.linked leaseId listed mapped⟩
    rw [writes.history]
    exact entry
  noted other stored found := by
    rw [writes.tokens] at found
    by_cases written : other = tokenId
    · subst written
      rw [Function.update_self] at found
      obtain rfl := Option.some.inj found
      exact writes.notes noted
    · rw [Function.update_of_ne written] at found
      exact writes.notes (chronicled.noted other stored found)

theorem AccessStore.Writes.restates (writes : store.Writes tokenId next later)
    (chronicled : store.Chronicled) (stored : store.accessToken tokenId = some token)
    (goesOn : token.GoesOn next) (noted : store.Notes tokenId next) :
    store.GoesOn later ∧ later.Chronicled := by
  refine ⟨writes.goesOn (fun other found => ?_) fun free => ?_, writes.chronicled chronicled noted⟩
  · obtain rfl := Option.some.inj (stored.symm.trans found)
    exact goesOn
  · cases free.symm.trans stored

theorem AccessStore.Chronicled.empty (chronicled : store.Chronicled) {leaseId : LeaseId}
    (unmapped : store.leaseToAccessToken leaseId = none) : store.revocations leaseId = 0 := by
  by_contra logged
  obtain ⟨_, _, _, _, linked⟩ := chronicled.entered leaseId 0 (Nat.pos_of_ne_zero logged)
  cases linked.symm.trans unmapped

theorem AccessStore.Notes.of_eq (noted : store.Notes tokenId token)
    (leaseId : next.leaseId = token.leaseId) (revoked : next.revoked = token.revoked)
    (revokedAt : next.revokedAt = token.revokedAt)
    (revocationReason : next.revocationReason = token.revocationReason) :
    store.Notes tokenId next := by
  cases noted with
  | none unrevoked empty =>
      exact .none (revoked.trans unrevoked) (by rw [leaseId, empty])
  | last withdrawn count entry reason time =>
      exact .last (revoked.trans withdrawn) (by rw [leaseId, count]) (by rw [leaseId, entry])
        (revocationReason.trans reason) (revokedAt.trans time)

theorem AccessStore.record_writes
    (vacant : ∀ other, store.leaseToAccessToken next.leaseId = some other → other = tokenId) :
    store.Writes tokenId next (store.record tokenId next) where
  tokens := rfl
  linked leaseId other mapped := by
    by_cases same : leaseId = next.leaseId
    · subst same
      rw [vacant other mapped]
      exact record_leaseToAccessToken_self
    · exact (Function.update_of_ne same _ _).trans mapped
  history := rfl
  index := rfl

theorem AccessStore.WellMinted.record_writes (minted : store.WellMinted)
    (found : store.accessToken tokenId = some token) (same : next.leaseId = token.leaseId) :
    store.Writes tokenId next (store.record tokenId next) := by
  apply AccessStore.record_writes
  intro other linked
  rw [same, minted.mapped tokenId token found] at linked
  exact (Option.some.inj linked).symm

section Log

variable {env : Env} {leaseId other : LeaseId} {reason : RevocationReason}

theorem AccessStore.revocations_logRevocation_self :
    (store.logRevocation env leaseId tokenId reason).revocations leaseId =
      store.revocations leaseId + 1 := by
  unfold AccessStore.revocations
  show (Function.update store.revocationIndex leaseId _ leaseId).getD 0 = _
  rw [Function.update_self]
  rfl

theorem AccessStore.revocations_logRevocation_ne (distinct : other ≠ leaseId) :
    (store.logRevocation env leaseId tokenId reason).revocations other =
      store.revocations other := by
  unfold AccessStore.revocations
  show (Function.update store.revocationIndex leaseId _ other).getD 0 = _
  rw [Function.update_of_ne distinct]

theorem AccessStore.logRevocation_last :
    (store.logRevocation env leaseId tokenId reason).revocationHistory
      (leaseId, store.revocations leaseId) = some (tokenId, reason, env.timestamp) :=
  Function.update_self ..

theorem AccessStore.logRevocation_earlier {index : Nat} (below : index < store.revocations other) :
    (store.logRevocation env leaseId tokenId reason).revocationHistory (other, index) =
      store.revocationHistory (other, index) := by
  refine Function.update_of_ne ?_ _ _
  intro same
  obtain ⟨rfl, rfl⟩ := Prod.mk.inj same
  exact lt_irrefl _ below

theorem AccessStore.goesOn_logRevocation :
    store.GoesOn (store.logRevocation env leaseId tokenId reason) where
  tokens := Register.continues_refl LesseeAccessToken.goesOn_refl _
  linked _ _ mapped := mapped
  counted other := by
    by_cases same : other = leaseId
    · subst same
      rw [revocations_logRevocation_self]
      exact Nat.le_succ _
    · exact (revocations_logRevocation_ne same).ge
  logged _ _ below := logRevocation_earlier below

theorem AccessStore.Notes.logRevocation (noted : store.Notes tokenId token)
    (distinct : token.leaseId ≠ leaseId) {revoked : U128} :
    (store.logRevocation env leaseId revoked reason).Notes tokenId token := by
  cases noted with
  | none unrevoked empty =>
      exact .none unrevoked ((revocations_logRevocation_ne distinct).trans empty)
  | last withdrawn count entry revocationReason revokedAt =>
      refine .last withdrawn ((revocations_logRevocation_ne distinct).trans count) ?_
        revocationReason revokedAt
      exact (logRevocation_earlier (by omega)).trans entry

/-- A revocation marks the token and enters the same in the log. -/
theorem AccessStore.Chronicled.revoke (chronicled : store.Chronicled) (minted : store.WellMinted)
    (mapped : store.leaseToAccessToken leaseId = some tokenId)
    (found : store.accessToken tokenId = some token) :
    ((store.record tokenId (token.revokedFor reason env.timestamp)).logRevocation env leaseId
      tokenId reason).Chronicled := by
  obtain ⟨kept, stored, named⟩ := minted.stored leaseId tokenId mapped
  obtain rfl := Option.some.inj (found.symm.trans stored)
  have writes : store.Writes tokenId (token.revokedFor reason env.timestamp)
      (store.record tokenId (token.revokedFor reason env.timestamp)) :=
    minted.record_writes found rfl
  constructor
  · intro lease index below
    by_cases same : lease = leaseId
    · subst same
      rw [revocations_logRevocation_self, writes.revocations] at below
      rcases Nat.lt_succ_iff_lt_or_eq.mp below with earlier | now
      · obtain ⟨listed, why, time, entry, linked⟩ := chronicled.entered lease index earlier
        rw [← writes.revocations] at earlier
        exact ⟨listed, why, time, (logRevocation_earlier earlier).trans entry,
          writes.linked lease listed linked⟩
      · rw [now]
        exact ⟨tokenId, reason, env.timestamp, logRevocation_last,
          writes.linked lease tokenId mapped⟩
    · rw [revocations_logRevocation_ne same] at below
      obtain ⟨listed, why, time, entry, linked⟩ :=
        chronicled.entered lease index (writes.revocations lease ▸ below)
      exact ⟨listed, why, time, (logRevocation_earlier below).trans entry,
        writes.linked lease listed linked⟩
  · intro other next listed
    by_cases same : other = tokenId
    · subst same
      obtain rfl := Option.some.inj (record_accessToken_self.symm.trans listed)
      have count := @revocations_logRevocation_self
        (store.record other (token.revokedFor reason env.timestamp)) other env leaseId reason
      have entry := @logRevocation_last
        (store.record other (token.revokedFor reason env.timestamp)) other env leaseId reason
      rw [← named] at count entry ⊢
      exact .last rfl count entry rfl rfl
    · have earlier : store.accessToken other = some next :=
        (record_accessToken_ne same).symm.trans listed
      refine (writes.notes (chronicled.noted other next earlier)).logRevocation ?_
      intro shared
      have linked := minted.mapped other next earlier
      rw [shared, mapped] at linked
      exact same (Option.some.inj linked).symm

end Log

/-- What every operation does to the tokens and to the log. -/
theorem Effect.goesOn {env : Env} {before after : Tenancy} {call : Option LeaseFlow.Call}
    (effect : Effect env before after call) (minted : before.access.WellMinted)
    (chronicled : before.access.Chronicled) :
    before.GoesOn after ∧ after.access.Chronicled := by
  unfold Tenancy.GoesOn
  cases effect with
  | kept world access =>
      rw [access]
      exact ⟨AccessStore.goesOn_refl _, chronicled⟩
  | @minted leaseId lease assetIdentifier assetType accessLevel transferable found active unmapped
      world access =>
      rw [access]
      have writes := @AccessStore.record_writes before.access
        (generateUniqueTokenId env leaseId) (.minted env leaseId lease assetIdentifier assetType
          accessLevel transferable) fun other linked => by cases linked.symm.trans unmapped
      have fresh := @AccessStore.WellMinted.fresh _ _ minted env unmapped
      refine ⟨writes.goesOn (fun token stored => ?_) fun _ => ?_, writes.chronicled chronicled ?_⟩
      · cases fresh.symm.trans stored
      · exact ⟨env, leaseId, lease, assetIdentifier, assetType, accessLevel, transferable, rfl, rfl⟩
      · exact .none rfl (chronicled.empty unmapped)
  | @verified request token stored world access =>
      rw [access]
      refine AccessStore.Writes.restates ⟨rfl, fun _ _ mapped => mapped, rfl, rfl⟩ chronicled
        stored ?_ ((chronicled.noted _ token stored).of_eq rfl rfl rfl rfl)
      exact ⟨rfl, Nat.le_succ _, le_rfl, fun _ => rfl, fun withdrawn => ⟨withdrawn, rfl, rfl⟩⟩
  | @transferred request token stored unrevoked world access =>
      rw [access]
      have writes := @AccessStore.WellMinted.record_writes _ _ _
        (token.handedTo request.toLessee (token.transferCount + 1)) minted stored rfl
      refine AccessStore.Writes.restates ⟨rfl, writes.linked, rfl, rfl⟩ chronicled
        stored ?_ ((chronicled.noted _ token stored).of_eq rfl rfl rfl rfl)
      refine ⟨rfl, le_rfl, Nat.le_succ _, fun same => ?_, fun withdrawn => ?_⟩
      · exact absurd same (Nat.succ_ne_self _)
      · cases withdrawn.symm.trans unrevoked
  | @revoked _ leaseId tokenId token reason mapped stored world access =>
      rw [access]
      have writes := @AccessStore.WellMinted.record_writes _ _ _
        (token.revokedFor reason env.timestamp) minted stored rfl
      have marked : before.access.GoesOn
          (before.access.record tokenId (token.revokedFor reason env.timestamp)) := by
        refine writes.goesOn (fun other found => ?_) fun free => ?_
        · obtain rfl := Option.some.inj (stored.symm.trans found)
          exact ⟨rfl, le_rfl, le_rfl, fun _ => rfl, fun _ => ⟨rfl, rfl, rfl⟩⟩
        · cases free.symm.trans stored
      exact ⟨marked.trans AccessStore.goesOn_logRevocation,
        chronicled.revoke minted mapped stored⟩
  | @renewed leaseId tokenId token newExpiration mapped stored unrevoked world access =>
      rw [access]
      have writes := @AccessStore.WellMinted.record_writes _ _ _
        { token with expirationTimestamp := newExpiration } minted stored rfl
      refine writes.restates chronicled stored ?_
        ((chronicled.noted _ token stored).of_eq rfl rfl rfl rfl)
      refine ⟨rfl, le_rfl, le_rfl, fun _ => rfl, fun withdrawn => ?_⟩
      cases withdrawn.symm.trans unrevoked

theorem AccessStore.empty_chronicled : AccessStore.empty.Chronicled :=
  ⟨fun _ _ below => absurd below (Nat.not_lt_zero _),
    fun _ _ found => absurd found not_empty_stored⟩

end Course

/-- What every reachable store keeps, with its log. -/
def Tenancy.SoundlyChronicled (tenancy : Tenancy) : Prop :=
  tenancy.Sound ∧ tenancy.access.Chronicled

section SoundlyChronicled

variable {tenancy after : Tenancy} {invocation : Invocation}

theorem Tenancy.SoundlyChronicled.goesOn (sound : tenancy.SoundlyChronicled)
    (run : Commits invocation.body tenancy () after) : tenancy.GoesOn after :=
  ((Operation.effect sound.1.unsublet run).goesOn sound.1.wellMinted sound.2).1

theorem Tenancy.SoundlyChronicled.commits (sound : tenancy.SoundlyChronicled)
    (run : Commits invocation.body tenancy () after) : after.SoundlyChronicled :=
  ⟨sound.1.commits run,
    ((Operation.effect sound.1.unsublet run).goesOn sound.1.wellMinted sound.2).2⟩

end SoundlyChronicled

/-- In every run from a store without tokens, with the calls of the contract among the others, no
token is lost or replaced and no lease gets a second one; a token keeps what its mint fixed,
changes hands only by transfers, and once revoked is neither handed on nor extended; and the
revocation log of every lease is only written on, names the token of the lease without a gap, and
ends with what a revoked token says of itself. -/
theorem tokens_run_their_course (world : World) (calls : List Invocation) :
    Run.Progresses step Tenancy.GoesOn calls (.vacant world) ∧
      (Run.run step calls (.vacant world)).access.Chronicled := by
  have initially : (Tenancy.vacant world).Sound ∧ AccessStore.empty.Chronicled :=
    ⟨Tenancy.vacant_sound world, AccessStore.empty_chronicled⟩
  constructor
  · exact @Register.progresses_of_commits _ _ _ Invocation.body Tenancy.GoesOn
      Tenancy.SoundlyChronicled (fun tenancy => tenancy.access.goesOn_refl)
      (fun _ _ _ => AccessStore.GoesOn.trans) (fun _ _ _ run sound => sound.commits run)
      (fun _ _ _ run sound => sound.goesOn run) calls _ initially
  · refine (@Run.invariant _ _ step Tenancy.SoundlyChronicled (fun invocation tenancy sound => ?_)
      calls _ initially).2
    exact Machine.step_keeps (fun _ run _ sound => Tenancy.SoundlyChronicled.commits sound run)
      (fun _ : invocation.Goes tenancy => trivial) sound

end LeaseFlow.Access
