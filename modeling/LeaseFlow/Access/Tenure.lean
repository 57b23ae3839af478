import LeaseFlow.Access.Cascade
import LeaseFlow.Access.Minted
import LeaseFlow.Foundations.Machine
import LeaseFlow.Foundations.Guardianship

/-!
# Sub-leases and their parents

A derived token is valid by its own revocation and expiration alone.  Revoking a parent, burning
it by a hierarchy that does not list its sub-leases, and the expiration of a parent that was
shortened leave the sub-lease valid.
-/

set_option autoImplicit false

namespace LeaseFlow.Access

open Transaction Failure

/-! ## Validity -/

def DerivedAccessToken.isValid (token : DerivedAccessToken) (currentTime : U64) : Bool :=
  !token.revoked && decide (currentTime ≤ token.expirationTimestamp)

def isDerivedTokenValid (env : Env) (tokenId : U128) : DerivedManager Bool := do
  let token ← getDerivedToken tokenId
  pure (token.isValid env.timestamp)

/-- Every derived token that is answered to be valid has a parent among the lessee tokens or the
derived tokens that is unrevoked and unexpired. -/
def Sheltered (clocked : Clocked Tenancy) : Prop :=
  ∀ env tokenId after, env.timestamp = clocked.now →
    Commits (isDerivedTokenValid env tokenId) clocked.state true after →
    ∃ token parent, clocked.state.derived.derivedToken.lookup tokenId = some token ∧
      clocked.state.Parent token.parentTokenId parent ∧ parent.revoked = false ∧
      clocked.now ≤ parent.expirationTimestamp

/-! ## The tokens as wards and guardians -/

def LesseeAccessToken.tenure (token : LesseeAccessToken) : Tenure :=
  ⟨token.revoked, token.expirationTimestamp⟩

def DerivedAccessToken.ward (token : DerivedAccessToken) : Ward U128 where
  revoked := token.revoked
  expiry := token.expirationTimestamp
  guardian := token.parentTokenId

/-- The lessee tokens are roots, and a derived token is a ward of its parent. -/
def Tenancy.guardianship (tenancy : Tenancy) : Guardianship U128 where
  roots tokenId := (tenancy.access.accessToken tokenId).map LesseeAccessToken.tenure
  wards tokenId := (tenancy.derived.derivedToken.lookup tokenId).map DerivedAccessToken.ward

section Validity

variable {tenancy : Tenancy} {now : U64} {env : Env} {tokenId : U128}

theorem DerivedAccessToken.isValid_iff {token : DerivedAccessToken} :
    token.isValid now = true ↔ token.ward.Runs now := by
  simp [isValid, ward, Tenure.Runs]

theorem commits_isDerivedTokenValid {answer : Bool} {after : Tenancy} :
    Commits (isDerivedTokenValid env tokenId) tenancy answer after ↔
      ∃ token, tenancy.derived.derivedToken.lookup tokenId = some token ∧
        answer = token.isValid env.timestamp ∧ after = tenancy := by
  simp only [isDerivedTokenValid, commits_bind, commits_getDerivedToken, commits_pure]
  constructor
  · rintro ⟨token, _, ⟨stored, rfl⟩, rfl, rfl⟩
    exact ⟨token, stored, rfl, rfl⟩
  · rintro ⟨token, stored, rfl, rfl⟩
    exact ⟨token, _, ⟨stored, rfl⟩, rfl, rfl⟩

/-- The running guardians are the unrevoked, unexpired parents. -/
theorem guards_iff {parentTokenId : U128} :
    tenancy.guardianship.Guards now parentTokenId ↔
      ∃ parent, tenancy.Parent parentTokenId parent ∧ parent.revoked = false ∧
        now ≤ parent.expirationTimestamp := by
  constructor
  · rintro (⟨_, found, runs⟩ | ⟨_, found, runs⟩)
    · obtain ⟨token, stored, rfl⟩ := Option.map_eq_some_iff.mp found
      exact ⟨token.asParent, .lessee stored, runs⟩
    · obtain ⟨token, stored, rfl⟩ := Option.map_eq_some_iff.mp found
      exact ⟨token.asParent, .derived stored, runs⟩
  · rintro ⟨parent, stored, runs⟩
    cases stored with
    | @lessee token stored =>
        exact .inl ⟨token.tenure, Option.map_eq_some_iff.mpr ⟨token, stored, rfl⟩, runs⟩
    | @derived token stored =>
        exact .inr ⟨token.ward, Option.map_eq_some_iff.mpr ⟨token, stored, rfl⟩, runs⟩

theorem sheltered_iff : Sheltered ⟨tenancy, now⟩ ↔ tenancy.guardianship.Covered now := by
  constructor
  · intro sheltered tokenId _ found runs
    obtain ⟨token, stored, rfl⟩ := Option.map_eq_some_iff.mp found
    have answered : Commits (isDerivedTokenValid (openLedger now 0) tokenId) tenancy true tenancy :=
      commits_isDerivedTokenValid.mpr ⟨token, stored,
        (DerivedAccessToken.isValid_iff.mpr runs).symm, rfl⟩
    obtain ⟨same, parent, also, guarded⟩ := sheltered _ tokenId tenancy rfl answered
    obtain rfl := Option.some.inj (stored.symm.trans also)
    exact guards_iff.mpr ⟨parent, guarded⟩
  · intro covered env tokenId after time answered
    obtain ⟨token, stored, valid, _⟩ := commits_isDerivedTokenValid.mp answered
    rw [time] at valid
    have guarded := covered tokenId token.ward (Option.map_eq_some_iff.mpr ⟨token, stored, rfl⟩)
      (DerivedAccessToken.isValid_iff.mp valid.symm)
    obtain ⟨parent, guarded⟩ := guards_iff.mp guarded
    exact ⟨token, parent, stored, guarded⟩

end Validity

/-! ## What the operations do to the guardianship -/

section Effects

variable {env : Env} {before after : Tenancy} {tokenId : U128} {leaseId : LeaseId}

theorem guardianship_record_root {token : LesseeAccessToken}
    (access : after.access.accessToken = (before.access.record tokenId token).accessToken)
    (derived : after.derived.derivedToken = before.derived.derivedToken) :
    after.guardianship = before.guardianship.putRoot tokenId token.tenure := by
  rw [Tenancy.guardianship, access, derived, Guardianship.putRoot]
  congr 1
  funext other
  by_cases same : other = tokenId
  · subst same
    simp
  · rw [AccessStore.record_accessToken_ne same, Function.update_of_ne same]
    rfl

theorem guardianship_put_ward {token : DerivedAccessToken}
    (access : after.access.accessToken = before.access.accessToken)
    (derived : after.derived.derivedToken = before.derived.derivedToken.set tokenId (some token)) :
    after.guardianship = before.guardianship.putWard tokenId token.ward := by
  rw [Tenancy.guardianship, access, derived, Guardianship.putWard]
  congr 1
  funext other
  by_cases same : other = tokenId
  · subst same
    simp
  · rw [Table.lookup_set_ne _ _ same, Function.update_of_ne same]
    rfl

theorem guardianship_record_self {token next : LesseeAccessToken}
    (stored : before.access.accessToken tokenId = some token)
    (access : after.access.accessToken = (before.access.record tokenId next).accessToken)
    (derived : after.derived.derivedToken = before.derived.derivedToken)
    (same : next.tenure = token.tenure) : after.guardianship = before.guardianship := by
  rw [guardianship_record_root access derived, same]
  exact Guardianship.putRoot_eq_self (Option.map_eq_some_iff.mpr ⟨token, stored, rfl⟩)

theorem guardianship_put_self {token next : DerivedAccessToken}
    (stored : before.derived.derivedToken.lookup tokenId = some token)
    (access : after.access.accessToken = before.access.accessToken)
    (derived : after.derived.derivedToken = before.derived.derivedToken.set tokenId (some next))
    (same : next.ward = token.ward) : after.guardianship = before.guardianship := by
  rw [guardianship_put_ward access derived, same]
  exact Guardianship.putWard_eq_self (Option.map_eq_some_iff.mpr ⟨token, stored, rfl⟩)

/-! ### Lessee tokens -/

theorem mintLesseeAccessToken_guardianship {assetIdentifier : String} {assetType : AssetType}
    {accessLevel : AccessLevel} {transferable : Bool}
    (run : Commits (mintLesseeAccessToken env leaseId assetIdentifier assetType accessLevel
      transferable) before tokenId after) :
    ∃ tenure : Tenure, tenure.Runs env.timestamp ∧
      after.guardianship = before.guardianship.putRoot tokenId tenure := by
  have recorded := mintLesseeAccessToken_commits run
  simp only [mintLesseeAccessToken, commits_bind, commits_inspect, commits_orErr, commits_check,
    commits_storeAccessToken] at run
  obtain ⟨_, _, ⟨rfl, rfl⟩, lease, _, ⟨found, rfl⟩, _, _, ⟨_, rfl⟩, _, _, ⟨_, rfl⟩, _, _,
    ⟨rfl, rfl⟩, _, _, ⟨_, rfl⟩, _, _, ⟨timely, _⟩, _⟩ := run
  obtain ⟨same, stored, _, _, rfl, access, derived, _⟩ := recorded
  obtain rfl := Option.some.inj (found.symm.trans stored)
  exact ⟨_, ⟨rfl, timely⟩, guardianship_record_root (by rw [access]) (by rw [derived])⟩

theorem renewAccessToken_guardianship {newExpiration : U64} {result : Unit}
    (run : Commits (renewAccessToken env leaseId newExpiration) before result after) :
    ∃ tokenId tenure, Tenure.Runs tenure env.timestamp ∧
      after.guardianship = before.guardianship.putRoot tokenId tenure := by
  simp only [renewAccessToken, commits_bind, commits_getTokenOfLease, commits_check,
    commits_storeAccessToken, commits_announce, Prod.exists] at run
  obtain ⟨tokenId, token, _, ⟨_, _, rfl⟩, _, _, ⟨unrevoked, rfl⟩, _, _, ⟨timely, rfl⟩, rfl⟩ := run
  exact ⟨tokenId, _, ⟨unrevoked, timely⟩, guardianship_record_root rfl rfl⟩

theorem verifyAccessToken_guardianship {request : AccessVerificationRequest}
    {response : AccessVerificationResponse}
    (run : Commits (verifyAccessToken env request) before response after) :
    after.guardianship = before.guardianship := by
  obtain ⟨token, stored, _, _, derived, access⟩ := verifyAccessToken_commits run
  refine @guardianship_record_self _ _ request.tokenId token { token with
    lastVerified := env.timestamp
    verificationCount := token.verificationCount + 1 } stored ?_ (by rw [derived]) rfl
  rw [access]
  rfl

theorem transferAccessToken_guardianship {request : TokenTransferRequest} {result : Unit}
    (run : Commits (transferAccessToken env request) before result after) :
    after.guardianship = before.guardianship := by
  obtain ⟨token, stored, _, _, derived, access⟩ := transferAccessToken_commits run
  refine @guardianship_record_self _ _ request.tokenId token
    (token.handedTo request.toLessee (token.transferCount + 1)) stored ?_ (by rw [derived]) rfl
  rw [access]
  rfl

theorem revokeAccessToken_guardianship {reason : RevocationReason} {result : Unit}
    (run : Commits (revokeAccessToken env leaseId reason) before result after) :
    ∃ tokenId tenure, before.access.leaseToAccessToken leaseId = some tokenId ∧
      tenure.revoked = true ∧
      after.guardianship = before.guardianship.putRoot tokenId tenure := by
  obtain ⟨tokenId, token, mapped, _, _, _, _, rfl⟩ := commits_revokeAccessToken_iff.mp run
  exact ⟨tokenId, (token.revokedFor reason env.timestamp).tenure, mapped, rfl,
    guardianship_record_root rfl rfl⟩

/-! ### Derived tokens -/

theorem transferDerivedToken_guardianship {fromSublessee toSublessee : Address} {result : Unit}
    (run : Commits (transferDerivedToken env tokenId fromSublessee toSublessee) before result
      after) : after.guardianship = before.guardianship := by
  obtain ⟨token, stored, _, access, derived⟩ := transferDerivedToken_commits run
  refine @guardianship_put_self _ _ tokenId token { token with
    sublessee := toSublessee
    transferCount := token.transferCount + 1 } stored (by rw [access]) ?_ rfl
  rw [derived]
  rfl

theorem updateSpatialZone_guardianship {newZone : SpatialZone} {result : Unit}
    (run : Commits (updateSpatialZone env tokenId newZone) before result after) :
    after.guardianship = before.guardianship := by
  obtain ⟨token, stored, _, access, derived⟩ := updateSpatialZone_commits run
  refine @guardianship_put_self _ _ tokenId token { token with spatialZone := newZone } stored
    (by rw [access]) ?_ rfl
  rw [derived]
  rfl

/-- A mint enters a running ward of a running root.  The parent that lists one more child keeps
its tenure and its own parent. -/
theorem mintDerivedAccessToken_guardianship {request : DerivedTokenRequest}
    (run : Commits (mintDerivedAccessToken env request) before tokenId after) :
    ∃ ward, Tenure.Runs ward.toTenure env.timestamp ∧
      before.guardianship.RootRuns env.timestamp ward.guardian ∧
      after.guardianship = before.guardianship.putWard tokenId ward := by
  obtain ⟨parentToken, parent, again, admitted, rfl, access, metrics, derived⟩ :=
    mintDerivedAccessToken_commits run
  let child := DerivedAccessToken.sublet env request parentToken parent
  let sublet : Tenancy := { before with
    derived := before.derived.sublet env request parentToken parent }
  have entered : sublet.guardianship = before.guardianship.putWard
      (generateUniqueDerivedTokenId env request.parentTokenId) child.ward :=
    guardianship_put_ward rfl rfl
  have adopted : after.guardianship = sublet.guardianship := by
    refine @guardianship_put_self _ _ request.parentTokenId again { again with
      childTokens := again.childTokens ++
        [generateUniqueDerivedTokenId env request.parentTokenId] } admitted.reread (by rw [access]) ?_ rfl
    rw [derived]
    rfl
  have rooted : before.guardianship.RootRuns env.timestamp request.parentTokenId :=
    ⟨parentToken.tenure, Option.map_eq_some_iff.mpr ⟨parentToken, admitted.found, rfl⟩,
      admitted.unrevoked, admitted.unexpired⟩
  exact ⟨child.ward, ⟨rfl, admitted.lasts⟩, rooted, adopted.trans entered⟩

/-- A burn ends the wards that its walk comes back from. -/
theorem recursiveBurnHierarchy_guardianship {rootTokenId : U128} {reason : RevocationReason}
    {result : U32}
    (run : Commits (recursiveBurnHierarchy env rootTokenId reason) before result after) :
    Guardianship.Ends (before.derived.Walked rootTokenId) env.timestamp before.guardianship
      after.guardianship := by
  have ended : Ends _ before true after := ⟨result, run⟩
  have burns := (recursiveBurnHierarchy_burns ended).2
  have same := congrArg Prod.snd ((steady_recursiveBurnHierarchy rootTokenId reason).keeps run)
  refine ⟨?_, fun tokenId walked => ?_, fun tokenId spared => ?_⟩
  · funext tokenId
    exact congrArg (fun access : AccessStore =>
      (access.accessToken tokenId).map LesseeAccessToken.tenure) same
  · rintro ⟨ward, found, unrevoked, _⟩
    obtain ⟨token, stored, rfl⟩ := Option.map_eq_some_iff.mp found
    rw [burns.burned tokenId walked] at stored
    obtain ⟨kept, _, rfl⟩ := Option.map_eq_some_iff.mp stored
    cases unrevoked
  · exact congrArg (Option.map DerivedAccessToken.ward) (burns.others tokenId spared)

end Effects

/-! ## Which events keep the sub-leases sheltered -/

/-- No running ward of the token that the lease is mapped to loses its only running guardian. -/
def Tenancy.SparesLessee (tenancy : Tenancy) (now : U64) (leaseId : LeaseId) : Prop :=
  ∀ accessTokenId, tenancy.access.leaseToAccessToken leaseId = some accessTokenId →
    ∀ tokenId ward, tenancy.guardianship.wards tokenId = some ward → ward.Runs now →
      ward.guardian = accessTokenId → tenancy.guardianship.WardRuns now accessTokenId

/-- No running ward outside the burned hierarchy has its only running guardian in it. -/
def Tenancy.SparesHierarchy (tenancy : Tenancy) (now : U64) (rootTokenId : U128) : Prop :=
  ∀ tokenId ward, tenancy.guardianship.wards tokenId = some ward → ward.Runs now →
    ¬ tenancy.derived.Walked rootTokenId tokenId →
      tenancy.derived.Walked rootTokenId ward.guardian →
        tenancy.guardianship.RootRuns now ward.guardian

def Operation.Spares (now : U64) (tenancy : Tenancy) : Operation → Prop
  | .revokeAccessToken leaseId _ => tenancy.SparesLessee now leaseId
  | .handleLeaseStateChange leaseId _ newStatus =>
      revocationReasonOf newStatus ≠ none → tenancy.SparesLessee now leaseId
  | .burnDerivedTokenHierarchy rootTokenId => tenancy.SparesHierarchy now rootTokenId
  | _ => True

section Spares

variable {env : Env} {before after : Tenancy} {leaseId : LeaseId}

theorem revoke_covered_iff {reason : RevocationReason} {result : Unit}
    (covered : before.guardianship.Covered env.timestamp)
    (run : Commits (revokeAccessToken env leaseId reason) before result after) :
    after.guardianship.Covered env.timestamp ↔ before.SparesLessee env.timestamp leaseId := by
  obtain ⟨tokenId, tenure, mapped, revoked, entered⟩ := revokeAccessToken_guardianship run
  have ended : ¬ tenure.Runs env.timestamp := fun runs => by cases revoked.symm.trans runs.1
  rw [entered, covered.putRoot_iff ended]
  constructor
  · intro wards accessTokenId also
    obtain rfl := Option.some.inj (mapped.symm.trans also)
    exact wards
  · exact fun spares => spares tokenId mapped

/-- An operation on tokens that goes through keeps the sub-leases sheltered exactly if it spares
them. -/
theorem Operation.covered_iff {operation : Operation} (onTokens : operation.call? = none)
    (covered : before.guardianship.Covered env.timestamp)
    (run : Commits (operation.body env) before () after) :
    after.guardianship.Covered env.timestamp ↔ operation.Spares env.timestamp before := by
  have unchanged (same : after.guardianship = before.guardianship) :
      after.guardianship.Covered env.timestamp := same ▸ covered
  cases operation with
  | contract call => cases onTokens
  | mintLesseeAccessToken leaseId assetIdentifier assetType accessLevel transferable =>
      obtain ⟨tokenId, minted⟩ := commits_forget.mp ((commits_raising _ _ _).mp run)
      obtain ⟨tenure, runs, entered⟩ := mintLesseeAccessToken_guardianship minted
      exact iff_of_true (entered ▸ covered.putRoot runs) trivial
  | renewAccessToken leaseId newExpiration =>
      obtain ⟨tokenId, tenure, runs, entered⟩ :=
        renewAccessToken_guardianship ((commits_raising _ _ _).mp run)
      exact iff_of_true (entered ▸ covered.putRoot runs) trivial
  | mintDerivedAccessToken request =>
      obtain ⟨tokenId, minted⟩ := commits_forget.mp ((commits_raising _ _ _).mp run)
      obtain ⟨ward, runs, guarded, entered⟩ := mintDerivedAccessToken_guardianship minted
      exact iff_of_true (entered ▸ covered.putWard runs (.inl guarded)) trivial
  | verifyAccessToken request =>
      obtain ⟨response, verified⟩ := commits_forget.mp ((commits_raising _ _ _).mp run)
      exact iff_of_true (unchanged (verifyAccessToken_guardianship verified)) trivial
  | transferAccessToken request =>
      have handed := (commits_raising _ _ _).mp run
      exact iff_of_true (unchanged (transferAccessToken_guardianship handed)) trivial
  | transferDerivedToken tokenId fromSublessee toSublessee =>
      have handed := (commits_raising _ _ _).mp run
      exact iff_of_true (unchanged (transferDerivedToken_guardianship handed)) trivial
  | updateSpatialZone tokenId newZone =>
      have moved := (commits_raising _ _ _).mp run
      exact iff_of_true (unchanged (updateSpatialZone_guardianship moved)) trivial
  | revokeAccessToken leaseId reason =>
      exact revoke_covered_iff covered ((commits_raising _ _ _).mp run)
  | handleLeaseStateChange leaseId oldStatus newStatus =>
      have handled := (commits_raising _ _ _).mp run
      unfold Access.handleLeaseStateChange at handled
      split at handled
      · next reason revokes =>
          rw [revoke_covered_iff covered handled]
          simp [Operation.Spares, revokes]
      · next keeps =>
          obtain ⟨_, rfl⟩ := (commits_pure _ _).mp handled
          exact iff_of_true covered fun revokes => absurd keeps revokes
  | burnDerivedTokenHierarchy rootTokenId =>
      obtain ⟨result, burned⟩ := commits_forget.mp ((commits_raising _ _ _).mp run)
      exact (recursiveBurnHierarchy_guardianship burned).covered_iff covered

end Spares

/-! ## Runs -/

/-- The call, made at the time. -/
def Invocation.bodyAt (now : U64) (invocation : Invocation) : Managed Error Unit :=
  invocation.operation.body { invocation.env with timestamp := now }

abbrev tenureStep : Clocked.Event Invocation → Clocked Tenancy → Clocked Tenancy :=
  Clocked.step Invocation.bodyAt

/-- The event is an operation on tokens, or the passage of time. -/
def OnTokens : Clocked.Event Invocation → Prop
  | .call invocation => invocation.operation.call? = none
  | .wait _ => True

/-- An operation that goes through spares the sub-leases; and when time passes, every unrevoked
derived token that has not expired then has an unrevoked parent that has not expired then. -/
def SparesSubleases : Clocked.Event Invocation → Clocked Tenancy → Prop
  | .call invocation, clocked =>
      Machine.Goes (Invocation.bodyAt clocked.now) invocation clocked.state →
        invocation.operation.Spares clocked.now clocked.state
  | .wait time, clocked => clocked.now < time →
      ∀ tokenId ward, clocked.state.guardianship.wards tokenId = some ward →
        ward.revoked = false → time ≤ ward.expiry →
          clocked.state.guardianship.Guards time ward.guardian

theorem sheltered_step_iff {event : Clocked.Event Invocation} {clocked : Clocked Tenancy}
    (onTokens : OnTokens event) (sheltered : Sheltered clocked) :
    Sheltered (tenureStep event clocked) ↔ SparesSubleases event clocked := by
  obtain ⟨tenancy, now⟩ := clocked
  have covered := sheltered_iff.mp sheltered
  cases event with
  | call invocation =>
      refine Clocked.call_keeps_iff sheltered fun after run => ?_
      rw [sheltered_iff]
      exact Operation.covered_iff onTokens covered run
  | wait time =>
      show Sheltered ⟨tenancy, max now time⟩ ↔ _
      rw [sheltered_iff, covered.max_iff]
      refine imp_congr_right fun _ => forall₂_congr fun tokenId ward => ?_
      exact ⟨fun guards found unrevoked unexpired => guards found ⟨unrevoked, unexpired⟩,
        fun guards found runs => guards found runs.1 runs.2⟩

/-- From a store whose sub-leases are sheltered, they are sheltered in every state of a run of
token operations and waits exactly if every event of it spares them. -/
theorem sheltered_along_iff (events : List (Clocked.Event Invocation)) {start : Clocked Tenancy}
    (onTokens : ∀ event ∈ events, OnTokens event) (sheltered : Sheltered start) :
    (∀ earlier, earlier <+: events → Sheltered (Run.run tenureStep earlier start)) ↔
      Run.MeetsAlong tenureStep SparesSubleases events start := by
  refine @Run.invariant_along_iff_given _ _ _ (fun event _ => OnTokens event) (fun _ => True)
    Sheltered _ (fun _ _ _ _ => trivial) (fun event clocked on _ holds => ?_) _ _
    (Run.meetsAlong_of_forall onTokens start) trivial sheltered
  exact sheltered_step_iff on holds

/-! ## A bedroom and its lease -/

/-- The lease's token and the bedroom sublet below it, both valid. -/
def subletWorld : Clocked Tenancy :=
  ⟨{ letWorld with derived := subletStore }, 70⟩

theorem subletWorld_wards {tokenId : U128} {ward : Ward U128} :
    subletWorld.state.guardianship.wards tokenId = some ward ↔
      tokenId = 90 ∧ ward = bedroom.ward := by
  refine Option.map_eq_some_iff.trans ⟨?_, ?_⟩
  · rintro ⟨token, stored, rfl⟩
    obtain ⟨rfl, rfl⟩ := subletStore_lookup.mp stored
    exact ⟨rfl, rfl⟩
  · rintro ⟨rfl, rfl⟩
    exact ⟨bedroom, subletStore_lookup.mpr ⟨rfl, rfl⟩, rfl⟩

theorem subletWorld_guards {now : U64} (unexpired : now ≤ letToken.expirationTimestamp) :
    subletWorld.state.guardianship.Guards now letTokenId :=
  .inl ⟨letToken.tenure, Option.map_eq_some_iff.mpr ⟨letToken, letWorld_token, rfl⟩, rfl, unexpired⟩

theorem subletWorld_sheltered : Sheltered subletWorld := by
  refine sheltered_iff.mpr fun tokenId ward found _ => ?_
  obtain ⟨rfl, rfl⟩ := subletWorld_wards.mp found
  exact subletWorld_guards (by decide)

/-- Time passes, and the bedroom is handed on. -/
def quietEvents : List (Clocked.Event Invocation) :=
  [.wait 100, .call (operateAt 100 (.transferDerivedToken 90 ⟨9⟩ ⟨11⟩))]

theorem subletWorld_sheltered_along :
    Sheltered (Run.run tenureStep quietEvents subletWorld) := by
  refine (sheltered_along_iff quietEvents ?_ subletWorld_sheltered).mpr
    ⟨fun _ tokenId ward found _ _ => ?_, fun _ => trivial, trivial⟩ quietEvents
    (List.prefix_refl _)
  · intro event among
    rcases List.mem_cons.mp among with rfl | among
    · trivial
    · obtain rfl := List.mem_singleton.mp among
      rfl
  · obtain ⟨rfl, rfl⟩ := subletWorld_wards.mp found
    exact subletWorld_guards (by decide)

/-- The lease's token is revoked. -/
def revokingEvent : Clocked.Event Invocation :=
  .call (operateAt 70 (.revokeAccessToken 7 .securityBreach))

/-- The lease's token is renewed to a time before the bedroom's expiration. -/
def shorteningEvent : Clocked.Event Invocation :=
  .call (operateAt 70 (.renewAccessToken 7 80))

/-- The bedroom stays valid after its parent is revoked, and after its shortened parent has
expired. -/
theorem bedroom_outlives_parent :
    (¬ ∀ (start : Clocked Tenancy) (invocation : Invocation), Sheltered start →
      OnTokens (.call invocation) → Sheltered (tenureStep (.call invocation) start)) ∧
    ¬ ∀ (start : Clocked Tenancy) time, Sheltered start → Sheltered (tenureStep (.wait time) start) := by
  constructor
  · intro kept
    have spares := (@sheltered_step_iff revokingEvent _ rfl subletWorld_sheltered).mp
      (kept subletWorld _ subletWorld_sheltered rfl)
    have goes : Machine.Goes (Invocation.bodyAt 70)
        (operateAt 70 (.revokeAccessToken 7 .securityBreach)) subletWorld.state := by
      decide +kernel
    have mapped : subletWorld.state.access.leaseToAccessToken 7 = some letTokenId := by
      decide +kernel
    obtain ⟨ward, found, _⟩ := spares goes letTokenId mapped 90 bedroom.ward
      (subletWorld_wards.mpr ⟨rfl, rfl⟩) ⟨rfl, by decide⟩ rfl
    exact absurd (subletWorld_wards.mp found).1 (by decide)
  · intro kept
    have shortened : Sheltered (tenureStep shorteningEvent subletWorld) :=
      (@sheltered_step_iff shorteningEvent _ rfl subletWorld_sheltered).mpr fun _ => trivial
    have spares := (@sheltered_step_iff (.wait 90) _ trivial shortened).mp (kept _ 90 shortened)
    have sublet : (tenureStep shorteningEvent subletWorld).state.guardianship.wards 90 =
        some bedroom.ward := by decide +kernel
    have root : (tenureStep shorteningEvent subletWorld).state.guardianship.roots letTokenId =
        some ⟨false, 80⟩ := by decide +kernel
    have alone : (tenureStep shorteningEvent subletWorld).state.guardianship.wards letTokenId =
        none := by decide +kernel
    rcases spares (by decide) 90 bedroom.ward sublet rfl (by decide) with
      ⟨tenure, found, _, unexpired⟩ | ⟨ward, found, _⟩
    · obtain rfl := Option.some.inj (root.symm.trans found)
      exact absurd unexpired (by decide)
    · cases alone.symm.trans found

end LeaseFlow.Access
