import LeaseFlow.Access.Closing
import LeaseFlow.Access.Burning
import LeaseFlow.Access.Subleasing
import LeaseFlow.Foundations.Descent

/-!
# The cascade of a termination

A regular termination starts its burn at the id of the lease's access token, in the registry of
the derived tokens.  The burn revokes what its walk comes back from there, which is nothing where
no derived token has that id; what ends it early is ignored.
-/

set_option autoImplicit false

namespace LeaseFlow.Access

open Transaction Failure Descent

/-! ## What a burn leaves -/

def DerivedStore.Revoked (store : DerivedStore) (tokenId : U128) : Prop :=
  ∃ token, store.derivedToken.lookup tokenId = some token ∧ token.revoked = true

/-- The tokens that the walk down from the root comes back from. -/
def DerivedStore.Walked (store : DerivedStore) (rootTokenId tokenId : U128) : Prop :=
  Visits store.children rootTokenId tokenId

/-- The given tokens are burned, and no other is changed. -/
structure DerivedStore.Burns (reason : RevocationReason) (now : U64) (among : U128 → Prop)
    (before after : DerivedStore) : Prop where
  burned : ∀ tokenId, among tokenId → after.derivedToken.lookup tokenId =
    (before.derivedToken.lookup tokenId).map (DerivedAccessToken.burned reason now)
  others : ∀ tokenId, ¬ among tokenId →
    after.derivedToken.lookup tokenId = before.derivedToken.lookup tokenId

namespace DerivedStore

variable {reason : RevocationReason} {now : U64} {first second : U128 → Prop}
  {before middle after : DerivedStore}

theorem burns_refl (store : DerivedStore) : Burns reason now (fun _ => False) store store :=
  ⟨fun _ none => none.elim, fun _ _ => rfl⟩

theorem Burns.congr (burns : Burns reason now first before after)
    (same : ∀ tokenId, first tokenId ↔ second tokenId) :
    Burns reason now second before after :=
  (funext fun tokenId => propext (same tokenId) : first = second) ▸ burns

theorem Burns.trans (one : Burns reason now first before middle)
    (two : Burns reason now second middle after) :
    Burns reason now (fun tokenId => first tokenId ∨ second tokenId) before after := by
  refine ⟨fun tokenId burned => ?_, fun tokenId spared => ?_⟩
  · by_cases late : second tokenId
    · rw [two.burned tokenId late]
      by_cases early : first tokenId
      · rw [one.burned tokenId early, Option.map_map]
        rfl
      · rw [one.others tokenId early]
    · rw [two.others tokenId late, one.burned tokenId (burned.resolve_right late)]
  · rw [two.others tokenId fun late => spared (.inr late),
      one.others tokenId fun early => spared (.inl early)]

theorem Burns.put {tokenId : U128} {token : DerivedAccessToken}
    (burns : Burns reason now first before after)
    (stored : before.derivedToken.lookup tokenId = some token) :
    Burns reason now (fun other => other = tokenId ∨ first other) before
      (after.put tokenId (token.burned reason now)) := by
  refine ⟨fun other burned => ?_, fun other spared => ?_⟩
  · by_cases here : other = tokenId
    · subst here
      rw [DerivedStore.put, Table.lookup_set_self, stored, Option.map_some]
    · rw [DerivedStore.put, Table.lookup_set_ne _ _ here,
        burns.burned other (burned.resolve_left here)]
  · rw [DerivedStore.put, Table.lookup_set_ne _ _ fun here => spared (.inl here),
      burns.others other fun below => spared (.inr below)]

theorem Burns.children (burns : Burns reason now first before after) :
    after.children = before.children := by
  funext tokenId
  unfold DerivedStore.children
  by_cases burned : first tokenId
  · rw [burns.burned tokenId burned, Option.map_map]
    rfl
  · rw [burns.others tokenId burned]

theorem Burns.revoked_iff (burns : Burns reason now first before after)
    (stored : ∀ tokenId, first tokenId → before.derivedToken.lookup tokenId ≠ none)
    (tokenId : U128) : after.Revoked tokenId ↔ before.Revoked tokenId ∨ first tokenId := by
  unfold Revoked
  by_cases burned : first tokenId
  · refine iff_of_true ?_ (.inr burned)
    obtain ⟨token, found⟩ := Option.ne_none_iff_exists'.mp (stored tokenId burned)
    exact ⟨token.burned reason now, by rw [burns.burned tokenId burned, found]; rfl, rfl⟩
  · rw [burns.others tokenId burned]
    exact ⟨.inl, fun either => either.resolve_right burned⟩

end DerivedStore

section Burns

variable {env : Env} {reason : RevocationReason} {before after : Tenancy} {tokenId : U128}
  {levels : Nat} {counts : U32 × U32} {returns : Bool}

/-- What the walks from the given tokens do, and when they all return. -/
def BurnsAmong (env : Env) (reason : RevocationReason) (tokenIds : List U128)
    (before : Tenancy) (returns : Bool) (after : Tenancy) : Prop :=
  (returns = true ↔ ∀ tokenId ∈ tokenIds, Whole before.derived.children tokenId) ∧
    DerivedStore.Burns reason env.timestamp (VisitsAmong before.derived.children tokenIds)
      before.derived after.derived

/-- What the walk from one token does, and when it returns. -/
def BurnsBelow (env : Env) (reason : RevocationReason) (tokenId : U128)
    (before : Tenancy) (returns : Bool) (after : Tenancy) : Prop :=
  (returns = true ↔ Whole before.derived.children tokenId) ∧
    DerivedStore.Burns reason env.timestamp (before.derived.Walked tokenId) before.derived
      after.derived

theorem foldlM_burns {childIds : List U128}
    (each : ∀ childId counts before returns after,
      Ends (recursiveBurnInternal env reason levels childId counts) before returns after →
      BurnsBelow env reason childId before returns after)
    (run : Ends (childIds.foldlM
      (fun counts childId => recursiveBurnInternal env reason levels childId counts) counts)
      before returns after) :
    BurnsAmong env reason childIds before returns after := by
  induction childIds generalizing counts before with
  | nil =>
      obtain ⟨rfl, value, ended⟩ := (trapsOnly_pure counts).ends run
      obtain ⟨_, rfl⟩ := (commits_pure _ _).mp ended
      exact ⟨by simp, (DerivedStore.burns_refl _).congr fun _ =>
        ⟨False.elim, fun among => not_visitsAmong_nil among⟩⟩
  | cons childId rest ih =>
      rw [List.foldlM_cons, ends_bind] at run
      rcases run with ⟨rfl, early⟩ | ⟨below, middle, first, later⟩
      · obtain ⟨ended, burns⟩ := each childId counts before false after early
        have broken : ¬ Whole before.derived.children childId := fun whole =>
          Bool.false_ne_true (ended.mpr whole)
        refine ⟨iff_of_false Bool.false_ne_true fun whole => broken (whole _ List.mem_cons_self), ?_⟩
        refine burns.congr fun tokenId => ?_
        rw [visitsAmong_cons]
        exact ⟨.inl, fun either => either.resolve_right fun go => broken go.1⟩
      · obtain ⟨ended, burns⟩ := each childId counts before true middle ⟨below, first⟩
        have whole := ended.mp rfl
        obtain ⟨restEnded, restBurns⟩ := ih later
        rw [burns.children] at restEnded restBurns
        refine ⟨by simp [restEnded, whole], ?_⟩
        refine (burns.trans restBurns).congr fun tokenId => ?_
        rw [visitsAmong_cons]
        exact or_congr_right (and_iff_right whole).symm

theorem burnsBelow_of_none (missing : before.derived.derivedToken.lookup tokenId = none) :
    BurnsBelow env reason tokenId before false before := by
  have absent : before.derived.children tokenId = none := by
    rw [DerivedStore.children, missing]
    rfl
  refine ⟨iff_of_false Bool.false_ne_true (not_whole_of_none absent), ?_⟩
  exact (DerivedStore.burns_refl _).congr fun _ =>
    ⟨False.elim, fun walked => not_visits_of_none absent walked⟩

/-- The ending of the walks from the children of a token. -/
abbrev ChildrenEnd (env : Env) (reason : RevocationReason) (levels : Nat)
    (token : DerivedAccessToken) (counts : U32 × U32) : Tenancy → Bool → Tenancy → Prop :=
  Ends (token.childTokens.foldlM
    (fun counts childId => recursiveBurnInternal env reason levels childId counts)
    (counts.1, max counts.2 token.hierarchyDepth))

theorem recursiveBurnInternal_ends
    (run : Ends (recursiveBurnInternal env reason (levels + 1) tokenId counts) before returns
      after) :
    (before.derived.derivedToken.lookup tokenId = none ∧ returns = false ∧ after = before) ∨
      ∃ token, before.derived.derivedToken.lookup tokenId = some token ∧
        ((returns = false ∧ ChildrenEnd env reason levels token counts before false after) ∨
          ∃ middle, ChildrenEnd env reason levels token counts before true middle ∧
            returns = true ∧
            after.derived = middle.derived.put tokenId (token.burned reason env.timestamp)) := by
  obtain ⟨tokensBurned, maxDepth⟩ := counts
  rw [recursiveBurnInternal, ends_bind] at run
  rcases run with ⟨rfl, error, missing⟩ | ⟨token, _, found, run⟩
  · obtain ⟨missing, _, rfl⟩ := faults_getDerivedToken.mp missing
    exact .inl ⟨missing, rfl, rfl⟩
  obtain ⟨stored, rfl⟩ := (commits_getDerivedToken _ _).mp found
  refine .inr ⟨token, stored, ?_⟩
  rw [ends_bind] at run
  rcases run with ⟨rfl, early⟩ | ⟨⟨childrenBurned, deepest⟩, middle, walk, rest⟩
  · exact .inl ⟨rfl, early⟩
  · have only : TrapsOnly (do
        updateDerived (DerivedStore.put tokenId (token.burned reason env.timestamp))
        let burned ← checkedUpTo u32Max (childrenBurned + 1)
        pure (burned, deepest) : DerivedManager (U32 × U32)) :=
      trapsOnly_bind (trapsOnly_modify _) fun _ =>
        trapsOnly_bind (trapsOnly_checkedUpTo _ _) fun _ => trapsOnly_pure _
    obtain ⟨rfl, counted, ran⟩ := only.ends rest
    simp only [commits_bind, commits_updateDerived, commits_checkedUpTo, commits_pure] at ran
    obtain ⟨_, _, rfl, _, _, ⟨_, _, rfl⟩, _, rfl⟩ := ran
    exact .inr ⟨middle, ⟨_, walk⟩, rfl, rfl⟩

/-- However the walk from a token ends, short of a trap, it has burned what it came back from;
it returns where nothing is missing. -/
theorem recursiveBurnInternal_burns
    (run : Ends (recursiveBurnInternal env reason levels tokenId counts) before returns after) :
    BurnsBelow env reason tokenId before returns after := by
  induction levels generalizing tokenId counts before returns after with
  | zero =>
      cases returns with
      | true =>
          obtain ⟨value, ended⟩ := run
          exact absurd ended (commits_throw _ _)
      | false =>
          obtain ⟨error, ended⟩ := run
          cases ended
  | succ levels ih =>
      rcases recursiveBurnInternal_ends run with ⟨missing, rfl, rfl⟩ | ⟨token, stored, walks⟩
      · exact burnsBelow_of_none missing
      have listed : before.derived.children tokenId = some token.childTokens := by
        rw [DerivedStore.children, stored]
        rfl
      rw [BurnsBelow, whole_iff listed]
      rcases walks with ⟨rfl, early⟩ | ⟨middle, walk, rfl, written⟩
      · obtain ⟨ended, burns⟩ := foldlM_burns (fun _ _ _ _ _ => ih) early
        have broken : ¬ ∀ childId ∈ token.childTokens, Whole before.derived.children childId :=
          fun whole => Bool.false_ne_true (ended.mpr whole)
        refine ⟨ended, burns.congr fun other => ?_⟩
        rw [DerivedStore.Walked, visits_iff listed]
        exact ⟨.inr, fun either => either.resolve_left fun back => broken back.2⟩
      · obtain ⟨ended, burns⟩ := foldlM_burns (fun _ _ _ _ _ => ih) walk
        rw [written]
        refine ⟨ended, (burns.put stored).congr fun other => ?_⟩
        rw [DerivedStore.Walked, visits_iff listed]
        exact or_congr_left (and_iff_left (ended.mp rfl)).symm

theorem foldlM_returns {childIds : List U128} (closed : Closed before.derived.children)
    (stored : ∀ childId ∈ childIds, before.derived.children childId ≠ none)
    (each : ∀ childId counts before returns after, Closed before.derived.children →
      before.derived.children childId ≠ none →
      Ends (recursiveBurnInternal env reason levels childId counts) before returns after →
      returns = true)
    (run : Ends (childIds.foldlM
      (fun counts childId => recursiveBurnInternal env reason levels childId counts) counts)
      before returns after) : returns = true := by
  induction childIds generalizing counts before with
  | nil => exact ((trapsOnly_pure counts).ends run).1
  | cons childId rest ih =>
      have first := stored childId List.mem_cons_self
      rw [List.foldlM_cons, ends_bind] at run
      rcases run with ⟨rfl, early⟩ | ⟨below, middle, walk, later⟩
      · exact each childId counts before false after closed first early
      · have returned : Ends _ _ true middle := ⟨below, walk⟩
        have same := (recursiveBurnInternal_burns returned).2.children
        refine ih (same ▸ closed) (fun child among => ?_) later
        rw [same]
        exact stored child (List.mem_cons_of_mem _ among)

theorem recursiveBurnInternal_returns (closed : Closed before.derived.children)
    (stored : before.derived.children tokenId ≠ none)
    (run : Ends (recursiveBurnInternal env reason levels tokenId counts) before returns after) :
    returns = true := by
  induction levels generalizing tokenId counts before returns after with
  | zero =>
      cases returns with
      | true => rfl
      | false =>
          obtain ⟨error, ended⟩ := run
          cases ended
  | succ levels ih =>
      rcases recursiveBurnInternal_ends run with ⟨missing, _, _⟩ | ⟨token, found, walks⟩
      · refine absurd ?_ stored
        rw [DerivedStore.children, missing]
        rfl
      have listed : before.derived.children tokenId = some token.childTokens := by
        rw [DerivedStore.children, found]
        rfl
      rcases walks with ⟨_, early⟩ | ⟨_, _, returned, _⟩
      · have ended := foldlM_returns closed (closed tokenId _ listed)
          (fun _ _ _ _ _ closed stored walk => ih closed stored walk) early
        exact absurd ended Bool.false_ne_true
      · exact returned

theorem recursiveBurnHierarchy_ends {rootTokenId : U128}
    (run : Ends (recursiveBurnHierarchy env rootTokenId reason) before returns after) :
    (before.derived.derivedToken.lookup rootTokenId = none ∧ returns = false ∧ after = before) ∨
      ∃ levels counts middle, before.derived.derivedToken.lookup rootTokenId ≠ none ∧
        Ends (recursiveBurnInternal env reason levels rootTokenId counts) before returns middle ∧
        after.derived = middle.derived := by
  rw [recursiveBurnHierarchy, ends_bind] at run
  rcases run with ⟨rfl, error, missing⟩ | ⟨root, _, found, run⟩
  · obtain ⟨missing, _, rfl⟩ := faults_getDerivedToken.mp missing
    exact .inl ⟨missing, rfl, rfl⟩
  obtain ⟨found, rfl⟩ := (commits_getDerivedToken _ _).mp found
  have present := Option.ne_none_iff_exists'.mpr ⟨root, found⟩
  rw [ends_bind] at run
  rcases run with ⟨_, error, early⟩ | ⟨stored, _, counted, run⟩
  · exact absurd early not_faults_inspect
  obtain ⟨rfl, rfl⟩ := (commits_inspect _ _).mp counted
  rw [ends_bind] at run
  rcases run with ⟨rfl, early⟩ | ⟨⟨tokensBurned, maxDepth⟩, middle, walk, rest⟩
  · exact .inr ⟨_, _, after, present, early, rfl⟩
  · obtain ⟨rfl, result, ran⟩ := (trapsOnly_bind (trapsOnly_modify _) fun _ =>
      trapsOnly_pure _).ends rest
    simp only [commits_bind, commits_modify, commits_pure] at ran
    obtain ⟨_, _, rfl, _, rfl⟩ := ran
    exact .inr ⟨_, _, middle, present, ⟨_, walk⟩, rfl⟩

theorem recursiveBurnHierarchy_burns {rootTokenId : U128}
    (run : Ends (recursiveBurnHierarchy env rootTokenId reason) before returns after) :
    BurnsBelow env reason rootTokenId before returns after := by
  rcases recursiveBurnHierarchy_ends run with ⟨missing, rfl, rfl⟩ | ⟨_, _, middle, _, walk, same⟩
  · exact burnsBelow_of_none missing
  · obtain ⟨ended, burns⟩ := recursiveBurnInternal_burns walk
    exact ⟨ended, same ▸ burns⟩

/-- Where every listed token is stored, a burn that ends short of a trap has found nothing to
burn, or all of the hierarchy. -/
theorem recursiveBurnHierarchy_whole {rootTokenId : U128}
    (closed : Closed before.derived.children)
    (stored : before.derived.derivedToken.lookup rootTokenId ≠ none)
    (run : Ends (recursiveBurnHierarchy env rootTokenId reason) before returns after) :
    Whole before.derived.children rootTokenId := by
  have ended := (recursiveBurnHierarchy_burns run).1
  rcases recursiveBurnHierarchy_ends run with ⟨missing, _, _⟩ | ⟨_, _, middle, _, walk, _⟩
  · exact absurd missing stored
  · refine ended.mp (recursiveBurnInternal_returns closed (fun missing => stored ?_) walk)
    exact Option.map_eq_none_iff.mp missing

theorem commits_dropping_iff {ε α : Type} {body : Managed ε α} {result : Unit} :
    Commits (dropping fatalTrap body) before result after ↔
      ∃ returns, Ends body before returns after := by
  rw [commits_dropping]
  constructor
  · rintro (returned | ⟨fault, faulted, dropped⟩)
    · exact ⟨true, returned⟩
    · cases fault with
      | err error => exact ⟨false, error, faulted⟩
      | trap message => cases dropped
  · rintro ⟨returns, ended⟩
    cases returns with
    | true => exact .inl ended
    | false =>
        obtain ⟨error, faulted⟩ := ended
        exact .inr ⟨_, faulted, rfl⟩

theorem dropping_revoke_derived {leaseId : LeaseId} {result : Unit}
    (run : Commits (dropping fatalTrap (revokeAccessToken env leaseId reason)) before result
      after) : after.derived = before.derived := by
  rcases commits_dropping_revoke_iff.mp run with revoked | ⟨_, rfl⟩
  · obtain ⟨_, _, _, _, _, _, _, rfl⟩ := commits_revokeAccessToken_iff.mp revoked
    rfl
  · rfl

/-- The tokens that the walk down from the token of the lease comes back from. -/
def DerivedStore.Cascaded (store : DerivedStore) (lease : LeaseInstance) (tokenId : U128) : Prop :=
  ∃ rootTokenId, lease.tokenId = some rootTokenId ∧ store.Walked rootTokenId tokenId

theorem cascadeBurn_ends {leaseId : LeaseId} {accessTokenId : U128} {result : Unit}
    (run : Commits (cascadeBurn env leaseId (some accessTokenId)) before result after) :
    ∃ returns middle,
      Ends (recursiveBurnHierarchy env accessTokenId .leaseTerminated) before returns middle ∧
        after.derived = middle.derived := by
  obtain ⟨_, middle, burned, revoked⟩ := (commits_bind _ _ _).mp run
  obtain ⟨returns, ended⟩ := commits_dropping_iff.mp burned
  exact ⟨returns, middle, ended, dropping_revoke_derived revoked⟩

theorem cascadeBurn_burns {leaseId : LeaseId} {lease : LeaseInstance} {result : Unit}
    (run : Commits (cascadeBurn env leaseId lease.tokenId) before result after) :
    DerivedStore.Burns .leaseTerminated env.timestamp (before.derived.Cascaded lease)
      before.derived after.derived := by
  cases held : lease.tokenId with
  | none =>
      rw [held] at run
      obtain ⟨_, rfl⟩ := (commits_pure _ _).mp run
      refine (DerivedStore.burns_refl _).congr fun tokenId => ⟨False.elim, ?_⟩
      rintro ⟨rootTokenId, same, _⟩
      cases held.symm.trans same
  | some rootTokenId =>
      rw [held] at run
      obtain ⟨returns, middle, ended, same⟩ := cascadeBurn_ends run
      rw [same]
      refine (recursiveBurnHierarchy_burns ended).2.congr fun tokenId => ?_
      simp only [DerivedStore.Cascaded, held, Option.some.injEq, exists_eq_left']

theorem terminateLease_cascades {leaseId : LeaseId} {lease : LeaseInstance} {caller : Address}
    (found : before.leases.lookup leaseId = some lease)
    (run : Commits (terminateLease env leaseId caller) before () after) :
    ∃ world middle, Commits (cascadeBurn env leaseId lease.tokenId) (before.withWorld world) ()
      middle ∧ after.derived = middle.derived := by
  simp only [terminateLease, commits_bind, commits_inWorld, commits_admitTermination] at run
  obtain ⟨_, _, ⟨_, ⟨admitted, rfl⟩, rfl⟩, _, _, ⟨paid, _, rfl⟩, _, _, ⟨burned, _, rfl⟩, _, middle,
    cascade, _, _, ⟨_, _, rfl⟩, _, _, ⟨_, _, rfl⟩, _, _, rfl⟩ := run
  obtain rfl := Option.some.inj (found.symm.trans admitted.found)
  exact ⟨burned, middle, cascade, rfl⟩

end Burns

/-! ## The sub-leases of a token -/

/-- The token descends from the root, by the parents that the derived tokens name. -/
inductive DerivedStore.Descends (store : DerivedStore) (rootTokenId : U128) : U128 → Prop where
  | child {tokenId : U128} {token : DerivedAccessToken}
      (stored : store.derivedToken.lookup tokenId = some token)
      (parent : token.parentTokenId = rootTokenId) : store.Descends rootTokenId tokenId
  | further {parentTokenId tokenId : U128} {token : DerivedAccessToken}
      (descends : store.Descends rootTokenId parentTokenId)
      (stored : store.derivedToken.lookup tokenId = some token)
      (parent : token.parentTokenId = parentTokenId) : store.Descends rootTokenId tokenId

/-- The lists of children are those of the stored tokens that name the parent. -/
structure DerivedStore.Linked (store : DerivedStore) : Prop where
  listed : ∀ tokenId token, store.derivedToken.lookup tokenId = some token →
    tokenId ∈ store.parentToChildren token.parentTokenId
  named : ∀ parentTokenId tokenId, tokenId ∈ store.parentToChildren parentTokenId →
    ∃ token, store.derivedToken.lookup tokenId = some token ∧ token.parentTokenId = parentTokenId
  children : ∀ tokenId token, store.derivedToken.lookup tokenId = some token →
    token.childTokens = store.parentToChildren tokenId

section Descends

variable {env : Env} {leaseId : LeaseId} {lease : LeaseInstance} {caller : Address}
  {before after : Tenancy}

theorem DerivedStore.Walked.stored {store : DerivedStore} {rootTokenId tokenId : U128}
    (walked : store.Walked rootTokenId tokenId) : store.derivedToken.lookup tokenId ≠ none := by
  unfold DerivedStore.Walked at walked
  induction walked with
  | back whole =>
      intro missing
      refine not_whole_of_none ?_ whole
      rw [DerivedStore.children, missing]
      rfl
  | down _ _ _ ih => exact ih

theorem DerivedStore.children_eq_none_iff {store : DerivedStore} {tokenId : U128} :
    store.children tokenId = none ↔ store.derivedToken.lookup tokenId = none :=
  Option.map_eq_none_iff

theorem DerivedStore.Descends.trans {store : DerivedStore} {first second third : U128}
    (one : store.Descends first second) (two : store.Descends second third) :
    store.Descends first third := by
  induction two with
  | child stored parent => exact .further one stored parent
  | further _ stored parent ih => exact .further ih stored parent

namespace DerivedStore.Linked

variable {store : DerivedStore} {rootTokenId parentTokenId tokenId : U128}

theorem closed (linked : store.Linked) : Closed store.children := by
  intro parentTokenId below listed childId among missing
  obtain ⟨parent, stored, rfl⟩ := Option.map_eq_some_iff.mp listed
  rw [linked.children _ _ stored] at among
  obtain ⟨token, found, _⟩ := linked.named _ _ among
  cases (DerivedStore.children_eq_none_iff.mp missing).symm.trans found

theorem walked_child (linked : store.Linked) (whole : Whole store.children parentTokenId)
    {token : DerivedAccessToken} (stored : store.derivedToken.lookup tokenId = some token)
    (parent : token.parentTokenId = parentTokenId) : store.Walked parentTokenId tokenId := by
  cases whole with
  | @of_listed _ below listed whole =>
      obtain ⟨kept, found, rfl⟩ := Option.map_eq_some_iff.mp listed
      have among : tokenId ∈ kept.childTokens := by
        rw [linked.children _ _ found, ← parent]
        exact linked.listed _ _ stored
      exact (Whole.of_listed listed whole).visits listed among (.back (whole _ among))

/-- A walk that misses nothing comes back from its root and from what descends from it. -/
theorem walked_iff (linked : store.Linked) (whole : Whole store.children rootTokenId) :
    store.Walked rootTokenId tokenId ↔ tokenId = rootTokenId ∨ store.Descends rootTokenId tokenId := by
  constructor
  · intro walked
    clear whole
    unfold Walked at walked
    induction walked with
    | back whole => exact .inl rfl
    | @down parentTokenId childId _ _ _ listed _ _ ih =>
        obtain ⟨kept, found, same⟩ := Option.map_eq_some_iff.mp listed
        have among : childId ∈ store.parentToChildren parentTokenId := by
          rw [← linked.children _ _ found, same]
          exact List.mem_append_right _ List.mem_cons_self
        obtain ⟨token, stored, parent⟩ := linked.named _ _ among
        rcases ih with rfl | descends
        · exact .inr (.child stored parent)
        · exact .inr ((Descends.child stored parent).trans descends)
  · rintro (rfl | descends)
    · exact .back whole
    · induction descends with
      | child stored parent => exact linked.walked_child whole stored parent
      | further _ stored parent ih =>
          exact ih.trans (linked.walked_child ih.whole stored parent)

end DerivedStore.Linked

/-- Over a linked store the cascade of a termination that goes through comes back from the
derived token at the id of the lease's token, if one is stored, and from what descends from it. -/
theorem cascaded_iff (linked : before.derived.Linked)
    (found : before.leases.lookup leaseId = some lease)
    (run : Commits (terminateLease env leaseId caller) before () after) (tokenId : U128) :
    before.derived.Cascaded lease tokenId ↔
      ∃ rootTokenId, lease.tokenId = some rootTokenId ∧
        before.derived.derivedToken.lookup rootTokenId ≠ none ∧
        (tokenId = rootTokenId ∨ before.derived.Descends rootTokenId tokenId) := by
  refine exists_congr fun rootTokenId => and_congr_right fun held => ?_
  by_cases missing : before.derived.derivedToken.lookup rootTokenId = none
  · refine iff_of_false (fun walked => ?_) fun stored => stored.1 missing
    exact not_visits_of_none (DerivedStore.children_eq_none_iff.mpr missing) walked
  · obtain ⟨world, middle, cascade, _⟩ := terminateLease_cascades found run
    rw [held] at cascade
    obtain ⟨returns, left, ended, _⟩ := cascadeBurn_ends cascade
    have closed : Closed (before.withWorld world).derived.children := linked.closed
    have whole := recursiveBurnHierarchy_whole closed missing ended
    exact (linked.walked_iff whole).trans (and_iff_right missing).symm

/-- A termination that goes through leaves every token descending from the access token revoked
exactly if its cascade comes back from each of them that was not revoked. -/
theorem terminateLease_revokes_iff (found : before.leases.lookup leaseId = some lease)
    (run : Commits (terminateLease env leaseId caller) before () after) (tokenId : U128) :
    after.derived.Revoked tokenId ↔
      before.derived.Revoked tokenId ∨ before.derived.Cascaded lease tokenId := by
  obtain ⟨world, middle, cascade, same⟩ := terminateLease_cascades found run
  have burns := cascadeBurn_burns cascade
  rw [same]
  exact burns.revoked_iff (fun tokenId ⟨_, _, walked⟩ => walked.stored) tokenId

/-- In every store, a termination that goes through leaves the tokens descending from the access
token revoked exactly if its cascade comes back from each of them that was not revoked.  In a
linked store these are the derived token stored at the id of the lease's token and its
descendants. -/
theorem terminateLease_revokes_descendants_iff
    (found : before.leases.lookup leaseId = some lease)
    (run : Commits (terminateLease env leaseId caller) before () after) (accessTokenId : U128) :
    ((∀ tokenId, before.derived.Descends accessTokenId tokenId → after.derived.Revoked tokenId) ↔
      ∀ tokenId, before.derived.Descends accessTokenId tokenId →
        ¬ before.derived.Revoked tokenId → before.derived.Cascaded lease tokenId) ∧
    (before.derived.Linked → ∀ tokenId, before.derived.Cascaded lease tokenId ↔
      ∃ rootTokenId, lease.tokenId = some rootTokenId ∧
        before.derived.derivedToken.lookup rootTokenId ≠ none ∧
        (tokenId = rootTokenId ∨ before.derived.Descends rootTokenId tokenId)) := by
  refine ⟨?_, fun linked => cascaded_iff linked found run⟩
  simp only [terminateLease_revokes_iff found run, or_iff_not_imp_left]

end Descends

/-! ## A sub-lease of a settled lease -/

/-- A bedroom is sublet below the token of the lease. -/
def bedroom : DerivedAccessToken :=
  .minted (openLedger 65 0) sampleSublease 90 7 1000050 1

/-- The derived token with the id of the lease's token. -/
def twin : DerivedAccessToken :=
  { bedroom with tokenId := letTokenId, parentTokenId := 5, childTokens := [90] }

def subletStore : DerivedStore :=
  { DerivedStore.empty.record 90 bedroom with
    parentToChildren := Listing.push letTokenId 90 DerivedStore.empty.parentToChildren }

def twinStore : DerivedStore :=
  { subletStore.put letTokenId twin with
    parentToChildren := Listing.push 5 letTokenId subletStore.parentToChildren }

def settledWith (derived : DerivedStore) : Tenancy :=
  { settledWorld with derived := derived }

theorem subletStore_lookup {tokenId : U128} {token : DerivedAccessToken} :
    subletStore.derivedToken.lookup tokenId = some token ↔ tokenId = 90 ∧ token = bedroom := by
  have stored : subletStore.derivedToken.lookup tokenId =
      if tokenId = 90 then some bedroom else none := Table.lookup_set ..
  rw [stored]
  split
  · next same =>
      rw [Option.some.injEq, and_iff_right same]
      exact eq_comm
  · next differs => simp [differs]

theorem twinStore_lookup {tokenId : U128} {token : DerivedAccessToken} :
    twinStore.derivedToken.lookup tokenId = some token ↔
      (tokenId = letTokenId ∧ token = twin) ∨ (tokenId = 90 ∧ token = bedroom) := by
  have stored : twinStore.derivedToken.lookup tokenId =
      if tokenId = letTokenId then some twin else subletStore.derivedToken.lookup tokenId :=
    Table.lookup_set ..
  rw [stored]
  have apart : letTokenId ≠ 90 := by decide
  split
  · next same =>
      simp only [same, apart, Option.some.injEq, true_and, false_and, or_false]
      exact eq_comm
  · next differs => simp only [differs, subletStore_lookup, false_and, false_or]

theorem subletStore_linked : subletStore.Linked where
  listed tokenId token stored := by
    obtain ⟨rfl, rfl⟩ := subletStore_lookup.mp stored
    decide
  named parentTokenId tokenId listed := by
    rcases Listing.mem_push_iff.mp listed with none | ⟨rfl, rfl⟩
    · cases none
    · exact ⟨bedroom, subletStore_lookup.mpr ⟨rfl, rfl⟩, rfl⟩
  children tokenId token stored := by
    obtain ⟨rfl, rfl⟩ := subletStore_lookup.mp stored
    decide

theorem twinStore_linked : twinStore.Linked where
  listed tokenId token stored := by
    obtain ⟨rfl, rfl⟩ | ⟨rfl, rfl⟩ := twinStore_lookup.mp stored <;> decide
  named parentTokenId tokenId listed := by
    rcases Listing.mem_push_iff.mp listed with earlier | ⟨rfl, rfl⟩
    · rcases Listing.mem_push_iff.mp earlier with none | ⟨rfl, rfl⟩
      · cases none
      · exact ⟨bedroom, twinStore_lookup.mpr (.inr ⟨rfl, rfl⟩), rfl⟩
    · exact ⟨twin, twinStore_lookup.mpr (.inl ⟨rfl, rfl⟩), rfl⟩
  children tokenId token stored := by
    obtain ⟨rfl, rfl⟩ | ⟨rfl, rfl⟩ := twinStore_lookup.mp stored <;> decide

theorem settledWith_terminates {derived : DerivedStore}
    (goes : (terminateLease (openLedger 1000050 0) 7 ⟨2⟩).succeeds (settledWith derived) = true) :
    ∃ after, Commits (terminateLease (openLedger 1000050 0) 7 ⟨2⟩) (settledWith derived) () after :=
  ⟨_, commits_attempt goes⟩

/-- With a derived token at its own id, the hierarchy below the lease's token is burned. -/
theorem twin_descendants_revoked :
    ∃ after, Commits (terminateLease (openLedger 1000050 0) 7 ⟨2⟩) (settledWith twinStore) () after ∧
      twinStore.Descends letTokenId 90 ∧
      ∀ tokenId, twinStore.Descends letTokenId tokenId → after.derived.Revoked tokenId := by
  obtain ⟨lease, found, _, _, _, held⟩ := settledWorld_lease
  obtain ⟨after, run⟩ := @settledWith_terminates twinStore (by decide +kernel)
  have bedroomStored := twinStore_lookup.mpr (.inr ⟨rfl, rfl⟩)
  have twinStored := twinStore_lookup.mpr (.inl ⟨rfl, rfl⟩)
  have revokes := @terminateLease_revokes_descendants_iff _ 7 lease ⟨2⟩ (settledWith twinStore)
    after found run letTokenId
  refine ⟨after, run, .child bedroomStored rfl, revokes.1.mpr fun tokenId descends _ => ?_⟩
  refine (revokes.2 twinStore_linked tokenId).mpr ⟨letTokenId, held, ?_, .inr descends⟩
  exact Option.ne_none_iff_exists'.mpr ⟨twin, twinStored⟩

/-- The bedroom outlives the lease. -/
theorem bedroom_not_revoked :
    ¬ ∀ (env : Env) leaseId caller accessTokenId (before after : Tenancy),
      before.derived.Linked → before.access.leaseToAccessToken leaseId = some accessTokenId →
      Commits (terminateLease env leaseId caller) before () after →
      ∀ tokenId, before.derived.Descends accessTokenId tokenId → after.derived.Revoked tokenId := by
  intro revokes
  have goes : (terminateLease (openLedger 1000050 0) 7 ⟨2⟩).succeeds (settledWith subletStore) =
    true := by decide +kernel
  have kept : (((terminateLease (openLedger 1000050 0) 7 ⟨2⟩).attempt
      (settledWith subletStore)).derived.derivedToken.lookup 90).map DerivedAccessToken.revoked =
        some false := by decide +kernel
  obtain ⟨token, stored, revoked⟩ := revokes (openLedger 1000050 0) 7 ⟨2⟩ letTokenId
    (settledWith subletStore) _ subletStore_linked settledWorld_token.1 (commits_attempt goes) 90
    (.child (subletStore_lookup.mpr ⟨rfl, rfl⟩) rfl)
  rw [stored, Option.map_some, revoked] at kept
  cases kept

end LeaseFlow.Access
