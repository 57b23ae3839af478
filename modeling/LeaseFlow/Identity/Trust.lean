import LeaseFlow.Foundations.Register
import LeaseFlow.Identity.Votes

/-!
# Trusted providers and their status

The trust lists belong to the lessors, the status to the provider.  A provider is active when it
enters a list; a suspension or a revocation leaves the lists alone.
-/

set_option autoImplicit false

namespace LeaseFlow.Identity

open Transaction

/-- Whom a lessor trusts is registered and active. -/
def Store.TrustsActive (store : Store) : Prop :=
  ∀ lessor providerId, store.isProviderTrusted lessor providerId = true →
    ∃ provider, store.identityProvider providerId = some provider ∧ provider.status = .active

/-- The provider that the call suspends or revokes, if it goes through. -/
def Call.demotes (call : Call) (store : Store) : Option ProviderId :=
  match call.operation with
  | .suspendProvider _ providerId _ => some providerId
  | .executeRevocation _ proposalId =>
      (store.revocationProposal proposalId).map RevocationProposal.providerId
  | _ => none

/-- The call suspends and revokes nobody who is on a list. -/
def Call.SparesTrusted (call : Call) (store : Store) : Prop :=
  call.Goes store → ∀ providerId, call.demotes store = some providerId →
    ∀ lessor, store.isProviderTrusted lessor providerId = false

section TrustLists

variable {before after : Store} {lessor : Address} {providerId : ProviderId}

theorem Store.isProviderTrusted_eq (store : Store) (lessor : Address) (providerId : ProviderId) :
    store.isProviderTrusted lessor providerId =
      decide (providerId ∈ (store.trustedBy lessor).trustedProviders) := by
  unfold isProviderTrusted trustedBy
  cases store.lessorTrustedProviders lessor with
  | none => rfl
  | some trusted =>
      rw [Bool.eq_iff_iff, List.any_eq_true, decide_eq_true_iff]
      simp

theorem Store.isProviderTrusted_congr
    (lists : after.lessorTrustedProviders = before.lessorTrustedProviders) (lessor : Address)
    (providerId : ProviderId) :
    after.isProviderTrusted lessor providerId = before.isProviderTrusted lessor providerId := by
  unfold isProviderTrusted
  rw [lists]

theorem Store.trustedBy_putTrusted {trusted : LessorTrustedProviders}
    (written : after.lessorTrustedProviders =
      (before.putTrusted lessor trusted).lessorTrustedProviders) (other : Address) :
    after.trustedBy other = if other = lessor then trusted else before.trustedBy other := by
  unfold trustedBy
  rw [written]
  by_cases same : other = lessor
  · subst same
    simp [putTrusted]
  · simp [putTrusted, same]

theorem Store.TrustsActive.later (active : before.TrustsActive)
    (lists : after.lessorTrustedProviders = before.lessorTrustedProviders)
    (stays : ∀ providerId provider, before.identityProvider providerId = some provider →
      provider.status = .active → ∃ next, after.identityProvider providerId = some next ∧
        next.status = .active) : after.TrustsActive := by
  intro lessor providerId trusted
  rw [Store.isProviderTrusted_congr lists] at trusted
  obtain ⟨provider, found, status⟩ := active lessor providerId trusted
  exact stays providerId provider found status

theorem Store.TrustsActive.relisted {trusted : LessorTrustedProviders}
    (active : before.TrustsActive)
    (written : after.lessorTrustedProviders =
      (before.putTrusted lessor trusted).lessorTrustedProviders)
    (providers : after.identityProvider = before.identityProvider)
    (listed : ∀ providerId ∈ trusted.trustedProviders,
      before.isProviderTrusted lessor providerId = true ∨
        ∃ provider, before.identityProvider providerId = some provider ∧
          provider.status = .active) : after.TrustsActive := by
  intro other providerId trusts
  rw [providers]
  rw [Store.isProviderTrusted_eq, decide_eq_true_iff, Store.trustedBy_putTrusted written] at trusts
  split at trusts
  · rcases listed providerId trusts with earlier | new
    · exact active lessor providerId earlier
    · exact new
  · refine active other providerId ?_
    rwa [Store.isProviderTrusted_eq, decide_eq_true_iff]

theorem Store.TrustsActive.demoted_iff {provider : IdentityProvider}
    (active : before.TrustsActive)
    (lists : after.lessorTrustedProviders = before.lessorTrustedProviders)
    (written : after.identityProvider =
      Function.update before.identityProvider providerId (some provider))
    (inactive : provider.status ≠ .active) :
    after.TrustsActive ↔ ∀ lessor, before.isProviderTrusted lessor providerId = false := by
  constructor
  · intro still lessor
    by_contra trusted
    rw [Bool.not_eq_false, ← Store.isProviderTrusted_congr lists] at trusted
    obtain ⟨stored, found, status⟩ := still lessor providerId trusted
    rw [written, Function.update_self] at found
    exact inactive (Option.some.inj found ▸ status)
  · intro unlisted lessor other trusted
    rw [Store.isProviderTrusted_congr lists] at trusted
    have differs : other ≠ providerId := by
      rintro rfl
      cases (unlisted lessor).symm.trans trusted
    rw [written, Function.update_of_ne differs]
    exact active lessor other trusted

/-- A call that goes through keeps the lists active exactly if it demotes nobody on them. -/
theorem Effect.trustsActive_iff {call : Call}
    (effect : Effect call.env before after call.operation) (active : before.TrustsActive) :
    after.TrustsActive ↔ ∀ providerId, call.demotes before = some providerId →
      ∀ lessor, before.isProviderTrusted lessor providerId = false := by
  obtain ⟨env, operation⟩ := call
  cases effect with
  | @registered providerId providerAddress name new entries =>
      refine iff_of_true ?_ (by simp [Call.demotes])
      refine active.later entries.lessorTrustedProviders fun other provider found status => ?_
      have differs : other ≠ providerId := by
        rintro rfl
        cases new.symm.trans found
      refine ⟨provider, ?_, status⟩
      rw [entries.identityProvider]
      exact (Function.update_of_ne differs _ _).trans found
  | @trusted lessor providerId provider found status entries =>
      refine iff_of_true ?_ (by simp [Call.demotes])
      refine active.relisted entries.lessorTrustedProviders entries.identityProvider ?_
      intro other among
      rcases List.mem_append.mp among with earlier | now
      · rw [Store.isProviderTrusted_eq, decide_eq_true_iff]
        exact .inl earlier
      · rw [List.mem_singleton.mp now]
        exact .inr ⟨provider, found, status⟩
  | @distrusted lessor providerId trusted listed entries =>
      refine iff_of_true ?_ (by simp [Call.demotes])
      refine active.relisted entries.lessorTrustedProviders entries.identityProvider ?_
      intro other among
      have earlier : other ∈ trusted.trustedProviders := (List.mem_filter.mp among).1
      rw [Store.isProviderTrusted_eq, decide_eq_true_iff, Store.trustedBy, listed]
      exact .inl earlier
  | suspended member found entries =>
      rw [active.demoted_iff entries.lessorTrustedProviders entries.identityProvider
        (by simp [IdentityProvider.restated])]
      simp [Call.demotes]
  | revoked member found carried stored entries =>
      rw [active.demoted_iff entries.lessorTrustedProviders entries.identityProvider
        (by simp [IdentityProvider.restated])]
      simp [Call.demotes, found]
  | proposed member entries | voted signed member found entries
  | enrolled signed byMember entries =>
      refine iff_of_true ?_ (by simp [Call.demotes])
      refine active.later entries.lessorTrustedProviders fun other provider found status => ?_
      rw [entries.identityProvider]
      exact ⟨provider, found, status⟩
  | queried query same =>
      rw [same]
      cases query <;> exact iff_of_true active (by simp [Call.demotes])

end TrustLists

/-- Along a run the lessors trust only active providers exactly if nobody on a list is suspended or
revoked. -/
theorem trustsActive_along_iff {start : Store}
    (untrusted : ∀ lessor providerId, start.isProviderTrusted lessor providerId = false)
    (calls : List Call) :
    (∀ earlier, earlier <+: calls → (Run.run step earlier start).TrustsActive) ↔
      Run.MeetsAlong step Call.SparesTrusted calls start := by
  have initially : start.TrustsActive := fun lessor providerId trusted => by
    cases (untrusted lessor providerId).symm.trans trusted
  refine @Run.invariant_along_iff_given _ _ step (fun _ _ => True) (fun _ => True) _ _
    (fun _ _ _ _ => trivial) (fun call store _ _ active => ?_) _ _
    (Run.meetsAlong_trivial calls start) trivial initially
  exact Machine.step_keeps_iff active fun next run => (call_effect run).trustsActive_iff active

/-! ## A provider under suspicion -/

def trusts : Call :=
  callBy 7 (.addTrustedProvider ⟨7⟩ (.repeated 32 1))

theorem trustsActive_along_registered :
    (∀ earlier, earlier <+: [registered, trusts] →
        (Run.run step earlier (.founded trioCouncil)).TrustsActive) ↔
      Run.MeetsAlong step Call.SparesTrusted [registered, trusts] (.founded trioCouncil) :=
  trustsActive_along_iff (fun _ _ => rfl) [registered, trusts]

/-- A member suspends a provider on the list of lessor 7. -/
theorem suspended_still_trusted :
    ¬ ∀ council calls, (Run.run step calls (.founded council)).TrustsActive := by
  intro active
  obtain ⟨provider, found, status⟩ := active trioCouncil
    [registered, trusts, callBy 1 (.suspendProvider ⟨1⟩ (.repeated 32 1) "compromised")] ⟨7⟩
    (.repeated 32 1) (by decide +kernel)
  have demoted : (Option.some provider).any (fun stored => stored.status = .active) = false := by
    rw [← found]
    decide +kernel
  exact absurd status (by simpa using demoted)

/-! ## The course of a provider -/

/-- From active to suspended, and from either to revoked. -/
def IdentityProviderStatus.Leads : IdentityProviderStatus → IdentityProviderStatus → Prop
  | .active, _ => True
  | .suspended, later => later ≠ .active
  | .revoked, later => later = .revoked

/-- The provider as it was registered. -/
def IdentityProvider.registered (provider : IdentityProvider) : IdentityProvider :=
  { provider with status := .active, lastUpdated := provider.registeredAt }

structure IdentityProvider.Born (providerId : ProviderId) (provider : IdentityProvider) :
    Prop where
  identified : provider.providerId = providerId
  registered : provider.registered = provider
  unverified : provider.verificationCount = 0
  trustScore : provider.trustScore = 5000

/-- Only the status changes and the time of the change, and nothing while it is active. -/
structure IdentityProvider.Becomes (provider next : IdentityProvider) : Prop where
  registered : next.registered = provider.registered
  status : provider.status.Leads next.status
  active : next.status = .active → next = provider

/-- A list is its lessor's, names nobody twice, and only registered providers. -/
structure LessorTrustedProviders.Lists (store : Store) (lessor : Address)
    (trusted : LessorTrustedProviders) : Prop where
  lessor : trusted.lessor = lessor
  distinct : trusted.trustedProviders.Nodup
  known : ∀ providerId ∈ trusted.trustedProviders, store.identityProvider providerId ≠ none

/-- The registry is counted, and the lists are drawn from it. -/
structure Store.Catalogued (store : Store) : Prop where
  counted : PartialMap.Counts store.identityProvider (store.providerRegistryCount.getD 0)
  lists : ∀ lessor trusted, store.lessorTrustedProviders lessor = some trusted →
    trusted.Lists store lessor

/-- The providers of the later store are those of the earlier one and new ones. -/
def Store.GoesOn (before after : Store) : Prop :=
  Register.Continues IdentityProvider.Born IdentityProvider.Becomes before.identityProvider
    after.identityProvider

section Course

variable {before after : Store} {provider next last : IdentityProvider}
  {providerId : ProviderId} {lessor : Address} {trusted : LessorTrustedProviders}

theorem IdentityProviderStatus.leads_refl (status : IdentityProviderStatus) :
    status.Leads status := by
  cases status <;> simp [Leads]

theorem IdentityProviderStatus.Leads.trans {first second third : IdentityProviderStatus}
    (one : first.Leads second) (two : second.Leads third) : first.Leads third := by
  cases first with
  | active => trivial
  | suspended =>
      cases second with
      | active => exact absurd rfl one
      | suspended => exact two
      | revoked =>
          intro back
          cases back.symm.trans two
  | revoked =>
      obtain rfl : second = .revoked := one
      exact two

theorem IdentityProvider.becomes_refl (provider : IdentityProvider) :
    provider.Becomes provider :=
  ⟨rfl, provider.status.leads_refl, fun _ => rfl⟩

theorem IdentityProvider.Becomes.trans (one : provider.Becomes next)
    (two : next.Becomes last) : provider.Becomes last where
  registered := two.registered.trans one.registered
  status := one.status.trans two.status
  active still := by
    have same := two.active still
    subst same
    exact one.active still

theorem Store.goesOn_refl (store : Store) : store.GoesOn store :=
  Register.continues_refl IdentityProvider.becomes_refl _

theorem Store.GoesOn.trans {first second third : Store} (one : first.GoesOn second)
    (two : second.GoesOn third) : first.GoesOn third :=
  Register.Continues.trans (fun _ _ _ => IdentityProvider.Becomes.trans) one two

theorem Store.goesOn_same (same : after.identityProvider = before.identityProvider) :
    before.GoesOn after := by
  rw [GoesOn, same]
  exact Register.continues_refl IdentityProvider.becomes_refl _

theorem Store.goesOn_restated {env : Env} {status : IdentityProviderStatus}
    (found : before.identityProvider providerId = some provider)
    (written : after.identityProvider = Function.update before.identityProvider providerId
      (some (provider.restated env status)))
    (leads : provider.status.Leads status) (demotes : status ≠ .active) :
    before.GoesOn after := by
  rw [GoesOn, written]
  refine Register.continues_update IdentityProvider.becomes_refl (fun stored again => ?_)
    fun free => ?_
  · cases again.symm.trans found
    exact ⟨rfl, leads, fun active => absurd active demotes⟩
  · cases free.symm.trans found

theorem suspendProvider_unrevoked {env : Env} {admin : Address} {reason : String}
    (run : Commits (suspendProvider env admin providerId reason) before () after)
    (found : before.identityProvider providerId = some provider) :
    provider.status ≠ .revoked := by
  simp only [suspendProvider, commits_bind, commits_requireGovernanceCouncil,
    commits_requireAuth, commits_getProvider, Failure.commits_check] at run
  obtain ⟨_, _, ⟨_, rfl⟩, _, _, ⟨_, rfl⟩, stored, _, ⟨again, rfl⟩, _, _, ⟨unrevoked, rfl⟩, _⟩ := run
  cases again.symm.trans found
  exact unrevoked

/-- Every call that goes through leaves the providers, or takes one of them further. -/
theorem Call.goesOn {call : Call} (run : Commits call.body before () after) :
    before.GoesOn after := by
  obtain ⟨env, operation⟩ := call
  cases call_effect run with
  | @registered providerId providerAddress name new entries =>
      rw [Store.GoesOn, entries.identityProvider]
      refine Register.continues_update IdentityProvider.becomes_refl (fun stored found => ?_)
        fun _ => ⟨rfl, rfl, rfl, rfl⟩
      cases new.symm.trans found
  | @suspended admin providerId reason provider member found entries =>
      refine Store.goesOn_restated found entries.identityProvider ?_ nofun
      have unrevoked := suspendProvider_unrevoked run found
      cases status : provider.status with
      | active => trivial
      | suspended => exact nofun
      | revoked => exact absurd status unrevoked
  | @revoked executor proposalId proposal provider member found carried registered entries =>
      refine Store.goesOn_restated registered entries.identityProvider ?_ nofun
      cases status : provider.status with
      | active => trivial
      | suspended => exact nofun
      | revoked => rfl
  | trusted found active entries => exact Store.goesOn_same entries.identityProvider
  | distrusted listed entries => exact Store.goesOn_same entries.identityProvider
  | proposed member entries => exact Store.goesOn_same entries.identityProvider
  | voted signed member found entries => exact Store.goesOn_same entries.identityProvider
  | enrolled signed byMember entries => exact Store.goesOn_same entries.identityProvider
  | queried query same =>
      rw [same]
      exact before.goesOn_refl

/-! ### The registry and the lists -/

theorem LessorTrustedProviders.Lists.mono (lists : trusted.Lists before lessor)
    (stays : before.GoesOn after) : trusted.Lists after lessor where
  lessor := lists.lessor
  distinct := lists.distinct
  known other among := by
    obtain ⟨stored, found⟩ := Option.ne_none_iff_exists'.mp (lists.known other among)
    obtain ⟨next, still, _⟩ := stays.kept other stored found
    rw [still]
    exact Option.some_ne_none next

theorem Store.Catalogued.trustedBy (catalogued : before.Catalogued) (lessor : Address) :
    (before.trustedBy lessor).Lists before lessor := by
  unfold Store.trustedBy
  cases listed : before.lessorTrustedProviders lessor with
  | none => exact ⟨rfl, List.nodup_nil, fun _ among => absurd among List.not_mem_nil⟩
  | some trusted => exact catalogued.lists lessor trusted listed

theorem LessorTrustedProviders.Lists.pushed (lists : trusted.Lists before lessor)
    (new : providerId ∉ trusted.trustedProviders)
    (registered : before.identityProvider providerId ≠ none) :
    (trusted.pushed providerId).Lists before lessor where
  lessor := lists.lessor
  distinct := by
    refine List.nodup_append.mpr ⟨lists.distinct, List.nodup_singleton providerId, ?_⟩
    intro other among last same equal
    rw [List.mem_singleton.mp same] at equal
    exact new (equal ▸ among)
  known other among := by
    rcases List.mem_append.mp among with earlier | now
    · exact lists.known other earlier
    · rw [List.mem_singleton.mp now]
      exact registered

theorem LessorTrustedProviders.Lists.without (lists : trusted.Lists before lessor)
    (providerId : ProviderId) : (trusted.without providerId).Lists before lessor where
  lessor := lists.lessor
  distinct := lists.distinct.filter _
  known other among := lists.known other (List.mem_filter.mp among).1

theorem addTrustedProvider_new {env : Env}
    (run : Commits (addTrustedProvider env lessor providerId) before () after) :
    providerId ∉ (before.trustedBy lessor).trustedProviders := by
  simp only [addTrustedProvider, commits_bind, commits_requireAuth, commits_getProvider,
    commits_inspect, Failure.commits_check] at run
  obtain ⟨_, _, ⟨_, rfl⟩, _, _, ⟨_, rfl⟩, _, _, ⟨_, rfl⟩, _, _, ⟨rfl, rfl⟩, _, _, ⟨new, rfl⟩,
    _⟩ := run
  exact new

theorem Store.Catalogued.later (catalogued : before.Catalogued) (stays : before.GoesOn after)
    (counted : PartialMap.Counts after.identityProvider (after.providerRegistryCount.getD 0))
    (lists : after.lessorTrustedProviders = before.lessorTrustedProviders) :
    after.Catalogued where
  counted := counted
  lists lessor trusted listed := by
    rw [lists] at listed
    exact (catalogued.lists lessor trusted listed).mono stays

theorem Store.Catalogued.relisted (catalogued : before.Catalogued)
    (providers : after.identityProvider = before.identityProvider)
    (count : after.providerRegistryCount = before.providerRegistryCount)
    (written : after.lessorTrustedProviders =
      (before.putTrusted lessor trusted).lessorTrustedProviders)
    (lists : trusted.Lists before lessor) : after.Catalogued where
  counted := by
    rw [providers, count]
    exact catalogued.counted
  lists := by
    rw [written]
    refine PartialMap.forall_update (lists.mono (Store.goesOn_same providers)) ?_
    intro other stored _ listed
    exact (catalogued.lists other stored listed).mono (Store.goesOn_same providers)

/-- A demotion takes nobody off the registry. -/
theorem Store.Catalogued.counted_restated (catalogued : before.Catalogued)
    (found : before.identityProvider providerId = some provider)
    (written : after.identityProvider =
      Function.update before.identityProvider providerId (some next))
    (count : after.providerRegistryCount = before.providerRegistryCount) :
    PartialMap.Counts after.identityProvider (after.providerRegistryCount.getD 0) := by
  rw [written, count]
  exact catalogued.counted.update found

/-- Every call that goes through keeps the registry counted and the lists drawn from it. -/
theorem Call.catalogued {call : Call} (run : Commits call.body before () after)
    (catalogued : before.Catalogued) : after.Catalogued := by
  have stays := call.goesOn run
  obtain ⟨env, operation⟩ := call
  cases call_effect run with
  | @registered providerId providerAddress name new entries =>
      refine catalogued.later stays ?_ entries.lessorTrustedProviders
      rw [entries.identityProvider, entries.providerRegistryCount]
      exact catalogued.counted.insert new
  | @trusted lessor providerId provider found active entries =>
      refine catalogued.relisted entries.identityProvider entries.providerRegistryCount
        entries.lessorTrustedProviders ?_
      refine (catalogued.trustedBy lessor).pushed (addTrustedProvider_new run) ?_
      rw [found]
      exact Option.some_ne_none provider
  | @distrusted lessor providerId trusted listed entries =>
      exact catalogued.relisted entries.identityProvider entries.providerRegistryCount
        entries.lessorTrustedProviders ((catalogued.lists lessor trusted listed).without providerId)
  | suspended member found entries =>
      exact catalogued.later stays (catalogued.counted_restated found entries.identityProvider
        entries.providerRegistryCount) entries.lessorTrustedProviders
  | revoked member found carried registered entries =>
      exact catalogued.later stays (catalogued.counted_restated registered
        entries.identityProvider entries.providerRegistryCount) entries.lessorTrustedProviders
  | proposed member entries | voted signed member found entries
  | enrolled signed byMember entries =>
      refine catalogued.later stays ?_ entries.lessorTrustedProviders
      rw [entries.identityProvider, entries.providerRegistryCount]
      exact catalogued.counted
  | queried query same =>
      rw [same]
      exact catalogued

end Course

/-- In every run of a founded module no provider is lost: its id, address, name and time of
registration stay, its status goes from active to suspended or revoked and never back, and a
revocation is final; and in every state the registry count is the number of providers, and every
trust list is its lessor's, without repetition, and names registered providers only. -/
theorem providers_run_their_course (council : Address → Option Bool) (calls : List Call) :
    Run.Progresses step Store.GoesOn calls (.founded council) ∧
      (Run.run step calls (.founded council)).Catalogued := by
  constructor
  · exact @Register.progresses_of_commits _ _ _ Call.body Store.GoesOn (fun _ => True)
      Store.goesOn_refl (fun _ _ _ => Store.GoesOn.trans) (fun _ _ _ _ _ => trivial)
      (fun call _ _ run _ => call.goesOn run) calls (.founded council) trivial
  · refine @Run.invariant _ _ step Store.Catalogued (fun call store catalogued => ?_) calls _
      ⟨PartialMap.counts_of_empty fun _ => rfl, fun _ _ listed => by cases listed⟩
    exact Machine.step_keeps (fun _ run _ => call.catalogued run)
      (fun _ : call.Goes store => trivial) catalogued

end LeaseFlow.Identity
