import LeaseFlow.Billing.Bookkeeping

/-!
# Pull payments and the authorizations behind them

A grant is stored under its lease and the granter's own counter, whoever grants it, and a pull
names lease, cycle and number without tying the cycle or the granter to the lease.  Beside the
storage a run keeps what was granted and which grants have paid.
-/

set_option autoImplicit false

namespace LeaseFlow.Billing

open Transaction Run

/-! ## Grants beside the storage -/

structure Grant where
  leaseId : U64
  nonce : U64
  lessee : Address
  authorizedAmount : I128
  expiryTimestamp : U64

/-- All grants of the run, and lease, number and granter of those that have paid. -/
structure GrantHistory where
  granted : List Grant
  spent : List (U64 × U64 × Address)

def Operation.remember (books : Books) (history : GrantHistory) : Operation → GrantHistory
  | .grantPaymentAuthorization leaseId lessee authorizedAmount expiryTimestamp _ =>
      { history with
        granted := ⟨leaseId, (books.nonces.lookup lessee).getD 0 + 1, lessee, authorizedAmount,
          expiryTimestamp⟩ :: history.granted }
  | .executePullPayment leaseId _ nonce _ =>
      { history with
        spent := (books.authorizations.lookup (leaseId, nonce)).elim history.spent
          fun authorization => (leaseId, nonce, authorization.lessee) :: history.spent }
  | _ => history

def remember (call : Call) (store : Store) (history : GrantHistory) : GrantHistory :=
  if call.body.succeeds store = true then call.operation.remember store.books history else history

/-- The cycle that was paid belongs to the lease, the lessee of the lease was debited and granted
that number for the lease, not less, not before its expiry, and it has not paid before. -/
def PaysAsGranted (env : Env) (leaseId cycleId nonce : U64) (before after : Books)
    (history : GrantHistory) : Prop :=
  ∃ cycle lease grant moved,
    before.cycles.lookup cycleId = some cycle ∧ cycle.leaseId = leaseId ∧
    before.leases.lookup leaseId = some lease ∧
    after.transfers = moved :: before.transfers ∧ moved.payer = lease.lessee ∧
    grant ∈ history.granted ∧ grant.leaseId = leaseId ∧ grant.nonce = nonce ∧
    grant.lessee = lease.lessee ∧ moved.amount ≤ grant.authorizedAmount ∧
    env.timestamp ≤ grant.expiryTimestamp ∧ (leaseId, nonce, grant.lessee) ∉ history.spent

/-- What `grant_payment_authorization` writes to a lease. -/
def ActiveLease.authorizationFields (lease : ActiveLease) : Bool × I128 × I128 × U64 :=
  (lease.authorizationEnabled, lease.maxAuthorizedAmount, lease.currentAuthorizedAmount,
    lease.authorizationExpiry)

/-- The authorization fields of a lease change only by a grant of its lessee. -/
def OnlyLesseeAuthorizes (env : Env) (operation : Operation) (before after : Books) : Prop :=
  ∀ leaseId lease later, before.leases.lookup leaseId = some lease →
    after.leases.lookup leaseId = some later →
    later.authorizationFields ≠ lease.authorizationFields →
    env.authorized lease.lessee = true ∧
      ∃ authorizedAmount expiryTimestamp signature,
        operation = .grantPaymentAuthorization leaseId lease.lessee authorizedAmount expiryTimestamp
          signature

/-- A pull that goes through pays as granted, and no step changes an authorization for the
lessee. -/
structure StaysAuthorized (call : Call) (store : Store) (history : GrantHistory) : Prop where
  pays : ∀ leaseId cycleId nonce signature,
    call.operation = .executePullPayment leaseId cycleId nonce signature →
    call.body.succeeds store = true →
    PaysAsGranted call.env leaseId cycleId nonce store.books (step call store).books history
  authorizes : OnlyLesseeAuthorizes call.env call.operation store.books (step call store).books

/-- A grant comes from the lessee or changes nothing on the lease, and a registration replaces no
authorization. -/
def Operation.KeepsFields (books : Books) : Operation → Prop
  | .grantPaymentAuthorization leaseId lessee authorizedAmount expiryTimestamp _ =>
      ∀ lease, books.leases.lookup leaseId = some lease →
        lessee = lease.lessee ∨
          (lease.authorize authorizedAmount expiryTimestamp).authorizationFields =
            lease.authorizationFields
  | .registerLeaseBilling leaseId .. =>
      ∀ lease, books.leases.lookup leaseId = some lease →
        lease.authorizationFields = (false, 0, 0, 0)
  | _ => True

/-- The pull names a cycle of the lease and an authorization of its lessee. -/
def PullsOwn (books : Books) (leaseId cycleId nonce : U64) : Prop :=
  ∃ authorization cycle lease,
    books.authorizations.lookup (leaseId, nonce) = some authorization ∧
    books.cycles.lookup cycleId = some cycle ∧ books.leases.lookup leaseId = some lease ∧
    cycle.leaseId = leaseId ∧ authorization.lessee = lease.lessee

/-- A call that goes through pulls for the named lease and leaves its authorization fields to the
lessee. -/
def Call.KeepsAuthorization (call : Call) (store : Store) : Prop :=
  call.body.succeeds store = true →
    call.operation.KeepsFields store.books ∧
      ∀ leaseId cycleId nonce signature,
        call.operation = .executePullPayment leaseId cycleId nonce signature →
        PullsOwn store.books leaseId cycleId nonce

/-! ## Grants and the stored authorizations -/

def Books.nonceOf (lessee : Address) (books : Books) : U64 :=
  (books.nonces.lookup lessee).getD 0

/-- Every stored authorization was granted, numbers do not run ahead of the counters, and an
authorization that is still active has not paid. -/
structure Books.Remembered (history : GrantHistory) (books : Books) : Prop where
  counted : ∀ leaseId nonce authorization,
    books.authorizations.lookup (leaseId, nonce) = some authorization →
    nonce ≤ books.nonceOf authorization.lessee
  granted : ∀ leaseId nonce authorization,
    books.authorizations.lookup (leaseId, nonce) = some authorization →
    ⟨leaseId, nonce, authorization.lessee, authorization.authorizedAmount,
      authorization.expiryTimestamp⟩ ∈ history.granted
  numbered : ∀ leaseId nonce lessee, (leaseId, nonce, lessee) ∈ history.spent →
    nonce ≤ books.nonceOf lessee
  unspent : ∀ leaseId nonce authorization,
    books.authorizations.lookup (leaseId, nonce) = some authorization →
    authorization.isActive = true → (leaseId, nonce, authorization.lessee) ∉ history.spent

section Steps

variable {env : Env} {operation : Operation} {books after : Books} {history : GrantHistory}
  {leaseId nonce : U64}

theorem Books.Remembered.of_same (remembered : books.Remembered history)
    (authorizations : after.authorizations = books.authorizations)
    (nonces : after.nonces = books.nonces) : after.Remembered history := by
  have counters (lessee : Address) : after.nonceOf lessee = books.nonceOf lessee := by
    rw [Books.nonceOf, nonces, Books.nonceOf]
  constructor
  · intro leaseId nonce authorization stored
    rw [authorizations] at stored
    rw [counters]
    exact remembered.counted leaseId nonce authorization stored
  · rw [authorizations]
    exact remembered.granted
  · intro leaseId nonce lessee paid
    rw [counters]
    exact remembered.numbered leaseId nonce lessee paid
  · rw [authorizations]
    exact remembered.unspent

/-- A counter that is raised stays above every other number. -/
theorem nonceOf_putNonce_le {lessee : Address} (raised : books.nonceOf lessee ≤ nonce)
    (other : Address) : books.nonceOf other ≤ (books.putNonce lessee nonce).nonceOf other := by
  rw [Books.nonceOf, Books.nonceOf, Books.putNonce, Table.lookup_set]
  by_cases same : other = lessee
  · rw [if_pos same, Option.getD_some, same]
    exact raised
  · rw [if_neg same]

theorem forall_putAuthorization {P : U64 → U64 → PaymentAuthorization → Prop}
    {authorization : PaymentAuthorization}
    (others : ∀ other number stored, (other, number) ≠ (leaseId, nonce) →
      books.authorizations.lookup (other, number) = some stored → P other number stored)
    (own : P leaseId nonce authorization) (other number : U64) (stored : PaymentAuthorization)
    (kept : (books.putAuthorization leaseId nonce authorization).authorizations.lookup
      (other, number) = some stored) : P other number stored :=
  @Table.forall_set_ne _ _ _ books.authorizations (fun key => P key.1 key.2) (leaseId, nonce)
    authorization (fun key stored => others key.1 key.2 stored) own (other, number) stored kept

theorem Books.Remembered.grant {lessee : Address} {authorizedAmount : I128}
    {expiryTimestamp createdAt : U64} {signature : BytesN 64}
    (remembered : books.Remembered history) (next : nonce = books.nonceOf lessee + 1) :
    ((books.putNonce lessee nonce).putAuthorization leaseId nonce (.granted leaseId lessee
      authorizedAmount expiryTimestamp nonce signature createdAt)).Remembered
      { history with
        granted :=
          ⟨leaseId, nonce, lessee, authorizedAmount, expiryTimestamp⟩ :: history.granted } := by
  have raised : books.nonceOf lessee ≤ nonce := by
    rw [next]
    exact Nat.le_succ _
  have own : (books.putNonce lessee nonce).nonceOf lessee = nonce := by
    rw [Books.nonceOf, Books.putNonce, Table.lookup_set_self, Option.getD_some]
  have fresh : (leaseId, nonce, lessee) ∉ history.spent := by
    intro paid
    have numbered := remembered.numbered leaseId nonce lessee paid
    rw [next] at numbered
    exact Nat.not_succ_le_self _ numbered
  constructor
  · apply forall_putAuthorization
    · intro other number authorization _ stored
      exact (remembered.counted other number authorization stored).trans
        (nonceOf_putNonce_le raised authorization.lessee)
    · exact own.ge
  · apply forall_putAuthorization
    · intro other number authorization _ stored
      exact List.mem_cons_of_mem _ (remembered.granted other number authorization stored)
    · exact List.mem_cons_self
  · intro other number granter paid
    exact (remembered.numbered other number granter paid).trans (nonceOf_putNonce_le raised granter)
  · apply forall_putAuthorization
    · intro other number authorization _ stored
      exact remembered.unspent other number authorization stored
    · intro _
      exact fresh

theorem Books.Remembered.spend {authorization : PaymentAuthorization}
    (remembered : books.Remembered history)
    (found : books.authorizations.lookup (leaseId, nonce) = some authorization) :
    (books.putAuthorization leaseId nonce authorization.spend).Remembered
      { history with spent := (leaseId, nonce, authorization.lessee) :: history.spent } := by
  constructor
  · apply forall_putAuthorization
    · intro other number stored _ kept
      exact remembered.counted other number stored kept
    · exact remembered.counted leaseId nonce authorization found
  · apply forall_putAuthorization
    · intro other number stored _ kept
      exact remembered.granted other number stored kept
    · exact remembered.granted leaseId nonce authorization found
  · intro other number granter paid
    rcases List.mem_cons.mp paid with same | paid
    · cases same
      exact remembered.counted leaseId nonce authorization found
    · exact remembered.numbered other number granter paid
  · apply forall_putAuthorization
    · intro other number stored differs kept active paid
      rcases List.mem_cons.mp paid with same | paid
      · simp only [Prod.mk.injEq] at same
        exact differs (by rw [same.1, same.2.1])
      · exact remembered.unspent other number stored kept active paid
    · intro active
      cases active

theorem Effect.remembered (effect : Effect env operation books after)
    (empty : books.EmptyUntilSetUp) (remembered : books.Remembered history) :
    after.Remembered (operation.remember books history) := by
  cases effect with
  | initialized fresh =>
      apply remembered.of_same
      · rfl
      · rw [empty fresh]
        rfl
  | registered enabled held => exact remembered.of_same rfl rfl
  | charged found charge counted => exact remembered.of_same rfl rfl
  | paid payment =>
      obtain ⟨_, nonces, authorizations⟩ := payment.frame
      exact remembered.of_same authorizations nonces
  | @granted _ leaseId nonce lessee authorizedAmount expiryTimestamp signature lease authorized
      unexpired next found =>
      obtain ⟨_, numbered⟩ := Checked.upTo_eq_some.mp next
      subst numbered
      have granting := @Books.Remembered.grant books history leaseId _ lessee authorizedAmount
        expiryTimestamp env.timestamp signature remembered rfl
      exact granting.of_same rfl rfl
  | pulled granted active unexpired found covered payment =>
      obtain ⟨_, nonces, authorizations⟩ := payment.frame
      rw [Operation.remember, granted, Option.elim_some]
      exact (remembered.spend granted).of_same authorizations nonces
  | terminated found stored entitled authorized => exact remembered.of_same rfl rfl
  | paused stored authorized => exact remembered.of_same rfl rfl
  | configured stored authorized => exact remembered
  | distributed stored authorized held within accepted sent available =>
      exact remembered.of_same rfl rfl

/-! ### Who changes the authorization fields -/

theorem authorizes_of_same (leases : after.leases = books.leases) :
    OnlyLesseeAuthorizes env operation books after := by
  intro leaseId lease later found kept changed
  rw [leases, found] at kept
  cases kept
  exact absurd rfl changed

theorem authorizes_set_iff {written : ActiveLease}
    (leases : after.leases = books.leases.set leaseId (some written)) :
    OnlyLesseeAuthorizes env operation books after ↔
      ∀ lease, books.leases.lookup leaseId = some lease →
        written.authorizationFields ≠ lease.authorizationFields →
        env.authorized lease.lessee = true ∧
          ∃ authorizedAmount expiryTimestamp signature,
            operation = .grantPaymentAuthorization leaseId lease.lessee authorizedAmount
              expiryTimestamp signature := by
  constructor
  · intro only lease found
    exact only leaseId lease written found (by rw [leases, Table.lookup_set_self])
  · intro only other lease later found kept changed
    rw [leases, Table.lookup_set] at kept
    by_cases same : other = leaseId
    · subst same
      rw [if_pos rfl] at kept
      cases kept
      exact only lease found changed
    · rw [if_neg same, found] at kept
      cases kept
      exact absurd rfl changed

theorem authorizes_of_set {lease written : ActiveLease}
    (leases : after.leases = books.leases.set leaseId (some written))
    (found : books.leases.lookup leaseId = some lease)
    (same : written.authorizationFields = lease.authorizationFields) :
    OnlyLesseeAuthorizes env operation books after := by
  apply (authorizes_set_iff leases).mpr
  intro stored kept changed
  rw [found] at kept
  cases kept
  exact absurd same changed

theorem Payment.authorizes {payer : Address} {cycleId : U64} {amount : I128}
    (payment : Payment env payer cycleId amount books after) (operation : Operation) :
    OnlyLesseeAuthorizes env operation books after := by
  obtain ⟨unpaid, cycle, lease, totalPaid, totalOwed, posting⟩ := payment.posting
  exact authorizes_of_set posting.leases posting.leased rfl

theorem Effect.authorizes_iff (effect : Effect env operation books after) :
    OnlyLesseeAuthorizes env operation books after ↔ operation.KeepsFields books := by
  cases effect with
  | initialized fresh =>
      refine iff_of_true ?_ trivial
      intro leaseId lease later found kept
      simp [Books.setUp] at kept
  | @registered _ treasury leaseId =>
      rw [authorizes_set_iff rfl]
      apply forall_congr'
      intro lease
      apply imp_congr_right
      intro found
      constructor
      · intro only
        by_contra changed
        obtain ⟨_, _, _, _, granting⟩ := only (Ne.symm changed)
        cases granting
      · intro same changed
        exact absurd same.symm changed
  | charged found charge counted => exact iff_of_true (authorizes_of_set rfl found rfl) trivial
  | paid payment => exact iff_of_true (payment.authorizes _) trivial
  | @granted _ leaseId nonce lessee authorizedAmount expiryTimestamp signature lease authorized
      unexpired next found =>
      rw [authorizes_set_iff rfl]
      apply forall_congr'
      intro stored
      apply imp_congr_right
      intro kept
      rw [found] at kept
      cases kept
      constructor
      · intro only
        by_cases same : (lease.authorize authorizedAmount expiryTimestamp).authorizationFields =
            lease.authorizationFields
        · exact .inr same
        · obtain ⟨_, _, _, _, granting⟩ := only same
          cases granting
          exact .inl rfl
      · intro own changed
        rcases own with mine | same
        · subst mine
          exact ⟨authorized, _, _, _, rfl⟩
        · exact absurd same changed
  | pulled granted active unexpired found covered payment =>
      exact iff_of_true (payment.authorizes _) trivial
  | terminated found stored entitled authorized =>
      exact iff_of_true (authorizes_of_set rfl found rfl) trivial
  | paused stored authorized => exact iff_of_true (authorizes_of_same rfl) trivial
  | configured stored authorized => exact iff_of_true (authorizes_of_same rfl) trivial
  | distributed stored authorized held within accepted sent available =>
      exact iff_of_true (authorizes_of_same rfl) trivial

/-! ### What a pull pays -/

theorem Payment.moved {payer : Address} {cycleId : U64} {amount : I128}
    (payment : Payment env payer cycleId amount books after) :
    ∃ moved, after.transfers = moved :: books.transfers ∧ moved.payer = payer ∧
      moved.amount = amount := by
  cases payment
  exact ⟨_, rfl, rfl, rfl⟩

/-- A pull that goes through pays as granted exactly when cycle and granter are those of the
lease. -/
theorem Effect.pays_iff {cycleId : U64} {signature : BytesN 64}
    (effect : Effect env (.executePullPayment leaseId cycleId nonce signature) books after)
    (remembered : books.Remembered history) :
    PaysAsGranted env leaseId cycleId nonce books after history ↔
      PullsOwn books leaseId cycleId nonce := by
  cases effect with
  | @pulled _ _ _ _ _ _ authorization cycle granted active unexpired found covered payment =>
      obtain ⟨moved, transfers, payer, amount⟩ := payment.moved
      constructor
      · intro pays
        obtain ⟨paid, lease, grant, debit, kept, own, leased, transferred, debited, _⟩ := pays
        rw [found] at kept
        cases kept
        have same : debit = moved :=
          (List.cons.inj (transferred.symm.trans transfers)).1
        subst same
        exact ⟨authorization, cycle, lease, granted, found, leased, own, payer.symm.trans debited⟩
      · intro own
        obtain ⟨stored, paid, lease, authorizes, kept, leased, mine, lessee⟩ := own
        rw [granted] at authorizes
        cases authorizes
        rw [found] at kept
        cases kept
        have backed := remembered.granted leaseId nonce authorization granted
        have unspent := remembered.unspent leaseId nonce authorization granted active
        exact ⟨cycle, lease, _, moved, found, mine, leased, transfers, payer.trans lessee, backed,
          rfl, rfl, lessee, amount.le.trans covered, unexpired, unspent⟩

end Steps

/-! ## Runs -/

/-- What a run knows of its grants. -/
structure Witnessed (state : Store × GrantHistory) : Prop where
  empty : state.1.books.EmptyUntilSetUp
  remembered : state.1.books.Remembered state.2

theorem newModule_witnessed : Witnessed (newModule, ⟨[], []⟩) where
  empty _ := rfl
  remembered :=
    { counted := fun leaseId nonce authorization stored => by
        simp [newModule, Store.books] at stored
      granted := fun leaseId nonce authorization stored => by
        simp [newModule, Store.books] at stored
      numbered := fun leaseId nonce lessee paid => by simp at paid
      unspent := fun leaseId nonce authorization stored => by
        simp [newModule, Store.books] at stored }

theorem step_witnessed (call : Call) (state : Store × GrantHistory) (witnessed : Witnessed state) :
    Witnessed (annotate step remember call state) := by
  refine ⟨step_emptyUntilSetUp call state.1 witnessed.empty, ?_⟩
  rcases annotate_cases remember (fun _ _ _ => rfl) call state with
    ⟨committed, outcome, kept⟩ | ⟨refused, kept⟩
  · rw [kept]
    exact outcome.effect.remembered witnessed.empty witnessed.remembered
  · rw [kept]
    exact witnessed.remembered

theorem staysAuthorized_iff {call : Call} {state : Store × GrantHistory}
    (witnessed : Witnessed state) :
    StaysAuthorized call state.1 state.2 ↔ call.KeepsAuthorization state.1 := by
  rcases step_cases call state.1 with ⟨committed, outcome⟩ | ⟨refused, same⟩
  · have effect := outcome.effect
    constructor
    · intro stays _
      refine ⟨effect.authorizes_iff.mp stays.authorizes, ?_⟩
      intro leaseId cycleId nonce signature pulling
      have pays := stays.pays leaseId cycleId nonce signature pulling committed
      rw [pulling] at effect
      exact (effect.pays_iff witnessed.remembered).mp pays
    · intro keeps
      obtain ⟨fields, pulls⟩ := keeps committed
      refine ⟨?_, effect.authorizes_iff.mpr fields⟩
      intro leaseId cycleId nonce signature pulling _
      rw [pulling] at effect
      exact (effect.pays_iff witnessed.remembered).mpr
        (pulls leaseId cycleId nonce signature pulling)
  · constructor
    · intro _ committed
      cases refused.symm.trans committed
    · intro _
      constructor
      · intro leaseId cycleId nonce signature _ committed
        cases refused.symm.trans committed
      · rw [same]
        exact authorizes_of_same rfl

/-- Pulls pay as granted and only lessees change authorization fields, along a run, exactly when
every step keeps the authorizations. -/
theorem pulls_authorized_iff (calls : List Call) :
    MeetsAlong (annotate step remember)
      (fun call state => StaysAuthorized call state.1 state.2) calls (newModule, ⟨[], []⟩) ↔
      MeetsAlong step Call.KeepsAuthorization calls newModule := by
  have along : MeetsAlong (annotate step remember)
      (fun call state => StaysAuthorized call state.1 state.2) calls (newModule, ⟨[], []⟩) ↔
      MeetsAlong (annotate step remember) (fun call state => call.KeepsAuthorization state.1) calls
        (newModule, ⟨[], []⟩) := by
    apply meetsAlong_congr step_witnessed
    · intro call state witnessed
      exact staysAuthorized_iff witnessed
    · exact newModule_witnessed
  rw [along]
  exact @meetsAlong_annotate _ _ step _ remember Call.KeepsAuthorization calls
    (newModule, ⟨[], []⟩)

/-- A stranger grants himself lease 7, whose lessee is 2, and the invoice of lease 8 is pulled
from him. -/
def strangerPays : List Call :=
  [⟨.willing 100 1, .initializeContract ⟨9⟩ ⟨8⟩⟩,
   ⟨.willing 100 2, .registerLeaseBilling 7 ⟨1⟩ ⟨2⟩ ⟨3⟩ 50 0 ⟨4⟩ 100 1000 300⟩,
   ⟨.willing 100 3, .registerLeaseBilling 8 ⟨1⟩ ⟨5⟩ ⟨3⟩ 60 0 ⟨4⟩ 100 1000 300⟩,
   ⟨.willing 100 4, .processBillingCycle 8 ⟨1⟩⟩,
   ⟨.willing 100 5, .grantPaymentAuthorization 7 ⟨6⟩ 80 500 (.repeated 64 0)⟩,
   ⟨.willing 100 6, .executePullPayment 7 4 1 (.repeated 64 0)⟩]

theorem strangerPays_not_authorized :
    ¬ MeetsAlong (annotate step remember)
      (fun call state => StaysAuthorized call state.1 state.2) strangerPays
      (newModule, ⟨[], []⟩) := by
  intro authorized
  have pull := @MeetsAlong.at _ _ _ _ _ (strangerPays.take 5) []
    ⟨.willing 100 6, .executePullPayment 7 4 1 (.repeated 64 0)⟩ _ authorized
    (List.prefix_refl strangerPays)
  have pays := pull.pays 7 4 1 (.repeated 64 0) rfl (by decide)
  obtain ⟨cycle, lease, grant, moved, found, own, _⟩ := pays
  have other : ((run (annotate step remember) (strangerPays.take 5)
      (newModule, ⟨[], []⟩)).1.books.cycles.lookup 4).map BillingCycle.leaseId = some 8 := by
    decide
  rw [found] at other
  have same : (8 : U64) = 7 := (Option.some.inj other).symm.trans own
  exact absurd same (by decide)

end LeaseFlow.Billing
