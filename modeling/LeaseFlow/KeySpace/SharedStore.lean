import LeaseFlow.KeySpace.DepositAccounts
import LeaseFlow.Escrow.History

/-!
# Two surfaces over one store

The contract and the modules settle deposits on the same lease records: what lies at a lease key
is the record of the contract, and what a module saves there is the contract's from then on.
-/

set_option autoImplicit false

namespace LeaseFlow.KeySpace

open Transaction Failure

/-! ## The store -/

/-- The store of the contract, and that of the modules apart from the lease records. -/
structure SharedStore where
  world : World
  modules : Storage

/-- A record with the declared fields that the operations neither read nor write. -/
def StoredLease.complete (rest : StoredLease) (lease : LeaseInstance) : StoredLease :=
  { rest with toLeaseInstance := lease }

/-- The record of the contract lies at the key of a lease. -/
def SharedStore.entries (others : LeaseId → StoredLease) (store : SharedStore) : Entries
  | ⟨"LeaseInstance", [.u64 leaseId]⟩ =>
      (store.world.leases.lookup leaseId).map fun lease =>
        Held.leaseInstance.store ((others leaseId).complete lease)
  | key => store.modules.persistent key

/-- The store as the modules see it. -/
def SharedStore.storage (others : LeaseId → StoredLease) (store : SharedStore) : Storage :=
  { store.modules with persistent := store.entries others }

/-- What a call of the modules leaves, the record of its subject handed to the contract. -/
def SharedStore.put (subject : Option LeaseId) (storage : Storage) (store : SharedStore) :
    SharedStore where
  world :=
    match subject with
    | none => store.world
    | some leaseId => { store.world with
        leases := store.world.leases.set leaseId
          ((storage.lease leaseId).map StoredLease.toLeaseInstance) }
  modules := storage

/-! ## Calls -/

inductive SharedCall where
  | contract (invocation : LeaseFlow.Invocation)
  | modules (env : Env) (call : ModuleCall)

section Machine

variable (gaps : Gaps) (sha256 : String → BytesN 32) (others : LeaseId → StoredLease)

def SharedCall.body : SharedCall → Transaction SharedStore (Fault ⊕ Failure ModuleError) Unit
  | .contract invocation =>
      raising .inl (within SharedStore.world (fun world store => { store with world := world })
        invocation.body)
  | .modules env call =>
      raising .inr (within (SharedStore.storage others) (SharedStore.put call.subject)
        (call.body gaps sha256 env))

abbrev sharedStep : SharedCall → SharedStore → SharedStore :=
  Machine.step (SharedCall.body gaps sha256 others)

end Machine

/-! ## The account of a lease -/

def SharedStore.record (leaseId : LeaseId) (store : SharedStore) : Option LeaseInstance :=
  store.world.leases.lookup leaseId

/-- What the contract paid on a lease since its record was opened, and what was routed on it. -/
def SharedStore.moved (leaseId : LeaseId) (store : SharedStore) : Int :=
  store.world.toEscrow.paidSinceOpening leaseId (forLease leaseId) +
    routed leaseId store.modules.events

/-- The call neither opens the record of a lease nor lends its deposit out. -/
def SharedCall.StaysOn (leaseId : LeaseId) : SharedCall → Prop
  | .contract invocation =>
      invocation.call.subject invocation.env = some leaseId →
        invocation.call.creates invocation.env = none ∧ invocation.call.movesYield = false
  | .modules _ _ => True

/-- What a call that goes through makes of the record of a lease, and moves on it. -/
inductive SharedEffect (leaseId : LeaseId) (before after : Option LeaseInstance) :
    SharedCall → Int → Prop where
  | foreign {invocation : LeaseFlow.Invocation}
      (foreign : invocation.call.subject invocation.env ≠ some leaseId)
      (record : after = before) : SharedEffect leaseId before after (.contract invocation) 0
  | changed {env : Env} {call : Call} {world : World} {lease : LeaseInstance}
      {entries : List DepositEntry} (found : before = some lease)
      (change : LeaseChange env world leaseId lease call after entries) :
      SharedEffect leaseId before after (.contract ⟨env, call⟩)
        (paidOut (forLease leaseId) entries)
  | aside {env : Env} {call : ModuleCall}
      (apart : ∀ amount, call ≠ .refundDepositToNftHolder leaseId amount)
      (record : after = before) : SharedEffect leaseId before after (.modules env call) 0
  | tokenised {env : Env} {lessor nftContract : Address} {tokenId : U128} {lease : LeaseInstance}
      (found : before = some lease)
      (record : after = some { lease with
        nftContract := some nftContract
        tokenId := some tokenId }) :
      SharedEffect leaseId before after (.modules env (.mintLessorRightsToken leaseId lessor)) 0
  | refunded {env : Env} {refundAmount : I128} {lease : LeaseInstance}
      (found : before = some lease)
      (ended : lease.status = .terminated ∨ lease.status = .expired) (record : after = before) :
      SharedEffect leaseId before after
        (.modules env (.refundDepositToNftHolder leaseId refundAmount)) (max refundAmount 0)
  | released {env : Env} {lesseePubkey lessorPubkey : Address} {returnAmount slashAmount : I128}
      {lease : LeaseInstance} (found : before = some lease)
      (running : lease.status = .active ∨ lease.status = .expired)
      (record : after = some lease.settledOut) :
      SharedEffect leaseId before after (.modules env (.mutualReleaseWithNftVerification leaseId
        lesseePubkey lessorPubkey returnAmount slashAmount)) lease.totalDeposit

section Effect

variable {gaps : Gaps} {sha256 : String → BytesN 32} {others : LeaseId → StoredLease}
  {before after : SharedStore} {leaseId : LeaseId}

theorem SharedStore.storage_lease (store : SharedStore) (leaseId : LeaseId) :
    (store.storage others).lease leaseId =
      (store.record leaseId).map (others leaseId).complete := by
  show ((store.world.leases.lookup leaseId).map fun lease =>
    Held.leaseInstance.store ((others leaseId).complete lease)).bind _ = _
  rw [SharedStore.record]
  cases store.world.leases.lookup leaseId with
  | none => rfl
  | some lease => rfl

/-- What the modules see of a lease is its record. -/
theorem SharedStore.record_of_storage (store : SharedStore) (leaseId : LeaseId) :
    ((store.storage others).lease leaseId).map StoredLease.toLeaseInstance =
      store.record leaseId := by
  rw [storage_lease, Option.map_map]
  exact congrFun Option.map_id_fun' _

theorem SharedStore.found_of_storage {store : SharedStore} {stored : StoredLease}
    (found : (store.storage others).lease leaseId = some stored) :
    store.record leaseId = some stored.toLeaseInstance := by
  rw [← record_of_storage store leaseId, found]
  rfl

theorem SharedStore.put_record (subject : Option LeaseId) (storage : Storage)
    (store : SharedStore) :
    (store.put subject storage).record leaseId =
      if subject = some leaseId then (storage.lease leaseId).map StoredLease.toLeaseInstance
      else store.record leaseId := by
  cases subject with
  | none => rfl
  | some named =>
      show (store.world.leases.set named _).lookup leaseId = _
      rw [Table.lookup_set]
      by_cases same : leaseId = named
      · subst same
        rw [if_pos rfl, if_pos rfl]
      · rw [if_neg same, if_neg fun other => same (Option.some.inj other).symm]
        rfl

/-- A call of the modules leaves the contract what lies at the key. -/
theorem ModuleEffect.record_put {call : ModuleCall} {amount : Int} {storage : Storage}
    (effect : ModuleEffect leaseId ((before.storage others).lease leaseId)
      (storage.lease leaseId) call amount) :
    (before.put call.subject storage).record leaseId =
      (storage.lease leaseId).map StoredLease.toLeaseInstance := by
  rw [SharedStore.put_record]
  cases effect with
  | aside _ record | refunded _ _ record =>
      rw [record, SharedStore.record_of_storage, ite_self]
  | tokenised => exact if_pos rfl
  | released => exact if_pos rfl

theorem SharedStore.moved_put (subject : Option LeaseId) (storage : Storage)
    (store : SharedStore) :
    (store.put subject storage).moved leaseId =
      store.world.toEscrow.paidSinceOpening leaseId (forLease leaseId) +
        routed leaseId storage.events := by
  cases subject <;> rfl

theorem contract_effect {invocation : LeaseFlow.Invocation}
    (stays : (SharedCall.contract invocation).StaysOn leaseId)
    (run : Commits (SharedCall.body gaps sha256 others (.contract invocation)) before () after) :
    ∃ amount, SharedEffect leaseId (before.record leaseId) (after.record leaseId)
        (.contract invocation) amount ∧
      after.moved leaseId = amount + before.moved leaseId := by
  obtain ⟨world, ran, rfl⟩ := (commits_within _ _).mp ((commits_raising _ _ _).mp run)
  cases (dispatch_effect ran).movement.view forLease_of with
  | aside foreign record paid =>
      exact ⟨0, .foreign foreign record, by simp only [SharedStore.moved, paid, zero_add]⟩
  | opened opening =>
      cases (stays opening.subject).1.symm.trans opening.creates
  | changed found change record paid =>
      refine ⟨_, .changed found (record ▸ change), ?_⟩
      simp only [SharedStore.moved, paid, add_assoc]

theorem modules_effect {env : Env} {call : ModuleCall}
    (run : Commits (SharedCall.body gaps sha256 others (.modules env call)) before () after) :
    ∃ amount, SharedEffect leaseId (before.record leaseId) (after.record leaseId)
        (.modules env call) amount ∧
      after.moved leaseId = amount + before.moved leaseId := by
  obtain ⟨storage, ran, rfl⟩ := (commits_within _ _).mp ((commits_raising _ _ _).mp run)
  obtain ⟨amount, effect, events⟩ := moduleCall_effect leaseId ran
  have seen := effect.record_put
  refine ⟨amount, ?_, ?_⟩
  · cases effect with
    | aside apart record =>
        rw [record, SharedStore.record_of_storage] at seen
        exact .aside apart seen
    | tokenised found record =>
        rw [record] at seen
        exact .tokenised (SharedStore.found_of_storage found) seen
    | refunded found ended record =>
        rw [record, SharedStore.record_of_storage] at seen
        exact .refunded (SharedStore.found_of_storage found) ended seen
    | released found running record =>
        rw [record] at seen
        exact .released (SharedStore.found_of_storage found) running seen
  · rw [SharedStore.moved_put, events]
    exact add_left_comm _ _ _

/-- Every call that goes through has one of the effects on the account of a lease. -/
theorem sharedCall_effect {call : SharedCall} (stays : call.StaysOn leaseId)
    (run : Commits (call.body gaps sha256 others) before () after) :
    ∃ amount, SharedEffect leaseId (before.record leaseId) (after.record leaseId) call amount ∧
      after.moved leaseId = amount + before.moved leaseId := by
  cases call with
  | contract invocation => exact contract_effect stays run
  | modules env call => exact modules_effect run

end Effect

end LeaseFlow.KeySpace
