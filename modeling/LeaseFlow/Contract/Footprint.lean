import LeaseFlow.Contract.World

/-!
# What an operation may write

The store in parts, and the footprint of an operation: the parts it may write.  Every
other part is left as it was, also when the operation faults.  One lemma for each
operation bounds its footprint; that the escrow, the archive or a setting survives an
operation is read off the bound.
-/

set_option autoImplicit false

namespace LeaseFlow

open Transaction

/-! ## Parts of the store -/

inductive Part where
  | leases
  | deposits
  | oracle
  | velocity
  | pendingSlash
  | securityCouncil
  | admin
  | settings
  | symbolLeases
  | receipts
  | usageRights
  | authorizedPayers
  | roommateBalances
  | history
  | activeLeasesIndex
  | tenantFlags
  | assetConditions
  | frozenAssets
  | yield
  | billing
  | reentrancyLock
  | payments
  | nftTransfers
  | burnedAccessTokens
  | events
  deriving DecidableEq

def Part.Content : Part → Type
  | .leases => Table LeaseId LeaseInstance
  | .deposits => List DepositEntry
  | .oracle => OracleStore
  | .velocity => VelocityStore
  | .pendingSlash => LeaseId → Option PendingSlashVeto
  | .securityCouncil => Option SecurityCouncil
  | .admin => Option Address
  | .settings => ConfigStore
  | .symbolLeases => Symbol → Option Lease
  | .receipts => Symbol × U32 → Option Receipt
  | .usageRights => Address × U128 → Option UsageRights
  | .authorizedPayers => LeaseId × Address → Bool
  | .roommateBalances => LeaseId × Address → Option I128
  | .history => (LeaseId → Option HistoricalLease) × List LeaseId
  | .activeLeasesIndex => List LeaseId
  | .tenantFlags => LeaseId → Bool
  | .assetConditions => (LeaseId → Option AssetCondition) × (BytesN 32 × U64 → Bool)
  | .frozenAssets =>
      (LeaseId × Address × U128 → Option (BytesN 32)) × (LeaseId × Address × U128 → Bool)
  | .yield => YieldStore
  | .billing => BillingStore
  | .reentrancyLock => Bool
  | .payments => List TokenTransfer
  | .nftTransfers => List NftTransfer
  | .burnedAccessTokens => List (LeaseId × U128)
  | .events => List Event

/-- The settings are the configuration without the admin. -/
def Part.read : (part : Part) → World → part.Content
  | .leases, world => world.leases
  | .deposits, world => world.deposits
  | .oracle, world => world.oracle
  | .velocity, world => world.velocity
  | .pendingSlash, world => world.pendingSlash
  | .securityCouncil, world => world.securityCouncil
  | .admin, world => world.config.admin
  | .settings, world => { world.config with admin := none }
  | .symbolLeases, world => world.symbols.lease
  | .receipts, world => world.symbols.receipt
  | .usageRights, world => world.symbols.usageRights
  | .authorizedPayers, world => world.rent.authorizedPayer
  | .roommateBalances, world => world.rent.roommateBalance
  | .history, world => (world.archive.historicalLease, world.archive.historicalLeasesIndex)
  | .activeLeasesIndex, world => world.archive.activeLeasesIndex
  | .tenantFlags, world => world.assets.tenantFlag
  | .assetConditions, world => (world.assets.assetCondition, world.assets.oracleRateLimit)
  | .frozenAssets, world => (world.assets.assetFreezeProof, world.assets.frozenAsset)
  | .yield, world => world.yield
  | .billing, world => world.billing
  | .reentrancyLock, world => world.nonReentrant
  | .payments, world => world.outbox.payments
  | .nftTransfers, world => world.outbox.nftTransfers
  | .burnedAccessTokens, world => world.outbox.burnedAccessTokens
  | .events, world => world.outbox.events

/-- Every part that is not one of the escrow. -/
@[simp] def outside : List Part :=
  [.admin, .settings, .symbolLeases, .receipts, .usageRights, .authorizedPayers,
    .roommateBalances, .history, .activeLeasesIndex, .tenantFlags, .assetConditions,
    .frozenAssets, .yield, .billing, .reentrancyLock, .payments, .nftTransfers,
    .burnedAccessTokens, .events]

/-- Every part but one. -/
def besides (part : Part) : List Part :=
  let all : List Part :=
    [.leases, .deposits, .oracle, .velocity, .pendingSlash, .securityCouncil] ++ outside
  all.filter (· ≠ part)

@[simp] theorem mem_besides (part other : Part) : part ∈ besides other ↔ part ≠ other := by
  have listed : part ∈ [.leases, .deposits, .oracle, .velocity, .pendingSlash,
      .securityCouncil] ++ outside := by
    cases part <;> decide
  rw [besides, List.mem_filter, and_iff_right listed, decide_eq_true_iff]

/-! ## Footprints -/

/-- The parts that are not listed are left alone, however the execution ends. -/
def Writes {α : Type} (parts : List Part) (body : Contract α) : Prop :=
  ∀ part, part ∉ parts → Steady part.read body

section Writes

variable {α β : Type} {parts : List Part} {body : Contract α} {world after : World}

theorem Writes.mono {few : List Part} (narrow : Writes few body) (may : few ⊆ parts) :
    Writes parts body :=
  fun part aside => narrow part fun listed => aside (may listed)

theorem Writes.kept (writes : Writes parts body) {part : Part} {value : α}
    (run : Commits body world value after) (aside : part ∉ parts) :
    part.read after = part.read world :=
  (writes part aside).keeps run

/-- A part that the body may not write is as it was. -/
theorem part_kept (part : Part) {value : α} (run : Commits body world value after)
    (writes : Writes (besides part) body) : part.read after = part.read world :=
  writes.kept run (by simp)

theorem escrow_kept {value : α} (run : Commits body world value after)
    (writes : Writes outside body) : after.toEscrow = world.toEscrow := by
  have same (part : Part) (aside : part ∉ outside) : part.read after = part.read world :=
    writes.kept run aside
  have leases : after.leases = world.leases := same .leases (by simp)
  have deposits : after.deposits = world.deposits := same .deposits (by simp)
  have oracle : after.oracle = world.oracle := same .oracle (by simp)
  have velocity : after.velocity = world.velocity := same .velocity (by simp)
  have pendingSlash : after.pendingSlash = world.pendingSlash := same .pendingSlash (by simp)
  have securityCouncil : after.securityCouncil = world.securityCouncil :=
    same .securityCouncil (by simp)
  obtain ⟨later, _⟩ := after
  obtain ⟨earlier, _⟩ := world
  cases later
  cases earlier
  change Escrow.mk .. = Escrow.mk ..
  rw [Escrow.mk.injEq]
  exact ⟨leases, deposits, oracle, velocity, pendingSlash, securityCouncil⟩

/-! ### Building blocks -/

@[simp] theorem writes_pure (value : α) : Writes parts (pure value : Contract α) :=
  fun _ _ => steady_pure value

@[simp] theorem writes_throw (fault : Fault) : Writes parts (throw fault : Contract α) :=
  fun _ _ => steady_throw fault

@[simp] theorem writes_bind {next : α → Contract β} (first : Writes parts body)
    (rest : ∀ value, Writes parts (next value)) : Writes parts (body >>= next) :=
  fun part aside => steady_bind (first part aside) fun value => rest value part aside

@[simp] theorem writes_map (f : α → β) (writes : Writes parts body) : Writes parts (f <$> body) :=
  fun part aside => steady_map f (writes part aside)

theorem writes_modify {f : World → World}
    (same : ∀ state part, part ∉ parts → part.read (f state) = part.read state) :
    Writes parts (modify f : Contract Unit) :=
  fun part aside => steady_modify fun state => same state part aside

@[simp] theorem writes_ite (condition : Prop) [Decidable condition] {yes no : Contract α}
    (left : Writes parts yes) (right : Writes parts no) :
    Writes parts (if condition then yes else no) :=
  fun part aside => steady_ite condition (left part aside) (right part aside)

@[simp] theorem writes_inspect (read : World → α) :
    Writes parts (inspect read : Contract α) :=
  fun _ _ => steady_inspect read

@[simp] theorem writes_resultOf (writes : Writes parts body) : Writes parts (resultOf body) :=
  fun part aside => steady_capture _ (writes part aside)

@[simp] theorem writes_question (outcome : Except LeaseError α) :
    Writes parts (question outcome) :=
  fun _ _ => steady_propagate Fault.err outcome

end Writes

/-! ## Primitives -/

section Primitives

variable {α : Type} {parts : List Part} {env : Env}

@[simp] theorem writes_require (condition : Prop) [Decidable condition] (error : LeaseError) :
    Writes parts (require condition error) :=
  fun _ _ => steady_ensure condition (Fault.err error)

@[simp] theorem writes_demand (condition : Prop) [Decidable condition] (message : String) :
    Writes parts (demand condition message) :=
  fun _ _ => steady_ensure condition (Fault.trap message)

@[simp] theorem writes_okOr (found : Option α) (error : LeaseError) :
    Writes parts (okOr found error) :=
  fun _ _ => steady_fetch found (Fault.err error)

@[simp] theorem writes_expect (found : Option α) (message : String) :
    Writes parts (expect found message) :=
  fun _ _ => steady_fetch found (Fault.trap message)

@[simp] theorem writes_requireAuth (address : Address) : Writes parts (requireAuth env address) :=
  writes_demand _ _

@[simp] theorem writes_checkedI128 (value : Int) : Writes parts (checkedI128 value) :=
  writes_bind (writes_demand _ _) fun _ => writes_pure value

@[simp] theorem writes_checkedU64 (value : Nat) : Writes parts (checkedU64 value) :=
  writes_bind (writes_demand _ _) fun _ => writes_pure value

@[simp] theorem writes_checkedU32 (value : Nat) : Writes parts (checkedU32 value) :=
  writes_bind (writes_demand _ _) fun _ => writes_pure value

@[simp] theorem writes_checkedSubU64 (left right : Nat) :
    Writes parts (checkedSubU64 left right) :=
  writes_bind (writes_demand _ _) fun _ => writes_pure (left - right)

@[simp] theorem writes_publish (may : .events ∈ parts) (event : Event) :
    Writes parts (publish event) := by
  refine writes_modify fun state part aside => ?_
  cases part <;> first | rfl | exact absurd may aside

@[simp] theorem writes_transfer (may : .payments ∈ parts) (payment : TokenTransfer) :
    Writes parts (transfer env payment) := by
  refine writes_bind (writes_demand _ _) fun _ => writes_modify fun state part aside => ?_
  cases part <;> first | rfl | exact absurd may aside

@[simp] theorem writes_transferNft (may : .nftTransfers ∈ parts) (movement : NftTransfer) :
    Writes parts (transferNft env movement) := by
  refine writes_bind (writes_demand _ _) fun _ => writes_modify fun state part aside => ?_
  cases part <;> first | rfl | exact absurd may aside

@[simp] theorem writes_payDeposit (may : .deposits ∈ parts) (leaseId : LeaseId)
    (share : DepositShare) (token recipient : Address) (amount : I128) :
    Writes parts (payDeposit env leaseId share token recipient amount) := by
  refine writes_bind (writes_demand _ _) fun _ => writes_modify fun state part aside => ?_
  cases part <;> first | rfl | exact absurd may aside

@[simp] theorem writes_loadLeaseInstanceById (leaseId : LeaseId) :
    Writes parts (loadLeaseInstanceById leaseId) :=
  writes_bind (writes_inspect _) fun _ => writes_okOr _ _

@[simp] theorem writes_saveLeaseInstance (may : .leases ∈ parts) (leaseId : LeaseId)
    (lease : LeaseInstance) : Writes parts (saveLeaseInstance leaseId lease) := by
  refine writes_modify fun state part aside => ?_
  cases part <;> first | rfl | exact absurd may aside

@[simp] theorem writes_deleteLeaseInstance (may : .leases ∈ parts) (leaseId : LeaseId) :
    Writes parts (deleteLeaseInstance leaseId) := by
  refine writes_modify fun state part aside => ?_
  cases part <;> first | rfl | exact absurd may aside

@[simp] theorem writes_archiveLease (may : .history ∈ parts) (removes : .leases ∈ parts)
    (leaseId : LeaseId) (lease : LeaseInstance) (caller : Address) :
    Writes parts (archiveLease env leaseId lease caller) := by
  refine writes_bind (writes_modify fun state part aside => ?_) fun _ =>
    writes_deleteLeaseInstance removes leaseId
  cases part <;> first | rfl | exact absurd may aside

@[simp] theorem writes_deleteUsageRights (may : .usageRights ∈ parts) (nftContract : Address)
    (tokenId : U128) : Writes parts (deleteUsageRights nftContract tokenId) := by
  refine writes_modify fun state part aside => ?_
  cases part <;> first | rfl | exact absurd may aside

@[simp] theorem writes_sendLeaseNft (may : .nftTransfers ∈ parts) (nftContract : Option Address)
    (tokenId : Option U128) (recipient : Address) :
    Writes parts (sendLeaseNft env nftContract tokenId recipient) := by
  unfold sendLeaseNft
  split
  · exact writes_transferNft may _
  · exact writes_pure ()

@[simp] theorem writes_returnLeaseNft (may : .nftTransfers ∈ parts)
    (revokes : .usageRights ∈ parts) (nftContract : Option Address) (tokenId : Option U128)
    (recipient : Address) :
    Writes parts (returnLeaseNft env nftContract tokenId recipient) := by
  unfold returnLeaseNft
  split
  · exact writes_bind (writes_deleteUsageRights revokes _ _) fun _ => writes_transferNft may _
  · exact writes_pure ()

@[simp] theorem writes_isAdmin (caller : Address) : Writes parts (isAdmin caller) :=
  writes_inspect _

end Primitives

end LeaseFlow
