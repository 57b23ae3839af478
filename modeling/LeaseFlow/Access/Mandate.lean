import LeaseFlow.Access.Burning

/-!
# A mandate for every operation

The six operations enforce a mandate on exactly the stores on which they can change nothing.
-/

set_option autoImplicit false

namespace LeaseFlow.Access

open Transaction

/-- The operation can change something stored. -/
def Tenancy.Alterable (tenancy : Tenancy) : Operation → Prop
  | .contract (.activateLease leaseId tenant) =>
      ∃ lease, tenancy.symbols.lease leaseId = some lease ∧ lease.tenant = tenant ∧
        lease.status ≠ .active
  | .contract (.payRent leaseId paymentAmount) =>
      ∃ lease, tenancy.symbols.lease leaseId = some lease ∧
        RentCounts tenancy.toWorld paymentAmount lease ∧
        (paymentAmount ≠ 0 ∨ lease.boughtOut = true)
  | .contract (.setBuyoutPrice leaseId landlord buyoutPrice) =>
      ∃ lease, tenancy.symbols.lease leaseId = some lease ∧ lease.landlord = landlord ∧
        lease.buyoutPrice ≠ some buyoutPrice
  | .contract (.deployEscrowToYield leaseId yieldProtocol deployAmount _) =>
      ∃ lease, tenancy.leases.lookup leaseId = some lease ∧
        Deployable tenancy.toWorld yieldProtocol deployAmount lease
  | .contract (.withdrawFromYield leaseId maxSlippageBps) =>
      ∃ deployment lease withdrawnAmount,
        tenancy.yield.yieldDeployment leaseId = some deployment ∧ deployment.active = true ∧
        tenancy.leases.lookup leaseId = some lease ∧
        Returnable tenancy.toWorld maxSlippageBps deployment lease withdrawnAmount
  | .burnDerivedTokenHierarchy rootTokenId =>
      ∃ visits, tenancy.derived.hierarchySize rootTokenId = some visits ∧ visits ≤ u32Max
  | _ => False

theorem exposed_iff_alterable {operation : Operation} {tenancy : Tenancy}
    (unguarded : operation.unguarded = true) :
    tenancy.Exposed operation ↔ tenancy.Alterable operation := by
  cases operation with
  | contract call =>
      cases call with
      | activateLease => exact activateLease_exposed_iff
      | payRent => exact payRent_exposed_iff
      | setBuyoutPrice => exact setBuyoutPrice_exposed_iff
      | deployEscrowToYield => exact deployEscrowToYield_exposed_iff
      | withdrawFromYield => exact withdrawFromYield_exposed_iff
      | _ => cases unguarded
  | burnDerivedTokenHierarchy => exact burn_exposed_iff
  | _ => cases unguarded

/-- In any store, an operation changes something only with a mandate exactly when it can change
nothing. -/
theorem mandate_enforced_iff {operation : Operation} (unguarded : operation.unguarded = true)
    (tenancy : Tenancy) : tenancy.Enforces operation ↔ ¬ tenancy.Alterable operation :=
  (enforces_iff_not_exposed unguarded).trans (not_congr (exposed_iff_alterable unguarded))

/-- Where no lease is stored there is nothing to activate. -/
theorem freshWorld_enforces :
    (Tenancy.vacant freshWorld).Enforces (.contract (.activateLease "lease" ⟨2⟩)) := by
  refine (mandate_enforced_iff rfl _).mpr ?_
  rintro ⟨lease, stored, _⟩
  cases stored

/-- The lease of landlord 1 and tenant 2 in token 3, not active yet. -/
def proposedTenancy : Tenancy :=
  .vacant (LeaseFlow.step (LeaseFlow.callAt 50 (.createLease ⟨1⟩ ⟨2⟩ ⟨3⟩)) freshWorld)

/-- A stranger activates the lease by naming its tenant. -/
theorem proposedTenancy_not_enforced :
    ¬ ∀ (operation : Operation) (tenancy : Tenancy), operation.unguarded = true →
      tenancy.Enforces operation := by
  intro enforced
  have goes : ((Operation.contract (.activateLease "lease" ⟨2⟩)).body (unsignedLedger 60)).succeeds
      proposedTenancy = true := by
    decide +kernel
  have run := commits_attempt goes
  have rewritten : ((((Operation.contract (.activateLease "lease" ⟨2⟩)).body
      (unsignedLedger 60)).attempt proposedTenancy).symbols.lease "lease").map Lease.status ≠
        (proposedTenancy.symbols.lease "lease").map Lease.status := by
    decide +kernel
  have alters : proposedTenancy.Alters (((Operation.contract (.activateLease "lease" ⟨2⟩)).body
      (unsignedLedger 60)).attempt proposedTenancy) :=
    .inl (.inl ⟨"lease", fun same => rewritten (congrArg (Option.map Lease.status) same)⟩)
  obtain ⟨address, signed, _⟩ := enforced _ _ rfl _ _ run alters
  cases signed

end LeaseFlow.Access
