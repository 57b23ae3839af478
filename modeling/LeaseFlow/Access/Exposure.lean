import LeaseFlow.Access.Tenancy
import LeaseFlow.Safeguards.Admission

/-!
# Operations without a mandate

Six operations rewrite a stored lease, a deployment or a token and ask nobody for an
authorization; naming the landlord or the tenant is enough.  What the code enforces, whoever
signed the call and whatever the other contracts answer, is compared with who should have a say.
-/

set_option autoImplicit false

namespace LeaseFlow.Access

open Transaction Failure

/-- The operations in question. -/
def Operation.unguarded : Operation → Bool
  | .contract (.activateLease ..) => true
  | .contract (.payRent ..) => true
  | .contract (.setBuyoutPrice ..) => true
  | .contract (.deployEscrowToYield ..) => true
  | .contract (.withdrawFromYield ..) => true
  | .burnDerivedTokenHierarchy .. => true
  | _ => false

/-! ## What should be enforced -/

/-- A stored lease or deployment differs. -/
def Rewrites (world after : World) : Prop :=
  (∃ leaseId, after.symbols.lease leaseId ≠ world.symbols.lease leaseId) ∨
    (∃ leaseId, after.leases.lookup leaseId ≠ world.leases.lookup leaseId) ∨
    ∃ leaseId, after.yield.yieldDeployment leaseId ≠ world.yield.yieldDeployment leaseId

/-- A stored lease, deployment or token differs. -/
def Tenancy.Alters (before after : Tenancy) : Prop :=
  Rewrites before.toWorld after.toWorld ∨
    (∃ tokenId, after.access.accessToken tokenId ≠ before.access.accessToken tokenId) ∨
    ∃ tokenId, after.derived.derivedToken.lookup tokenId ≠
      before.derived.derivedToken.lookup tokenId

def Operation.symbolLease : Operation → Option Symbol
  | .contract (.activateLease leaseId _) => some leaseId
  | .contract (.payRent leaseId _) => some leaseId
  | .contract (.setBuyoutPrice leaseId _ _) => some leaseId
  | _ => none

def Operation.leaseInstance : Operation → Option LeaseId
  | .contract (.deployEscrowToYield leaseId _ _ _) => some leaseId
  | .contract (.withdrawFromYield leaseId _) => some leaseId
  | _ => none

/-- Who has a say in the operation: the stored admin, the parties of the lease it is about, and
the holder of the token it burns, of the parent of that token, and the parties of its lease. -/
inductive Tenancy.Entitled (tenancy : Tenancy) : Operation → Address → Prop where
  | admin {operation : Operation} {address : Address}
      (stored : tenancy.config.admin = some address) : tenancy.Entitled operation address
  | symbolParty {operation : Operation} {leaseId : Symbol} {lease : Lease} {address : Address}
      (about : operation.symbolLease = some leaseId)
      (stored : tenancy.symbols.lease leaseId = some lease)
      (party : address = lease.landlord ∨ address = lease.tenant) :
      tenancy.Entitled operation address
  | party {operation : Operation} {leaseId : LeaseId} {lease : LeaseInstance} {address : Address}
      (about : operation.leaseInstance = some leaseId)
      (stored : tenancy.leases.lookup leaseId = some lease)
      (party : address = lease.landlord ∨ address = lease.tenant) :
      tenancy.Entitled operation address
  | holder {rootTokenId : U128} {token : DerivedAccessToken}
      (stored : tenancy.derived.derivedToken.lookup rootTokenId = some token) :
      tenancy.Entitled (.burnDerivedTokenHierarchy rootTokenId) token.sublessee
  | parentHolder {rootTokenId : U128} {token : DerivedAccessToken} {parent : LesseeAccessToken}
      (stored : tenancy.derived.derivedToken.lookup rootTokenId = some token)
      (above : tenancy.access.accessToken token.parentTokenId = some parent) :
      tenancy.Entitled (.burnDerivedTokenHierarchy rootTokenId) parent.lessee
  | rootParty {rootTokenId : U128} {token : DerivedAccessToken} {lease : LeaseInstance}
      {address : Address}
      (stored : tenancy.derived.derivedToken.lookup rootTokenId = some token)
      (let_ : tenancy.leases.lookup token.rootLeaseId = some lease)
      (party : address = lease.landlord ∨ address = lease.tenant) :
      tenancy.Entitled (.burnDerivedTokenHierarchy rootTokenId) address

/-- Whoever signs and whatever the other contracts answer, a call that goes through and changes
something was authorized by somebody with a say. -/
def Tenancy.Enforces (operation : Operation) (tenancy : Tenancy) : Prop :=
  ∀ (env : Env) after, Commits (operation.body env) tenancy () after → tenancy.Alters after →
    ∃ address, env.authorised address = true ∧ tenancy.Entitled operation address

/-! ## What the code lets through -/

/-- On some ledger the operation goes through and changes something. -/
def Tenancy.Exposed (operation : Operation) (tenancy : Tenancy) : Prop :=
  ∃ env after, Commits (operation.body env) tenancy () after ∧ tenancy.Alters after

def unsigned (env : Env) : Env :=
  { env with authorised := fun _ => false }

theorem recursiveBurnInternal_unsigned (env : Env) (reason : RevocationReason) (levels : Nat) :
    recursiveBurnInternal (unsigned env) reason levels = recursiveBurnInternal env reason levels := by
  induction levels with
  | zero => rfl
  | succ levels ih =>
      funext tokenId counts
      simp only [recursiveBurnInternal, ih]
      rfl

theorem Operation.body_unsigned {operation : Operation} (unguarded : operation.unguarded = true)
    (env : Env) : operation.body (unsigned env) = operation.body env := by
  cases operation with
  | contract call =>
      cases call with
      | activateLease | payRent | setBuyoutPrice | deployEscrowToYield | withdrawFromYield => rfl
      | _ => cases unguarded
  | burnDerivedTokenHierarchy rootTokenId =>
      simp only [Operation.body, recursiveBurnHierarchy, recursiveBurnInternal_unsigned]
      rfl
  | _ => cases unguarded

/-- An operation that asks nobody enforces a mandate only where it can change nothing. -/
theorem enforces_iff_not_exposed {operation : Operation} {tenancy : Tenancy}
    (unguarded : operation.unguarded = true) :
    tenancy.Enforces operation ↔ ¬ tenancy.Exposed operation := by
  constructor
  · rintro enforces ⟨env, after, run, alters⟩
    rw [← Operation.body_unsigned unguarded] at run
    obtain ⟨_, signed, _⟩ := enforces (unsigned env) after run alters
    cases signed
  · intro covered env after run alters
    exact absurd ⟨env, after, run, alters⟩ covered

/-! ## Symbol-keyed leases -/

section Symbols

variable {env : Env} {world after : World} {tenancy : Tenancy} {leaseId : Symbol}
  {lease next : Lease}

/-- A call other than a regular termination is exposed where it rewrites the contract's store. -/
theorem exposed_contract_iff {call : LeaseFlow.Call}
    (plain : ∀ env, contractBody env call = inWorld (dispatch env call)) :
    tenancy.Exposed (.contract call) ↔
      ∃ env after, Commits (dispatch env call) tenancy.toWorld () after ∧
        Rewrites tenancy.toWorld after := by
  simp only [Tenancy.Exposed, Operation.body, plain, commits_raising, commits_inWorld]
  constructor
  · rintro ⟨env, _, ⟨after, run, rfl⟩, rewrites | ⟨_, same⟩ | ⟨_, same⟩⟩
    · exact ⟨env, after, run, rewrites⟩
    · exact absurd rfl same
    · exact absurd rfl same
  · rintro ⟨env, after, run, rewrites⟩
    exact ⟨env, _, ⟨after, run, rfl⟩, .inl rewrites⟩

/-- One symbol-keyed lease was stored, and no instance or deployment. -/
structure SavesSymbol (leaseId : Symbol) (next : Lease) (world after : World) : Prop where
  lease : after.symbols.lease = Function.update world.symbols.lease leaseId (some next)
  leases : after.leases = world.leases
  yield : after.yield = world.yield

theorem SavesSymbol.rewrites_iff (saves : SavesSymbol leaseId next world after)
    (stored : world.symbols.lease leaseId = some lease) : Rewrites world after ↔ next ≠ lease := by
  rw [Rewrites, saves.lease, saves.leases, saves.yield]
  constructor
  · rintro (⟨other, differs⟩ | ⟨_, same⟩ | ⟨_, same⟩) rfl
    · exact differs (congrFun (Function.update_eq_self_iff.mpr stored.symm) other)
    · exact same rfl
    · exact same rfl
  · intro differs
    refine .inl ⟨leaseId, ?_⟩
    rw [Function.update_self, stored]
    exact fun same => differs (Option.some.inj same)

theorem activateLease_saves {tenant : Address} {result : Symbol}
    (run : Commits (activateLease env leaseId tenant) world result after) :
    ∃ lease, world.symbols.lease leaseId = some lease ∧ lease.tenant = tenant ∧
      SavesSymbol leaseId { lease with status := .active } world after := by
  simp only [activateLease, loadLease, LeaseFlow.saveLease, updateSymbols, publish, commits_bind,
    commits_inspect, commits_expect, commits_demand, commits_modify, commits_pure] at run
  obtain ⟨lease, _, ⟨_, _, ⟨rfl, rfl⟩, stored, rfl⟩, _, _, ⟨named, rfl⟩, _, _, rfl, _, _, rfl, _,
    rfl⟩ := run
  exact ⟨lease, stored, named, rfl, rfl, rfl⟩

/-- A call that stores one symbol-keyed lease is exposed where it can store another one than
lies there. -/
theorem exposed_iff_of_saves {call : LeaseFlow.Call} {admits : World → Lease → Prop}
    {stores : Lease → Lease}
    (plain : ∀ env, contractBody env call = inWorld (dispatch env call))
    (saves : ∀ env world after, Commits (dispatch env call) world () after →
      ∃ lease, world.symbols.lease leaseId = some lease ∧ admits world lease ∧
        SavesSymbol leaseId (stores lease) world after)
    (goes : ∀ world lease, world.symbols.lease leaseId = some lease → admits world lease →
      ∃ after, Commits (dispatch (unsignedLedger 0) call) world () after) :
    tenancy.Exposed (.contract call) ↔
      ∃ lease, tenancy.symbols.lease leaseId = some lease ∧ admits tenancy.toWorld lease ∧
        stores lease ≠ lease := by
  rw [exposed_contract_iff plain]
  constructor
  · rintro ⟨env, after, run, rewrites⟩
    obtain ⟨lease, stored, admitted, saved⟩ := saves env _ after run
    exact ⟨lease, stored, admitted, (saved.rewrites_iff stored).mp rewrites⟩
  · rintro ⟨lease, stored, admitted, differs⟩
    obtain ⟨after, run⟩ := goes tenancy.toWorld lease stored admitted
    obtain ⟨again, found, _, saved⟩ := saves _ _ after run
    obtain rfl := Option.some.inj (stored.symm.trans found)
    exact ⟨_, after, run, (saved.rewrites_iff stored).mpr differs⟩

theorem activateLease_goes {tenant : Address}
    (stored : world.symbols.lease leaseId = some lease) (named : lease.tenant = tenant) :
    ∃ after, Commits (activateLease (unsignedLedger 0) leaseId tenant) world "active" after := by
  simp only [activateLease, loadLease, LeaseFlow.saveLease, updateSymbols, publish, commits_bind,
    commits_inspect, commits_expect, commits_demand, commits_modify, commits_pure]
  exact ⟨_, lease, _, ⟨_, _, ⟨rfl, rfl⟩, stored, rfl⟩, (), _, ⟨named, rfl⟩, (), _, rfl, (), _, rfl,
    trivial, rfl⟩

theorem activateLease_exposed_iff {tenant : Address} :
    tenancy.Exposed (.contract (.activateLease leaseId tenant)) ↔
      ∃ lease, tenancy.symbols.lease leaseId = some lease ∧ lease.tenant = tenant ∧
        lease.status ≠ .active := by
  have differs (lease : Lease) :
      { lease with status := .active } ≠ lease ↔ lease.status ≠ .active := by
    refine not_congr ⟨fun same => (congrArg Lease.status same).symm, fun active => ?_⟩
    rw [← active]
  simp only [← differs]
  refine @exposed_iff_of_saves tenancy leaseId (.activateLease leaseId tenant)
    (fun _ lease => lease.tenant = tenant) (fun lease => { lease with status := .active })
    (fun _ => rfl) (fun env world after run => ?_) fun world lease stored named => ?_
  · obtain ⟨result, run⟩ := (commits_dropResult _ _).mp run
    exact activateLease_saves run
  · obtain ⟨after, run⟩ := activateLease_goes stored named
    exact ⟨after, (commits_dropResult _ _).mpr ⟨_, run⟩⟩

theorem setBuyoutPrice_saves {landlord : Address} {buyoutPrice : I128} {result : Symbol}
    (run : Commits (setBuyoutPrice leaseId landlord buyoutPrice) world result after) :
    ∃ lease, world.symbols.lease leaseId = some lease ∧ lease.landlord = landlord ∧
      SavesSymbol leaseId { lease with buyoutPrice := some buyoutPrice } world after := by
  simp only [setBuyoutPrice, loadLease, LeaseFlow.saveLease, updateSymbols, commits_bind,
    commits_inspect, commits_expect, commits_demand, commits_modify, commits_pure] at run
  obtain ⟨lease, _, ⟨_, _, ⟨rfl, rfl⟩, stored, rfl⟩, _, _, ⟨named, rfl⟩, _, _, rfl, _, rfl⟩ := run
  exact ⟨lease, stored, named, rfl, rfl, rfl⟩

theorem setBuyoutPrice_goes {landlord : Address} {buyoutPrice : I128}
    (stored : world.symbols.lease leaseId = some lease) (named : lease.landlord = landlord) :
    ∃ after, Commits (setBuyoutPrice leaseId landlord buyoutPrice) world "buyout" after := by
  simp only [setBuyoutPrice, loadLease, LeaseFlow.saveLease, updateSymbols, commits_bind,
    commits_inspect, commits_expect, commits_demand, commits_modify, commits_pure]
  exact ⟨_, lease, _, ⟨_, _, ⟨rfl, rfl⟩, stored, rfl⟩, (), _, ⟨named, rfl⟩, (), _, rfl, trivial,
    rfl⟩

theorem setBuyoutPrice_exposed_iff {landlord : Address} {buyoutPrice : I128} :
    tenancy.Exposed (.contract (.setBuyoutPrice leaseId landlord buyoutPrice)) ↔
      ∃ lease, tenancy.symbols.lease leaseId = some lease ∧ lease.landlord = landlord ∧
        lease.buyoutPrice ≠ some buyoutPrice := by
  have differs (lease : Lease) : { lease with buyoutPrice := some buyoutPrice } ≠ lease ↔
      lease.buyoutPrice ≠ some buyoutPrice := by
    refine not_congr ⟨fun same => (congrArg Lease.buyoutPrice same).symm, fun priced => ?_⟩
    rw [← priced]
  simp only [← differs]
  refine @exposed_iff_of_saves tenancy leaseId (.setBuyoutPrice leaseId landlord buyoutPrice)
    (fun _ lease => lease.landlord = landlord)
    (fun lease => { lease with buyoutPrice := some buyoutPrice })
    (fun _ => rfl) (fun env world after run => ?_) fun world lease stored named => ?_
  · obtain ⟨result, run⟩ := (commits_dropResult _ _).mp run
    exact setBuyoutPrice_saves run
  · obtain ⟨after, run⟩ := setBuyoutPrice_goes stored named
    exact ⟨after, (commits_dropResult _ _).mpr ⟨_, run⟩⟩

/-! ### Rent -/

/-- A payment of rent can be counted. -/
structure RentCounts (world : World) (paymentAmount : I128) (lease : Lease) : Prop where
  active : lease.active = true
  allowed : world.config.allowedAsset lease.paymentToken = true
  range : i128Min ≤ lease.cumulativePayments + paymentAmount ∧
    lease.cumulativePayments + paymentAmount ≤ i128Max

/-- The record that stores a counted payment; a lease that is bought out is closed. -/
def afterPayment (counted : Lease) : Lease :=
  if counted.boughtOut = true then { counted with active := false, status := .terminated }
  else counted

theorem storePaidLease_saves {counted : Lease} {result : Unit}
    (run : Commits (storePaidLease env leaseId counted) world result after) :
    SavesSymbol leaseId (afterPayment counted) world after := by
  simp only [storePaidLease, LeaseFlow.saveLease, updateSymbols, commits_ite, commits_bind,
    commits_modify] at run
  unfold afterPayment
  split at run
  · next bought =>
      obtain ⟨_, middle, sent, rfl⟩ := run
      have lease : middle.symbols.lease = world.symbols.lease :=
        part_kept .symbolLeases sent (by simp)
      have leases : middle.leases = world.leases := part_kept .leases sent (by simp)
      have yield : middle.yield = world.yield := part_kept .yield sent (by simp)
      rw [if_pos bought]
      exact ⟨by rw [← lease], leases, yield⟩
  · next short =>
      rw [if_neg short, run]
      exact ⟨rfl, rfl, rfl⟩

theorem afterPayment_ne_iff {paymentAmount : I128} (active : lease.active = true) :
    afterPayment { lease with cumulativePayments :=
      lease.cumulativePayments + paymentAmount } ≠ lease ↔
      paymentAmount ≠ 0 ∨ lease.boughtOut = true := by
  constructor
  · intro differs
    by_contra nothing
    obtain ⟨rfl, short⟩ := not_or.mp nothing |>.imp_left not_not.mp
    refine differs ?_
    rw [Int.add_zero, afterPayment, if_neg short]
  · rintro paid same
    unfold afterPayment at same
    split at same
    · have closed := congrArg Lease.active same
      rw [active] at closed
      cases closed
    · next short =>
        have counted : lease.cumulativePayments + paymentAmount = lease.cumulativePayments :=
          congrArg Lease.cumulativePayments same
        have empty : paymentAmount = 0 := by
          exact Int.add_left_cancel (counted.trans (Int.add_zero _).symm)
        rcases paid with nonempty | bought
        · exact nonempty empty
        · rw [same] at short
          exact short bought

theorem payRent_saves {paymentAmount : I128} {result : Symbol}
    (run : Commits (payRent env leaseId paymentAmount) world result after) :
    ∃ lease, world.symbols.lease leaseId = some lease ∧ RentCounts world paymentAmount lease ∧
      SavesSymbol leaseId (afterPayment { lease with cumulativePayments :=
        lease.cumulativePayments + paymentAmount }) world after := by
  simp only [payRent, loadLease, commits_bind, commits_inspect, commits_expect, commits_demand,
    commits_requireKyc_iff, commits_requireStablecoin_iff, commits_checkedI128,
    commits_pure] at run
  obtain ⟨lease, _, ⟨_, _, ⟨rfl, rfl⟩, stored, rfl⟩, _, _, ⟨active, rfl⟩, _, _, ⟨_, rfl⟩, _, _,
    ⟨allowed, rfl⟩, _, _, ⟨range, rfl, rfl⟩, _, _, saved, _, rfl⟩ := run
  exact ⟨lease, stored, ⟨active, allowed, range⟩, storePaidLease_saves saved⟩

theorem storePaidLease_commits (counted : Lease) (world : World) :
    ∃ after, Commits (storePaidLease (unsignedLedger 0) leaseId counted) world () after := by
  simp only [storePaidLease, LeaseFlow.saveLease, updateSymbols, commits_ite, commits_bind,
    commits_modify]
  split
  · unfold sendLeaseNft
    split
    · simp only [transferNft, commits_bind, commits_demand, commits_modify]
      exact ⟨_, (), _, ⟨(), _, ⟨rfl, rfl⟩, rfl⟩, rfl⟩
    · exact ⟨_, (), _, (commits_pure _ _).mpr ⟨rfl, rfl⟩, rfl⟩
  · exact ⟨_, rfl⟩

theorem payRent_goes {paymentAmount : I128} (stored : world.symbols.lease leaseId = some lease)
    (counts : RentCounts world paymentAmount lease) :
    ∃ after, Commits (payRent (unsignedLedger 0) leaseId paymentAmount) world "paid" after := by
  obtain ⟨after, saved⟩ := @storePaidLease_commits leaseId { lease with cumulativePayments :=
    lease.cumulativePayments + paymentAmount } world
  refine ⟨after, ?_⟩
  simp only [payRent, loadLease, commits_bind, commits_inspect, commits_expect, commits_demand,
    commits_requireKyc_iff, commits_requireStablecoin_iff, commits_checkedI128, commits_pure]
  exact ⟨lease, _, ⟨_, _, ⟨rfl, rfl⟩, stored, rfl⟩, (), _, ⟨counts.active, rfl⟩, (), _,
    ⟨fun _ _ => ⟨rfl, rfl⟩, rfl⟩, (), _, ⟨counts.allowed, rfl⟩, _, _, ⟨counts.range, rfl, rfl⟩, (),
    _, saved, trivial, rfl⟩

theorem payRent_exposed_iff {paymentAmount : I128} :
    tenancy.Exposed (.contract (.payRent leaseId paymentAmount)) ↔
      ∃ lease, tenancy.symbols.lease leaseId = some lease ∧
        RentCounts tenancy.toWorld paymentAmount lease ∧
        (paymentAmount ≠ 0 ∨ lease.boughtOut = true) := by
  have exposed := @exposed_iff_of_saves tenancy leaseId (.payRent leaseId paymentAmount)
    (fun world lease => RentCounts world paymentAmount lease) (fun lease => afterPayment
      { lease with cumulativePayments := lease.cumulativePayments + paymentAmount })
    (fun _ => rfl) (fun env world after run => ?_) fun world lease stored counts => ?_
  · rw [exposed]
    refine exists_congr fun lease => and_congr_right fun _ => and_congr_right fun counts => ?_
    exact afterPayment_ne_iff counts.active
  · obtain ⟨result, run⟩ := (commits_dropResult _ _).mp run
    exact payRent_saves run
  · obtain ⟨after, run⟩ := payRent_goes stored counts
    exact ⟨after, (commits_dropResult _ _).mpr ⟨_, run⟩⟩

end Symbols

/-! ## Yield -/

section Yield

variable {env : Env} {world after : World} {tenancy : Tenancy} {leaseId : LeaseId}
  {yieldProtocol : Address} {deployAmount : I128} {maxSlippageBps : U32}

def Fits (value : Int) : Prop :=
  i128Min ≤ value ∧ value ≤ i128Max

/-- The amount can be taken from the deposit and from the liquidity buffer. -/
structure Deployable (world : World) (yieldProtocol : Address) (deployAmount : I128)
    (lease : LeaseInstance) : Prop where
  whitelisted : world.config.whitelistedYieldProtocol yieldProtocol = true
  covered : deployAmount ≤ lease.securityDeposit
  buffered : deployAmount ≤ world.config.liquidityBuffer.getD 0
  kept : Fits (lease.securityDeposit - deployAmount)
  adjusted : Fits (world.config.liquidityBuffer.getD 0 + -deployAmount)

/-- The protocol can return the amount for the deployment. -/
structure Returnable (world : World) (maxSlippageBps : U32) (deployment : YieldDeployment)
    (lease : LeaseInstance) (withdrawnAmount : I128) : Prop where
  principal : deployment.principalAmount ≤ withdrawnAmount
  slippage : minimumSwapOutput deployment.principalAmount maxSlippageBps ≤ withdrawnAmount
  restored : Fits (lease.securityDeposit + withdrawnAmount)
  adjusted : Fits (world.config.liquidityBuffer.getD 0 + withdrawnAmount)

/-- A ledger no one has signed, on which a protocol credits and returns the given amounts. -/
def obligingLedger (timestamp : U64) (lpTokens withdrawnAmount : I128) : Env :=
  { unsignedLedger timestamp with
    contracts := { agreeableContracts with
      yieldDeposit := fun _ _ => some lpTokens
      yieldWithdraw := fun _ _ => some withdrawnAmount } }

theorem liquidityBuffer_kept {α : Type} {body : Contract α} {value : α}
    (run : Commits body world value after) (writes : Writes (besides .settings) body) :
    after.config.liquidityBuffer = world.config.liquidityBuffer := by
  have same : { after.config with admin := none } = { world.config with admin := none } :=
    part_kept .settings run writes
  have buffers := congrArg ConfigStore.liquidityBuffer same
  exact buffers

theorem adjustLiquidityBuffer_fits {delta : I128} {result : Unit}
    (run : Commits (adjustLiquidityBuffer delta) world result after) :
    Fits (world.config.liquidityBuffer.getD 0 + delta) := by
  simp only [adjustLiquidityBuffer, getLiquidityBuffer, commits_bind, commits_inspect,
    commits_checkedI128] at run
  obtain ⟨_, _, ⟨rfl, rfl⟩, _, _, ⟨range, _⟩, _⟩ := run
  exact range

theorem deployEscrowToYield_deployable {result : Unit}
    (run : Commits (deployEscrowToYield env leaseId yieldProtocol deployAmount maxSlippageBps)
      world result after) :
    ∃ lease, world.leases.lookup leaseId = some lease ∧
      Deployable world yieldProtocol deployAmount lease := by
  simp only [deployEscrowToYield, verifyLiquidityBuffer, isYieldProtocolWhitelisted,
    getLiquidityBuffer, commits_bind, commits_loadLeaseInstanceById, commits_inspect,
    commits_require, commits_checkedI128] at run
  obtain ⟨lease, _, ⟨found, rfl⟩, _, _, ⟨rfl, rfl⟩, _, _, ⟨whitelisted, rfl⟩, _, _,
    ⟨covered, rfl⟩, _, _, ⟨_, _, ⟨rfl, rfl⟩, buffered, rfl⟩, _, _, deposited, rest⟩ := run
  obtain ⟨_, deployed, recorded, _, _, ⟨kept, rfl, rfl⟩, _, saved, stored, adjusted⟩ := rest
  simp only [depositToYield, commits_bind, commits_require, commits_expect,
    commits_pure] at deposited
  obtain ⟨_, _, ⟨_, rfl⟩, _, _, ⟨_, rfl⟩, rfl, rfl⟩ := deposited
  have fits := adjustLiquidityBuffer_fits adjusted
  rw [liquidityBuffer_kept stored (by simp), liquidityBuffer_kept recorded (by simp)] at fits
  exact ⟨lease, found, whitelisted, covered, buffered, kept, fits⟩

theorem deployEscrowToYield_obliged {lease : LeaseInstance} (timestamp : U64)
    (found : world.leases.lookup leaseId = some lease)
    (deployable : Deployable world yieldProtocol deployAmount lease) :
    ∃ after, Commits (deployEscrowToYield
        (obligingLedger timestamp (minimumSwapOutput deployAmount maxSlippageBps) 0) leaseId
        yieldProtocol deployAmount maxSlippageBps) world () after ∧
      (after.yield.yieldDeployment leaseId).map YieldDeployment.deploymentTimestamp =
        some timestamp := by
  simp only [deployEscrowToYield, depositToYield, verifyLiquidityBuffer, adjustLiquidityBuffer,
    isYieldProtocolWhitelisted, getLiquidityBuffer, saveYieldDeployment, saveLeaseInstance,
    updateYield, setLiquidityBuffer, updateConfig, commits_bind, commits_loadLeaseInstanceById,
    commits_inspect, commits_require, commits_checkedI128, commits_expect, commits_modify,
    commits_pure]
  refine ⟨_, ⟨lease, _, ⟨found, rfl⟩, _, _, ⟨rfl, rfl⟩, (), _, ⟨deployable.whitelisted, rfl⟩, (),
    _, ⟨deployable.covered, rfl⟩, (), _, ⟨_, _, ⟨rfl, rfl⟩, deployable.buffered, rfl⟩, _, _,
    ⟨_, _, ⟨rfl, rfl⟩, (), _, ⟨le_refl _, rfl⟩, rfl, rfl⟩, (), _, rfl, _, _,
    ⟨deployable.kept, rfl, rfl⟩, (), _, rfl, _, _, ⟨rfl, rfl⟩, _, _,
    ⟨deployable.adjusted, rfl, rfl⟩, rfl⟩, ?_⟩
  simp [obligingLedger, unsignedLedger, openLedger]

theorem deployEscrowToYield_exposed_iff :
    tenancy.Exposed (.contract (.deployEscrowToYield leaseId yieldProtocol deployAmount
      maxSlippageBps)) ↔
      ∃ lease, tenancy.leases.lookup leaseId = some lease ∧
        Deployable tenancy.toWorld yieldProtocol deployAmount lease := by
  rw [exposed_contract_iff fun _ => rfl]
  constructor
  · rintro ⟨env, after, run, _⟩
    exact deployEscrowToYield_deployable run
  · rintro ⟨lease, found, deployable⟩
    -- a deployment is stamped with the ledger time, so some ledger stores another one
    let timestamp := ((tenancy.yield.yieldDeployment leaseId).map
      (·.deploymentTimestamp + 1)).getD 0
    obtain ⟨after, run, stamped⟩ := @deployEscrowToYield_obliged tenancy.toWorld leaseId
      yieldProtocol deployAmount maxSlippageBps lease timestamp found deployable
    refine ⟨_, after, run, .inr (.inr ⟨leaseId, fun same => ?_⟩)⟩
    rw [same] at stamped
    cases stored : tenancy.yield.yieldDeployment leaseId with
    | none =>
        rw [stored] at stamped
        cases stamped
    | some deployment => simp [timestamp, stored] at stamped

theorem withdrawFromYield_returnable {result : Unit}
    (run : Commits (withdrawFromYield env leaseId maxSlippageBps) world result after) :
    ∃ deployment lease withdrawnAmount,
      world.yield.yieldDeployment leaseId = some deployment ∧ deployment.active = true ∧
      world.leases.lookup leaseId = some lease ∧
      Returnable world maxSlippageBps deployment lease withdrawnAmount := by
  simp only [withdrawFromYield, loadActiveDeployment, commits_bind,
    commits_loadLeaseInstanceById, commits_inspect, commits_okOr, commits_require,
    commits_checkedI128, commits_expect, commits_pure] at run
  obtain ⟨deployment, _, ⟨_, _, ⟨rfl, rfl⟩, _, _, ⟨stored, rfl⟩, _, _, ⟨active, rfl⟩, rfl, rfl⟩,
    withdrawnAmount, _, ⟨_, rfl⟩, _, _, ⟨principal, rfl⟩, _, _, ⟨slippage, rfl⟩, rest⟩ := run
  obtain ⟨lease, _, ⟨found, rfl⟩, _, _, ⟨restored, rfl, rfl⟩, _, saved, kept, _, closed, recorded,
    adjusted⟩ := rest
  have fits := adjustLiquidityBuffer_fits adjusted
  rw [liquidityBuffer_kept recorded (by simp), liquidityBuffer_kept kept (by simp)] at fits
  exact ⟨deployment, lease, withdrawnAmount, stored, active, found,
    ⟨principal, slippage, restored, fits⟩⟩

theorem withdrawFromYield_obliged {deployment : YieldDeployment} {lease : LeaseInstance}
    {withdrawnAmount : I128} (stored : world.yield.yieldDeployment leaseId = some deployment)
    (active : deployment.active = true) (found : world.leases.lookup leaseId = some lease)
    (returnable : Returnable world maxSlippageBps deployment lease withdrawnAmount) :
    ∃ after, Commits (withdrawFromYield (obligingLedger 0 0 withdrawnAmount) leaseId
        maxSlippageBps) world () after ∧
      (after.yield.yieldDeployment leaseId).map YieldDeployment.active = some false := by
  simp only [withdrawFromYield, loadActiveDeployment, adjustLiquidityBuffer, getLiquidityBuffer,
    saveYieldDeployment, saveLeaseInstance, updateYield, setLiquidityBuffer, updateConfig,
    commits_bind, commits_loadLeaseInstanceById, commits_inspect, commits_okOr, commits_require,
    commits_checkedI128, commits_expect, commits_modify, commits_pure]
  refine ⟨_, ⟨deployment, _, ⟨_, _, ⟨rfl, rfl⟩, _, _, ⟨stored, rfl⟩, (), _, ⟨active, rfl⟩, rfl,
    rfl⟩, withdrawnAmount, _, ⟨rfl, rfl⟩, (), _, ⟨returnable.principal, rfl⟩, (), _,
    ⟨returnable.slippage, rfl⟩, lease, _, ⟨found, rfl⟩, _, _, ⟨returnable.restored, rfl, rfl⟩,
    (), _, rfl, (), _, rfl, _, _, ⟨rfl, rfl⟩, _, _, ⟨returnable.adjusted, rfl, rfl⟩, rfl⟩, ?_⟩
  simp

theorem withdrawFromYield_exposed_iff :
    tenancy.Exposed (.contract (.withdrawFromYield leaseId maxSlippageBps)) ↔
      ∃ deployment lease withdrawnAmount,
        tenancy.yield.yieldDeployment leaseId = some deployment ∧ deployment.active = true ∧
        tenancy.leases.lookup leaseId = some lease ∧
        Returnable tenancy.toWorld maxSlippageBps deployment lease withdrawnAmount := by
  rw [exposed_contract_iff fun _ => rfl]
  constructor
  · rintro ⟨env, after, run, _⟩
    exact withdrawFromYield_returnable run
  · rintro ⟨deployment, lease, withdrawnAmount, stored, active, found, returnable⟩
    obtain ⟨after, run, closed⟩ := withdrawFromYield_obliged stored active found returnable
    refine ⟨_, after, run, .inr (.inr ⟨leaseId, fun same => ?_⟩)⟩
    rw [same, stored, Option.map_some, active] at closed
    cases closed

end Yield

end LeaseFlow.Access
