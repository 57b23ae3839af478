import LeaseFlow.Dunning.Growth
import LeaseFlow.Foundations.Register

/-!
# The events of the contract

Every operation but `initialize` publishes what it changes of the dunning of a lease, of the vault
and of the credit records; a payment on an active lease publishes nothing, and changes nothing of
these.  Whoever has the events has the contract up to the last one.
-/

set_option autoImplicit false

namespace LeaseFlow.Dunning

open Transaction Run Table

/-! ## The account of a reader -/

/-- What is published of a lease. -/
structure Standing where
  lessor : Address
  lessee : Address
  rentAmount : I64
  depositAmount : I64
  startDate : U64
  endDate : U64
  maxGracePeriod : U64
  lateFeeRate : U32
  state : LeaseState
  dunningStartTimestamp : Option U64
  outstandingBalance : I64
  accumulatedLateFees : I64
  arrearsProcessed : Bool
  lastOraclePrice : Option I128

def Lease.standing (lease : Lease) : Standing where
  lessor := lease.lessor
  lessee := lease.lessee
  rentAmount := lease.rentAmount
  depositAmount := lease.depositAmount
  startDate := lease.startDate
  endDate := lease.endDate
  maxGracePeriod := lease.maxGracePeriod
  lateFeeRate := lease.lateFeeRate
  state := lease.state
  dunningStartTimestamp := lease.dunningStartTimestamp
  outstandingBalance := lease.outstandingBalance
  accumulatedLateFees := lease.accumulatedLateFees
  arrearsProcessed := lease.arrearsProcessed
  lastOraclePrice := lease.lastOraclePrice

/-- The contract as its readers see it. -/
structure Account where
  standing : U64 → Option Standing
  nextLeaseId : U64
  escrowVault : EscrowVault
  creditRecord : Address → Option ProtocolCreditRecord

def ContractData.account (data : ContractData) : Account where
  standing leaseId := (data.leases.lookup leaseId).map Lease.standing
  nextLeaseId := data.nextLeaseId
  escrowVault := data.escrowVault
  creditRecord lessee := data.creditRecords.lookup lessee

def Account.blank : Account :=
  ⟨fun _ => none, 1, ⟨0, 0, 0⟩, fun _ => none⟩

def Store.account (store : Store) : Account :=
  store.data.elim .blank ContractData.account

namespace Account

def put (leaseId : U64) (standing : Standing) (account : Account) : Account :=
  { account with standing := Function.update account.standing leaseId (some standing) }

/-- A change that needs to know how the lease stands. -/
def follow (leaseId : U64) (change : Standing → Account → Account) (account : Account) : Account :=
  (account.standing leaseId).elim account fun standing => change standing account

def amend (leaseId : U64) (change : Standing → Standing) : Account → Account :=
  follow leaseId fun standing => put leaseId (change standing)

def deposit (amount : I64) (account : Account) : Account :=
  { account with
    escrowVault := { account.escrowVault with
      totalLocked := account.escrowVault.totalLocked + amount
      availableBalance := account.escrowVault.availableBalance + amount } }

def slash (deductedAmount remainingEscrowBalance : I64) (account : Account) : Account :=
  { account with
    escrowVault := { account.escrowVault with
      availableBalance := remainingEscrowBalance
      lessorTreasury := account.escrowVault.lessorTreasury + deductedAmount } }

/-- A debt that the deposit leaves enters the record of the lessee. -/
def charge (timestamp : U64) (lessee : Address) (residualDebt : I64) (leaseId : U64)
    (account : Account) : Account :=
  if residualDebt > 0 then
    let record := (account.creditRecord lessee).getD ⟨lessee, 0, 0, 0, []⟩
    { account with
      creditRecord := Function.update account.creditRecord lessee (some
        { record with
          totalDebtAmount := record.totalDebtAmount + residualDebt
          defaultCount := record.defaultCount + 1
          lastDefaultTimestamp := timestamp
          associatedLeaseIds := associate leaseId record.associatedLeaseIds }) }
  else account

end Account

/-- What a reader of the events writes down for one of them.  The time of a default is that of
the eviction: the start of the dunning and the unpaid duration. -/
def Event.tell : Event → Account → Account
  | .leaseCreated leaseId lessor lessee rentAmount depositAmount startDate endDate maxGracePeriod
      lateFeeRate, account =>
      { account.put leaseId ⟨lessor, lessee, rentAmount, depositAmount, startDate, endDate,
          maxGracePeriod, lateFeeRate, .pending, none, 0, 0, false, none⟩ with
        nextLeaseId := leaseId + 1 }
  | .leaseActivated leaseId _, account =>
      account.follow leaseId fun standing account =>
        (account.deposit standing.depositAmount).put leaseId { standing with state := .active }
  | .rentDelinquencyStarted leaseId dunningStartTimestamp _ outstandingAmount lateFeeAmount,
      account =>
      account.amend leaseId fun standing =>
        { standing with
          state := .gracePeriod, dunningStartTimestamp := some dunningStartTimestamp,
          outstandingBalance := outstandingAmount, accumulatedLateFees := lateFeeAmount }
  | .leaseRecovered leaseId _ _ _, account =>
      account.amend leaseId fun standing =>
        { standing with
          state := .active, dunningStartTimestamp := none, outstandingBalance := 0,
          accumulatedLateFees := 0 }
  | .evictionPending leaseId _ _, account =>
      account.amend leaseId fun standing => { standing with state := .evictionPending }
  | .depositSlashedForArrears leaseId unpaidDuration deductedAmount remainingEscrowBalance
      residualDebt, account =>
      account.follow leaseId fun standing account =>
        (((account.slash deductedAmount remainingEscrowBalance).charge
          (standing.dunningStartTimestamp.getD 0 + unpaidDuration) standing.lessee residualDebt
            leaseId).put leaseId { standing with arrearsProcessed := true })
  | .proratedRentCalculated leaseId _ _ _ calculationType, account =>
      if calculationType = "termination" then
        account.amend leaseId fun standing => { standing with state := .closed }
      else account
  | .fiatPeggedRentBilled leaseId _ oracleExchangeRate _ _ _, account =>
      account.amend leaseId fun standing =>
        { standing with lastOraclePrice := some oracleExchangeRate }

/-- The events published between the two states tell what has changed of the account. -/
abbrev Announced (before after : Store) : Prop :=
  Register.Announced Store.events Store.account Event.tell before after

/-! ## What each operation publishes -/

section Announcing

variable {env : Env} {store after : Store} {data : ContractData} {leaseId : U64} {lease : Lease}

theorem Store.account_of_stored (stored : store.data = some data) :
    store.account = data.account := by
  rw [account, stored]
  rfl

theorem ContractData.account_put (data : ContractData) (leaseId : U64) (lease : Lease) :
    (data.put leaseId lease).account = data.account.put leaseId lease.standing := by
  have standings : (data.put leaseId lease).account.standing =
      Function.update data.account.standing leaseId (some lease.standing) :=
    map_lookup_set Lease.standing data.leases leaseId lease
  unfold Account.put
  rw [← standings]
  rfl

theorem ContractData.account_follow (found : data.leases.lookup leaseId = some lease)
    (change : Standing → Account → Account) :
    data.account.follow leaseId change = change lease.standing data.account := by
  have standing : data.account.standing leaseId = some lease.standing :=
    congrArg (Option.map Lease.standing) found
  rw [Account.follow, standing, Option.elim_some]

theorem ContractData.account_amend (found : data.leases.lookup leaseId = some lease)
    (change : Standing → Standing) :
    data.account.amend leaseId change = data.account.put leaseId (change lease.standing) :=
  account_follow found _

theorem ContractData.account_same {record : Lease}
    (found : data.leases.lookup leaseId = some lease) (same : record.standing = lease.standing) :
    (data.put leaseId record).account = data.account := by
  have standing : data.account.standing leaseId = some lease.standing :=
    congrArg (Option.map Lease.standing) found
  rw [account_put, same, Account.put, ← standing, Function.update_eq_self]

theorem ContractData.account_charge {records : Table Address ProtocolCreditRecord}
    {lessee : Address} {residualDebt : I64}
    (tracked : trackResidualDebt env data lessee residualDebt leaseId = some records) :
    (data.withCreditRecords records).account =
      data.account.charge env.timestamp lessee residualDebt leaseId := by
  unfold trackResidualDebt at tracked
  unfold Account.charge
  split
  · next debt =>
      rw [if_pos debt] at tracked
      rw [updateCreditRecord_eq tracked]
      exact congrArg (fun written => { data.account with creditRecord := written })
        (lookup_set_eq_update data.creditRecords lessee (some _))
  · next covered =>
      rw [if_neg covered] at tracked
      cases tracked
      rfl

theorem announced_of_tell {later : ContractData} {event : Event} (stored : store.data = some data)
    (told : later.account = event.tell data.account) :
    Announced store ⟨some later, event :: store.events⟩ := by
  refine ⟨[event], rfl, ?_⟩
  rw [List.foldr_cons, List.foldr_nil, Store.account_of_stored stored]
  exact told

theorem announced_put {record : Lease} {event : Event} {change : Standing → Standing}
    (stored : store.data = some data) (found : data.leases.lookup leaseId = some lease)
    (tells : event.tell data.account = data.account.amend leaseId change)
    (changed : record.standing = change lease.standing) :
    Announced store ⟨some (data.put leaseId record), event :: store.events⟩ := by
  apply announced_of_tell stored
  rw [tells, ContractData.account_amend found, ← changed]
  exact data.account_put leaseId record

theorem createLease_announces {lessor lessee : Address} {rentAmount depositAmount : I64}
    {startDate endDate maxGracePeriod : U64} {lateFeeRate : U32} {propertyUri : List UInt8}
    {fiatPegConfig : Option FiatPegConfig}
    (run : Commits (createLease env lessor lessee rentAmount depositAmount startDate endDate
      maxGracePeriod lateFeeRate propertyUri fiatPegConfig) store leaseId after) :
    Announced store after := by
  simp [createLease] at run
  obtain ⟨_, _, _, data, stored, prorated, _, _, rfl, rfl⟩ := run
  apply announced_of_tell stored
  exact congrArg (fun account : Account =>
    { account with nextLeaseId := data.nextLeaseId + 1 }) (data.account_put data.nextLeaseId _)

theorem publishIf_announces {condition : Prop} [Decidable condition] {event : Event}
    (run : Commits (publishIf condition event) store () after)
    (idle : ∀ account, event.tell account = account) :
    after.data = store.data ∧ Announced store after := by
  unfold publishIf at run
  split at run
  · rw [(commits_publish event ()).mp run]
    exact ⟨rfl, [event], rfl, (idle store.account).symm⟩
  · rw [((commits_pure _ _).mp run).2]
    exact ⟨rfl, Register.announced_refl store⟩

theorem activateLease_announces {lessee : Address}
    (run : Commits (activateLease env leaseId lessee) store () after) : Announced store after := by
  simp only [activateLease, commits_bind, commits_load, commits_leaseOf, commits_ensure,
    commits_compute, commits_save, commits_publish] at run
  obtain ⟨data, _, ⟨stored, rfl⟩, lease, _, ⟨found, rfl⟩, _, _, ⟨party, rfl⟩, _, _,
    ⟨pending, rfl⟩, totalLocked, _, ⟨locked, rfl⟩, availableBalance, _, ⟨available, rfl⟩, _, middle,
    prorated, _, _, rfl, rfl⟩ := run
  obtain ⟨_, rfl⟩ := Checked.within_eq_some.mp locked
  obtain ⟨_, rfl⟩ := Checked.within_eq_some.mp available
  obtain ⟨same, announced⟩ := publishIf_announces prorated fun account => by simp [Event.tell]
  refine Register.announced_trans _ _ _ announced (announced_of_tell (same.trans stored) ?_)
  rw [Event.tell, ContractData.account_follow found]
  exact ContractData.account_put _ leaseId (lease.activate env.timestamp)

theorem payActiveLease_announces {amount : I64} (stored : store.data = some data)
    (found : data.leases.lookup leaseId = some lease) (clear : lease.Clear)
    (run : Commits (payActiveLease env data leaseId lease amount) store () after) :
    Announced store after := by
  simp only [payActiveLease, commits_bind, commits_compute, commits_save] at run
  obtain ⟨totalPaidRent, _, ⟨total, rfl⟩, rfl⟩ := run
  refine ⟨[], rfl, ?_⟩
  rw [List.foldr_nil, Store.account_of_stored stored]
  apply ContractData.account_same found
  simp only [Lease.standing, Lease.pay, clear.outstanding, clear.lateFees]

theorem recoverLease_announces {amount : I64} (stored : store.data = some data)
    (found : data.leases.lookup leaseId = some lease)
    (run : Commits (recoverLease env data leaseId lease amount) store () after) :
    Announced store after := by
  simp only [recoverLease, commits_bind, commits_compute, commits_ensure, commits_save,
    commits_publish] at run
  obtain ⟨totalRequired, _, ⟨required, rfl⟩, _, _, ⟨enough, rfl⟩, totalPaidRent, _,
    ⟨total, rfl⟩, _, _, rfl, rfl⟩ := run
  exact announced_put stored found rfl rfl

theorem processRentPayment_announces {amount : I64}
    (consistent : ∀ lease, leaseAt leaseId store.data = some lease → lease.Consistent)
    (run : Commits (processRentPayment env leaseId amount) store () after) :
    Announced store after := by
  simp only [processRentPayment, commits_bind, commits_load, commits_leaseOf,
    commits_ensure] at run
  obtain ⟨data, _, ⟨stored, rfl⟩, lease, _, ⟨found, rfl⟩, _, _, ⟨enough, rfl⟩, run⟩ := run
  cases state : lease.state with
  | active =>
      rw [state] at run
      have settled : ¬ lease.Overdue := Lease.not_overdue state (by decide)
      have clear := (consistent lease (by rw [stored]; exact found)).clear settled
      exact payActiveLease_announces stored found clear run
  | gracePeriod =>
      rw [state] at run
      exact recoverLease_announces stored found run
  | pending | evictionPending | closed =>
      rw [state] at run
      exact absurd run (commits_throw _ _)

theorem handleRentPaymentFailure_announces
    (run : Commits (handleRentPaymentFailure env leaseId) store () after) :
    Announced store after := by
  simp only [handleRentPaymentFailure, commits_bind, commits_load, commits_leaseOf,
    commits_ensure, commits_orReturn, commits_compute, commits_save, commits_publish] at run
  obtain ⟨data, _, ⟨stored, rfl⟩, lease, _, ⟨found, rfl⟩, _, _, ⟨active, rfl⟩, lateFeeAmount, _,
    ⟨lateFee, rfl⟩, gracePeriodEnd, _, ⟨within, rfl⟩, _, _, rfl, rfl⟩ := run
  exact announced_put stored found rfl rfl

theorem executeArrearsDeduction_announces {dunningStart : U64} (stored : store.data = some data)
    (found : data.leases.lookup leaseId = some lease)
    (dunning : lease.dunningStartTimestamp = some dunningStart)
    (started : dunningStart ≤ env.timestamp)
    (run : Commits (executeArrearsDeduction env leaseId) store () after) :
    Announced store after := by
  simp [executeArrearsDeduction, stored, found, dunning] at run
  obtain ⟨evicted, unprocessed, totalArrears, arrears, deductionAmount,
    amount, funded, availableBalance, available, lessorTreasury, treasury, creditRecords, tracked,
    rfl⟩ := run
  obtain ⟨_, rfl⟩ := Checked.within_eq_some.mp treasury
  have defaulted : lease.standing.dunningStartTimestamp.getD 0 + (env.timestamp - dunningStart) =
      env.timestamp := by
    rw [Lease.standing, dunning, Option.getD_some]
    exact Nat.add_sub_cancel' started
  apply announced_of_tell stored
  rw [Event.tell, ContractData.account_follow found, defaulted]
  refine (ContractData.account_put _ leaseId lease.processArrears).trans ?_
  refine congrArg (Account.put leaseId lease.processArrears.standing) ?_
  exact ContractData.account_charge tracked

theorem evictLease_announces {dunningStart : U64} (stored : store.data = some data)
    (found : data.leases.lookup leaseId = some lease)
    (dunning : lease.dunningStartTimestamp = some dunningStart)
    (started : dunningStart ≤ env.timestamp)
    (run : Commits (evictLease env data leaseId lease) store () after) : Announced store after := by
  simp only [evictLease, commits_bind, commits_compute, commits_publish, commits_save] at run
  obtain ⟨totalOutstanding, _, ⟨outstanding, rfl⟩, _, _, rfl, _, _, rfl, deduction⟩ := run
  -- The deduction finds the lease that has just been saved as evicted.
  have again : (data.put leaseId lease.evict).leases.lookup leaseId = some lease.evict :=
    lookup_set_self _ _ _
  have slashed := executeArrearsDeduction_announces rfl again dunning started deduction
  refine Register.announced_trans _ _ _ ?_ slashed
  exact announced_put stored found rfl rfl

theorem checkGracePeriodExpiry_announces
    (run : Commits (checkGracePeriodExpiry env leaseId) store () after) :
    Announced store after := by
  simp only [checkGracePeriodExpiry, commits_bind, commits_load, commits_leaseOf] at run
  obtain ⟨data, _, ⟨stored, rfl⟩, lease, _, ⟨found, rfl⟩, run⟩ := run
  split at run
  · simp only [expireGracePeriod, commits_bind, commits_fetch, commits_compute] at run
    obtain ⟨dunningStart, _, ⟨dunning, rfl⟩, gracePeriodEnd, _, ⟨within, rfl⟩, run⟩ := run
    obtain ⟨_, rfl⟩ := Checked.upTo_eq_some.mp within
    split at run
    · next expired =>
        have started : dunningStart ≤ env.timestamp := by
          apply le_trans (Nat.le_add_right dunningStart lease.maxGracePeriod)
          exact expired.le
        exact evictLease_announces stored found dunning started run
    · rw [((commits_pure _ _).mp run).2]
      exact Register.announced_refl _
  · rw [((commits_pure _ _).mp run).2]
    exact Register.announced_refl _

theorem triggerGracePeriodCheck_announces {caller : Address}
    (run : Commits (triggerGracePeriodCheck env leaseId caller) store () after) :
    Announced store after := by
  simp only [triggerGracePeriodCheck, commits_bind, commits_load, commits_leaseOf,
    commits_ensure] at run
  obtain ⟨data, _, ⟨stored, rfl⟩, lease, _, ⟨found, rfl⟩, _, _, ⟨lessor, rfl⟩, run⟩ := run
  exact checkGracePeriodExpiry_announces run

theorem processFiatPeggedRentPayment_announces
    (run : Commits (processFiatPeggedRentPayment env leaseId) store () after) :
    Announced store after := by
  simp only [processFiatPeggedRentPayment, commits_bind, commits_load, commits_leaseOf,
    commits_ensure, commits_fetch, commits_compute, commits_publish, commits_save] at run
  obtain ⟨data, _, ⟨stored, rfl⟩, lease, _, ⟨found, rfl⟩, _, _, ⟨active, rfl⟩, config, _,
    ⟨pegged, rfl⟩, _, _, ⟨enabled, rfl⟩, amount, _, billed, recorded, _, quoted, totalPaidRent, _,
    ⟨total, rfl⟩, _, _, rfl, rfl⟩ := run
  obtain ⟨price, first, bill, rfl⟩ := calculateFiatPeggedRent_bill pegged enabled billed
  obtain ⟨second, rfl⟩ := getOraclePrice_quote pegged quoted
  exact announced_put stored found rfl rfl

theorem terminateLease_announces {caller : Address} {refundAmount : I64}
    (run : Commits (terminateLease env leaseId caller) store refundAmount after) :
    Announced store after := by
  simp only [terminateLease, commits_bind, commits_load, commits_leaseOf, commits_ensure,
    commits_compute, commits_publish, commits_save, commits_pure] at run
  obtain ⟨data, _, ⟨stored, rfl⟩, lease, _, ⟨found, rfl⟩, _, _, ⟨party, rfl⟩, _, _,
    ⟨active, rfl⟩, refund, _, ⟨refunded, rfl⟩, _, _, rfl, _, _, rfl, rfl, rfl⟩ := run
  exact announced_put stored found rfl rfl

/-- In a reachable state the deduction by itself never goes through: an evicted lease has had
its arrears processed with the eviction. -/
theorem executeArrearsDeduction_refused
    (consistent : ∀ lease, leaseAt leaseId store.data = some lease → lease.Consistent) :
    ¬ Commits (executeArrearsDeduction env leaseId) store () after := by
  intro run
  have loaded := run
  simp only [executeArrearsDeduction, commits_bind, commits_load, commits_leaseOf] at loaded
  obtain ⟨data, _, ⟨stored, rfl⟩, lease, _, ⟨found, rfl⟩, _⟩ := loaded
  obtain ⟨evicted, unprocessed, _⟩ := executeArrearsDeduction_deduction stored found run
  have processed := (consistent lease (by rw [stored]; exact found)).processed.mpr evicted
  cases unprocessed.symm.trans processed

/-- Every call that goes through publishes what it changes, if it does not initialise the
contract. -/
theorem Call.announces {call : Call}
    (consistent : ∀ leaseId lease, leaseAt leaseId store.data = some lease → lease.Consistent)
    (kept : ∀ oracleAddress, call.operation ≠ .initializeContract oracleAddress)
    (run : Commits call.body store () after) : Announced store after := by
  obtain ⟨env, operation⟩ := call
  cases operation with
  | initializeContract oracleAddress => exact absurd rfl (kept oracleAddress)
  | createLease lessor lessee rentAmount depositAmount startDate endDate maxGracePeriod lateFeeRate
      propertyUri fiatPegConfig =>
      obtain ⟨leaseId, _, created, finished⟩ := (commits_bind _ _ _).mp run
      rw [((commits_pure _ _).mp finished).2]
      exact createLease_announces created
  | activateLease leaseId lessee => exact activateLease_announces run
  | processRentPayment leaseId amount =>
      exact processRentPayment_announces (consistent leaseId) run
  | handleRentPaymentFailure leaseId => exact handleRentPaymentFailure_announces run
  | checkGracePeriodExpiry leaseId => exact checkGracePeriodExpiry_announces run
  | executeArrearsDeduction leaseId =>
      exact absurd run (executeArrearsDeduction_refused (consistent leaseId))
  | processFiatPeggedRentPayment leaseId => exact processFiatPeggedRentPayment_announces run
  | triggerGracePeriodCheck leaseId caller => exact triggerGracePeriodCheck_announces run
  | terminateLease leaseId caller =>
      obtain ⟨refundAmount, _, terminated, finished⟩ := (commits_bind _ _ _).mp run
      rw [((commits_pure _ _).mp finished).2]
      exact terminateLease_announces terminated

end Announcing

/-! ## Runs -/

/-- The ids count from one. -/
def ContractData.Numbered (data : ContractData) : Prop :=
  1 ≤ data.nextLeaseId

theorem Effect.numbered {env : Env} {operation : Operation} {before after : Option ContractData}
    (effect : Effect env operation before after)
    (numbered : Holds ContractData.Numbered before) : Holds ContractData.Numbered after := by
  intro data stored
  cases effect with
  | initialized oracleAddress before =>
      cases stored
      exact le_rfl
  | @created earlier lease new prorated next =>
      cases stored
      exact Nat.le_add_left 1 earlier.nextLeaseId
  | activated | paid | recovered | enteredGracePeriod | billed | closed =>
      cases stored
      have kept := numbered _ rfl
      exact kept
  | @evicted _ earlier later _ _ _ asked found late dunning expired deducted =>
      cases stored
      rw [ContractData.Numbered, deducted.leases.2]
      exact numbered earlier rfl
  | @deducted earlier later _ _ found evicted unprocessed deduction =>
      cases stored
      rw [ContractData.Numbered, deduction.leases.2]
      exact numbered earlier rfl
  | idle asked => exact numbered data stored

theorem step_numbered (call : Call) (store : Store)
    (numbered : Holds ContractData.Numbered store.data) :
    Holds ContractData.Numbered (step call store).data := by
  rcases step_effect call store with effect | same
  · exact effect.numbered numbered
  · rwa [same]

theorem run_numbered (calls : List Call) :
    Holds ContractData.Numbered (run step calls newContract).data :=
  invariant step_numbered calls nofun

theorem ContractData.account_blank {data : ContractData} (dense : data.Dense)
    (numbered : data.Numbered) (reserved : data.Reserved)
    (credited : ∀ lessee, data.Credited lessee)
    (empty : ∀ leaseId, (data.leases.lookup leaseId).isSome = false) : data.account = .blank := by
  have grows := grows_initial dense reserved credited empty ⟨0⟩
  have standings : data.account.standing = fun _ => none := by
    funext leaseId
    change (data.leases.lookup leaseId).map Lease.standing = none
    rw [Option.not_isSome_iff_eq_none.mp (Bool.eq_false_iff.mp (empty leaseId)), Option.map_none]
  have records : data.account.creditRecord = fun _ => none := by
    funext lessee
    cases found : data.creditRecords.lookup lessee with
    | none => exact found
    | some record =>
        obtain ⟨later, kept, _⟩ := grows.creditRecords lessee record found
        simp [initial] at kept
  have next : data.nextLeaseId = 1 := le_antisymm grows.nextLeaseId numbered
  have vault : data.escrowVault = ⟨0, 0, 0⟩ := by
    have available := reserved.reserved_nonneg.trans reserved.covered
    have treasury := reserved.treasury_nonneg
    have conserved := reserved.conserved
    have locked : data.escrowVault.totalLocked ≤ 0 := grows.totalLocked
    rw [EscrowVault.mk.injEq]
    refine ⟨?_, ?_, ?_⟩ <;> linarith
  change (⟨data.account.standing, data.nextLeaseId, data.escrowVault, data.account.creditRecord⟩ :
    Account) = .blank
  rw [standings, records, next, vault]
  rfl

theorem account_blank {store : Store} (reached : Reaches step newContract store)
    (empty : ∀ leaseId, (leaseAt leaseId store.data).isSome = false) : store.account = .blank := by
  obtain ⟨calls, rfl⟩ := reached
  cases stored : (run step calls newContract).data with
  | none =>
      rw [Store.account, stored]
      rfl
  | some data =>
      rw [Store.account_of_stored stored]
      rw [stored] at empty
      exact ContractData.account_blank (run_dense calls data stored)
        (run_numbered calls data stored) (run_reserved calls data stored)
        (fun lessee => run_credited calls lessee data stored) empty

/-- In a reachable state a call publishes what it changes exactly when it does not reset the
contract. -/
theorem announced_iff {store : Store} (reached : Reaches step newContract store) (call : Call) :
    Announced store (step call store) ↔ ¬ call.Resets store := by
  constructor
  · intro announced resets
    obtain ⟨⟨oracleAddress, initialises⟩, leaseId, leased⟩ := resets
    obtain ⟨env, operation⟩ := call
    cases initialises
    have same : Account.blank = store.account := announced.silent rfl
    have absent : store.account.standing leaseId = none :=
      congrFun (congrArg Account.standing same.symm) leaseId
    cases stored : store.data with
    | none => simp [stored, leaseAt] at leased
    | some data =>
        rw [Store.account_of_stored stored] at absent
        rw [stored, leaseAt, Option.bind_some] at leased
        rw [Option.map_eq_none_iff.mp absent] at leased
        cases leased
  · intro keeps
    rcases attempt_cases call.body store with ⟨_, run⟩ | same
    · by_cases initialises : ∃ oracleAddress, call.operation = .initializeContract oracleAddress
      · have empty (leaseId : U64) : (leaseAt leaseId store.data).isSome = false := by
          apply Bool.eq_false_iff.mpr
          intro leased
          exact keeps ⟨initialises, leaseId, leased⟩
        have blank := account_blank reached empty
        obtain ⟨oracleAddress, initialises⟩ := initialises
        obtain ⟨env, operation⟩ := call
        cases initialises
        exact ⟨[], rfl, blank.symm⟩
      · obtain ⟨calls, rfl⟩ := reached
        exact Call.announces (run_consistent calls)
          (fun oracleAddress same => initialises ⟨oracleAddress, same⟩) run
    · change Announced store (call.body.attempt store)
      rw [same]
      exact Register.announced_refl store

/-- Between any two states of a run the events published in between tell a reader of the earlier
state the later one: how every lease stands in its dunning, the next id, the escrow vault and all
credit records.  This is so exactly while the contract is not initialised over stored leases. -/
theorem events_tell_dunning (calls : List Call) :
    Progresses step Announced calls newContract ↔
      MeetsAlong step (fun call store => ¬ call.Resets store) calls newContract := by
  rw [progresses_iff Register.announced_refl Register.announced_trans]
  exact meetsAlong_congr (fun call store reached => reached.next call)
    (fun call store reached => announced_iff reached call) (reaches_refl newContract)

end LeaseFlow.Dunning
