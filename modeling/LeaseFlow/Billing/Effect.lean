import LeaseFlow.Billing.Operations

/-!
# The effect of a committed billing call

What a committed call does to the module's books, its storage without the configuration and
the reentrancy guard, and the lemma for each operation that reads its effect off its body.
-/

set_option autoImplicit false

namespace LeaseFlow.Billing

open Transaction

/-! ## Books -/

/-- The storage without configuration, guard and events; a missing map reads as an empty one. -/
structure Books where
  admin : Option Address
  cycles : Table U64 BillingCycle
  leases : Table U64 ActiveLease
  treasury : Option RentTreasury
  nonces : Table Address U64
  state : Option BillingState
  authorizations : Table (U64 × U64) PaymentAuthorization
  transfers : List Transfer

def Store.books (store : Store) : Books where
  admin := store.admin
  cycles := store.cycles
  leases := store.leases
  treasury := store.rentTreasury
  nonces := store.nonces
  state := store.billingState
  authorizations := store.authorizations
  transfers := store.transfers

def Books.stateOr (globalBillingEnabled : Bool) (lastProcessTime : U64) (books : Books) :
    BillingState :=
  books.state.getD (.default globalBillingEnabled lastProcessTime)

namespace Books

def putCycle (cycleId : U64) (cycle : BillingCycle) (books : Books) : Books :=
  { books with cycles := books.cycles.set cycleId (some cycle) }

def putLease (leaseId : U64) (lease : ActiveLease) (books : Books) : Books :=
  { books with leases := books.leases.set leaseId (some lease) }

def putTreasury (treasury : RentTreasury) (books : Books) : Books :=
  { books with treasury := some treasury }

def putState (state : BillingState) (books : Books) : Books :=
  { books with state := some state }

def putNonce (lessee : Address) (nonce : U64) (books : Books) : Books :=
  { books with nonces := books.nonces.set lessee (some nonce) }

def putAuthorization (leaseId nonce : U64) (authorization : PaymentAuthorization)
    (books : Books) : Books :=
  { books with authorizations := books.authorizations.set (leaseId, nonce) (some authorization) }

def move (moved : Transfer) (books : Books) : Books :=
  { books with transfers := moved :: books.transfers }

def setUp (timestamp : U64) (admin rentTreasuryAddress : Address) (books : Books) : Books :=
  { books with
    admin := some admin
    cycles := ∅
    leases := ∅
    nonces := ∅
    treasury := some (.initial rentTreasuryAddress timestamp)
    state := some (.default true timestamp) }

section State

variable (books : Books) (globalBillingEnabled : Bool) (lastProcessTime : U64)

@[simp] theorem stateOr_putCycle (cycleId : U64) (cycle : BillingCycle) :
    (books.putCycle cycleId cycle).stateOr globalBillingEnabled lastProcessTime =
      books.stateOr globalBillingEnabled lastProcessTime := rfl

@[simp] theorem stateOr_putLease (leaseId : U64) (lease : ActiveLease) :
    (books.putLease leaseId lease).stateOr globalBillingEnabled lastProcessTime =
      books.stateOr globalBillingEnabled lastProcessTime := rfl

@[simp] theorem stateOr_putTreasury (treasury : RentTreasury) :
    (books.putTreasury treasury).stateOr globalBillingEnabled lastProcessTime =
      books.stateOr globalBillingEnabled lastProcessTime := rfl

@[simp] theorem stateOr_move (moved : Transfer) :
    (books.move moved).stateOr globalBillingEnabled lastProcessTime =
      books.stateOr globalBillingEnabled lastProcessTime := rfl

end State

end Books

/-! ## Committed primitives -/

def Store.entered (store : Store) : Store :=
  { store with
    reentrancyGuard := if store.config.reentrancyProtectionEnabled = true then some true
      else store.reentrancyGuard }

def Store.exited (store : Store) : Store :=
  { store with
    reentrancyGuard := if store.config.reentrancyProtectionEnabled = true then some false
      else store.reentrancyGuard }

def Store.logIf (condition : Prop) [Decidable condition] (event : Event) (store : Store) : Store :=
  { store with events := if condition then event :: store.events else store.events }

section Views

variable (store : Store)

@[simp] theorem books_entered : store.entered.books = store.books := rfl

@[simp] theorem books_exited : store.exited.books = store.books := rfl

@[simp] theorem books_log (event : Event) : (store.log event).books = store.books := rfl

@[simp] theorem books_logIf (condition : Prop) [Decidable condition] (event : Event) :
    (store.logIf condition event).books = store.books := rfl

@[simp] theorem books_putConfig (config : BillingConfig) :
    (store.putConfig config).books = store.books := rfl

@[simp] theorem books_putCycle (cycleId : U64) (cycle : BillingCycle) :
    (store.putCycle cycleId cycle).books = store.books.putCycle cycleId cycle := rfl

@[simp] theorem books_putLease (leaseId : U64) (lease : ActiveLease) :
    (store.putLease leaseId lease).books = store.books.putLease leaseId lease := rfl

@[simp] theorem books_putTreasury (treasury : RentTreasury) :
    (store.putTreasury treasury).books = store.books.putTreasury treasury := rfl

@[simp] theorem books_putState (state : BillingState) :
    (store.putState state).books = store.books.putState state := rfl

@[simp] theorem books_putNonce (lessee : Address) (nonce : U64) :
    (store.putNonce lessee nonce).books = store.books.putNonce lessee nonce := rfl

@[simp] theorem books_putAuthorization (leaseId nonce : U64)
    (authorization : PaymentAuthorization) :
    (store.putAuthorization leaseId nonce authorization).books =
      store.books.putAuthorization leaseId nonce authorization := rfl

@[simp] theorem books_move (moved : Transfer) :
    (store.move moved).books = store.books.move moved := rfl

@[simp] theorem books_setUp (timestamp : U64) (admin rentTreasuryAddress : Address) :
    (store.setUp timestamp admin rentTreasuryAddress).books =
      store.books.setUp timestamp admin rentTreasuryAddress := rfl

theorem cycles_eq : store.cycles = store.books.cycles := rfl

theorem state_eq (globalBillingEnabled : Bool) (lastProcessTime : U64) :
    store.state globalBillingEnabled lastProcessTime =
      store.books.stateOr globalBillingEnabled lastProcessTime := rfl

end Views

section Commits

variable {store after : Store}

@[simp] theorem commits_compute {α : Type} (computation : Checked α) (value : α) :
    Commits (compute computation) store value after ↔
      computation = some value ∧ after = store := by
  simp [compute]

@[simp] theorem commits_publish (event : Event) (result : Unit) :
    Commits (publish event) store result after ↔
      after = store.log event := by
  simp [publish]

@[simp] theorem commits_requireAuth (env : Env) (address : Address) (result : Unit) :
    Commits (requireAuth env address) store result after ↔
      env.authorized address = true ∧ after = store := by
  simp [requireAuth]

@[simp] theorem commits_transfer (env : Env) (token payer payee : Address) (amount : I128)
    (result : Unit) :
    Commits (transfer env token payer payee amount) store result after ↔
      env.accepts ⟨token, payer, payee, amount⟩ = true ∧
        after = store.move ⟨token, payer, payee, amount⟩ := by
  simp [transfer]

@[simp] theorem commits_leaseOf (leaseId : U64) (lease : ActiveLease) :
    Commits (leaseOf leaseId) store lease after ↔
      store.leases.lookup leaseId = some lease ∧ after = store := by
  simp [leaseOf, and_comm]

@[simp] theorem commits_cycleOf (cycleId : U64) (cycle : BillingCycle) :
    Commits (cycleOf cycleId) store cycle after ↔
      store.cycles.lookup cycleId = some cycle ∧ after = store := by
  simp [cycleOf, and_comm]

@[simp] theorem commits_treasuryOf (treasury : RentTreasury) :
    Commits treasuryOf store treasury after ↔
      store.rentTreasury = some treasury ∧ after = store := by
  simp [treasuryOf, eq_comm, and_comm]

@[simp] theorem commits_adminOf (admin : Address) :
    Commits adminOf store admin after ↔ store.admin = some admin ∧ after = store := by
  simp [adminOf, eq_comm, and_comm]

@[simp] theorem commits_setCycle (cycleId : U64) (cycle : BillingCycle) (result : Unit) :
    Commits (setCycle cycleId cycle) store result after ↔ after = store.putCycle cycleId cycle := by
  simp [setCycle]

@[simp] theorem commits_setLease (leaseId : U64) (lease : ActiveLease) (result : Unit) :
    Commits (setLease leaseId lease) store result after ↔ after = store.putLease leaseId lease := by
  simp [setLease]

@[simp] theorem commits_setTreasury (treasury : RentTreasury) (result : Unit) :
    Commits (setTreasury treasury) store result after ↔
      after = store.putTreasury treasury := by
  simp [setTreasury]

@[simp] theorem commits_setState (state : BillingState) (result : Unit) :
    Commits (setState state) store result after ↔
      after = store.putState state := by
  simp [setState]

@[simp] theorem commits_setNonce (lessee : Address) (nonce : U64) (result : Unit) :
    Commits (setNonce lessee nonce) store result after ↔
      after = store.putNonce lessee nonce := by
  simp [setNonce]

@[simp] theorem commits_setAuthorization (leaseId nonce : U64)
    (authorization : PaymentAuthorization) (result : Unit) :
    Commits (setAuthorization leaseId nonce authorization) store result after ↔
      after = store.putAuthorization leaseId nonce authorization := by
  simp [setAuthorization]

@[simp] theorem commits_enterReentrancyGuard (result : Unit) :
    Commits enterReentrancyGuard store result after ↔
      (store.config.reentrancyProtectionEnabled = true → store.guardActive = false) ∧
        after = store.entered := by
  by_cases enabled : store.config.reentrancyProtectionEnabled = true
  · simp [enterReentrancyGuard, setGuard, Store.putGuard, Store.entered, enabled]
  · simp [enterReentrancyGuard, Store.entered, enabled]

@[simp] theorem commits_exitReentrancyGuard (result : Unit) :
    Commits exitReentrancyGuard store result after ↔ after = store.exited := by
  by_cases enabled : store.config.reentrancyProtectionEnabled = true
  · simp [exitReentrancyGuard, setGuard, Store.putGuard, Store.exited, enabled]
  · simp [exitReentrancyGuard, Store.exited, enabled]

@[simp] theorem commits_ensureGuarded (condition : Prop) [Decidable condition] (error : Error)
    (result : Unit) :
    Commits (ensureGuarded condition error) store result after ↔ condition ∧ after = store := by
  by_cases holds : condition
  · simp [ensureGuarded, holds]
  · simp [ensureGuarded, holds]

@[simp] theorem commits_publishIf (condition : Prop) [Decidable condition] (event : Event)
    (result : Unit) :
    Commits (publishIf condition event) store result after ↔
      after = store.logIf condition event := by
  by_cases holds : condition
  · simp [publishIf, Store.logIf, Store.log, holds]
  · simp [publishIf, Store.logIf, holds]

end Commits

/-! ## Effects -/

/-- What `process_billing_cycle` computes for a lease that is due. -/
structure Charge (env : Env) (lease : ActiveLease) (nextCycle duration cycleEnd : U64)
    (rent totalOwed : I128) : Prop where
  active : lease.status = .active ∧ lease.billingEnabled = true
  next : nextCycleTime lease = some nextCycle
  due : nextCycle ≤ env.timestamp
  lasted : actualDuration env.timestamp nextCycle lease = some duration
  charged : calculatedRent duration lease = some rent
  ends : addU64 nextCycle lease.billingFrequency = some cycleEnd
  owed : addI128 lease.totalOwed rent = some totalOwed

/-- A payment of a cycle, into the treasury and onto the lease. -/
inductive Payment (env : Env) (payer : Address) (cycleId : U64) (amount : I128) (books : Books) :
    Books → Prop where
  | intro {unpaid cycle : BillingCycle} {lease : ActiveLease} {treasury : RentTreasury}
      {totalCollected availableBalance totalPaid totalOwed totalRentCollected : I128}
      {collectionCount : U64}
      (authorized : env.authorized payer = true)
      (found : books.cycles.lookup cycleId = some unpaid) (unsettled : unpaid.status ≠ .processed)
      (within : amount ≤ unpaid.rentAmount)
      (held : books.treasury = some treasury)
      (accepted : env.accepts ⟨unpaid.token, payer, treasury.treasuryAddress, amount⟩ = true)
      (collected : addI128 treasury.totalCollected amount = some totalCollected)
      (available : addI128 treasury.availableBalance amount = some availableBalance)
      (counted : addU64 treasury.collectionCount 1 = some collectionCount)
      (settled : payCycle env.timestamp amount unpaid = some cycle)
      (leased : books.leases.lookup cycle.leaseId = some lease)
      (paid : addI128 lease.totalPaid amount = some totalPaid)
      (owed : owedAfter cycle lease = some totalOwed)
      (total : addI128 (books.stateOr true env.timestamp).totalRentCollected amount =
        some totalRentCollected) :
      Payment env payer cycleId amount books
        (((((books.move ⟨unpaid.token, payer, treasury.treasuryAddress, amount⟩).putTreasury
          (treasury.collect env.timestamp totalCollected availableBalance collectionCount)).putCycle
          cycleId cycle).putLease cycle.leaseId (lease.credit totalPaid totalOwed)).putState
          ((books.stateOr true env.timestamp).collect totalRentCollected))

/-- What a committed call does to the books. -/
inductive Effect (env : Env) : Operation → Books → Books → Prop where
  | initialized {books : Books} {admin rentTreasuryAddress : Address} (fresh : books.admin = none) :
      Effect env (.initializeContract admin rentTreasuryAddress) books
        (books.setUp env.timestamp admin rentTreasuryAddress)
  | registered {books : Books} {treasury : RentTreasury} {leaseId : U64}
      {lessor lessee assetAddress : Address} {rentAmount rentPerSecond : I128} {token : Address}
      {startTime endTime billingFrequency : U64}
      (enabled : (books.stateOr false 0).globalBillingEnabled = true ∧
        (books.stateOr false 0).emergencyPause = false)
      (held : books.treasury = some treasury) :
      Effect env (.registerLeaseBilling leaseId lessor lessee assetAddress rentAmount rentPerSecond
          token startTime endTime billingFrequency) books
        (books.putLease leaseId (.registered leaseId lessor lessee assetAddress rentAmount
          rentPerSecond token startTime endTime billingFrequency treasury.treasuryAddress))
  | charged {books : Books} {leaseId : U64} {processor : Address} {lease : ActiveLease}
      {nextCycle duration cycleEnd totalCyclesProcessed : U64} {rent totalOwed : I128}
      (found : books.leases.lookup leaseId = some lease)
      (charge : Charge env lease nextCycle duration cycleEnd rent totalOwed)
      (counted : addU64 (books.stateOr true env.timestamp).totalCyclesProcessed 1 =
        some totalCyclesProcessed) :
      Effect env (.processBillingCycle leaseId processor) books
        (((books.putCycle env.sequence (.opened env.sequence leaseId lease rent nextCycle cycleEnd
          duration)).putLease leaseId (lease.charge nextCycle totalOwed)).putState
          ((books.stateOr true env.timestamp).count totalCyclesProcessed env.timestamp))
  | paid {books after : Books} {payer : Address} {cycleId : U64} {amount : I128}
      (payment : Payment env payer cycleId amount books after) :
      Effect env (.processPayment payer cycleId amount) books after
  | granted {books : Books} {leaseId nonce : U64} {lessee : Address} {authorizedAmount : I128}
      {expiryTimestamp : U64} {signature : BytesN 64} {lease : ActiveLease}
      (authorized : env.authorized lessee = true) (unexpired : env.timestamp < expiryTimestamp)
      (next : addU64 ((books.nonces.lookup lessee).getD 0) 1 = some nonce)
      (found : books.leases.lookup leaseId = some lease) :
      Effect env (.grantPaymentAuthorization leaseId lessee authorizedAmount expiryTimestamp
          signature) books
        (((books.putNonce lessee nonce).putAuthorization leaseId nonce (.granted leaseId lessee
          authorizedAmount expiryTimestamp nonce signature env.timestamp)).putLease leaseId
          (lease.authorize authorizedAmount expiryTimestamp))
  | pulled {books after : Books} {leaseId cycleId nonce : U64} {signature : BytesN 64}
      {authorization : PaymentAuthorization} {cycle : BillingCycle}
      (granted : books.authorizations.lookup (leaseId, nonce) = some authorization)
      (active : authorization.isActive = true)
      (unexpired : env.timestamp ≤ authorization.expiryTimestamp)
      (found : books.cycles.lookup cycleId = some cycle)
      (covered : cycle.rentAmount ≤ authorization.authorizedAmount)
      (payment : Payment env authorization.lessee cycleId cycle.rentAmount
        (books.putAuthorization leaseId nonce authorization.spend) after) :
      Effect env (.executePullPayment leaseId cycleId nonce signature) books after
  | terminated {books : Books} {leaseId : U64} {terminator admin : Address} {lease : ActiveLease}
      (found : books.leases.lookup leaseId = some lease) (stored : books.admin = some admin)
      (entitled : terminator = lease.lessor ∨ terminator = admin)
      (authorized : env.authorized terminator = true) :
      Effect env (.terminateLeaseBilling leaseId terminator) books
        (books.putLease leaseId lease.terminate)
  | paused {books : Books} {admin : Address} {pause : Bool} {reason : Option String}
      (stored : books.admin = some admin) (authorized : env.authorized admin = true) :
      Effect env (.toggleEmergencyPause admin pause reason) books
        (books.putState ((books.stateOr true 0).setPause env.timestamp pause reason))
  | configured {books : Books} {admin : Address} {config : BillingConfig}
      (stored : books.admin = some admin) (authorized : env.authorized admin = true) :
      Effect env (.updateBillingConfig admin config) books books
  | distributed {books : Books} {admin lessor : Address} {amount : I128} {treasury : RentTreasury}
      {totalDistributed availableBalance : I128}
      (stored : books.admin = some admin) (authorized : env.authorized admin = true)
      (held : books.treasury = some treasury) (within : amount ≤ treasury.availableBalance)
      (accepted : env.accepts ⟨treasury.treasuryAddress, treasury.treasuryAddress, lessor, amount⟩ =
        true)
      (sent : addI128 treasury.totalDistributed amount = some totalDistributed)
      (available : subI128 treasury.availableBalance amount = some availableBalance) :
      Effect env (.distributeRentTreasury admin lessor amount) books
        ((books.move ⟨treasury.treasuryAddress, treasury.treasuryAddress, lessor, amount⟩).putTreasury
          (treasury.distribute totalDistributed availableBalance))

/-- What a committed call does to the books, and that it leaves a clear guard clear. -/
structure Outcome (env : Env) (operation : Operation) (store after : Store) : Prop where
  effect : Effect env operation store.books after.books
  clears : store.guardActive = false → after.guardActive = false

theorem Store.exited_clear {store middle : Store}
    (stored : middle.billingConfig = store.billingConfig)
    (guard : middle.reentrancyGuard = store.entered.reentrancyGuard)
    (clear : store.guardActive = false) : middle.exited.guardActive = false := by
  have config : middle.config = store.config := by
    rw [Store.config, Store.config, stored]
  by_cases enabled : store.config.reentrancyProtectionEnabled = true
  · simp [Store.exited, Store.guardActive, config, enabled]
  · simp only [Store.exited, Store.guardActive, config, if_neg enabled, guard, Store.entered]
    exact clear

/-! ## The effect of each operation -/

section Operations

variable {env : Env} {store after : Store}

theorem initializeContract_outcome {admin rentTreasuryAddress : Address}
    (run : Commits (initializeContract env admin rentTreasuryAddress) store () after) :
    Outcome env (.initializeContract admin rentTreasuryAddress) store after := by
  simp only [initializeContract, commits_bind, commits_inspect, commits_ensure,
    commits_modify] at run
  obtain ⟨_, _, ⟨rfl, rfl⟩, _, _, ⟨fresh, rfl⟩, rfl⟩ := run
  exact ⟨.initialized fresh, fun _ => rfl⟩

theorem registerLeaseBilling_outcome {leaseId : U64} {lessor lessee assetAddress : Address}
    {rentAmount rentPerSecond : I128} {token : Address}
    {startTime endTime billingFrequency : U64}
    (run : Commits (registerLeaseBilling env leaseId lessor lessee assetAddress rentAmount
      rentPerSecond token startTime endTime billingFrequency) store () after) :
    Outcome env (.registerLeaseBilling leaseId lessor lessee assetAddress rentAmount rentPerSecond
      token startTime endTime billingFrequency) store after := by
  simp only [registerLeaseBilling, commits_bind, commits_inspect, commits_ensure,
    commits_treasuryOf, commits_setLease, commits_publish] at run
  obtain ⟨_, _, ⟨rfl, rfl⟩, _, _, ⟨enabled, rfl⟩, treasury, _, ⟨held, rfl⟩, _, _, rfl, rfl⟩ := run
  exact ⟨.registered enabled held, id⟩

theorem processBillingCycle_outcome {leaseId cycleId : U64} {processor : Address}
    (run : Commits (processBillingCycle env leaseId processor) store cycleId after) :
    cycleId = env.sequence ∧ Outcome env (.processBillingCycle leaseId processor) store after := by
  simp [processBillingCycle] at run
  obtain ⟨_, lease, found, active, nextCycle, next, due, duration, lasted, rent, charged, cycleEnd,
    ends, totalOwed, owed, processed, counted, rfl, rfl⟩ := run
  have charge : Charge env lease nextCycle duration cycleEnd rent totalOwed :=
    ⟨active, next, due, lasted, charged, ends, owed⟩
  exact ⟨rfl, @Effect.charged env store.books leaseId processor lease nextCycle duration cycleEnd
    processed rent totalOwed found charge counted, Store.exited_clear rfl rfl⟩

theorem processPayment_payment {payer : Address} {cycleId : U64} {amount : I128}
    (run : Commits (processPayment env payer cycleId amount) store () after) :
    Payment env payer cycleId amount store.books after.books ∧
      (store.guardActive = false → after.guardActive = false) := by
  simp [processPayment] at run
  obtain ⟨_, authorized, unpaid, found, unsettled, within, treasury, held, accepted,
    totalCollected, collected, availableBalance, available, collectionCount, counted, cycle,
    settled, lease, leased, totalPaid, paid, totalOwed, owed, totalRentCollected, total, rfl⟩ := run
  constructor
  · simp only [state_eq, books_exited, books_entered, books_log, books_logIf, books_move,
      books_putTreasury, books_putCycle, books_putLease, books_putState, Books.stateOr_move,
      Books.stateOr_putTreasury, Books.stateOr_putCycle, Books.stateOr_putLease] at total ⊢
    exact @Payment.intro env payer cycleId amount store.books unpaid cycle lease treasury
      totalCollected availableBalance totalPaid totalOwed totalRentCollected collectionCount
      authorized found unsettled within held accepted collected available counted settled leased
      paid owed total
  · apply Store.exited_clear
    · simp only [Store.entered, Store.log, Store.logIf, Store.move, Store.putTreasury,
        Store.putCycle, Store.putLease, Store.putState]
    · simp only [Store.log, Store.logIf, Store.move, Store.putTreasury, Store.putCycle,
        Store.putLease, Store.putState]

theorem grantPaymentAuthorization_outcome {leaseId : U64} {lessee : Address}
    {authorizedAmount : I128} {expiryTimestamp : U64} {signature : BytesN 64}
    (run : Commits (grantPaymentAuthorization env leaseId lessee authorizedAmount expiryTimestamp
      signature) store () after) :
    Outcome env (.grantPaymentAuthorization leaseId lessee authorizedAmount expiryTimestamp
      signature) store after := by
  simp [grantPaymentAuthorization] at run
  obtain ⟨_, authorized, unexpired, nonce, next, lease, found, rfl⟩ := run
  exact ⟨@Effect.granted env store.books leaseId nonce lessee authorizedAmount expiryTimestamp
    signature lease authorized unexpired next found, Store.exited_clear rfl rfl⟩

theorem executePullPayment_outcome {leaseId cycleId nonce : U64} {signature : BytesN 64}
    (run : Commits (executePullPayment env leaseId cycleId nonce signature) store () after) :
    Outcome env (.executePullPayment leaseId cycleId nonce signature) store after := by
  simp [executePullPayment] at run
  obtain ⟨_, authorization, granted, ⟨active, unexpired⟩, cycle, found, covered, paid⟩ := run
  obtain ⟨payment, clears⟩ := processPayment_payment paid
  exact ⟨.pulled granted active unexpired found covered payment,
    fun clear => clears (@Store.exited_clear store
      (store.entered.putAuthorization leaseId nonce authorization.spend) rfl rfl clear)⟩

theorem terminateLeaseBilling_outcome {leaseId : U64} {terminator : Address}
    (run : Commits (terminateLeaseBilling env leaseId terminator) store () after) :
    Outcome env (.terminateLeaseBilling leaseId terminator) store after := by
  simp [terminateLeaseBilling] at run
  obtain ⟨_, lease, found, admin, stored, entitled, authorized, rfl⟩ := run
  exact ⟨@Effect.terminated env store.books leaseId terminator admin lease found stored entitled
    authorized, Store.exited_clear rfl rfl⟩

theorem toggleEmergencyPause_outcome {admin : Address} {pause : Bool} {reason : Option String}
    (run : Commits (toggleEmergencyPause env admin pause reason) store () after) :
    Outcome env (.toggleEmergencyPause admin pause reason) store after := by
  simp [toggleEmergencyPause] at run
  obtain ⟨stored, authorized, rfl⟩ := run
  exact ⟨@Effect.paused env store.books admin pause reason stored authorized, id⟩

theorem updateBillingConfig_outcome {admin : Address} {config : BillingConfig}
    (run : Commits (updateBillingConfig env admin config) store () after) :
    Outcome env (.updateBillingConfig admin config) store after := by
  simp [updateBillingConfig] at run
  obtain ⟨stored, authorized, rfl⟩ := run
  exact ⟨@Effect.configured env store.books admin config stored authorized, id⟩

theorem distributeRentTreasury_outcome {admin lessor : Address} {amount : I128}
    (run : Commits (distributeRentTreasury env admin lessor amount) store () after) :
    Outcome env (.distributeRentTreasury admin lessor amount) store after := by
  simp [distributeRentTreasury] at run
  obtain ⟨_, stored, authorized, treasury, held, within, accepted, totalDistributed, sent,
    availableBalance, available, rfl⟩ := run
  exact ⟨@Effect.distributed env store.books admin lessor amount treasury totalDistributed
    availableBalance stored authorized held within accepted sent available,
    Store.exited_clear rfl rfl⟩

/-- Every committed call has one of the effects. -/
theorem call_outcome {call : Call} (run : Commits call.body store () after) :
    Outcome call.env call.operation store after := by
  obtain ⟨env, operation⟩ := call
  cases operation with
  | initializeContract admin rentTreasuryAddress => exact initializeContract_outcome run
  | registerLeaseBilling => exact registerLeaseBilling_outcome run
  | processBillingCycle leaseId processor =>
      obtain ⟨cycleId, _, billed, finished⟩ := (commits_bind _ _ _).mp run
      rw [((commits_pure _ _).mp finished).2]
      exact (processBillingCycle_outcome billed).2
  | processPayment payer cycleId paymentAmount =>
      obtain ⟨payment, clears⟩ := processPayment_payment run
      exact ⟨.paid payment, clears⟩
  | grantPaymentAuthorization => exact grantPaymentAuthorization_outcome run
  | executePullPayment => exact executePullPayment_outcome run
  | terminateLeaseBilling leaseId terminator => exact terminateLeaseBilling_outcome run
  | toggleEmergencyPause admin pause reason => exact toggleEmergencyPause_outcome run
  | updateBillingConfig admin config => exact updateBillingConfig_outcome run
  | distributeRentTreasury admin lessor amount => exact distributeRentTreasury_outcome run

/-- A step either commits, with its effect, or leaves the store as it was. -/
theorem step_cases (call : Call) (store : Store) :
    (call.body.succeeds store = true ∧
      Outcome call.env call.operation store (step call store)) ∨
      (call.body.succeeds store = false ∧ step call store = store) := by
  by_cases committed : call.body.succeeds store = true
  · exact .inl ⟨committed, call_outcome (commits_attempt committed)⟩
  · have refused : call.body.succeeds store = false := Bool.eq_false_iff.mpr committed
    exact .inr ⟨refused, attempt_of_not_succeeds refused⟩

theorem step_effect (call : Call) (store : Store) :
    Effect call.env call.operation store.books (step call store).books ∨
      step call store = store := by
  rcases step_cases call store with ⟨_, outcome⟩ | ⟨_, same⟩
  · exact .inl outcome.effect
  · exact .inr same

theorem step_clears (call : Call) (store : Store) (clear : store.guardActive = false) :
    (step call store).guardActive = false := by
  rcases step_cases call store with ⟨_, outcome⟩ | ⟨_, same⟩
  · exact outcome.clears clear
  · rwa [same]

/-- With a history that committed calls extend, a step either commits and records or leaves state
and history as they were. -/
theorem annotate_cases {γ : Type} (extend : Call → Store → γ → γ)
    {record : Call → Store → γ → γ}
    (recorded : ∀ call store history, extend call store history =
      if call.body.succeeds store = true then record call store history else history)
    (call : Call) (state : Store × γ) :
    (call.body.succeeds state.1 = true ∧
      Outcome call.env call.operation state.1 (step call state.1) ∧
      Run.annotate step extend call state = (step call state.1, record call state.1 state.2)) ∨
      (call.body.succeeds state.1 = false ∧ Run.annotate step extend call state = state) := by
  rcases step_cases call state.1 with ⟨committed, outcome⟩ | ⟨refused, same⟩
  · refine .inl ⟨committed, outcome, ?_⟩
    rw [Run.annotate, recorded, if_pos committed]
  · refine .inr ⟨refused, ?_⟩
    rw [Run.annotate, recorded, if_neg (Bool.eq_false_iff.mp refused), same]

end Operations

end LeaseFlow.Billing
