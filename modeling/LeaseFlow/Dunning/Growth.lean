import LeaseFlow.Dunning.CreditHistory

/-!
# The contract's history

Every operation but `initialize` adds to the contract data: records stay, and the next id, the
locked total and the debts only rise.  `initialize` has no guard and writes all of it anew.  The
terms of a lease are fixed, so what a user is a party of is only added to.
-/

set_option autoImplicit false

namespace LeaseFlow.Dunning

open Transaction Run Table

/-! ## Growth -/

/-- No lease and no credit record goes, and no count or amount falls. -/
structure ContractData.Grows (before after : ContractData) : Prop where
  leases : ∀ leaseId, (before.leases.lookup leaseId).isSome = true →
    (after.leases.lookup leaseId).isSome = true
  creditRecords : ∀ lessee record, before.creditRecords.lookup lessee = some record →
    ∃ later, after.creditRecords.lookup lessee = some later ∧
      record.defaultCount ≤ later.defaultCount ∧ record.totalDebtAmount ≤ later.totalDebtAmount
  nextLeaseId : before.nextLeaseId ≤ after.nextLeaseId
  totalLocked : before.escrowVault.totalLocked ≤ after.escrowVault.totalLocked

/-- The data, once there is any, grows. -/
def Grown (before after : Store) : Prop :=
  ∀ data, before.data = some data → ∃ later, after.data = some later ∧ data.Grows later

namespace ContractData

theorem grows_refl (data : ContractData) : data.Grows data where
  leases _ stored := stored
  creditRecords _ record stored := ⟨record, stored, le_rfl, le_rfl⟩
  nextLeaseId := le_rfl
  totalLocked := le_rfl

theorem Grows.trans {first second third : ContractData} (one : first.Grows second)
    (two : second.Grows third) : first.Grows third where
  leases leaseId stored := two.leases leaseId (one.leases leaseId stored)
  creditRecords lessee record stored := by
    obtain ⟨middle, found, count, debt⟩ := one.creditRecords lessee record stored
    obtain ⟨later, kept, countLater, debtLater⟩ := two.creditRecords lessee middle found
    exact ⟨later, kept, count.trans countLater, debt.trans debtLater⟩
  nextLeaseId := one.nextLeaseId.trans two.nextLeaseId
  totalLocked := one.totalLocked.trans two.totalLocked

theorem grows_put (data : ContractData) (leaseId : U64) (lease : Lease) :
    data.Grows (data.put leaseId lease) where
  leases other stored := by
    rw [put, lookup_set]
    split
    · rfl
    · exact stored
  creditRecords _ record stored := ⟨record, stored, le_rfl, le_rfl⟩
  nextLeaseId := le_rfl
  totalLocked := le_rfl

theorem grows_issue (data : ContractData) (lease : Lease) : data.Grows (data.issue lease) where
  leases := (data.grows_put data.nextLeaseId lease).leases
  creditRecords _ record stored := ⟨record, stored, le_rfl, le_rfl⟩
  nextLeaseId := Nat.le_succ data.nextLeaseId
  totalLocked := le_rfl

theorem grows_withVault {data : ContractData} {vault : EscrowVault}
    (locks : data.escrowVault.totalLocked ≤ vault.totalLocked) :
    data.Grows (data.withVault vault) where
  leases _ stored := stored
  creditRecords _ record stored := ⟨record, stored, le_rfl, le_rfl⟩
  nextLeaseId := le_rfl
  totalLocked := locks

theorem grows_withCreditRecords {env : Env} {data : ContractData} {lessee : Address}
    {residualDebt : I64} {leaseId : U64} {records : Table Address ProtocolCreditRecord}
    (tracked : trackResidualDebt env data lessee residualDebt leaseId = some records) :
    data.Grows (data.withCreditRecords records) where
  leases _ stored := stored
  creditRecords other record stored := by
    unfold trackResidualDebt at tracked
    split at tracked
    · next debt =>
        rw [updateCreditRecord_eq tracked, withCreditRecords]
        by_cases same : other = lessee
        · subst same
          rw [lookup_set_self]
          refine ⟨_, rfl, ?_, ?_⟩
          · simp [creditRecordOf, stored]
          · simp only [creditRecordOf, stored, Option.getD_some]
            linarith
        · rw [lookup_set_ne _ _ same]
          exact ⟨record, stored, le_rfl, le_rfl⟩
    · cases tracked
      exact ⟨record, stored, le_rfl, le_rfl⟩
  nextLeaseId := le_rfl
  totalLocked := le_rfl

end ContractData

theorem Deduction.grows {env : Env} {leaseId : U64} {lease : Lease} {data after : ContractData}
    (deduction : Deduction env leaseId lease data after) : data.Grows after := by
  obtain @⟨_, _, availableBalance, lessorTreasury, _, _, _, _, _, _, tracked⟩ := deduction
  -- The deduction moves money within the vault and locks nothing.
  have moved : data.Grows (data.withVault { data.escrowVault with availableBalance, lessorTreasury }) :=
    ContractData.grows_withVault le_rfl
  have recorded := @ContractData.grows_withCreditRecords env
    (data.withVault { data.escrowVault with availableBalance, lessorTreasury }) _ _ _ _ tracked
  exact (moved.trans recorded).trans (ContractData.grows_put _ leaseId lease.processArrears)

/-! ## Growth along runs -/

/-- The call initialises a contract that stores leases. -/
def Call.Resets (call : Call) (store : Store) : Prop :=
  (∃ oracleAddress, call.operation = .initializeContract oracleAddress) ∧
    ∃ leaseId, (leaseAt leaseId store.data).isSome = true

/-- Every id issued so far is stored. -/
def ContractData.Dense (data : ContractData) : Prop :=
  ∀ leaseId, 1 ≤ leaseId → leaseId < data.nextLeaseId →
    (data.leases.lookup leaseId).isSome = true

theorem ContractData.Dense.of_grows {data later : ContractData} (dense : data.Dense)
    (grows : data.Grows later) (next : later.nextLeaseId = data.nextLeaseId) : later.Dense := by
  intro leaseId positive below
  rw [next] at below
  exact grows.leases leaseId (dense leaseId positive below)

theorem ContractData.Dense.put {data : ContractData} (dense : data.Dense) (leaseId : U64)
    (lease : Lease) : (data.put leaseId lease).Dense :=
  dense.of_grows (data.grows_put leaseId lease) rfl

section Runs

variable {env : Env} {operation : Operation} {before after : Option ContractData}

/-- Every effect but `initialize` grows the data. -/
theorem Effect.grows (effect : Effect env operation before after)
    (deposits : ∀ leaseId lease, leaseAt leaseId before = some lease → 0 < lease.depositAmount)
    (kept : ∀ oracleAddress, operation ≠ .initializeContract oracleAddress)
    {data : ContractData} (stored : before = some data) :
    ∃ later, after = some later ∧ data.Grows later := by
  cases effect with
  | initialized oracleAddress before => exact absurd rfl (kept oracleAddress)
  | @created data lease new prorated next =>
      cases stored
      exact ⟨_, rfl, data.grows_issue lease⟩
  | @activated data leaseId lease _ _ found pending locked available =>
      cases stored
      obtain ⟨_, rfl⟩ := Checked.within_eq_some.mp locked
      have locks : data.escrowVault.totalLocked ≤
          data.escrowVault.totalLocked + lease.depositAmount :=
        le_add_of_nonneg_right (deposits leaseId lease found).le
      exact ⟨_, rfl, (ContractData.grows_withVault locks).trans (ContractData.grows_put _ _ _)⟩
  | paid found active enough total =>
      cases stored
      exact ⟨_, rfl, ContractData.grows_put _ _ _⟩
  | recovered found late required enough total =>
      cases stored
      exact ⟨_, rfl, ContractData.grows_put _ _ _⟩
  | enteredGracePeriod found active lateFee within =>
      cases stored
      exact ⟨_, rfl, ContractData.grows_put _ _ _⟩
  | evicted asked found late dunning expired deducted =>
      cases stored
      exact ⟨_, rfl, (ContractData.grows_put _ _ _).trans deducted.grows⟩
  | deducted found evicted unprocessed deduction =>
      cases stored
      exact ⟨_, rfl, deduction.grows⟩
  | billed found active pegged enabled first bill second total =>
      cases stored
      exact ⟨_, rfl, ContractData.grows_put _ _ _⟩
  | closed found active party refunded =>
      cases stored
      exact ⟨_, rfl, ContractData.grows_put _ _ _⟩
  | idle asked => exact ⟨data, stored, data.grows_refl⟩

theorem Effect.dense (effect : Effect env operation before after)
    (dense : Holds ContractData.Dense before) : Holds ContractData.Dense after := by
  intro data stored
  cases effect with
  | initialized oracleAddress before =>
      cases stored
      intro leaseId positive below
      exact absurd below (Nat.not_lt.mpr positive)
  | @created data lease new prorated next =>
      cases stored
      intro leaseId positive below
      change ((data.leases.set data.nextLeaseId (some lease)).lookup leaseId).isSome = true
      rw [lookup_set]
      split
      · rfl
      · next older =>
          exact dense data rfl leaseId positive (lt_of_le_of_ne (Nat.lt_succ_iff.mp below) older)
  | activated found pending locked available =>
      cases stored
      exact (dense _ rfl).put _ _
  | paid found active enough total =>
      cases stored
      exact (dense _ rfl).put _ _
  | recovered found late required enough total =>
      cases stored
      exact (dense _ rfl).put _ _
  | enteredGracePeriod found active lateFee within =>
      cases stored
      exact (dense _ rfl).put _ _
  | @evicted _ earlier _ leaseId _ lease asked found late dunning expired deducted =>
      cases stored
      have marked := (dense earlier rfl).put leaseId lease.evict
      exact marked.of_grows deducted.grows deducted.leases.2
  | deducted found evicted unprocessed deduction =>
      cases stored
      exact (dense _ rfl).of_grows deduction.grows deduction.leases.2
  | billed found active pegged enabled first bill second total =>
      cases stored
      exact (dense _ rfl).put _ _
  | closed found active party refunded =>
      cases stored
      exact (dense _ rfl).put _ _
  | idle asked => exact dense data stored

end Runs

theorem step_dense (call : Call) (store : Store) (dense : Holds ContractData.Dense store.data) :
    Holds ContractData.Dense (step call store).data := by
  rcases step_effect call store with effect | same
  · exact effect.dense dense
  · rwa [same]

theorem run_dense (calls : List Call) :
    Holds ContractData.Dense (run step calls newContract).data :=
  invariant step_dense calls nofun

theorem grows_initial {data : ContractData} (dense : data.Dense) (reserved : data.Reserved)
    (credited : ∀ lessee, data.Credited lessee)
    (empty : ∀ leaseId, (data.leases.lookup leaseId).isSome = false) (oracleAddress : Address) :
    data.Grows (.initial oracleAddress) where
  leases leaseId stored := by
    cases (empty leaseId).symm.trans stored
  creditRecords lessee record stored := by
    have nothing : ¬ data.HasDefault lessee := by
      rintro ⟨leaseId, lease, found, _⟩
      have absent := empty leaseId
      rw [found] at absent
      cases absent
    have unrecorded := (CreditSummary.matches (credited lessee)).unrecorded nothing
    cases unrecorded.symm.trans stored
  nextLeaseId := by
    by_contra issued
    have first := dense 1 le_rfl (not_le.mp issued)
    cases (empty 1).symm.trans first
  totalLocked := by
    rw [reserved.locked]
    apply total_nonpos
    intro leaseId lease found
    have absent := empty leaseId
    rw [found] at absent
    cases absent

/-- In a reachable state a call grows the data exactly when it does not reset the contract. -/
theorem grown_iff {store : Store} (reached : Reaches step newContract store) (call : Call) :
    Grown store (step call store) ↔ ¬ call.Resets store := by
  obtain ⟨calls, rfl⟩ := reached
  constructor
  · rintro grown ⟨⟨oracleAddress, initialises⟩, leaseId, leased⟩
    obtain ⟨env, operation⟩ := call
    cases initialises
    cases stored : (run step calls newContract).data with
    | none => simp [stored, leaseAt] at leased
    | some data =>
        obtain ⟨later, wiped, grows⟩ := grown data stored
        cases wiped
        have kept := grows.leases leaseId (by simpa [stored, leaseAt] using leased)
        simp [ContractData.initial] at kept
  · intro keeps data stored
    rcases step_effect call (run step calls newContract) with effect | same
    · by_cases initialises : ∃ oracleAddress, call.operation = .initializeContract oracleAddress
      · have empty : ∀ leaseId, (data.leases.lookup leaseId).isSome = false := by
          intro leaseId
          apply Bool.eq_false_iff.mpr
          intro leased
          exact keeps ⟨initialises, leaseId, by simpa [stored, leaseAt] using leased⟩
        obtain ⟨oracleAddress, initialises⟩ := initialises
        obtain ⟨env, operation⟩ := call
        cases initialises
        exact ⟨_, rfl, grows_initial (run_dense calls data stored) (run_reserved calls data stored)
          (fun lessee => run_credited calls lessee data stored) empty oracleAddress⟩
      · have deposits (leaseId : U64) (lease : Lease)
            (found : leaseAt leaseId (run step calls newContract).data = some lease) :
            0 < lease.depositAmount := (run_consistent calls leaseId lease found).deposit_pos
        exact effect.grows deposits (fun oracleAddress same => initialises ⟨oracleAddress, same⟩)
          stored
    · rw [same]
      exact ⟨data, stored, data.grows_refl⟩

theorem grown_refl (store : Store) : Grown store store :=
  fun data stored => ⟨data, stored, data.grows_refl⟩

theorem grown_trans (first second third : Store) (one : Grown first second)
    (two : Grown second third) : Grown first third := by
  intro data stored
  obtain ⟨middle, found, grows⟩ := one data stored
  obtain ⟨later, kept, growsLater⟩ := two middle found
  exact ⟨later, kept, grows.trans growsLater⟩

theorem progresses_iff_not_reset (calls : List Call) :
    Progresses step Grown calls newContract ↔
      MeetsAlong step (fun call store => ¬ call.Resets store) calls newContract := by
  rw [progresses_iff grown_refl grown_trans]
  exact meetsAlong_congr (fun call store reached => reached.next call)
    (fun call store reached => grown_iff reached call) (reaches_refl newContract)

/-! ## Lease ids -/

/-- The call is a `create_lease` that returns the id. -/
def Call.Issues (leaseId : U64) (call : Call) (store : Store) : Prop :=
  ∃ lessor lessee rentAmount depositAmount startDate endDate maxGracePeriod lateFeeRate propertyUri
    fiatPegConfig, Commits (createLease call.env lessor lessee rentAmount depositAmount startDate
      endDate maxGracePeriod lateFeeRate propertyUri fiatPegConfig) store leaseId (step call store)

/-- Every id is above the ids issued before it. -/
def IdsIncrease (calls : List Call) : Prop :=
  ∀ earlier first between second issued later, earlier ++ first :: between ++ [second] <+: calls →
    first.Issues issued (run step earlier newContract) →
    second.Issues later (run step (earlier ++ first :: between) newContract) → issued < later

theorem Call.Issues.next {call : Call} {store : Store} {leaseId : U64}
    (issues : call.Issues leaseId store) :
    (∃ data, store.data = some data ∧ data.nextLeaseId = leaseId) ∧
      ∃ later, (step call store).data = some later ∧ later.nextLeaseId = leaseId + 1 := by
  obtain ⟨lessor, lessee, rentAmount, depositAmount, startDate, endDate, maxGracePeriod,
    lateFeeRate, propertyUri, fiatPegConfig, run⟩ := issues
  simp [createLease] at run
  obtain ⟨_, _, _, data, stored, prorated, _, _, after, rfl⟩ := run
  exact ⟨⟨data, stored, rfl⟩, _, by rw [after], rfl⟩

theorem idsIncrease_of_progresses {calls : List Call}
    (progresses : Progresses step Grown calls newContract) : IdsIncrease calls := by
  intro earlier first between second issued later within issues reissues
  obtain ⟨_, after, stored, next⟩ := issues.next
  obtain ⟨⟨data, found, current⟩, _⟩ := reissues.next
  have prefixed : earlier ++ [first] ++ between <+: calls := by
    refine List.IsPrefix.trans ?_ within
    simp
  have grown := progresses (earlier ++ [first]) between prefixed
  rw [run_append earlier [first]] at grown
  obtain ⟨grownData, reached, grows⟩ := grown after stored
  have split : earlier ++ [first] ++ between = earlier ++ first :: between := by simp
  rw [split, found] at reached
  cases reached
  have rises := grows.nextLeaseId
  rw [next, current] at rises
  exact Nat.lt_of_succ_le rises

/-- The history grows along a run exactly when the contract is never initialised while leases
are stored; then no lease id is issued twice either. -/
theorem history_grows_iff (calls : List Call) :
    (Progresses step Grown calls newContract ↔
      MeetsAlong step (fun call store => ¬ call.Resets store) calls newContract) ∧
    (MeetsAlong step (fun call store => ¬ call.Resets store) calls newContract →
      IdsIncrease calls) :=
  ⟨progresses_iff_not_reset calls,
    fun kept => idsIncrease_of_progresses ((progresses_iff_not_reset calls).mpr kept)⟩

/-- A second `initialize` takes the stored lease away. -/
theorem second_initialize_loses_history :
    let call := fun operation => (⟨⟨0, fun _ _ _ => .panicked⟩, operation⟩ : Call)
    ¬ Progresses step Grown
      [call (.initializeContract ⟨9⟩), call (.createLease ⟨1⟩ ⟨2⟩ 1000 300 5 100 10 500 [] none),
        call (.initializeContract ⟨9⟩)] newContract := by
  intro call progresses
  have grown := progresses [call (.initializeContract ⟨9⟩),
    call (.createLease ⟨1⟩ ⟨2⟩ 1000 300 5 100 10 500 [] none)] [call (.initializeContract ⟨9⟩)]
    (List.prefix_refl _)
  obtain ⟨later, wiped, grows⟩ := grown _ rfl
  cases wiped
  cases grows.leases 1 rfl

/-! ## The leases of a user -/

/-- What `create_lease` fixes: the record with everything else as it was then. -/
def Lease.terms (lease : Lease) : Lease :=
  .created lease.leaseId lease.lessor lease.lessee lease.rentAmount lease.depositAmount
    lease.startDate lease.endDate lease.maxGracePeriod lease.lateFeeRate lease.propertyUri
    lease.proratedInitialRent lease.fiatPegConfig

def Lease.names (user : Address) (lease : Lease) : Bool :=
  lease.lessor = user ∨ lease.lessee = user

def ContractData.names (user : Address) (data : ContractData) (leaseId : U64) : Bool :=
  (data.leases.lookup leaseId).any (Lease.names user)

/-- A map is read in the order of its keys. -/
def ContractData.userLeases (user : Address) (data : ContractData) : List U64 :=
  (data.leases.keys.mergeSort (· ≤ ·)).filter (data.names user)

def getUserLeases (user : Address) : Body (List U64) := do
  let data ← load
  pure (data.userLeases user)

@[simp] theorem commits_getUserLeases {user : Address} {store after : Store}
    {leaseIds : List U64} : Commits (getUserLeases user) store leaseIds after ↔
      ∃ data, store.data = some data ∧ leaseIds = data.userLeases user ∧ after = store := by
  simp only [getUserLeases, commits_bind, commits_load, commits_pure]
  apply Iff.intro
  · intro reads
    obtain ⟨data, _, ⟨stored, same⟩, read, still⟩ := reads
    exact ⟨data, stored, read, still.trans same⟩
  · intro reads
    obtain ⟨data, stored, read, still⟩ := reads
    exact ⟨data, store, ⟨stored, rfl⟩, read, still⟩

section UserLeases

variable {data later : ContractData} {user : Address}

theorem ContractData.mem_userLeases {leaseId : U64} :
    leaseId ∈ data.userLeases user ↔ ∃ lease, data.leases.lookup leaseId = some lease ∧
      (lease.lessor = user ∨ lease.lessee = user) := by
  simp only [userLeases, List.mem_filter, List.mem_mergeSort, names, Option.any_eq_true,
    Lease.names, decide_eq_true_eq]
  constructor
  · intro ⟨_, named⟩
    exact named
  · intro ⟨lease, found, named⟩
    refine ⟨?_, lease, found, named⟩
    apply AList.lookup_isSome.mp
    rw [found]
    rfl

theorem ContractData.userLeases_sorted : (data.userLeases user).Pairwise (· < ·) := by
  have ordered := @List.pairwise_mergeSort Nat (fun one two => decide (one ≤ two))
    (by simpa using fun _ _ _ => Nat.le_trans) (by simpa using Nat.le_total) data.leases.keys
  have distinct : (data.leases.keys.mergeSort (· ≤ ·)).Nodup :=
    (List.mergeSort_perm _ _).nodup_iff.mpr data.leases.keys_nodup
  have increasing : (data.leases.keys.mergeSort (· ≤ ·)).Pairwise (· < ·) := by
    refine (ordered.and distinct).imp ?_
    intro one two ⟨le, ne⟩
    exact lt_of_le_of_ne (of_decide_eq_true le) ne
  exact increasing.filter _

theorem ContractData.Issued.userLeases_eq (issued : data.Issued) :
    data.userLeases user = (List.range data.nextLeaseId).filter (data.names user) := by
  have sorted := @userLeases_sorted data user
  have ranged : ((List.range data.nextLeaseId).filter (data.names user)).Pairwise (· < ·) :=
    List.pairwise_lt_range.filter _
  refine List.Perm.eq_of_pairwise (fun _ _ _ _ less more => ?_) sorted ranged ?_
  · exact absurd more (Nat.lt_asymm less)
  apply (List.perm_ext_iff_of_nodup (sorted.imp ne_of_lt) (ranged.imp ne_of_lt)).mpr
  intro leaseId
  rw [mem_userLeases, List.mem_filter, List.mem_range, names, Option.any_eq_true]
  simp only [Lease.names, decide_eq_true_eq]
  constructor
  · intro ⟨lease, found, named⟩
    exact ⟨issued leaseId lease found, lease, found, named⟩
  · intro ⟨_, named⟩
    exact named

/-- The leases stay on their terms, and no id that was passed over is filled. -/
structure ContractData.Extends (before after : ContractData) : Prop where
  terms : ∀ leaseId lease, before.leases.lookup leaseId = some lease →
    ∃ next, after.leases.lookup leaseId = some next ∧ next.terms = lease.terms
  passed : ∀ leaseId < before.nextLeaseId, before.leases.lookup leaseId = none →
    after.leases.lookup leaseId = none
  nextLeaseId : before.nextLeaseId ≤ after.nextLeaseId

theorem ContractData.extends_same {before after : ContractData}
    (leases : after.leases = before.leases) (next : after.nextLeaseId = before.nextLeaseId) :
    before.Extends after where
  terms _ lease found := ⟨lease, leases ▸ found, rfl⟩
  passed _ _ absent := leases ▸ absent
  nextLeaseId := next.ge

theorem ContractData.Extends.trans {first second third : ContractData}
    (one : first.Extends second) (two : second.Extends third) : first.Extends third where
  terms leaseId lease found := by
    obtain ⟨middle, kept, same⟩ := one.terms leaseId lease found
    obtain ⟨last, still, again⟩ := two.terms leaseId middle kept
    exact ⟨last, still, again.trans same⟩
  passed leaseId below absent :=
    two.passed leaseId (below.trans_le one.nextLeaseId) (one.passed leaseId below absent)
  nextLeaseId := one.nextLeaseId.trans two.nextLeaseId

theorem ContractData.extends_put {leaseId : U64} {lease record : Lease}
    (found : data.leases.lookup leaseId = some lease) (same : record.terms = lease.terms) :
    data.Extends (data.put leaseId record) where
  terms other stored listed := by
    by_cases written : other = leaseId
    · subst written
      cases found.symm.trans listed
      exact ⟨record, lookup_set_self _ _ _, same⟩
    · exact ⟨stored, (lookup_set_ne _ _ written).trans listed, rfl⟩
  passed other _ absent := by
    have distinct : other ≠ leaseId := by
      intro written
      rw [written, found] at absent
      cases absent
    exact (lookup_set_ne _ _ distinct).trans absent
  nextLeaseId := le_rfl

theorem ContractData.Issued.extends_issue (issued : data.Issued) (lease : Lease) :
    data.Extends (data.issue lease) where
  terms other stored found := by
    have older : other ≠ data.nextLeaseId := (issued other stored found).ne
    exact ⟨stored, (lookup_set_ne _ _ older).trans found, rfl⟩
  passed other below absent := (lookup_set_ne _ _ below.ne).trans absent
  nextLeaseId := Nat.le_succ data.nextLeaseId

theorem Deduction.extends {env : Env} {leaseId : U64} {lease : Lease} {after : ContractData}
    (found : data.leases.lookup leaseId = some lease)
    (deduction : Deduction env leaseId lease data after) : data.Extends after := by
  have marked := @ContractData.extends_put data leaseId lease lease.processArrears found rfl
  exact marked.trans (ContractData.extends_same deduction.leases.1 deduction.leases.2)

/-- Every effect but `initialize` keeps the leases on their terms. -/
theorem Effect.extends {env : Env} {operation : Operation} {before after : Option ContractData}
    (effect : Effect env operation before after) (issued : Holds ContractData.Issued before)
    (kept : ∀ oracleAddress, operation ≠ .initializeContract oracleAddress)
    (stored : before = some data) : ∃ later, after = some later ∧ data.Extends later := by
  cases effect with
  | initialized oracleAddress before => exact absurd rfl (kept oracleAddress)
  | @created data lease new prorated next =>
      cases stored
      exact ⟨_, rfl, (issued data rfl).extends_issue lease⟩
  | @activated data leaseId lease totalLocked availableBalance found pending locked available =>
      cases stored
      refine ⟨_, rfl, ?_⟩
      have moved : data.Extends
          (data.withVault { data.escrowVault with totalLocked, availableBalance }) :=
        ContractData.extends_same rfl rfl
      exact moved.trans (ContractData.extends_put found rfl)
  | paid found active enough total =>
      cases stored
      exact ⟨_, rfl, ContractData.extends_put found rfl⟩
  | recovered found late required enough total =>
      cases stored
      exact ⟨_, rfl, ContractData.extends_put found rfl⟩
  | enteredGracePeriod found active lateFee within =>
      cases stored
      exact ⟨_, rfl, ContractData.extends_put found rfl⟩
  | @evicted _ data _ leaseId _ lease asked found late dunning expired deducted =>
      cases stored
      have marked := @ContractData.extends_put data leaseId lease lease.evict found rfl
      exact ⟨_, rfl, marked.trans (deducted.extends (lookup_set_self _ _ _))⟩
  | deducted found evicted unprocessed deduction =>
      cases stored
      exact ⟨_, rfl, deduction.extends found⟩
  | billed found active pegged enabled first bill second total =>
      cases stored
      exact ⟨_, rfl, ContractData.extends_put found rfl⟩
  | closed found active party refunded =>
      cases stored
      exact ⟨_, rfl, ContractData.extends_put found rfl⟩
  | idle asked => exact ⟨data, stored, ContractData.extends_same rfl rfl⟩

theorem ContractData.Extends.names_eq (extended : data.Extends later) {leaseId : U64}
    (below : leaseId < data.nextLeaseId) : later.names user leaseId = data.names user leaseId := by
  unfold ContractData.names
  cases found : data.leases.lookup leaseId with
  | none => rw [extended.passed leaseId below found]
  | some lease =>
      obtain ⟨next, kept, same⟩ := extended.terms leaseId lease found
      have lessor : next.lessor = lease.lessor :=
        @congrArg _ _ next.terms lease.terms Lease.lessor same
      have lessee : next.lessee = lease.lessee :=
        @congrArg _ _ next.terms lease.terms Lease.lessee same
      rw [kept, Option.any_some, Option.any_some, Lease.names, Lease.names, lessor, lessee]

theorem ContractData.Extends.userLeases (extended : data.Extends later) (issued : data.Issued)
    (issuedLater : later.Issued) : data.userLeases user <+: later.userLeases user := by
  obtain ⟨more, count⟩ := Nat.exists_eq_add_of_le extended.nextLeaseId
  have same : (List.range data.nextLeaseId).filter (later.names user) =
      (List.range data.nextLeaseId).filter (data.names user) :=
    List.filter_congr fun leaseId within => extended.names_eq (List.mem_range.mp within)
  rw [issued.userLeases_eq, issuedLater.userLeases_eq, count, List.range_add, List.filter_append,
    same]
  exact List.prefix_append _ _

/-- The leases stay on their terms, and every user's list is only appended to. -/
structure ContractData.Continues (before after : ContractData) : Prop where
  terms : ∀ leaseId lease, before.leases.lookup leaseId = some lease →
    ∃ next, after.leases.lookup leaseId = some next ∧ next.terms = lease.terms
  userLeases : ∀ user, before.userLeases user <+: after.userLeases user

def Continued (before after : Store) : Prop :=
  ∀ data, before.data = some data → ∃ later, after.data = some later ∧ data.Continues later

theorem continued_refl (store : Store) : Continued store store :=
  fun data stored => ⟨data, stored, fun _ lease found => ⟨lease, found, rfl⟩,
    fun _ => List.prefix_refl _⟩

theorem continued_trans (first second third : Store) (one : Continued first second)
    (two : Continued second third) : Continued first third := by
  intro data stored
  obtain ⟨middle, found, continues⟩ := one data stored
  obtain ⟨last, kept, further⟩ := two middle found
  refine ⟨last, kept, fun leaseId lease listed => ?_, fun user => ?_⟩
  · obtain ⟨next, still, same⟩ := continues.terms leaseId lease listed
    obtain ⟨final, again, unchanged⟩ := further.terms leaseId next still
    exact ⟨final, again, unchanged.trans same⟩
  · exact (continues.userLeases user).trans (further.userLeases user)

/-- In a reachable state a call that does not reset the contract continues it. -/
theorem continued_of_not_reset {store : Store} (reached : Reaches step newContract store)
    {call : Call} (keeps : ¬ call.Resets store) : Continued store (step call store) := by
  have grown := (grown_iff reached call).mpr keeps
  obtain ⟨calls, rfl⟩ := reached
  have issued := run_issued calls
  have issuedLater := step_issued call _ issued
  intro data stored
  rcases step_effect call (run step calls newContract) with effect | same
  · have extended : ∃ later, (step call (run step calls newContract)).data = some later ∧
        data.Extends later := by
      by_cases initialises : ∃ oracleAddress, call.operation = .initializeContract oracleAddress
      · obtain ⟨later, reset, grows⟩ := grown data stored
        have empty : ∀ leaseId lease, data.leases.lookup leaseId ≠ some lease := by
          intro leaseId lease found
          exact keeps ⟨initialises, leaseId, by simp [stored, leaseAt, found]⟩
        refine ⟨later, reset, ?_, ?_, grows.nextLeaseId⟩
        · intro leaseId lease found
          exact absurd found (empty leaseId lease)
        · intro leaseId below absent
          obtain ⟨oracleAddress, initialises⟩ := initialises
          obtain ⟨env, operation⟩ := call
          cases initialises
          cases reset
          rfl
      · exact effect.extends issued (fun oracleAddress same => initialises ⟨oracleAddress, same⟩)
          stored
    obtain ⟨later, reached, extended⟩ := extended
    exact ⟨later, reached, extended.terms,
      fun user => extended.userLeases (issued data stored) (issuedLater later reached)⟩
  · rw [same]
    exact continued_refl _ data stored

end UserLeases

/-- While the contract is not initialised over stored leases, every lease stays on the terms it was
created on, and a user's list names exactly the leases the user is a party of, in order, and is
only ever appended to. -/
theorem user_leases_append {calls : List Call}
    (kept : MeetsAlong step (fun call store => ¬ call.Resets store) calls newContract) :
    Progresses step Continued calls newContract ∧
    ∀ data, (run step calls newContract).data = some data → ∀ user,
      (data.userLeases user).Pairwise (· < ·) ∧
      ∀ leaseId, leaseId ∈ data.userLeases user ↔
        ∃ lease, data.leases.lookup leaseId = some lease ∧
          (lease.lessor = user ∨ lease.lessee = user) := by
  constructor
  · rw [progresses_iff continued_refl continued_trans]
    exact meetsAlong_of_invariant (fun call store _ reached => reached.next call)
      (fun call store keeps reached => continued_of_not_reset reached keeps) kept
      (reaches_refl newContract)
  · intro data stored user
    exact ⟨ContractData.userLeases_sorted, fun leaseId => ContractData.mem_userLeases⟩

/-- Two leases of one landlord. -/
def twoLeases : List Call :=
  [⟨⟨0, fun _ _ _ => .panicked⟩, .initializeContract ⟨9⟩⟩,
    ⟨⟨0, fun _ _ _ => .panicked⟩, .createLease ⟨1⟩ ⟨2⟩ 1000 300 5 100 10 500 [] none⟩,
    ⟨⟨0, fun _ _ _ => .panicked⟩, .createLease ⟨1⟩ ⟨3⟩ 1000 300 5 100 10 500 [] none⟩]

theorem twoLeases_append :
    Progresses step Continued twoLeases newContract ∧
    ∀ data, (run step twoLeases newContract).data = some data → ∀ user,
      (data.userLeases user).Pairwise (· < ·) ∧
      ∀ leaseId, leaseId ∈ data.userLeases user ↔
        ∃ lease, data.leases.lookup leaseId = some lease ∧
          (lease.lessor = user ∨ lease.lessee = user) := by
  apply user_leases_append
  refine ⟨?_, ?_, ?_, trivial⟩
  · intro ⟨_, leaseId, leased⟩
    cases leased
  · intro ⟨⟨oracleAddress, initialises⟩, _⟩
    cases initialises
  · intro ⟨⟨oracleAddress, initialises⟩, _⟩
    cases initialises

end LeaseFlow.Dunning
