import LeaseFlow.KeySpace.Ownership
import LeaseFlow.Foundations.Accrual

/-!
# The rent that accrues to the sellers of the rights

A transfer records the rent accrued since the marker in the token's record, which the mint sets to
the start of the lease and every transfer to its own time.  Neither the end of the lease nor a
transfer before its start holds the accrual within the term.
-/

set_option autoImplicit false

namespace LeaseFlow.KeySpace

open Transaction Failure

/-- What a transfer announces of the rent. -/
structure RentReceipt where
  transferTimestamp : U64
  accruedRent : I128
  deriving DecidableEq

def ModuleEvent.receipt : ModuleEvent → Option RentReceipt
  | .nftTransferred _ _ _ transferTimestamp accruedYield _ =>
      some ⟨transferTimestamp, accruedYield⟩
  | _ => none

section Receipts

variable (gaps : Gaps) (sha256 : String → BytesN 32) (tokenId : U128)

/-- The receipt that a transfer of the token leaves. -/
def RightsCall.receipt (call : RightsCall) (before : Storage) : Option RentReceipt :=
  if call.deed = some (.transferred tokenId) then
    (rightsStep gaps sha256 call before).events.head?.bind ModuleEvent.receipt
  else none

/-- The receipts of the transfers of the token in a run, oldest first. -/
def rentReceipts (calls : List RightsCall) (start : Storage) : List RentReceipt :=
  Machine.log (RightsCall.body gaps sha256) (RightsCall.receipt gaps sha256 tokenId) calls start

end Receipts

def transferTimes (receipts : List RentReceipt) : List U64 :=
  receipts.map RentReceipt.transferTimestamp

theorem transferTimes_append (receipts : List RentReceipt) (receipt : RentReceipt) :
    transferTimes (receipts ++ [receipt]) =
      transferTimes receipts ++ [receipt.transferTimestamp] :=
  List.map_append

/-- The seconds of the lease before a time. -/
def LessorRightsNftMetadata.termBefore (metadata : LessorRightsNftMetadata) (time : U64) : U64 :=
  min time metadata.leaseEnd - metadata.leaseStart

/-- The seconds of the lease before the last of the transfers. -/
def LessorRightsNftMetadata.termOver (metadata : LessorRightsNftMetadata)
    (receipts : List RentReceipt) : U64 :=
  metadata.termBefore ((transferTimes receipts).getLastD metadata.leaseStart)

/-- The receipts make up the rent of the lease before the last transfer, less than a unit short for
each of them. -/
def LessorRightsNftMetadata.AddsUp (metadata : LessorRightsNftMetadata)
    (receipts : List RentReceipt) : Prop :=
  metadata.termOver receipts * metadata.monthlyRent - receipts.length * billingCycleDuration <
      (receipts.map RentReceipt.accruedRent).sum * billingCycleDuration ∧
    (receipts.map RentReceipt.accruedRent).sum * billingCycleDuration ≤
      metadata.termOver receipts * metadata.monthlyRent

/-- The seconds that count at the transfers: up to the last, from the start of the lease or from
the first transfer before it. -/
def LessorRightsNftMetadata.counted (metadata : LessorRightsNftMetadata) (times : List U64) : U64 :=
  times.getLastD metadata.leaseStart - min metadata.leaseStart (times.headD metadata.leaseStart)

/-- The rent of the seconds that count beyond the lease is no more than rounding takes off at the
transfers. -/
def LessorRightsNftMetadata.Absorbs (metadata : LessorRightsNftMetadata) (times : List U64) :
    Prop :=
  ((metadata.counted times : Int) -
      metadata.termBefore (times.getLastD metadata.leaseStart)) * metadata.monthlyRent ≤
    Accrual.rounded billingCycleDuration metadata.monthlyRent metadata.leaseStart times

/-! ## What a run leaves in the record -/

/-- The marker lies at the last transfer, and the receipts are what the rent gives of the times
between the transfers. -/
structure LessorRightsNftMetadata.Accrues (metadata : LessorRightsNftMetadata)
    (receipts : List RentReceipt) : Prop where
  marker : metadata.billingCycleStart = (transferTimes receipts).getLastD metadata.leaseStart
  accrued : receipts.map RentReceipt.accruedRent =
    (Accrual.elapsed metadata.leaseStart (transferTimes receipts)).map fun time =>
      (time * metadata.monthlyRent).tdiv billingCycleDuration

/-- A token that is stored has accrued its receipts, and one that is not has none. -/
structure Rights.Accrues (rights : Rights) (tokenId : U128) (receipts : List RentReceipt) :
    Prop where
  stored : ∀ metadata, rights.metadata tokenId = some metadata → metadata.Accrues receipts
  vacant : rights.metadata tokenId = none → receipts = []

section Steps

variable {gaps : Gaps} {sha256 : String → BytesN 32} {env : Env} {before after : Storage}
  {rights next : Rights} {tokenId : U128} {metadata : LessorRightsNftMetadata}
  {receipts : List RentReceipt} {deeds : List RightsDeed}

theorem transferNft_announces {fromHolder toHolder : Address} {result : Unit}
    (holds : before.Holds rights) (found : rights.metadata tokenId = some metadata)
    (run : Commits (transferNft gaps env tokenId fromHolder toHolder) before result after) :
    after.events.head?.bind ModuleEvent.receipt = some ⟨env.timestamp,
      (((env.timestamp - metadata.billingCycleStart : Nat) : Int) *
        metadata.monthlyRent).tdiv billingCycleDuration⟩ := by
  simp only [transferNft, getNftMetadata, calculateYieldProration, commits_bind, commits_getOr,
    commits_check, commits_isNftLocked, commits_checkedI128, commits_pure,
    commits_announce] at run
  obtain ⟨again, _, ⟨lies, rfl⟩, _, _, ⟨_, rfl⟩, _, _, ⟨rfl, rfl⟩, _, _, ⟨_, rfl⟩,
    proration, _, ⟨_, _, ⟨_, rfl, rfl⟩, rfl, rfl⟩, _, _, _, _, _, rfl, _, _, _, _, _, _, rfl⟩ := run
  obtain rfl := Option.some.inj (found.symm.trans (holds.metadata_of_lies lies))
  rfl

/-- A transfer puts the marker at its own time. -/
theorem LessorRightsNftMetadata.Accrues.transfer (accrues : metadata.Accrues receipts)
    (toHolder : Address) :
    (metadata.transferred env toHolder).Accrues (receipts ++ [⟨env.timestamp,
      (((env.timestamp - metadata.billingCycleStart : Nat) : Int) *
        metadata.monthlyRent).tdiv billingCycleDuration⟩]) where
  marker := by
    rw [transferTimes_append, List.getLastD_concat]
    rfl
  accrued := by
    rw [accrues.marker, transferTimes_append, Accrual.elapsed_append, List.map_append,
      List.map_append, List.map_singleton, List.map_singleton, accrues.accrued]
    rfl

/-- A new token has no receipts: its id was not given out before. -/
theorem Rights.Accrues.mint (accrues : rights.Accrues tokenId receipts)
    (agrees : rights.Agrees deeds) {leaseId : LeaseId} {lessor : Address} {lease : StoredLease}
    {propertyHash : BytesN 32} (unmapped : rights.tokenOf leaseId = none) :
    (rights.mint env propertyHash leaseId lessor lease).Accrues tokenId receipts := by
  have records : (rights.mint env propertyHash leaseId lessor lease).metadata =
      Function.update rights.metadata (generateUniqueTokenId env leaseId) (some (.fresh propertyHash
        env lease leaseId lessor (lease.depositAmount + lease.securityDeposit))) := rfl
  by_cases same : tokenId = generateUniqueTokenId env leaseId
  · have vacant : rights.metadata tokenId = none := by
      refine Option.eq_none_iff_forall_ne_some.mpr fun metadata found => ?_
      have earlier := agrees.recorded tokenId metadata found
      rw [same] at earlier
      exact agrees.fresh unmapped _ earlier
    obtain rfl := accrues.vacant vacant
    refine ⟨fun metadata found => ?_, fun _ => rfl⟩
    rw [records, same, Function.update_self] at found
    cases found
    exact ⟨rfl, rfl⟩
  · constructor
    · intro metadata found
      rw [records, Function.update_of_ne same] at found
      exact accrues.stored metadata found
    · intro vacant
      rw [records, Function.update_of_ne same] at vacant
      exact accrues.vacant vacant

/-- An operation that transfers another token or none leaves the receipts right. -/
theorem RightsEffect.accrues {call : RightsCall}
    (effect : RightsEffect call.env rights next call.operation) (agrees : rights.Agrees deeds)
    (accrues : rights.Accrues tokenId receipts) (other : call.deed ≠ some (.transferred tokenId)) :
    next.Accrues tokenId receipts := by
  obtain ⟨env, operation⟩ := call
  cases effect with
  | minted found tokenizable unmapped result =>
      rw [result]
      exact accrues.mint agrees unmapped
  | @transferred another fromHolder toHolder metadata found owned unlocked result =>
      have apart : tokenId ≠ another := by
        intro same
        rw [same] at other
        exact other rfl
      have kept : next.metadata tokenId = rights.metadata tokenId := by
        rw [result]
        exact Function.update_of_ne apart _ _
      constructor
      · rw [kept]
        exact accrues.stored
      · rw [kept]
        exact accrues.vacant
  | locked _ result | released result | settled _ result | operated _ result | written result =>
      rw [result]
      exact ⟨accrues.stored, accrues.vacant⟩

/-- Every call that goes through leaves the receipts right, its own among them. -/
theorem rightsCall_accrues {call : RightsCall} (holds : before.Holds rights)
    (agrees : rights.Agrees deeds) (accrues : rights.Accrues tokenId receipts)
    (run : Commits (call.body gaps sha256) before () after) :
    ∃ next, after.Holds next ∧ next.Agrees (deeds ++ call.deed.toList) ∧
      next.Accrues tokenId
        (receipts ++ (call.receipt gaps sha256 tokenId before).toList) := by
  obtain ⟨next, kept, effect⟩ := rightsCall_effect holds run
  refine ⟨next, kept, effect.agrees agrees, ?_⟩
  by_cases about : call.deed = some (.transferred tokenId)
  · have after_eq : rightsStep gaps sha256 call before = after := Machine.step_of_commits run
    rw [RightsCall.receipt, if_pos about, after_eq]
    obtain ⟨env, operation⟩ := call
    cases effect with
    | @transferred another fromHolder toHolder metadata found owned unlocked result =>
        obtain rfl := RightsDeed.transferred.inj (Option.some.inj about)
        have announced := transferNft_announces holds found run
        have stored : next.metadata another = some (metadata.transferred env toHolder) := by
          rw [result]
          exact Function.update_self ..
        rw [announced, Option.toList_some]
        refine ⟨fun again same => ?_, fun vacant => ?_⟩
        · obtain rfl := Option.some.inj (stored.symm.trans same)
          exact (accrues.stored metadata found).transfer toHolder
        · cases stored.symm.trans vacant
    | _ => cases about
  · rw [RightsCall.receipt, if_neg about, Option.toList_none, List.append_nil]
    exact effect.accrues agrees accrues about

end Steps

/-! ## Runs -/

section Runs

variable {gaps : Gaps} {sha256 : String → BytesN 32} {start : Storage} {tokenId : U128}
  {metadata : LessorRightsNftMetadata}

theorem rights_accrue (calls : List RightsCall) (untokenised : start.Untokenised)
    (stored : (Run.run (rightsStep gaps sha256) calls start).rights.metadata tokenId =
      some metadata) : metadata.Accrues (rentReceipts gaps sha256 tokenId calls start) := by
  have held : ∃ rights deeds, (Run.run (rightsStep gaps sha256) calls start).Holds rights ∧
      rights.Agrees deeds ∧
      rights.Accrues tokenId (rentReceipts gaps sha256 tokenId calls start) := by
    refine @Machine.invariant_log _ _ _ _ _ _ (fun storage receipts => ∃ rights deeds,
      storage.Holds rights ∧ rights.Agrees deeds ∧ rights.Accrues tokenId receipts)
      (fun call before after receipts run held => ?_) calls start ?_
    · obtain ⟨rights, deeds, holds, agrees, accrues⟩ := held
      obtain ⟨next, kept, agreed, accrued⟩ := rightsCall_accrues holds agrees accrues run
      exact ⟨next, _, kept, agreed, accrued⟩
    · refine ⟨_, [], untokenised.holds, ?_, nofun, fun _ => rfl⟩
      constructor <;> simp [Rights.listed]
  obtain ⟨rights, deeds, holds, _, accrues⟩ := held
  rw [holds.rights_eq] at stored
  exact accrues.stored metadata stored

/-- Rent is not negative, so that its division rounds down. -/
theorem LessorRightsNftMetadata.Accrues.credited {receipts : List RentReceipt}
    (accrues : metadata.Accrues receipts) (nonneg : 0 ≤ metadata.monthlyRent) :
    receipts.map RentReceipt.accruedRent = Accrual.credited billingCycleDuration
      metadata.monthlyRent metadata.leaseStart (transferTimes receipts) := by
  rw [accrues.accrued]
  refine List.map_congr_left fun time within => ?_
  exact Int.tdiv_eq_ediv_of_nonneg (mul_nonneg (Accrual.elapsed_nonneg time within) nonneg)

theorem LessorRightsNftMetadata.sum_elapsed {times : List U64} (ordered : times.Pairwise (· ≤ ·)) :
    (Accrual.elapsed metadata.leaseStart times).sum = metadata.counted times := by
  cases times with
  | nil => simp [Accrual.elapsed, counted]
  | cons first rest =>
      rw [Accrual.sum_elapsed ordered, counted, List.getLastD_cons, List.headD_cons]

/-- No second of the lease before the last transfer is lost. -/
theorem LessorRightsNftMetadata.termBefore_le_counted (metadata : LessorRightsNftMetadata)
    (times : List U64) :
    metadata.termBefore (times.getLastD metadata.leaseStart) ≤ metadata.counted times :=
  tsub_le_tsub (Nat.min_le_left ..) (Nat.min_le_left ..)

/-- In every run, and for every token it leaves behind with transfers in order, the receipts add up
exactly where rounding takes off the rent of what counts beyond the lease. -/
theorem accrual_adds_up_iff (gaps : Gaps) (sha256 : String → BytesN 32) (calls : List RightsCall)
    (untokenised : start.Untokenised)
    (stored : (Run.run (rightsStep gaps sha256) calls start).rights.metadata tokenId =
      some metadata) (nonneg : 0 ≤ metadata.monthlyRent)
    (ordered : (transferTimes (rentReceipts gaps sha256 tokenId calls start)).Pairwise (· ≤ ·))
    (traded : rentReceipts gaps sha256 tokenId calls start ≠ []) :
    metadata.AddsUp (rentReceipts gaps sha256 tokenId calls start) ↔
      metadata.Absorbs (transferTimes (rentReceipts gaps sha256 tokenId calls start)) := by
  have accrues := rights_accrue calls untokenised stored
  generalize rentReceipts gaps sha256 tokenId calls start = receipts at *
  have sum := metadata.sum_elapsed ordered
  have lost := metadata.termBefore_le_counted (transferTimes receipts)
  have times : (transferTimes receipts).length = receipts.length := List.length_map _
  have adds := @Accrual.credited_adds_up_iff billingCycleDuration metadata.monthlyRent
    (metadata.termOver receipts) metadata.leaseStart (transferTimes receipts) (by decide) nonneg
    (by simpa [transferTimes] using traded) (by rw [sum]; exact_mod_cast lost)
  rw [← accrues.credited nonneg, times, sum] at adds
  exact adds

/-- Transfers within the lease count nothing beyond it. -/
theorem LessorRightsNftMetadata.absorbs_of_within {times : List U64}
    (since : metadata.leaseStart ≤ times.headD metadata.leaseStart)
    (until_ : times.getLastD metadata.leaseStart ≤ metadata.leaseEnd) :
    metadata.Absorbs times := by
  have same : metadata.counted times =
      metadata.termBefore (times.getLastD metadata.leaseStart) := by
    rw [counted, termBefore, Nat.min_eq_left since, Nat.min_eq_left until_]
  rw [Absorbs, same, sub_self, zero_mul]
  refine List.sum_nonneg fun part within => ?_
  obtain ⟨time, _, rfl⟩ := List.mem_map.mp within
  exact Int.emod_nonneg _ (by decide)

end Runs

/-! ## A transfer after the lease -/

/-- The rights are minted, and handed on when a month has passed since the start of the lease,
which ends before. -/
def lateCalls : List RightsCall :=
  [rightsCallAt 5 (.mintLessorRightsToken 7 ⟨1⟩), rightsCallAt 6 (.releaseNftLock 7),
    rightsCallAt 2592000 (.transferNft rightsNumber ⟨1⟩ ⟨5⟩)]

def zeroHash (_ : String) : BytesN 32 :=
  .repeated 32 0

/-- What the three transfers within the lease record adds up. -/
theorem traded_adds_up :
    ∃ metadata, (Run.run (rightsStep lowHalfGaps zeroHash) tradedCalls
        leasedStorage).rights.metadata rightsNumber = some metadata ∧
      metadata.AddsUp (rentReceipts lowHalfGaps zeroHash rightsNumber tradedCalls
        leasedStorage) := by
  have terms : ((Run.run (rightsStep lowHalfGaps zeroHash) tradedCalls
      leasedStorage).rights.metadata rightsNumber).map (fun metadata =>
        (metadata.monthlyRent, metadata.leaseStart, metadata.leaseEnd)) =
      some (10, 0, 1000000) := by
    decide +kernel
  have times : transferTimes (rentReceipts lowHalfGaps zeroHash rightsNumber tradedCalls
      leasedStorage) = [7, 8, 9] := by
    decide +kernel
  obtain ⟨metadata, stored, same⟩ := Option.map_eq_some_iff.mp terms
  obtain ⟨rent, start, finish⟩ : metadata.monthlyRent = 10 ∧ metadata.leaseStart = 0 ∧
      metadata.leaseEnd = 1000000 := by simpa using same
  refine ⟨metadata, stored, ?_⟩
  have adds := accrual_adds_up_iff lowHalfGaps zeroHash tradedCalls leasedStorage_untokenised stored
    (by rw [rent]; decide) (by rw [times]; decide) (fun none => by rw [none] at times; cases times)
  rw [adds, times]
  refine metadata.absorbs_of_within ?_ ?_
  · rw [start]
    decide
  · rw [start, finish]
    decide

/-- A month of rent is recorded for a lease of less than a month. -/
theorem late_transfer_does_not_add_up :
    ¬ ∀ (gaps : Gaps) (sha256 : String → BytesN 32) (calls : List RightsCall) (start : Storage)
      (tokenId : U128) (metadata : LessorRightsNftMetadata), start.Untokenised →
      (Run.run (rightsStep gaps sha256) calls start).rights.metadata tokenId = some metadata →
      0 ≤ metadata.monthlyRent →
      (transferTimes (rentReceipts gaps sha256 tokenId calls start)).Pairwise (· < ·) →
      rentReceipts gaps sha256 tokenId calls start ≠ [] →
      metadata.AddsUp (rentReceipts gaps sha256 tokenId calls start) := by
  intro alwaysAddsUp
  have terms : ((Run.run (rightsStep lowHalfGaps zeroHash) lateCalls
      leasedStorage).rights.metadata rightsNumber).map (fun metadata =>
        (metadata.monthlyRent, metadata.leaseStart, metadata.leaseEnd)) =
      some (10, 0, 1000000) := by
    decide +kernel
  have receipts : rentReceipts lowHalfGaps zeroHash rightsNumber lateCalls leasedStorage =
      [⟨2592000, 10⟩] := by
    decide +kernel
  obtain ⟨metadata, stored, same⟩ := Option.map_eq_some_iff.mp terms
  obtain ⟨rent, start, finish⟩ : metadata.monthlyRent = 10 ∧ metadata.leaseStart = 0 ∧
      metadata.leaseEnd = 1000000 := by simpa using same
  have adds := alwaysAddsUp lowHalfGaps zeroHash lateCalls leasedStorage rightsNumber metadata
    leasedStorage_untokenised stored (by rw [rent]; decide) (by rw [receipts]; decide)
    (by rw [receipts]; decide)
  rw [receipts, LessorRightsNftMetadata.AddsUp, LessorRightsNftMetadata.termOver,
    LessorRightsNftMetadata.termBefore, rent, start, finish] at adds
  exact absurd adds.2 (by decide)

end LeaseFlow.KeySpace
