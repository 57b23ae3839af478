import LeaseFlow.KeySpace.Ownership
import LeaseFlow.Foundations.Machine

/-!
# Locks and leases

The lock of a token is placed, replaced and released whatever the status of its lease, and blocks
as long as it lies there, expired or not.
-/

set_option autoImplicit false

namespace LeaseFlow.KeySpace

open Transaction Failure

/-! ## What the lock is for -/

def StoredLease.Engaged (lease : StoredLease) : Prop :=
  lease.status = .active ∨ lease.status = .disputed

/-- The lease is stored, and active or disputed. -/
def Rights.Engaged (rights : Rights) (leaseId : LeaseId) : Prop :=
  ∃ lease, rights.lease leaseId = some lease ∧ lease.Engaged

section Follows

variable (gaps : Gaps)

/-- The rights to an active or disputed lease are locked, so that they are neither transferred
nor sold. -/
def Storage.Guards (storage : Storage) : Prop :=
  ∀ leaseId tokenId, storage.rights.tokenOf leaseId = some tokenId →
    storage.rights.Engaged leaseId → storage.rights.lock leaseId ≠ none ∧
      (∀ env fromHolder toHolder after,
        ¬ Commits (transferNft gaps env tokenId fromHolder toHolder) storage () after) ∧
      ∀ env buyer maxPrice after,
        ¬ Commits (buyNftFromDex gaps env tokenId buyer maxPrice) storage () after

/-- A lock whose expiry has passed blocks no transfer, unless the lease is active or disputed. -/
def Storage.Expires (storage : Storage) (now : U64) : Prop :=
  ∀ leaseId lock expiresAt, storage.rights.lock leaseId = some lock →
    lock.expiresAt = some expiresAt → expiresAt < now → ¬ storage.rights.Engaged leaseId →
      ∀ env tokenId metadata fromHolder toHolder after, env.timestamp = now →
        storage.rights.metadata tokenId = some metadata → metadata.leaseId = leaseId →
          ¬ Faults (transferNft gaps env tokenId fromHolder toHolder) storage
            (.err (.nft .transferDuringLock)) after

/-- The locks follow the leases. -/
def LocksFollow (clocked : Clocked Storage) : Prop :=
  clocked.state.Guards gaps ∧ clocked.state.Expires gaps clocked.now

end Follows

/-! ## When the registry shows it -/

/-- The lease has a lock if it is tokenised, and active or disputed. -/
def Rights.LockedAt (rights : Rights) (leaseId : LeaseId) : Prop :=
  rights.tokenOf leaseId ≠ none → rights.Engaged leaseId → rights.lock leaseId ≠ none

/-- The lease has no lock whose expiry has passed, unless it is active or disputed. -/
def Rights.TimelyAt (rights : Rights) (now : U64) (leaseId : LeaseId) : Prop :=
  ∀ lock expiresAt, rights.lock leaseId = some lock → lock.expiresAt = some expiresAt →
    expiresAt < now → rights.Engaged leaseId

def Rights.Follows (rights : Rights) (now : U64) : Prop :=
  ∀ leaseId, rights.LockedAt leaseId ∧ rights.TimelyAt now leaseId

/-- There are locks only for leases that have a token. -/
def Rights.LocksTokenised (rights : Rights) : Prop :=
  ∀ leaseId, rights.lock leaseId ≠ none → rights.tokenOf leaseId ≠ none

section Registry

variable {gaps : Gaps} {env : Env} {storage : Storage} {rights next : Rights}
  {deeds : List RightsDeed} {leaseId : LeaseId} {now : U64}

/-- The holder of a locked token is told so. -/
theorem transferNft_faults {tokenId : U128} {metadata : LessorRightsNftMetadata}
    (holds : storage.Holds rights) (found : rights.metadata tokenId = some metadata)
    (locked : rights.lock metadata.leaseId ≠ none) (toHolder : Address) :
    Faults (transferNft gaps env tokenId metadata.currentHolder toHolder) storage
      (.err (.nft .transferDuringLock)) storage := by
  have lies : storage.persistent (NftDataKey.nftMetadata tokenId).key =
      some (Held.nftMetadata.store metadata) := by
    rw [holds.entries (.nftMetadata tokenId) trivial, Rights.entry, found, Option.map_some]
  have blocks : (storage.persistent
      (NftDataKey.nftIndestructibilityLock metadata.leaseId).key).isSome = true := by
    rw [holds.isSome_lock]
    exact Option.isSome_iff_ne_none.mpr locked
  refine faults_of_commits ((commits_getOr _ _ _ _).mpr ⟨lies, rfl⟩) ?_
  refine faults_of_commits ((commits_check _ _ ()).mpr ⟨rfl, rfl⟩) ?_
  refine faults_of_commits ((commits_isNftLocked true).mpr ⟨blocks.symm, rfl⟩) ?_
  exact (faults_bind _ _ _).mpr (.inl (faults_ensure.mpr ⟨by decide, rfl, rfl⟩))

theorem guards_iff (holds : storage.Holds rights) (agrees : rights.Agrees deeds) :
    storage.Guards gaps ↔ ∀ leaseId, rights.LockedAt leaseId := by
  unfold Storage.Guards
  rw [holds.rights_eq]
  constructor
  · intro guards leaseId tokenised engaged
    obtain ⟨tokenId, mapped⟩ := Option.ne_none_iff_exists'.mp tokenised
    exact (guards leaseId tokenId mapped engaged).1
  · intro locked leaseId tokenId mapped engaged
    have blocked := locked leaseId (by simp [mapped]) engaged
    refine ⟨blocked, fun env fromHolder toHolder after run => ?_, fun env buyer maxPrice after =>
      not_commits_buyNftFromDex⟩
    obtain ⟨metadata, found, describes⟩ :=
      agrees.described leaseId tokenId ((agrees.mapped leaseId tokenId).mp mapped)
    obtain ⟨again, stored, _, unlocked, _⟩ := transferNft_holds holds run
    obtain rfl := Option.some.inj (found.symm.trans stored)
    rw [describes.lease] at unlocked
    exact blocked unlocked

theorem expires_iff (holds : storage.Holds rights) (agrees : rights.Agrees deeds)
    (tokenised : rights.LocksTokenised) :
    storage.Expires gaps now ↔ ∀ leaseId, rights.TimelyAt now leaseId := by
  unfold Storage.Expires
  rw [holds.rights_eq]
  constructor
  · intro expires leaseId lock expiresAt locked expiry passed
    by_contra free
    obtain ⟨tokenId, mapped⟩ := Option.ne_none_iff_exists'.mp
      (tokenised leaseId (by simp [locked]))
    obtain ⟨metadata, found, describes⟩ :=
      agrees.described leaseId tokenId ((agrees.mapped leaseId tokenId).mp mapped)
    have blocks : rights.lock metadata.leaseId ≠ none := by simp [describes.lease, locked]
    exact expires leaseId lock expiresAt locked expiry passed free (openLedger now 0) tokenId
      metadata metadata.currentHolder metadata.currentHolder storage rfl found describes.lease
      (transferNft_faults holds found blocks _)
  · intro timely leaseId lock expiresAt locked expiry passed free
    exact absurd (timely leaseId lock expiresAt locked expiry passed) free

theorem locksFollow_iff (holds : storage.Holds rights) (agrees : rights.Agrees deeds)
    (tokenised : rights.LocksTokenised) :
    LocksFollow gaps ⟨storage, now⟩ ↔ rights.Follows now := by
  unfold LocksFollow Rights.Follows
  rw [guards_iff holds agrees, expires_iff holds agrees tokenised, forall_and]

/-! ## Which events keep it -/

def RightsOperation.FollowsLease (now : U64) (rights : Rights) : RightsOperation → Prop
  | .releaseNftLock leaseId => rights.tokenOf leaseId ≠ none → ¬ rights.Engaged leaseId
  | .updateNftLock leaseId _ expiresAt =>
      ∀ time, expiresAt = some time → time < now → rights.Engaged leaseId
  | .writeLease leaseId lease =>
      ((∃ written, lease = some written ∧ written.Engaged) →
        rights.tokenOf leaseId ≠ none → rights.lock leaseId ≠ none) ∧
      ∀ lock time, rights.lock leaseId = some lock → lock.expiresAt = some time → time < now →
        ∃ written, lease = some written ∧ written.Engaged
  | _ => True

/-- The registries agree on a lease. -/
def Rights.SameAt (next rights : Rights) (leaseId : LeaseId) : Prop :=
  next.tokenOf leaseId = rights.tokenOf leaseId ∧ next.lock leaseId = rights.lock leaseId ∧
    next.lease leaseId = rights.lease leaseId

theorem Rights.SameAt.follows (same : next.SameAt rights leaseId) :
    (next.LockedAt leaseId ∧ next.TimelyAt now leaseId ↔
      rights.LockedAt leaseId ∧ rights.TimelyAt now leaseId) := by
  obtain ⟨tokenOf, lock, lease⟩ := same
  unfold Rights.LockedAt Rights.TimelyAt Rights.Engaged
  rw [tokenOf, lock, lease]

/-- What concerns one lease alone is decided there. -/
theorem Rights.Follows.at_iff (follows : rights.Follows now)
    (others : ∀ other, other ≠ leaseId → next.SameAt rights other) :
    next.Follows now ↔ next.LockedAt leaseId ∧ next.TimelyAt now leaseId := by
  refine ⟨fun all => all leaseId, fun here other => ?_⟩
  by_cases same : other = leaseId
  · subst same
    exact here
  · exact (others other same).follows.mpr (follows other)

theorem Rights.sameAt_putLock {lock : Option NftIndestructibilityLock} {other : LeaseId}
    (differs : other ≠ leaseId) : (rights.putLock leaseId lock).SameAt rights other :=
  ⟨rfl, Function.update_of_ne differs _ _, rfl⟩

theorem Rights.sameAt_putLease {lease : Option StoredLease} {other : LeaseId}
    (differs : other ≠ leaseId) : (rights.putLease leaseId lease).SameAt rights other :=
  ⟨rfl, rfl, Function.update_of_ne differs _ _⟩

theorem Rights.Follows.release_iff (follows : rights.Follows now) :
    (rights.putLock leaseId none).Follows now ↔
      (RightsOperation.releaseNftLock leaseId).FollowsLease now rights := by
  rw [follows.at_iff fun other => Rights.sameAt_putLock]
  have free : (rights.putLock leaseId none).lock leaseId = none := Function.update_self ..
  unfold Rights.LockedAt Rights.TimelyAt
  rw [free]
  constructor
  · intro ⟨locked, _⟩ tokenised engaged
    exact locked tokenised engaged rfl
  · intro disengaged
    refine ⟨fun tokenised engaged => absurd engaged (disengaged tokenised), fun lock time found => ?_⟩
    cases found

theorem Rights.Follows.lock_iff (follows : rights.Follows now)
    (lock : NftIndestructibilityLock) :
    (rights.putLock leaseId (some lock)).Follows now ↔
      ∀ time, lock.expiresAt = some time → time < now → rights.Engaged leaseId := by
  rw [follows.at_iff fun other => Rights.sameAt_putLock]
  have placed : (rights.putLock leaseId (some lock)).lock leaseId = some lock :=
    Function.update_self ..
  unfold Rights.LockedAt Rights.TimelyAt
  rw [placed]
  constructor
  · intro ⟨_, timely⟩ time expiry
    exact timely lock time rfl expiry
  · intro engaged
    refine ⟨fun _ _ => Option.some_ne_none _, fun other time found expiry => ?_⟩
    obtain rfl := Option.some.inj found
    exact engaged time expiry

theorem Rights.engaged_putLease (lease : Option StoredLease) :
    (rights.putLease leaseId lease).Engaged leaseId ↔
      ∃ written, lease = some written ∧ written.Engaged := by
  unfold Rights.Engaged
  rw [show (rights.putLease leaseId lease).lease leaseId = lease from Function.update_self ..]

theorem Rights.Follows.write_iff (follows : rights.Follows now) (lease : Option StoredLease) :
    (rights.putLease leaseId lease).Follows now ↔
      (RightsOperation.writeLease leaseId lease).FollowsLease now rights := by
  rw [follows.at_iff fun other => Rights.sameAt_putLease]
  unfold Rights.LockedAt Rights.TimelyAt RightsOperation.FollowsLease
  rw [Rights.engaged_putLease]
  exact ⟨fun kept => ⟨fun engaged tokenised => kept.1 tokenised engaged, kept.2⟩,
    fun written => ⟨fun tokenised engaged => written.1 engaged tokenised, written.2⟩⟩

theorem Rights.Follows.mint (follows : rights.Follows now) {propertyHash : BytesN 32}
    {lessor : Address} {lease : StoredLease} :
    (rights.mint env propertyHash leaseId lessor lease).Follows now := by
  have others : ∀ other, other ≠ leaseId →
      (rights.mint env propertyHash leaseId lessor lease).SameAt rights other := fun other differs =>
    ⟨Function.update_of_ne differs _ _, Function.update_of_ne differs _ _,
      Function.update_of_ne differs _ _⟩
  have placed : (rights.mint env propertyHash leaseId lessor lease).lock leaseId =
      some ⟨leaseId, generateUniqueTokenId env leaseId, .leaseActive, env.timestamp, none⟩ :=
    Function.update_self ..
  refine (follows.at_iff others).mpr ⟨fun _ _ => ?_, fun lock time found expiry => ?_⟩
  · simp [placed]
  · obtain rfl := Option.some.inj (placed.symm.trans found)
    cases expiry

/-- A lease that is released is terminated, and keeps no lock. -/
theorem Rights.Follows.settle (follows : rights.Follows now) (lease : StoredLease) :
    (rights.settle leaseId lease).Follows now := by
  have others : ∀ other, other ≠ leaseId →
      (rights.settle leaseId lease).SameAt rights other := fun other differs =>
    ⟨rfl, Function.update_of_ne differs _ _, Function.update_of_ne differs _ _⟩
  have free : (rights.settle leaseId lease).lock leaseId = none := Function.update_self ..
  refine (follows.at_iff others).mpr ⟨fun _ engaged => ?_, fun lock time found => ?_⟩
  · rw [Rights.settle, Rights.engaged_putLease] at engaged
    obtain ⟨written, same, status⟩ := engaged
    obtain rfl := Option.some.inj same
    rcases status with active | disputed
    · cases active
    · cases disputed
  · cases free.symm.trans found

/-- An operation that goes through keeps the locks following exactly under its condition. -/
theorem RightsEffect.follows_iff {operation : RightsOperation}
    (effect : RightsEffect env rights next operation) (follows : rights.Follows now) :
    next.Follows now ↔ operation.FollowsLease now rights := by
  cases effect with
  | minted found tokenizable unmapped result =>
      rw [result]
      exact iff_of_true follows.mint trivial
  | transferred found owned unlocked result =>
      rw [result]
      exact iff_of_true follows trivial
  | locked mapped result =>
      rw [result]
      exact follows.lock_iff _
  | released result =>
      rw [result]
      exact follows.release_iff
  | settled found result =>
      rw [result]
      exact iff_of_true (follows.settle _) trivial
  | operated other result =>
      rw [result]
      exact iff_of_true follows trivial
  | written result =>
      rw [result]
      exact follows.write_iff _

theorem RightsEffect.locksTokenised {operation : RightsOperation}
    (effect : RightsEffect env rights next operation) (tokenised : rights.LocksTokenised) :
    next.LocksTokenised := by
  have placed : ∀ {lock : Option NftIndestructibilityLock} {leaseId : LeaseId},
      (lock ≠ none → rights.tokenOf leaseId ≠ none) →
        (rights.putLock leaseId lock).LocksTokenised := by
    intro lock leaseId here other locked
    by_cases same : other = leaseId
    · subst same
      rw [show (rights.putLock other lock).lock other = lock from Function.update_self ..] at locked
      exact here locked
    · rw [show (rights.putLock leaseId lock).lock other = rights.lock other from
        Function.update_of_ne same _ _] at locked
      exact tokenised other locked
  cases effect with
  | @minted leaseId lessor lease propertyHash found tokenizable unmapped result =>
      rw [result]
      intro other locked
      by_cases same : other = leaseId
      · subst same
        rw [show (rights.mint env propertyHash other lessor lease).tokenOf other =
          some (generateUniqueTokenId env other) from Function.update_self ..]
        simp
      · rw [show (rights.mint env propertyHash leaseId lessor lease).lock other =
          rights.lock other from Function.update_of_ne same _ _] at locked
        rw [show (rights.mint env propertyHash leaseId lessor lease).tokenOf other =
          rights.tokenOf other from Function.update_of_ne same _ _]
        exact tokenised other locked
  | locked mapped result =>
      rw [result]
      exact placed fun _ => by simp [mapped]
  | released result =>
      rw [result]
      exact placed fun some => absurd rfl some
  | settled found result =>
      rw [result]
      exact placed fun some => absurd rfl some
  | transferred _ _ _ result | operated _ result | written result =>
      rw [result]
      exact tokenised

end Registry

/-! ## Runs -/

section Runs

variable (gaps : Gaps) (sha256 : String → BytesN 32)

/-- The call, made at the time. -/
def RightsCall.bodyAt (now : U64) (call : RightsCall) : Module Unit :=
  RightsCall.body gaps sha256 { call with env := { call.env with timestamp := now } }

abbrev lockStep : Clocked.Event RightsCall → Clocked Storage → Clocked Storage :=
  Clocked.step (RightsCall.bodyAt gaps sha256)

/-- A release is one of a lease that is neither active nor disputed; a lease becomes active or
disputed only under a lock; and no expiry passes, nor is set in the past, while the lease is
neither. -/
def FollowsAlong : Clocked.Event RightsCall → Clocked Storage → Prop
  | .call call, clocked =>
      Machine.Goes (RightsCall.bodyAt gaps sha256 clocked.now) call clocked.state →
        call.operation.FollowsLease clocked.now clocked.state.rights
  | .wait time, clocked => ∀ leaseId, clocked.state.rights.TimelyAt time leaseId

/-- The store holds a registry that its operations have made. -/
def Storage.Made (storage : Storage) : Prop :=
  ∃ rights deeds, storage.Holds rights ∧ rights.Agrees deeds ∧ rights.LocksTokenised

end Runs

section Runs

variable {gaps : Gaps} {sha256 : String → BytesN 32} {clocked : Clocked Storage}

theorem made_step (event : Clocked.Event RightsCall) (made : clocked.state.Made) :
    (lockStep gaps sha256 event clocked).state.Made := by
  refine Clocked.step_keeps (fun now call before after run made => ?_) event made
  obtain ⟨rights, deeds, holds, agrees, tokenised⟩ := made
  obtain ⟨next, kept, effect⟩ := rightsCall_effect holds run
  exact ⟨next, _, kept, effect.agrees agrees, effect.locksTokenised tokenised⟩

theorem Rights.Follows.wait_iff {rights : Rights} {now time : U64} (follows : rights.Follows now) :
    rights.Follows (max now time) ↔ ∀ leaseId, rights.TimelyAt time leaseId := by
  constructor
  · intro later leaseId lock expiresAt found expiry passed
    exact (later leaseId).2 lock expiresAt found expiry (passed.trans_le (le_max_right _ _))
  · intro timely leaseId
    refine ⟨(follows leaseId).1, fun lock expiresAt found expiry passed => ?_⟩
    rcases lt_max_iff.mp passed with before | between
    · exact (follows leaseId).2 lock expiresAt found expiry before
    · exact timely leaseId lock expiresAt found expiry between

theorem locksFollow_step_iff (event : Clocked.Event RightsCall) (made : clocked.state.Made)
    (follow : LocksFollow gaps clocked) :
    LocksFollow gaps (lockStep gaps sha256 event clocked) ↔ FollowsAlong gaps sha256 event clocked := by
  obtain ⟨storage, now⟩ := clocked
  obtain ⟨rights, deeds, holds, agrees, tokenised⟩ := made
  have follows := (locksFollow_iff holds agrees tokenised).mp follow
  cases event with
  | call call =>
      refine Clocked.call_keeps_iff follow fun after run => ?_
      obtain ⟨next, kept, effect⟩ := rightsCall_effect holds run
      rw [locksFollow_iff kept (effect.agrees agrees) (effect.locksTokenised tokenised),
        holds.rights_eq]
      exact effect.follows_iff follows
  | wait time =>
      show LocksFollow gaps ⟨storage, max now time⟩ ↔ ∀ leaseId, storage.rights.TimelyAt time leaseId
      rw [locksFollow_iff holds agrees tokenised, holds.rights_eq]
      exact follows.wait_iff

theorem Storage.Untokenised.made {storage : Storage} (untokenised : storage.Untokenised) :
    storage.Made := by
  refine ⟨_, [], untokenised.holds, ?_, fun _ locked => absurd rfl locked⟩
  constructor <;> simp [Rights.listed]

theorem made_run (events : List (Clocked.Event RightsCall)) (made : clocked.state.Made) :
    (Run.run (lockStep gaps sha256) events clocked).state.Made :=
  @Run.invariant _ _ _ (fun clocked => clocked.state.Made)
    (fun event _ => made_step event) events clocked made

/-- The locks follow the leases in every state of a run exactly if every event of it keeps them
following. -/
theorem locks_follow_along_iff (gaps : Gaps) (sha256 : String → BytesN 32)
    (events : List (Clocked.Event RightsCall)) {start : Clocked Storage}
    (untokenised : start.state.Untokenised) :
    (∀ earlier, earlier <+: events →
        LocksFollow gaps (Run.run (lockStep gaps sha256) earlier start)) ↔
      Run.MeetsAlong (lockStep gaps sha256) (FollowsAlong gaps sha256) events start := by
  have made := untokenised.made
  have follow : LocksFollow gaps start := by
    obtain ⟨storage, now⟩ := start
    obtain ⟨rights, deeds, holds, agrees, tokenised⟩ := made
    have empty := holds.rights_eq.symm.trans untokenised.holds.rights_eq
    refine (locksFollow_iff holds agrees tokenised).mpr fun leaseId => ?_
    rw [empty]
    exact ⟨fun tokenised => absurd rfl tokenised, fun _ _ found => by cases found⟩
  rw [Run.forall_prefix_iff, and_iff_right follow]
  exact @Run.invariant_along_iff _ _ _ (fun clocked => clocked.state.Made) (LocksFollow gaps) _
    (fun event clocked made => made_step event made)
    (fun event clocked made follow => locksFollow_step_iff event made follow) _ _ made follow

end Runs

/-! ## A lease without its lock -/

/-- The rights to an active lease are minted, locked. -/
def mintingEvents : List (Clocked.Event RightsCall) :=
  [.wait 5, .call (rightsCallAt 5 (.mintLessorRightsToken 7 ⟨1⟩))]

theorem locks_follow_minting :
    LocksFollow lowHalfGaps
      (Run.run (lockStep lowHalfGaps fun _ => .repeated 32 0) mintingEvents ⟨leasedStorage, 0⟩) := by
  refine (locks_follow_along_iff lowHalfGaps (fun _ => .repeated 32 0) mintingEvents
    leasedStorage_untokenised).mpr ⟨fun leaseId lock expiresAt found => ?_, fun _ => trivial, trivial⟩
    mintingEvents (List.prefix_refl _)
  cases found

/-- The lock is released while the lease is active. -/
def releasingEvents : List (Clocked.Event RightsCall) :=
  mintingEvents ++ [.call (rightsCallAt 5 (.releaseNftLock 7))]

/-- The lock is to expire at time `10`, and the lease ends before. -/
def expiringEvents : List (Clocked.Event RightsCall) :=
  mintingEvents ++
    [.call (rightsCallAt 5 (.updateNftLock 7 .regulatoryHold (some 10))),
      .call (rightsCallAt 5 (.writeLease 7 (some rentedLease.released))), .wait 20]

theorem leasedStorage_unlocked :
    (¬ ∀ (gaps : Gaps) (sha256 : String → BytesN 32) (start : Clocked Storage),
      start.state.Untokenised → ∀ events,
        (Run.run (lockStep gaps sha256) events start).state.Guards gaps) ∧
    ¬ ∀ (gaps : Gaps) (sha256 : String → BytesN 32) (start : Clocked Storage),
      start.state.Untokenised → ∀ events,
        (Run.run (lockStep gaps sha256) events start).state.Expires gaps
          (Run.run (lockStep gaps sha256) events start).now := by
  constructor
  · intro guards
    let reached := (Run.run (lockStep lowHalfGaps fun _ => .repeated 32 0) releasingEvents
      ⟨leasedStorage, 0⟩).state
    have free : (reached.rights.lock 7).isSome = false := by decide +kernel
    have status : (reached.rights.lease 7).map (·.status) = some .active := by decide +kernel
    obtain ⟨lease, found, active⟩ := Option.map_eq_some_iff.mp status
    have locked := (guards lowHalfGaps (fun _ => .repeated 32 0) ⟨leasedStorage, 0⟩
      leasedStorage_untokenised releasingEvents 7 rightsNumber (by decide +kernel)
      ⟨lease, found, .inl active⟩).1
    rw [← Option.isSome_iff_ne_none] at locked
    cases free.symm.trans locked
  · intro expires
    let reached := (Run.run (lockStep lowHalfGaps fun _ => .repeated 32 0) expiringEvents
      ⟨leasedStorage, 0⟩).state
    have expiry : (reached.rights.lock 7).map (·.expiresAt) = some (some 10) := by decide +kernel
    have status : (reached.rights.lease 7).map (·.status) = some .terminated := by decide +kernel
    obtain ⟨lock, locked, expiresAt⟩ := Option.map_eq_some_iff.mp expiry
    obtain ⟨rights, deeds, holds, agrees, tokenised⟩ :=
      @made_run lowHalfGaps (fun _ => .repeated 32 0) ⟨leasedStorage, 0⟩ expiringEvents
        leasedStorage_untokenised.made
    have timely := (expires_iff holds agrees tokenised).mp (expires lowHalfGaps
      (fun _ => .repeated 32 0) ⟨leasedStorage, 0⟩ leasedStorage_untokenised expiringEvents) 7
    rw [← holds.rights_eq] at timely
    obtain ⟨lease, found, engaged⟩ := timely lock 10 locked expiresAt (by decide +kernel)
    rw [found] at status
    obtain ended := Option.some.inj status
    rcases engaged with active | disputed
    · cases active.symm.trans ended
    · cases disputed.symm.trans ended

end LeaseFlow.KeySpace
