import LeaseFlow.Foundations.CursorWalk
import LeaseFlow.Archive.AppendOnly

/-!
# Reading the archive page by page

`get_historical_leases_paginated` walks the index with the last id of a page as the cursor
of the next.  The walk reads every archived lease once if the index lists no id twice.
-/

set_option autoImplicit false

namespace LeaseFlow

open Transaction

/-! ## The operation -/

structure HistoricalLeasePage where
  leases : List HistoricalLease
  nextCursor : Option LeaseId

/-- The stored entries of the ids. -/
def ArchiveStore.entriesOf (archive : ArchiveStore) (ids : List LeaseId) : List HistoricalLease :=
  ids.filterMap archive.historicalLease

/-- `index.get(end - 1)`, for a page that ends before the index does. -/
def pageCursor (index : List LeaseId) (stop : U32) : Contract (Option LeaseId) :=
  if stop < index.length then do
    let lastPosition ← checkedSubU64 stop 1
    pure index[lastPosition]?
  else
    pure none

/-- The loop of the source stops at the first occurrence of the cursor. -/
def getHistoricalLeasesPaginated (cursor : Option LeaseId) (limit : U32) :
    Contract HistoricalLeasePage := do
  let archive ← inspect fun world => world.archive
  let index := archive.historicalLeasesIndex
  let start := CursorWalk.start index cursor
  if index.length ≤ start then
    pure ⟨[], none⟩
  else do
    let upTo ← checkedU32 (start + limit)
    let stop := min upTo index.length
    let nextCursor ← pageCursor index stop
    pure ⟨archive.entriesOf ((index.take stop).drop start), nextCursor⟩

/-! ## Walks -/

/-- Calls that follow the cursor from page to page, each of which goes through, and the
pages they return. -/
inductive World.PagedFrom (world : World) (limit : U32) :
    Option LeaseId → List (List HistoricalLease) → Prop where
  | last {cursor : Option LeaseId} {page : HistoricalLeasePage}
      (read : Commits (getHistoricalLeasesPaginated cursor limit) world page world)
      (done : page.nextCursor = none) : world.PagedFrom limit cursor [page.leases]
  | next {cursor : Option LeaseId} {leaseId : LeaseId} {page : HistoricalLeasePage}
      {pages : List (List HistoricalLease)}
      (read : Commits (getHistoricalLeasesPaginated cursor limit) world page world)
      (more : page.nextCursor = some leaseId) (rest : world.PagedFrom limit (some leaseId) pages) :
      world.PagedFrom limit cursor (page.leases :: pages)

/-- The walk from the start ends, no call of it aborts, and its pages list every archived
lease once, in the order of the first archiving. -/
def World.PaginatesFully (world : World) (limit : U32) : Prop :=
  ∃ pages, world.PagedFrom limit none pages ∧ pages.flatten =
    world.archive.entriesOf (CursorWalk.firstOccurrences world.archive.historicalLeasesIndex)

/-- The index lists no id twice, the limit is positive, and no page boundary the walk meets
leaves `u32`. -/
structure World.Paginable (world : World) (limit : U32) : Prop where
  distinct : world.archive.historicalLeasesIndex.Nodup
  positive : 1 ≤ limit
  bounded : ∀ number, number * limit < world.archive.historicalLeasesIndex.length →
    (number + 1) * limit < 2 ^ 32

/-- A page can be read at the position. -/
def admitsPage (index : List LeaseId) (limit : U32) (start : Nat) : Prop :=
  start < index.length → start + limit < 2 ^ 32 ∧ 0 < start + limit

section Pages

variable {world after : World} {cursor : Option LeaseId} {limit : U32}

theorem commits_pageCursor (index : List LeaseId) (stop : U32) (result : Option LeaseId) :
    Commits (pageCursor index stop) world result after ↔
      (stop < index.length → 1 ≤ stop) ∧
        result = (if stop < index.length then index[stop - 1]? else none) ∧ after = world := by
  unfold pageCursor
  by_cases short : stop < index.length <;> simp [short, and_assoc, and_left_comm, and_comm]

theorem commits_getHistoricalLeasesPaginated (page : HistoricalLeasePage) :
    Commits (getHistoricalLeasesPaginated cursor limit) world page after ↔
      admitsPage world.archive.historicalLeasesIndex limit
          (CursorWalk.start world.archive.historicalLeasesIndex cursor) ∧
        page = ⟨world.archive.entriesOf
            (CursorWalk.page world.archive.historicalLeasesIndex limit cursor),
          CursorWalk.nextCursor world.archive.historicalLeasesIndex limit cursor⟩ ∧
        after = world := by
  have cut (index : List LeaseId) (start : Nat) :
      (index.take (min (start + limit) index.length)).drop start =
        (index.drop start).take limit := by
    rw [← List.take_eq_take_min, List.drop_take, Nat.add_sub_cancel_left]
  simp only [getHistoricalLeasesPaginated, checkedU32, commits_bind, commits_inspect, commits_ite,
    commits_demand, commits_pure, commits_pageCursor, and_assoc, exists_and_left, exists_eq_left]
  generalize world.archive = archive
  by_cases beyond : archive.historicalLeasesIndex.length ≤
      CursorWalk.start archive.historicalLeasesIndex cursor
  · have empty : CursorWalk.page archive.historicalLeasesIndex limit cursor = [] := by
      rw [CursorWalk.page, List.drop_of_length_le beyond, List.take_nil]
    have last : CursorWalk.nextCursor archive.historicalLeasesIndex limit cursor = none :=
      CursorWalk.nextCursor_eq_none_iff.mpr (by omega)
    have admitted : admitsPage archive.historicalLeasesIndex limit
        (CursorWalk.start archive.historicalLeasesIndex cursor) :=
      fun within => absurd beyond (Nat.not_le.mpr within)
    rw [if_pos beyond, empty, last]
    exact (and_iff_right admitted).symm
  · have within := Nat.not_le.mp beyond
    rw [if_neg beyond, cut, CursorWalk.page, CursorWalk.nextCursor, admitsPage]
    generalize archive.historicalLeasesIndex = index at within ⊢
    generalize CursorWalk.start index cursor = start at within ⊢
    by_cases short : start + limit < index.length
    · have stop : min (start + limit) index.length = start + limit := by omega
      have admitted : start + limit < 2 ^ 32 ∧ (start + limit < index.length → 1 ≤ start + limit) ↔
          (start < index.length → start + limit < 2 ^ 32 ∧ 0 < start + limit) := by omega
      rw [stop, if_pos short, ← admitted]
      simp [and_assoc]
    · have stop : min (start + limit) index.length = index.length := by omega
      have admitted : start + limit < 2 ^ 32 ↔
          (start < index.length → start + limit < 2 ^ 32 ∧ 0 < start + limit) := by omega
      rw [stop, if_neg short, ← admitted]
      simp

theorem pagedFrom_iff {pages : List (List HistoricalLease)} :
    world.PagedFrom limit cursor pages ↔ ∃ keys,
      CursorWalk.Walk world.archive.historicalLeasesIndex limit
        (admitsPage world.archive.historicalLeasesIndex limit) cursor keys ∧
      pages = keys.map world.archive.entriesOf := by
  constructor
  · intro paged
    induction paged with
    | last read done =>
        obtain ⟨admitted, rfl, _⟩ := (commits_getHistoricalLeasesPaginated _).mp read
        exact ⟨_, .last admitted done, rfl⟩
    | next read more _ ih =>
        obtain ⟨admitted, rfl, _⟩ := (commits_getHistoricalLeasesPaginated _).mp read
        obtain ⟨keys, rest, rfl⟩ := ih
        exact ⟨_, .next admitted more rest, rfl⟩
  · rintro ⟨keys, walk, rfl⟩
    induction walk with
    | last admitted done =>
        exact .last ((commits_getHistoricalLeasesPaginated _).mpr ⟨admitted, rfl, rfl⟩) done
    | next admitted more _ ih =>
        exact .next ((commits_getHistoricalLeasesPaginated _).mpr ⟨admitted, rfl, rfl⟩) more ih

theorem World.PagedFrom.admitted {pages : List (List HistoricalLease)}
    (paged : world.PagedFrom limit cursor pages) :
    admitsPage world.archive.historicalLeasesIndex limit
      (CursorWalk.start world.archive.historicalLeasesIndex cursor) := by
  cases paged with
  | last read _ => exact ((commits_getHistoricalLeasesPaginated _).mp read).1
  | next read _ _ => exact ((commits_getHistoricalLeasesPaginated _).mp read).1

theorem ArchiveStore.entriesOf_flatten (archive : ArchiveStore) (keys : List (List LeaseId)) :
    archive.entriesOf keys.flatten = (keys.map archive.entriesOf).flatten :=
  List.filterMap_flatten

theorem length_entriesOf {ids : List LeaseId} (indexed : world.archive.Indexed)
    (listed : ∀ leaseId ∈ ids, leaseId ∈ world.archive.historicalLeasesIndex) :
    (world.archive.entriesOf ids).length = ids.length := by
  refine List.filterMap_length_eq_length.mpr fun leaseId mem => ?_
  exact Option.isSome_iff_ne_none.mpr ((indexed leaseId).mp (listed leaseId mem))

end Pages

/-! ## When the walk lists every archived lease once -/

section Walks

variable {world : World} {limit : U32}

/-- A walk of positive pages reads every listed position, so an id that is listed twice
is read twice. -/
theorem World.PaginatesFully.distinct (full : world.PaginatesFully limit) (positive : 0 < limit)
    (indexed : world.archive.Indexed) : world.archive.historicalLeasesIndex.Nodup := by
  obtain ⟨_, paged, flattened⟩ := full
  obtain ⟨keys, walk, rfl⟩ := pagedFrom_iff.mp paged
  have read : (world.archive.entriesOf keys.flatten).length = keys.flatten.length :=
    length_entriesOf indexed fun _ => walk.mem_index
  have once := @length_entriesOf world (CursorWalk.firstOccurrences
    world.archive.historicalLeasesIndex) indexed fun _ => CursorWalk.mem_firstOccurrences.mp
  rw [← ArchiveStore.entriesOf_flatten] at flattened
  refine CursorWalk.nodup_of_length_le ?_
  have covered := walk.covers positive
  rw [CursorWalk.start, Nat.zero_add, ← read, flattened, once] at covered
  exact covered

/-- A store whose index agrees with its entries is listed in full by walks of the limit
exactly when it is empty or paginable. -/
theorem paginatesFully_iff (indexed : world.archive.Indexed) :
    world.PaginatesFully limit ↔
      world.archive.historicalLeasesIndex = [] ∨ world.Paginable limit := by
  constructor
  · intro full
    by_cases empty : world.archive.historicalLeasesIndex = []
    · exact .inl empty
    · obtain ⟨pages, paged, _⟩ := id full
      have positive : 0 < limit := by
        have first := paged.admitted (List.length_pos_iff.mpr empty)
        simpa [CursorWalk.start] using first.2
      have distinct := full.distinct positive indexed
      refine .inr ⟨distinct, positive, fun number within => ?_⟩
      obtain ⟨keys, walk, _⟩ := pagedFrom_iff.mp paged
      have read := walk.admits_boundary positive distinct number (by simpa [CursorWalk.start])
      rw [CursorWalk.start, Nat.zero_add] at read
      rw [Nat.succ_mul]
      exact (read within).1
  · rintro (empty | paginable)
    · refine ⟨_, pagedFrom_iff.mpr ⟨_, .last ?_ ?_, rfl⟩, ?_⟩
      · intro within
        rw [empty] at within
        exact absurd within (Nat.not_lt_zero _)
      · rw [CursorWalk.nextCursor_eq_none_iff, empty]
        exact Nat.zero_le _
      · simp [CursorWalk.page, CursorWalk.firstOccurrences, empty, ArchiveStore.entriesOf]
    · have admitted : ∀ number, number = 0 ∨
          CursorWalk.start world.archive.historicalLeasesIndex none + number * limit <
            world.archive.historicalLeasesIndex.length →
          admitsPage world.archive.historicalLeasesIndex limit
            (CursorWalk.start world.archive.historicalLeasesIndex none + number * limit) := by
        intro number _ within
        rw [CursorWalk.start, Nat.zero_add] at within ⊢
        have bound := paginable.bounded number within
        rw [Nat.succ_mul] at bound
        exact ⟨bound, Nat.add_pos_right _ paginable.positive⟩
      obtain ⟨keys, walk, flattened⟩ :=
        CursorWalk.exists_walk paginable.positive paginable.distinct none admitted
      refine ⟨_, pagedFrom_iff.mpr ⟨keys, walk, rfl⟩, ?_⟩
      rw [← ArchiveStore.entriesOf_flatten, flattened,
        CursorWalk.firstOccurrences_of_nodup paginable.distinct]
      rfl

end Walks

/-! ## Runs -/

/-- A call that archives meets no entry of the id. -/
def LedgerInvocation.ArchivesFresh (ledger : Ledger) : LedgerInvocation → Prop
  | .contract invocation => ∀ leaseId, invocation.call.archives ledger.toWorld = some leaseId →
      ledger.archive.historicalLease leaseId = none
  | .cleanup _ _ => True

section Runs

variable {ledger : Ledger} {invocation : LedgerInvocation}

/-- A step leaves the index alone or appends the id of a committed archiving call. -/
theorem Ledger.step_index (invocation : LedgerInvocation) (ledger : Ledger) :
    ((Ledger.step invocation ledger).archive.historicalLeasesIndex =
        ledger.archive.historicalLeasesIndex ∧
      (invocation.Committed ledger → invocation.ArchivesFresh ledger)) ∨
    ∃ leaseId, invocation.Committed ledger ∧
      (Ledger.step invocation ledger).archive.historicalLeasesIndex =
        ledger.archive.historicalLeasesIndex ++ [leaseId] ∧
      (invocation.ArchivesFresh ledger ↔ ledger.archive.historicalLease leaseId = none) := by
  by_cases committed : invocation.Committed ledger
  · cases invocation with
    | contract invocation =>
        rcases dispatch_archive (Invocation.Committed.commits committed) with
          ⟨silent, same⟩ | ⟨leaseId, record, archives, filed⟩
        · refine .inl ⟨same.historicalLeasesIndex, fun _ leaseId archives => ?_⟩
          cases silent.symm.trans archives
        · refine .inr ⟨leaseId, committed, filed.historicalLeasesIndex, ?_⟩
          simp [LedgerInvocation.ArchivesFresh, archives]
    | cleanup env call =>
        have archive := cleanup_archive (commits_attempt committed)
        exact .inl ⟨congrArg ArchiveStore.historicalLeasesIndex archive, fun _ => trivial⟩
  · rw [Ledger.step_of_not_committed committed]
    exact .inl ⟨rfl, fun commits => absurd commits committed⟩

theorem Ledger.distinct_step_iff (indexed : ledger.archive.Indexed)
    (distinct : ledger.archive.historicalLeasesIndex.Nodup) :
    (Ledger.step invocation ledger).archive.historicalLeasesIndex.Nodup ↔
      (invocation.Committed ledger → invocation.ArchivesFresh ledger) := by
  rcases Ledger.step_index invocation ledger with
    ⟨same, fresh⟩ | ⟨leaseId, committed, listed, fresh⟩
  · rw [same]
    exact iff_of_true distinct fresh
  · rw [imp_iff_right committed, fresh, listed, List.nodup_append_comm, List.singleton_append,
      List.nodup_cons, and_iff_left distinct, indexed leaseId, not_not]

theorem Ledger.distinct_of_step
    (distinct : (Ledger.step invocation ledger).archive.historicalLeasesIndex.Nodup) :
    ledger.archive.historicalLeasesIndex.Nodup := by
  rcases Ledger.step_index invocation ledger with ⟨same, _⟩ | ⟨leaseId, _, listed, _⟩
  · rwa [same] at distinct
  · rw [listed] at distinct
    exact (List.nodup_append.mp distinct).1

theorem Ledger.run_indexed (config : ConfigStore) (billing : BillingStore)
    (securityCouncil : Option SecurityCouncil) (calls : List LedgerInvocation) :
    (Run.run Ledger.step calls
      (Ledger.genesis config billing securityCouncil)).archive.Indexed :=
  @Run.invariant _ _ _ (fun ledger : Ledger => ledger.archive.Indexed)
    (fun invocation _ => Ledger.step_indexed invocation) calls _
    (World.genesis_indexed config billing securityCouncil)

/-- The store a run from a new deployment reaches is listed in full by walks of the limit
exactly when no committed call of the run archived an id a second time, and the archive is
empty or the limit is positive and every page boundary below the end lies inside `u32`. -/
theorem archive_paginates_iff (config : ConfigStore) (billing : BillingStore)
    (securityCouncil : Option SecurityCouncil) (calls : List LedgerInvocation) (limit : U32) :
    let fresh := Ledger.genesis config billing securityCouncil
    let store := Run.run Ledger.step calls fresh
    store.toWorld.PaginatesFully limit ↔
      Run.MeetsAlong Ledger.step (fun invocation ledger =>
        invocation.Committed ledger → invocation.ArchivesFresh ledger) calls fresh ∧
      (store.archive.historicalLeasesIndex = [] ∨ 1 ≤ limit ∧
        ∀ number, number * limit < store.archive.historicalLeasesIndex.length →
          (number + 1) * limit < 2 ^ 32) := by
  intro fresh store
  have indexed : store.archive.Indexed :=
    Ledger.run_indexed config billing securityCouncil calls
  have distinct : store.archive.historicalLeasesIndex.Nodup ↔ _ :=
    @Run.invariant_at_end_iff _ _ Ledger.step (fun ledger => ledger.archive.Indexed)
      (fun ledger => ledger.archive.historicalLeasesIndex.Nodup) _
      (fun invocation _ => Ledger.step_indexed invocation)
      (fun _ _ => Ledger.distinct_step_iff) (fun _ _ => Ledger.distinct_of_step) calls fresh
      (World.genesis_indexed config billing securityCouncil) List.nodup_nil
  rw [paginatesFully_iff indexed, ← distinct]
  constructor
  · rintro (empty | paginable)
    · exact ⟨empty ▸ List.nodup_nil, .inl empty⟩
    · exact ⟨paginable.distinct, .inr ⟨paginable.positive, paginable.bounded⟩⟩
  · rintro ⟨listed, empty | ⟨positive, bounded⟩⟩
    · exact .inl empty
    · exact .inr ⟨listed, positive, bounded⟩

/-- Lease 7 was archived twice: a walk cannot list it once.  And no page of size zero can be
read, `end - 1` is below zero. -/
theorem reused_id_listed_twice :
    let store := Run.run Ledger.step (archiveOnce ++ archiveAgain)
      (Ledger.genesis openSettings openBilling none)
    store.archive.historicalLeasesIndex = [7, 7] ∧ ¬ store.toWorld.PaginatesFully 1 ∧
      ∀ page after, ¬ Commits (getHistoricalLeasesPaginated none 0) store.toWorld page after := by
  intro store
  have listed : store.archive.historicalLeasesIndex = [7, 7] := rfl
  refine ⟨listed, fun full => ?_, fun page after run => ?_⟩
  · have distinct := full.distinct Nat.one_pos
      (Ledger.run_indexed openSettings openBilling none (archiveOnce ++ archiveAgain))
    rw [listed] at distinct
    simp at distinct
  · obtain ⟨admitted, _⟩ := (commits_getHistoricalLeasesPaginated page).mp run
    rw [listed] at admitted
    simp [admitsPage, CursorWalk.start] at admitted

end Runs

end LeaseFlow
