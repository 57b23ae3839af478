import Mathlib.Data.List.Dedup
import Mathlib.Data.List.Nodup

/-!
# Walking a list page by page

A list is read in pages of a fixed size.  Each page hands out the key it ends with as a
cursor, and the next page starts behind the first place where that key occurs.  A walk
that ends has read every position; it has read each of them once if the keys are distinct.
-/

set_option autoImplicit false

namespace CursorWalk

variable {κ : Type} [DecidableEq κ]

section Pages

variable (index : List κ) (limit : Nat)

/-- The position behind the first occurrence of the key, the end of the list if it has none. -/
def positionAfter (key : κ) : Nat :=
  if key ∈ index then index.idxOf key + 1 else index.length

def start : Option κ → Nat
  | none => 0
  | some key => positionAfter index key

def page (cursor : Option κ) : List κ :=
  (index.drop (start index cursor)).take limit

/-- The last key of the page, unless the page reaches the end of the list. -/
def nextCursor (cursor : Option κ) : Option κ :=
  if start index cursor + limit < index.length then index[start index cursor + limit - 1]? else none

/-- The pages of a walk that ends, every one of them read at an admissible position. -/
inductive Walk (admits : Nat → Prop) : Option κ → List (List κ) → Prop where
  | last {cursor : Option κ} (admitted : admits (start index cursor))
      (done : nextCursor index limit cursor = none) : Walk admits cursor [page index limit cursor]
  | next {cursor : Option κ} {key : κ} {pages : List (List κ)}
      (admitted : admits (start index cursor)) (more : nextCursor index limit cursor = some key)
      (rest : Walk admits (some key) pages) : Walk admits cursor (page index limit cursor :: pages)

/-- The keys in the order of their first occurrence. -/
def firstOccurrences : List κ :=
  index.reverse.dedup.reverse

end Pages

variable {index : List κ} {limit : Nat} {admits : Nat → Prop} {cursor : Option κ}
  {pages : List (List κ)}

/-! ## Positions -/

theorem start_le (cursor : Option κ) : start index cursor ≤ index.length := by
  cases cursor with
  | none => exact Nat.zero_le _
  | some key =>
      show positionAfter index key ≤ index.length
      unfold positionAfter
      split
      · next listed => exact List.idxOf_lt_length_of_mem listed
      · exact Nat.le_refl _

/-- A cursor never points behind the position it was taken from. -/
theorem start_getElem_le {position : Nat} {key : κ} (found : index[position]? = some key) :
    start index (some key) ≤ position + 1 := by
  have listed : key ∈ index := List.mem_of_getElem? found
  have early : key ∈ index.take (position + 1) := by
    refine List.mem_of_getElem? (i := position) ?_
    rw [List.getElem?_take, if_pos (Nat.lt_succ_self position), found]
  have bound := (List.mem_take_iff_idxOf_lt listed).mp early
  show positionAfter index key ≤ position + 1
  rw [positionAfter, if_pos listed]
  omega

theorem start_getElem (distinct : index.Nodup) {position : Nat} {key : κ}
    (found : index[position]? = some key) : start index (some key) = position + 1 := by
  obtain ⟨within, rfl⟩ := List.getElem?_eq_some_iff.mp found
  show positionAfter index index[position] = position + 1
  rw [positionAfter, if_pos (List.getElem_mem within)]
  exact congrArg (· + 1) (List.get_idxOf distinct ⟨position, within⟩)

theorem nextCursor_eq_none_iff :
    nextCursor index limit cursor = none ↔ index.length ≤ start index cursor + limit := by
  unfold nextCursor
  split
  · next more =>
      rw [List.getElem?_eq_none_iff]
      omega
  · next done => simpa using done

theorem nextCursor_eq_some {key : κ} (more : nextCursor index limit cursor = some key) :
    start index cursor + limit < index.length ∧
      index[start index cursor + limit - 1]? = some key := by
  unfold nextCursor at more
  split at more
  · next within => exact ⟨within, more⟩
  · cases more

theorem mem_of_mem_page {key : κ} (listed : key ∈ page index limit cursor) : key ∈ index :=
  List.mem_of_mem_drop (List.mem_of_mem_take listed)

/-! ## Walks that end -/

theorem Walk.mem_index {key : κ} (walk : Walk index limit admits cursor pages)
    (read : key ∈ pages.flatten) : key ∈ index := by
  induction walk with
  | last _ _ => exact mem_of_mem_page (by simpa using read)
  | next _ _ _ ih =>
      rw [List.flatten_cons, List.mem_append] at read
      exact read.elim mem_of_mem_page ih

/-- Every position from the start of the walk on is read. -/
theorem Walk.covers (walk : Walk index limit admits cursor pages) (positive : 0 < limit) :
    index.length ≤ start index cursor + pages.flatten.length := by
  induction walk with
  | @last cursor _ done =>
      rw [nextCursor_eq_none_iff] at done
      have bound : start index cursor ≤ index.length := start_le cursor
      simp only [page, List.flatten_cons, List.flatten_nil, List.append_nil, List.length_take,
        List.length_drop]
      omega
  | @next cursor key pages _ more _ ih =>
      obtain ⟨within, found⟩ := nextCursor_eq_some more
      have back := start_getElem_le found
      simp only [page, List.flatten_cons, List.length_append, List.length_take, List.length_drop]
      omega

/-- A walk of positive pages over distinct keys reads at every page boundary. -/
theorem Walk.admits_boundary (walk : Walk index limit admits cursor pages)
    (positive : 0 < limit) (distinct : index.Nodup) (number : Nat)
    (within : start index cursor + number * limit < index.length) :
    admits (start index cursor + number * limit) := by
  induction walk generalizing number with
  | @last cursor admitted done =>
      rw [nextCursor_eq_none_iff] at done
      cases number with
      | zero => simpa using admitted
      | succ number =>
          rw [Nat.succ_mul] at within
          omega
  | @next cursor key pages admitted more _ ih =>
      obtain ⟨_, found⟩ := nextCursor_eq_some more
      have next := start_getElem distinct found
      cases number with
      | zero => simpa using admitted
      | succ number =>
          have moved : start index (some key) + number * limit =
              start index cursor + (number + 1) * limit := by
            rw [next, Nat.succ_mul]
            omega
          rw [← moved] at within ⊢
          exact ih number within

/-- Over distinct keys a walk of positive pages ends and reads what is left of the list. -/
theorem exists_walk (positive : 0 < limit) (distinct : index.Nodup) (cursor : Option κ)
    (admitted : ∀ number, number = 0 ∨ start index cursor + number * limit < index.length →
      admits (start index cursor + number * limit)) :
    ∃ pages, Walk index limit admits cursor pages ∧
      pages.flatten = index.drop (start index cursor) := by
  have now : admits (start index cursor) := by simpa using admitted 0 (.inl rfl)
  cases more : nextCursor index limit cursor with
  | none =>
      refine ⟨_, .last now more, ?_⟩
      rw [nextCursor_eq_none_iff] at more
      rw [page, List.flatten_cons, List.flatten_nil, List.append_nil]
      exact List.take_of_length_le (by rw [List.length_drop]; omega)
  | some key =>
      obtain ⟨within, found⟩ := nextCursor_eq_some more
      have next : start index (some key) = start index cursor + limit := by
        rw [start_getElem distinct found]
        omega
      have later : ∀ number, number = 0 ∨ start index (some key) + number * limit < index.length →
          admits (start index (some key) + number * limit) := by
        intro number ahead
        have moved : start index (some key) + number * limit =
            start index cursor + (number + 1) * limit := by
          rw [next, Nat.succ_mul]
          omega
        rw [moved]
        refine admitted (number + 1) (.inr ?_)
        rw [← moved]
        rcases ahead with rfl | ahead
        · rw [next]
          simpa using within
        · exact ahead
      obtain ⟨pages, rest, flattened⟩ := exists_walk positive distinct (some key) later
      refine ⟨_, .next now more rest, ?_⟩
      rw [List.flatten_cons, flattened, next, page, ← List.drop_drop, List.take_append_drop]
termination_by index.length - start index cursor
decreasing_by
  rw [next]
  omega

/-! ## First occurrences -/

theorem mem_firstOccurrences {key : κ} : key ∈ firstOccurrences index ↔ key ∈ index := by
  simp [firstOccurrences]

theorem firstOccurrences_of_nodup (distinct : index.Nodup) : firstOccurrences index = index := by
  rw [firstOccurrences, List.dedup_eq_self.mpr (List.nodup_reverse.mpr distinct),
    List.reverse_reverse]

theorem nodup_of_length_le (short : index.length ≤ (firstOccurrences index).length) :
    index.Nodup := by
  rw [firstOccurrences, List.length_reverse, ← @List.length_reverse _ index] at short
  have same := (List.dedup_sublist index.reverse).eq_of_length_le short
  exact List.nodup_reverse.mp (List.dedup_eq_self.mp same)

end CursorWalk
