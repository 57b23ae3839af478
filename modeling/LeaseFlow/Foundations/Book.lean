import LeaseFlow.Foundations.Checked
import Mathlib.Algebra.BigOperators.Group.List.Basic
import Mathlib.Algebra.Order.BigOperators.Group.List
import Mathlib.Algebra.Order.Ring.Int

/-!
# Books of amounts

A book is a list of keyed amounts in the order they were entered.  Its balance is their sum; an
entry that is added, rewritten or struck out moves the balance by what it says.
-/

set_option autoImplicit false

abbrev Book (κ : Type) := List (κ × Int)

namespace Book

variable {κ : Type} {book : Book κ} {entry : κ × Int} {index : Nat}

def balance (book : Book κ) : Int :=
  (book.map Prod.snd).sum

/-- No entry is below zero. -/
def Nonneg (book : Book κ) : Prop :=
  ∀ entry ∈ book, 0 ≤ entry.2

theorem balance_append (book other : Book κ) :
    balance (book ++ other) = balance book + balance other := by
  rw [balance, List.map_append, List.sum_append]
  rfl

theorem balance_singleton (entry : κ × Int) : balance [entry] = entry.2 :=
  add_zero entry.2

/-- Striking out an entry takes what is read of it off a sum over the book. -/
theorem sum_map_eraseIdx (read : κ × Int → Int) (stored : book[index]? = some entry) :
    ((book.eraseIdx index).map read).sum = (book.map read).sum - read entry := by
  obtain ⟨within, value⟩ := List.getElem?_eq_some_iff.mp stored
  have inside : index < (book.map read).length := by
    rw [List.length_map]
    exact within
  have whole := List.add_sum_eraseIdx inside fun amount _ => AddCommute.all _ amount
  rw [List.getElem_map, value, List.eraseIdx_map] at whole
  exact eq_sub_of_add_eq' whole

theorem sum_map_set (read : κ × Int → Int) (stored : book[index]? = some entry)
    (other : κ × Int) :
    ((book.set index other).map read).sum = (book.map read).sum - read entry + read other := by
  obtain ⟨within, value⟩ := List.getElem?_eq_some_iff.mp stored
  have inside : index < (book.map read).length := by
    rw [List.length_map]
    exact within
  rw [List.map_set, List.sum_set', dif_pos inside, List.getElem_map, value]
  exact (add_assoc ..).symm

theorem balance_eraseIdx (stored : book[index]? = some entry) :
    balance (book.eraseIdx index) = balance book - entry.2 :=
  sum_map_eraseIdx Prod.snd stored

theorem balance_set (stored : book[index]? = some entry) (other : κ × Int) :
    balance (book.set index other) = balance book - entry.2 + other.2 :=
  sum_map_set Prod.snd stored other

theorem nonneg_nil : Nonneg ([] : Book κ) :=
  fun _ listed => absurd listed List.not_mem_nil

theorem Nonneg.append {other : Book κ} (nonneg : Nonneg book) (others : Nonneg other) :
    Nonneg (book ++ other) := by
  intro entry listed
  rcases List.mem_append.mp listed with before | after
  · exact nonneg entry before
  · exact others entry after

theorem nonneg_singleton (nonneg : 0 ≤ entry.2) : Nonneg [entry] := by
  intro other listed
  rw [List.mem_singleton.mp listed]
  exact nonneg

theorem Nonneg.eraseIdx (nonneg : Nonneg book) : Nonneg (book.eraseIdx index) :=
  fun entry listed => nonneg entry (List.mem_of_mem_eraseIdx listed)

theorem Nonneg.set (nonneg : Nonneg book) (new_nonneg : 0 ≤ entry.2) :
    Nonneg (book.set index entry) := by
  intro other listed
  rcases List.mem_or_eq_of_mem_set listed with before | same
  · exact nonneg other before
  · rw [same]
    exact new_nonneg

theorem balance_nonneg (nonneg : Nonneg book) : 0 ≤ balance book := by
  apply List.sum_nonneg
  intro amount listed
  obtain ⟨entry, within, rfl⟩ := List.mem_map.mp listed
  exact nonneg entry within

/-! ## Entries of one key -/

section Keyed

variable [DecidableEq κ] {key : κ}

/-- The amounts entered for a key, in order. -/
def amounts (key : κ) (book : Book κ) : List Int :=
  (book.filter fun entry => entry.1 = key).map Prod.snd

/-- What an entry says about a key. -/
def amountFor (key : κ) (entry : κ × Int) : Int :=
  if entry.1 = key then entry.2 else 0

def balanceOf (key : κ) (book : Book κ) : Int :=
  (book.map (amountFor key)).sum

theorem balanceOf_append (key : κ) (book other : Book κ) :
    balanceOf key (book ++ other) = balanceOf key book + balanceOf key other := by
  rw [balanceOf, List.map_append, List.sum_append]
  rfl

theorem balanceOf_singleton (key : κ) (entry : κ × Int) :
    balanceOf key [entry] = amountFor key entry :=
  add_zero _

theorem balanceOf_eq_sum (key : κ) (book : Book κ) : balanceOf key book = (amounts key book).sum := by
  induction book with
  | nil => rfl
  | cons entry rest ih =>
      unfold balanceOf amounts amountFor at ih ⊢
      by_cases mine : entry.1 = key
      · simp only [List.map_cons, List.sum_cons, List.filter_cons, mine, if_true, decide_true, ih]
      · simp only [List.map_cons, List.sum_cons, List.filter_cons, mine, if_false, decide_false,
          zero_add, ih]
        rfl

theorem amounts_nonneg (nonneg : Nonneg book) : ∀ amount ∈ amounts key book, 0 ≤ amount := by
  intro amount listed
  obtain ⟨entry, within, rfl⟩ := List.mem_map.mp listed
  exact nonneg entry (List.mem_of_mem_filter within)

theorem amounts_cons_of_eq (mine : entry.1 = key) :
    amounts key (entry :: book) = entry.2 :: amounts key book := by
  rw [amounts, List.filter_cons_of_pos]
  · rfl
  · exact decide_eq_true mine

theorem amounts_cons_of_ne (other : entry.1 ≠ key) :
    amounts key (entry :: book) = amounts key book := by
  rw [amounts, List.filter_cons_of_neg]
  · rfl
  · rw [decide_eq_true_iff]
    exact other

/-- The first entry found for a key is the first of its amounts. -/
theorem amounts_of_found
    (found : book.findIdx? (fun entry => entry.1 = key) = some index)
    (stored : book[index]? = some entry) :
    entry.1 = key ∧ ∃ rest, amounts key book = entry.2 :: rest := by
  induction book generalizing index with
  | nil => cases found
  | cons first others ih =>
      rw [List.findIdx?_cons] at found
      by_cases mine : first.1 = key
      · rw [if_pos (decide_eq_true mine)] at found
        cases found
        cases stored
        exact ⟨mine, _, amounts_cons_of_eq mine⟩
      · have miss : ¬ decide (first.1 = key) = true := by
          rw [decide_eq_true_iff]
          exact mine
        rw [if_neg miss] at found
        obtain ⟨later, place, rfl⟩ := Option.map_eq_some_iff.mp found
        rw [amounts_cons_of_ne mine]
        exact ih place stored

theorem found_of_amounts {amount : Int} {rest : List Int}
    (entered : amounts key book = amount :: rest) :
    ∃ index, book.findIdx? (fun entry => entry.1 = key) = some index ∧
      book[index]? = some (key, amount) := by
  induction book with
  | nil => cases entered
  | cons first others ih =>
      rw [List.findIdx?_cons]
      by_cases mine : first.1 = key
      · rw [amounts_cons_of_eq mine] at entered
        rw [if_pos (decide_eq_true mine)]
        have value := List.head_eq_of_cons_eq entered
        have same : first = (key, amount) := Prod.ext mine value
        rw [same]
        exact ⟨0, rfl, rfl⟩
      · have miss : ¬ decide (first.1 = key) = true := by
          rw [decide_eq_true_iff]
          exact mine
        rw [amounts_cons_of_ne mine] at entered
        obtain ⟨index, found, stored⟩ := ih entered
        rw [if_neg miss, found]
        exact ⟨index + 1, rfl, stored⟩

end Keyed

/-! ## Checked sums -/

/-- The sum from the left, each partial sum within the range of its type. -/
def sumFrom (low high : Int) : Int → List Int → Checked Int
  | start, [] => some start
  | start, amount :: rest => do
      let sum ← Checked.within low high (start + amount)
      sumFrom low high sum rest

/-- Amounts that are not negative are summed exactly when the sum fits. -/
theorem sumFrom_eq_some {low high start total : Int} {amounts : List Int} (low_le : low ≤ 0)
    (start_nonneg : 0 ≤ start) (start_le : start ≤ high) (nonneg : ∀ amount ∈ amounts, 0 ≤ amount) :
    sumFrom low high start amounts = some total ↔
      start + amounts.sum ≤ high ∧ start + amounts.sum = total := by
  induction amounts generalizing start with
  | nil =>
      rw [sumFrom, List.sum_nil, add_zero, Option.some_inj]
      exact (and_iff_right start_le).symm
  | cons amount rest ih =>
      obtain ⟨amount_nonneg, others⟩ := List.forall_mem_cons.mp nonneg
      have rest_nonneg : 0 ≤ rest.sum := List.sum_nonneg others
      have sum_nonneg := add_nonneg start_nonneg amount_nonneg
      rw [sumFrom, List.sum_cons, ← add_assoc]
      by_cases fits : start + amount ≤ high
      · have within : Checked.within low high (start + amount) = some (start + amount) :=
          Checked.within_eq_some.mpr ⟨⟨low_le.trans sum_nonneg, fits⟩, rfl⟩
        rw [Checked.bind_of_eq within]
        exact ih sum_nonneg fits others
      · have exceeds : ¬ start + amount + rest.sum ≤ high := fun le =>
          fits ((le_add_of_nonneg_right rest_nonneg).trans le)
        have none : Checked.within low high (start + amount) = none :=
          if_neg fun within => fits within.2
        rw [none]
        apply iff_of_false
        · intro summed
          cases summed
        · intro both
          exact exceeds both.1

end Book
