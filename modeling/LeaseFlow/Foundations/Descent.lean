import Mathlib.Data.List.Perm.Subperm
import Mathlib.Logic.Relation

/-!
# Walks down child lists

A walk goes from a node to the nodes listed below it, in their order, and comes back from a node
once it has come back from all of these.  It ends at the first node that is missing.  In a forest,
where everything listed is there, nothing is listed twice and no node is below itself, the walk
down from a node ends within as many levels as there are nodes, and comes back once from every
node of its subtree and from no other.
-/

set_option autoImplicit false

namespace Descent

variable {ι : Type} (children : ι → Option (List ι))

/-- The walk from the node comes back from it: nothing at or below it is missing. -/
inductive Whole : ι → Prop where
  | of_listed {node : ι} {below : List ι} (listed : children node = some below)
      (whole : ∀ child ∈ below, Whole child) : Whole node

/-- The walk from one node comes back from another before it ends. -/
inductive Visits : ι → ι → Prop where
  | back {node : ι} (whole : Whole children node) : Visits node node
  | down {node child other : ι} {earlier later : List ι}
      (listed : children node = some (earlier ++ child :: later))
      (whole : ∀ sibling ∈ earlier, Whole children sibling) (visits : Visits child other) :
      Visits node other

/-- The walks from the nodes, one after the other, come back from another node before one ends. -/
def VisitsAmong (nodes : List ι) (other : ι) : Prop :=
  ∃ earlier child later, nodes = earlier ++ child :: later ∧
    (∀ sibling ∈ earlier, Whole children sibling) ∧ Visits children child other

/-- Whatever is listed is there. -/
def Closed : Prop :=
  ∀ node below, children node = some below → ∀ child ∈ below, children child ≠ none

section Rules

variable {children} {node child other : ι} {below rest : List ι}

theorem whole_iff (listed : children node = some below) :
    Whole children node ↔ ∀ child ∈ below, Whole children child := by
  constructor
  · rintro ⟨again, whole⟩
    obtain rfl := Option.some.inj (listed.symm.trans again)
    exact whole
  · exact .of_listed listed

theorem not_whole_of_none (missing : children node = none) : ¬ Whole children node := by
  rintro ⟨listed, _⟩
  cases missing.symm.trans listed

theorem not_visits_of_none (missing : children node = none) : ¬ Visits children node other := by
  intro visits
  cases visits with
  | back whole => exact not_whole_of_none missing whole
  | down listed => cases missing.symm.trans listed

theorem visits_iff (listed : children node = some below) :
    Visits children node other ↔
      (other = node ∧ ∀ child ∈ below, Whole children child) ∨
        VisitsAmong children below other := by
  constructor
  · intro visits
    cases visits with
    | back whole => exact .inl ⟨rfl, (whole_iff listed).mp whole⟩
    | down again whole visits =>
        obtain rfl := Option.some.inj (listed.symm.trans again)
        exact .inr ⟨_, _, _, rfl, whole, visits⟩
  · rintro (⟨rfl, whole⟩ | ⟨earlier, child, later, rfl, whole, visits⟩)
    · exact .back (.of_listed listed whole)
    · exact .down listed whole visits

theorem not_visitsAmong_nil : ¬ VisitsAmong children [] other := by
  rintro ⟨earlier, child, later, split, _⟩
  cases earlier <;> cases split

theorem visitsAmong_cons :
    VisitsAmong children (child :: rest) other ↔
      Visits children child other ∨ (Whole children child ∧ VisitsAmong children rest other) := by
  constructor
  · rintro ⟨earlier, next, later, split, whole, visits⟩
    cases earlier with
    | nil =>
        obtain ⟨rfl, rfl⟩ := List.cons.inj split
        exact .inl visits
    | cons first earlier =>
        obtain ⟨rfl, rfl⟩ := List.cons.inj split
        exact .inr ⟨whole _ List.mem_cons_self, earlier, next, later, rfl,
          fun sibling among => whole sibling (List.mem_cons_of_mem _ among), visits⟩
  · rintro (visits | ⟨first, earlier, next, later, rfl, whole, visits⟩)
    · exact ⟨[], child, rest, rfl, fun _ among => absurd among List.not_mem_nil, visits⟩
    · refine ⟨child :: earlier, next, later, rfl, fun sibling among => ?_, visits⟩
      rcases List.mem_cons.mp among with rfl | among
      · exact first
      · exact whole sibling among

/-- Where nothing is missing, the walk comes back from all that is listed below. -/
theorem Whole.visits (whole : Whole children node) (listed : children node = some below)
    (among : child ∈ below) (visits : Visits children child other) :
    Visits children node other := by
  obtain ⟨earlier, later, rfl⟩ := List.append_of_mem among
  refine .down listed (fun sibling before => ?_) visits
  exact (whole_iff listed).mp whole sibling (List.mem_append_left _ before)

theorem Visits.whole (visits : Visits children node other) : Whole children other := by
  induction visits with
  | back whole => exact whole
  | down _ _ _ ih => exact ih

theorem Visits.trans {first second third : ι} (one : Visits children first second)
    (two : Visits children second third) : Visits children first third := by
  induction one with
  | back _ => exact two
  | down listed whole _ ih => exact .down listed whole (ih two)

end Rules

/-! ## Forests -/

open Relation

/-- The child is listed below the node. -/
def Lists (node child : ι) : Prop :=
  ∃ below, children node = some below ∧ child ∈ below

/-- The other node is in the subtree of the node. -/
def Subtree (node other : ι) : Prop :=
  ReflTransGen (Lists children) node other

structure Forest : Prop where
  closed : Closed children
  once : ∀ node below, children node = some below → below.Nodup
  apart : ∀ first second child, Lists children first child → Lists children second child →
    first = second
  acyclic : ∀ node, ¬ TransGen (Lists children) node node

/-- The nodes a walk comes back from within the given levels, in their order. -/
def walk : Nat → ι → Option (List ι)
  | 0, _ => none
  | levels + 1, node => do
      let below ← children node
      let walks ← below.mapM (walk levels)
      pure (walks.flatten ++ [node])

section Rules

variable {children} {node child other : ι} {below nodes : List ι} {levels : Nat}

/-- Where the number of a node is below those of its children, no node is below itself. -/
theorem acyclic_of_rank (rank : ι → Nat)
    (deeper : ∀ node child, Lists children node child → rank node < rank child) (node : ι) :
    ¬ TransGen (Lists children) node node := by
  have ascends : ∀ {first second}, TransGen (Lists children) first second →
      rank first < rank second := by
    intro first second path
    induction path with
    | single listed => exact deeper _ _ listed
    | tail _ listed ih => exact Nat.lt_trans ih (deeper _ _ listed)
  intro circle
  exact Nat.lt_irrefl _ (ascends circle)

theorem walk_succ_eq_some :
    walk children (levels + 1) node = some nodes ↔
      ∃ below walks, children node = some below ∧
        below.mapM (walk children levels) = some walks ∧ nodes = walks.flatten ++ [node] := by
  simp only [walk, Option.bind_eq_bind, Option.bind_eq_some_iff, Option.pure_def,
    Option.some.injEq]
  constructor
  · intro walked
    obtain ⟨below, listed, walks, each, same⟩ := walked
    exact ⟨below, walks, listed, each, same.symm⟩
  · intro walked
    obtain ⟨below, walks, listed, each, same⟩ := walked
    exact ⟨below, listed, walks, each, same.symm⟩

theorem mapM_cons_eq_some {walks : List (List ι)} :
    (child :: below).mapM (walk children levels) = some walks ↔
      ∃ first rest, walk children levels child = some first ∧
        below.mapM (walk children levels) = some rest ∧ walks = first :: rest := by
  simp only [List.mapM_cons, Option.bind_eq_bind, Option.bind_eq_some_iff, Option.pure_def,
    Option.some.injEq]
  constructor
  · intro walked
    obtain ⟨first, one, rest, others, same⟩ := walked
    exact ⟨first, rest, one, others, same.symm⟩
  · intro walked
    obtain ⟨first, rest, one, others, same⟩ := walked
    exact ⟨first, one, rest, others, same.symm⟩

theorem mapM_nil_eq_some {walks : List (List ι)} :
    ([] : List ι).mapM (walk children levels) = some walks ↔ walks = [] := by
  rw [List.mapM_nil]
  exact Option.some_inj.trans eq_comm

/-! ## What a walk comes back from -/

/-- The walks of the children come back from what each of them does. -/
theorem mem_flatten_iff {walks : List (List ι)} {Q : ι → ι → Prop}
    (each : ∀ child nodes, walk children levels child = some nodes →
      (other ∈ nodes ↔ Q child other))
    (walked : below.mapM (walk children levels) = some walks) :
    other ∈ walks.flatten ↔ ∃ child ∈ below, Q child other := by
  induction below generalizing walks with
  | nil =>
      rw [mapM_nil_eq_some.mp walked]
      simp
  | cons child rest ih =>
      obtain ⟨first, later, one, others, rfl⟩ := mapM_cons_eq_some.mp walked
      rw [List.flatten_cons, List.mem_append, each child first one, ih others]
      simp

theorem mem_walk_iff (walked : walk children levels node = some nodes) :
    other ∈ nodes ↔ Subtree children node other := by
  induction levels generalizing node nodes with
  | zero => cases walked
  | succ levels ih =>
      obtain ⟨below, walks, listed, each, rfl⟩ := walk_succ_eq_some.mp walked
      have among := @mem_flatten_iff _ _ other below levels walks (Subtree children)
        (fun child nodes one => ih one) each
      rw [List.mem_append, among, List.mem_singleton]
      unfold Subtree
      rw [ReflTransGen.cases_head_iff]
      constructor
      · intro either
        rcases either with ⟨child, within, path⟩ | rfl
        · exact .inr ⟨child, ⟨below, listed, within⟩, path⟩
        · exact .inl rfl
      · intro either
        rcases either with rfl | ⟨child, ⟨again, same, within⟩, path⟩
        · exact .inr rfl
        · rw [listed] at same
          cases same
          exact .inl ⟨child, within, path⟩

/-! ## Forests -/

/-- Of two nodes above one, either is above the other. -/
theorem Forest.above_total (forest : Forest children) {first second : ι}
    (one : Subtree children first other) (two : Subtree children second other) :
    Subtree children first second ∨ Subtree children second first := by
  have unique : Relator.RightUnique (Function.swap (Lists children)) :=
    fun child first second one two => forest.apart first second child one two
  rcases ReflTransGen.total_of_right_unique unique one.swap two.swap with path | path
  · exact .inr path.swap
  · exact .inl path.swap

/-- A child is in the subtree of no other child of the same node. -/
theorem Forest.not_subtree_sibling (forest : Forest children) {first second : ι}
    (one : Lists children node first) (two : Lists children node second)
    (distinct : first ≠ second) : ¬ Subtree children first second := by
  intro path
  rcases ReflTransGen.cases_tail path with same | ⟨parent, earlier, listed⟩
  · exact distinct same.symm
  · have same := forest.apart parent node second listed two
    rw [same] at earlier
    exact forest.acyclic node (TransGen.head' one earlier)

theorem Forest.disjoint_siblings (forest : Forest children) {first second : ι}
    (one : Lists children node first) (two : Lists children node second)
    (distinct : first ≠ second) (below : Subtree children first other) :
    ¬ Subtree children second other := by
  intro also
  rcases forest.above_total below also with path | path
  · exact forest.not_subtree_sibling one two distinct path
  · exact forest.not_subtree_sibling two one distinct.symm path

/-- The walks of different children have no node in common. -/
theorem Forest.nodup_flatten (forest : Forest children) {walks : List (List ι)}
    (each : ∀ child nodes, walk children levels child = some nodes → nodes.Nodup)
    (listed : ∀ child ∈ below, Lists children node child) (once : below.Nodup)
    (walked : below.mapM (walk children levels) = some walks) : walks.flatten.Nodup := by
  induction below generalizing walks with
  | nil =>
      rw [mapM_nil_eq_some.mp walked]
      exact List.nodup_nil
  | cons child rest ih =>
      obtain ⟨first, later, one, others, rfl⟩ := mapM_cons_eq_some.mp walked
      obtain ⟨mine, siblings⟩ := List.forall_mem_cons.mp listed
      obtain ⟨fresh, distinct⟩ := List.nodup_cons.mp once
      rw [List.flatten_cons, List.nodup_append]
      refine ⟨each child first one, ih siblings distinct others, ?_⟩
      intro common inFirst also inLater same
      subst same
      have here := (mem_walk_iff one).mp inFirst
      obtain ⟨sibling, within, there⟩ :=
        (mem_flatten_iff (fun child nodes walked => mem_walk_iff walked) others).mp inLater
      have apart : child ≠ sibling := fun same => fresh (same ▸ within)
      exact forest.disjoint_siblings mine (siblings sibling within) apart here there

theorem Forest.nodup_walk (forest : Forest children)
    (walked : walk children levels node = some nodes) : nodes.Nodup := by
  induction levels generalizing node nodes with
  | zero => cases walked
  | succ levels ih =>
      obtain ⟨below, walks, listed, each, rfl⟩ := walk_succ_eq_some.mp walked
      have lists : ∀ child ∈ below, Lists children node child :=
        fun child within => ⟨below, listed, within⟩
      rw [List.nodup_append]
      refine ⟨?_, List.nodup_cons.mpr ⟨List.not_mem_nil, List.nodup_nil⟩, ?_⟩
      · exact forest.nodup_flatten (fun child nodes one => ih one) lists
          (forest.once node below listed) each
      · intro common inWalks also inNode same
        rw [List.mem_singleton.mp inNode] at same
        subst same
        obtain ⟨child, within, path⟩ :=
          (mem_flatten_iff (fun child nodes walked => mem_walk_iff walked) each).mp inWalks
        exact forest.acyclic common (TransGen.head' (lists child within) path)

/-! ## How deep a walk goes -/

/-- A walk that is below as many different nodes as are left out of its levels comes back: the
nodes above it and it itself are among the nodes there are. -/
theorem Forest.walk_goes (forest : Forest children) {stored path : List ι}
    (all : ∀ node, children node ≠ none → node ∈ stored)
    (distinct : path.Nodup) (above : ∀ upper ∈ path, TransGen (Lists children) upper node)
    (enough : stored.length < path.length + levels) (present : children node ≠ none) :
    ∃ nodes, walk children levels node = some nodes := by
  induction levels generalizing node path with
  | zero =>
      have within : path ⊆ stored := by
        intro upper listed
        apply all
        obtain ⟨child, ⟨below, here, _⟩, _⟩ := TransGen.head'_iff.mp (above upper listed)
        rw [here]
        exact Option.some_ne_none below
      have few := (List.subperm_of_subset distinct within).length_le
      omega
  | succ levels ih =>
      obtain ⟨below, listed⟩ := Option.ne_none_iff_exists'.mp present
      have fresh : node ∉ path := fun within => forest.acyclic node (above node within)
      have deeper : ∀ child ∈ below, ∃ nodes, walk children levels child = some nodes := by
        intro child within
        have lists : Lists children node child := ⟨below, listed, within⟩
        apply @ih child (node :: path)
        · exact List.nodup_cons.mpr ⟨fresh, distinct⟩
        · intro upper among
          rcases List.mem_cons.mp among with rfl | earlier
          · exact .single lists
          · exact (above upper earlier).tail lists
        · rw [List.length_cons]
          omega
        · exact forest.closed node below listed child within
      have walks : ∃ walks, below.mapM (walk children levels) = some walks := by
        clear listed
        induction below with
        | nil => exact ⟨[], rfl⟩
        | cons child rest ih =>
            obtain ⟨one, others⟩ := List.forall_mem_cons.mp deeper
            obtain ⟨first, walked⟩ := one
            obtain ⟨later, rests⟩ := ih others
            exact ⟨first :: later, mapM_cons_eq_some.mpr ⟨first, later, walked, rests, rfl⟩⟩
      obtain ⟨walks, each⟩ := walks
      exact ⟨_, walk_succ_eq_some.mpr ⟨below, walks, listed, each, rfl⟩⟩

/-- A walk that comes back has met nothing that is missing. -/
theorem whole_of_walk (walked : walk children levels node = some nodes) : Whole children node := by
  induction levels generalizing node nodes with
  | zero => cases walked
  | succ levels ih =>
      obtain ⟨below, walks, listed, each, same⟩ := walk_succ_eq_some.mp walked
      clear same
      apply Whole.of_listed listed
      clear listed walked
      induction below generalizing walks with
      | nil => exact List.forall_mem_nil _
      | cons child rest ihRest =>
          obtain ⟨first, later, one, others, rfl⟩ := mapM_cons_eq_some.mp each
          exact List.forall_mem_cons.mpr ⟨ih one, ihRest later others⟩

/-- Where nothing is missing, a walk comes back from its subtree. -/
theorem Whole.visits_iff_subtree (whole : Whole children node) :
    Visits children node other ↔ Subtree children node other := by
  constructor
  · intro visits
    clear whole
    induction visits with
    | back _ => exact .refl
    | @down node child other earlier later listed _ _ ih =>
        exact .head ⟨_, listed, List.mem_append_right _ List.mem_cons_self⟩ ih
  · intro path
    unfold Subtree at path
    induction path using ReflTransGen.head_induction_on with
    | refl => exact .back whole
    | @head node child lists _ ih =>
        obtain ⟨below, listed, within⟩ := lists
        have below_whole := (whole_iff listed).mp whole child within
        exact whole.visits listed within (ih below_whole)

end Rules

end Descent
