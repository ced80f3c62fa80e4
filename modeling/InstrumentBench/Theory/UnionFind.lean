/-
# Theory.UnionFind -- disjoint sets by parent pointers, with path halving

A forest is a function to parents; `Rooted parent root` says that every vertex comes to
its root by parents.  `find` walks to the root and lets every other vertex on the way
skip a generation, which keeps all roots (`find_spec`); `union` hangs one root under
another, which joins the two classes and no others (`union_spec`).  After joining the
ends of every edge, two vertices have one root iff the edges connect them
(`joined_iff`), so that there is one root a connected component (`card_roots`).
-/
import Mathlib.Combinatorics.SimpleGraph.Connectivity.Finite
import Mathlib.Data.Fintype.Card
import Mathlib.Logic.Function.Iterate
import Mathlib.Logic.Relation

namespace InstrumentBench.Theory.UnionFind

set_option autoImplicit false
set_option linter.unusedSectionVars false

variable {α : Type} [DecidableEq α] [Fintype α]

/-- The root of a vertex, and the parents after the walk to it. -/
def find : Nat → (α → α) → α → (α → α) × α
  | 0, parent, value => (parent, value)
  | fuel + 1, parent, value =>
      if parent value = value then (parent, value)
      else
        let parent := Function.update parent value (parent (parent value))
        find fuel parent (parent value)

/-- No walk is longer than there are vertices. -/
def findRoot (parent : α → α) (value : α) : (α → α) × α := find (Fintype.card α) parent value

/-- The parents after joining two vertices. -/
def union (parent : α → α) (left right : α) : α → α :=
  let (parent, leftRoot) := findRoot parent left
  let (parent, rightRoot) := findRoot parent right
  if leftRoot ≠ rightRoot then Function.update parent rightRoot leftRoot else parent

/-- The parents after joining the ends of every edge. -/
def join (parent : α → α) (edges : List (α × α)) : α → α :=
  edges.foldl (fun parent edge => union parent edge.1 edge.2) parent

/-- The roots of the vertices, each found in turn. -/
def roots : (α → α) → List α → Finset α
  | _, [] => ∅
  | parent, value :: rest =>
      let (parent, root) := findRoot parent value
      insert root (roots parent rest)

/-! ## Forests -/

/-- Every vertex comes to its root by parents. -/
structure Rooted (parent root : α → α) : Prop where
  fixed : ∀ v, parent (root v) = root v
  above : ∀ v, root (parent v) = root v
  reached : ∀ v, ∃ k, parent^[k] v = root v

theorem rooted_id : Rooted (id : α → α) id where
  fixed _ := rfl
  above _ := rfl
  reached _ := ⟨0, rfl⟩

variable {parent root : α → α}

/-- A vertex that is its own parent is its own root. -/
theorem Rooted.root_of_fixed (rooted : Rooted parent root) {v : α} (own : parent v = v) :
    root v = v := by
  obtain ⟨k, reached⟩ := rooted.reached v
  rw [← reached]
  exact Function.iterate_fixed own k

theorem Rooted.root_root (rooted : Rooted parent root) (v : α) : root (root v) = root v :=
  rooted.root_of_fixed (rooted.fixed v)

/-- The way to the root visits no vertex twice, so it is shorter than there are vertices. -/
theorem Rooted.reached_lt (rooted : Rooted parent root) (v : α) :
    ∃ k < Fintype.card α, parent^[k] v = root v := by
  classical
  have reached := rooted.reached v
  refine ⟨Nat.find reached, ?_, Nat.find_spec reached⟩
  have injective : Set.InjOn (fun k => parent^[k] v)
      (Finset.range (Nat.find reached + 1) : Set Nat) := by
    suffices ordered : ∀ i j, i < j → j < Nat.find reached + 1 →
        parent^[i] v ≠ parent^[j] v by
      intro i first j second same
      rcases lt_trichotomy i j with before | rfl | after
      · exact absurd same (ordered i j before (Finset.mem_range.1 second))
      · rfl
      · exact absurd same.symm (ordered j i after (Finset.mem_range.1 first))
    intro i j before within same
    -- A walk that came back would be at the root sooner.
    refine @Nat.find_min _ _ reached (i + (Nat.find reached - j)) (by omega) ?_
    rw [Nat.add_comm, Function.iterate_add_apply, same, ← Function.iterate_add_apply]
    rw [Nat.sub_add_cancel (by omega)]
    exact Nat.find_spec reached
  have bounded := Finset.card_le_univ
    ((Finset.range (Nat.find reached + 1)).image fun k => parent^[k] v)
  rw [Finset.card_image_of_injOn injective, Finset.card_range] at bounded
  omega

/-! ## Finding -/

/-- Skipping a generation shortens every way to a root. -/
theorem Rooted.halve_reached (rooted : Rooted parent root) (v : α) {k : Nat} {u : α}
    (reached : parent^[k] u = root u) :
    ∃ j ≤ k, (Function.update parent v (parent (parent v)))^[j] u = root u := by
  induction k using Nat.strong_induction_on generalizing u with
  | _ k ih =>
    cases k with
    | zero => exact ⟨0, le_rfl, reached⟩
    | succ k =>
        rw [Function.iterate_succ_apply] at reached
        by_cases here : u = v
        · subst here
          cases k with
          | zero =>
              refine ⟨1, le_rfl, ?_⟩
              have top : parent u = root u := reached
              rw [Function.iterate_one, Function.update_self, top, rooted.fixed]
          | succ k =>
              rw [Function.iterate_succ_apply, ← rooted.above u,
                ← rooted.above (parent u)] at reached
              obtain ⟨j, short, found⟩ := ih k (by omega) reached
              refine ⟨j + 1, by omega, ?_⟩
              rw [Function.iterate_succ_apply, Function.update_self, found, rooted.above,
                rooted.above]
        · rw [← rooted.above u] at reached
          obtain ⟨j, short, found⟩ := ih k (by omega) reached
          refine ⟨j + 1, by omega, ?_⟩
          rw [Function.iterate_succ_apply, Function.update_of_ne here, found, rooted.above]

theorem Rooted.halve (rooted : Rooted parent root) {v : α} (below : parent v ≠ v) :
    Rooted (Function.update parent v (parent (parent v))) root where
  fixed u := by
    have other : root u ≠ v := fun same => below (by rw [← same, rooted.fixed])
    rw [Function.update_of_ne other, rooted.fixed]
  above u := by
    by_cases here : u = v
    · subst here
      rw [Function.update_self, rooted.above, rooted.above]
    · rw [Function.update_of_ne here, rooted.above]
  reached u := by
    obtain ⟨k, reached⟩ := rooted.reached u
    obtain ⟨j, -, found⟩ := rooted.halve_reached v reached
    exact ⟨j, found⟩

theorem find_spec {fuel : Nat} (rooted : Rooted parent root) {v : α}
    (enough : ∃ k ≤ fuel, parent^[k] v = root v) :
    (find fuel parent v).2 = root v ∧ Rooted (find fuel parent v).1 root := by
  induction fuel generalizing parent v with
  | zero =>
      obtain ⟨k, short, reached⟩ := enough
      obtain rfl : k = 0 := Nat.le_zero.1 short
      exact ⟨reached, rooted⟩
  | succ fuel ih =>
      unfold find
      split
      case isTrue own => exact ⟨(rooted.root_of_fixed own).symm, rooted⟩
      case isFalse below =>
        obtain ⟨k, short, reached⟩ := enough
        have same : root (parent (parent v)) = root v := by
          rw [rooted.above, rooted.above]
        -- Two steps up there are at most as many left, and at least one was taken.
        have left : ∃ j ≤ fuel, parent^[j] (parent (parent v)) = root (parent (parent v)) := by
          rw [same]
          match k, short, reached with
          | 0, _, reached =>
              exact absurd (by rw [show v = root v from reached, rooted.fixed]) below
          | 1, _, reached =>
              refine ⟨0, Nat.zero_le _, ?_⟩
              have top : parent v = root v := reached
              rw [Function.iterate_zero_apply, top, rooted.fixed]
          | k + 2, short, reached => exact ⟨k, by omega, reached⟩
        obtain ⟨j, within, found⟩ := left
        obtain ⟨i, shorter, found⟩ := rooted.halve_reached v found
        have walked := ih (rooted.halve below) ⟨i, by omega, found⟩
        rw [same] at walked
        dsimp only
        rw [Function.update_self]
        exact walked

/-- **Finding returns the root and keeps every root.** -/
theorem findRoot_spec (rooted : Rooted parent root) (v : α) :
    (findRoot parent v).2 = root v ∧ Rooted (findRoot parent v).1 root := by
  obtain ⟨k, short, reached⟩ := rooted.reached_lt v
  exact find_spec rooted ⟨k, short.le, reached⟩

/-! ## Joining -/

/-- The roots after the root of `right` hangs under the root of `left`. -/
def merge (root : α → α) (left right v : α) : α := if root v = root right then root left else root v

theorem merge_eq_iff {left right u v : α} :
    merge root left right u = merge root left right v ↔
      root u = root v ∨ (root u = root left ∧ root v = root right) ∨
        (root u = root right ∧ root v = root left) := by
  unfold merge
  split
  case isTrue first =>
    split
    case isTrue second =>
      rw [first, second]
      simp
    case isFalse second =>
      rw [first]
      constructor
      · exact fun same => Or.inr (Or.inr ⟨rfl, same.symm⟩)
      · rintro (same | ⟨-, same⟩ | ⟨-, same⟩)
        · exact absurd same.symm second
        · exact absurd same second
        · exact same.symm
  case isFalse first =>
    split
    case isTrue second =>
      rw [second]
      constructor
      · exact fun same => Or.inr (Or.inl ⟨same, rfl⟩)
      · rintro (same | ⟨same, -⟩ | ⟨same, -⟩)
        · exact absurd same first
        · exact same
        · exact absurd same first
    case isFalse second =>
      constructor
      · exact Or.inl
      · rintro (same | ⟨-, same⟩ | ⟨same, -⟩)
        · exact same
        · exact absurd same second
        · exact absurd same first

/-- A root hung under another. -/
theorem Rooted.hang (rooted : Rooted parent root) {left right : α} (apart : root left ≠ root right) :
    Rooted (Function.update parent (root right) (root left)) (merge root left right) where
  fixed v := by
    unfold merge
    split
    case isTrue => rw [Function.update_of_ne apart, rooted.fixed]
    case isFalse other => rw [Function.update_of_ne other, rooted.fixed]
  above v := by
    by_cases top : v = root right
    · subst top
      rw [Function.update_self, merge, merge, rooted.root_root, rooted.root_root, if_neg apart,
        if_pos rfl]
    · rw [Function.update_of_ne top, merge, merge, rooted.above]
  reached v := by
    have at_top : (Function.update parent (root right) (root left))^[1] (root right) =
        merge root left right (root right) := by
      rw [Function.iterate_one, Function.update_self, merge, rooted.root_root, if_pos rfl]
    obtain ⟨k, reached⟩ := rooted.reached v
    induction k generalizing v with
    | zero =>
        have own : v = root v := reached
        by_cases top : v = root right
        · rw [top]
          exact ⟨1, at_top⟩
        · refine ⟨0, ?_⟩
          rw [Function.iterate_zero_apply, merge, ← own, if_neg top]
    | succ k ih =>
        by_cases top : v = root right
        · rw [top]
          exact ⟨1, at_top⟩
        · rw [Function.iterate_succ_apply, ← rooted.above v] at reached
          obtain ⟨j, found⟩ := ih (parent v) reached
          refine ⟨j + 1, ?_⟩
          rw [Function.iterate_succ_apply, Function.update_of_ne top, found, merge, merge,
            rooted.above]

/-- **A union joins the classes of two vertices and no others.** -/
theorem union_spec (rooted : Rooted parent root) (left right : α) :
    Rooted (union parent left right) (merge root left right) := by
  obtain ⟨left_root, rooted⟩ := findRoot_spec rooted left
  obtain ⟨right_root, rooted⟩ := findRoot_spec rooted right
  unfold union
  simp only [left_root, right_root]
  split
  case isTrue apart => exact rooted.hang apart
  case isFalse same =>
    rw [not_not] at same
    have unchanged : merge root left right = root := by
      funext v
      unfold merge
      split
      case isTrue here => rw [same, here]
      case isFalse => rfl
    rw [unchanged]
    exact rooted

/-- **After joining every edge, one root means connected.** -/
theorem join_spec (rooted : Rooted parent root) (edges : List (α × α)) :
    ∃ root', Rooted (join parent edges) root' ∧
      ∀ u v, root' u = root' v ↔
        Relation.EqvGen (fun a b => root a = root b ∨ (a, b) ∈ edges) u v := by
  induction edges generalizing parent root with
  | nil =>
      refine ⟨root, rooted, fun u v => ⟨fun same => .rel _ _ (Or.inl same), fun link => ?_⟩⟩
      induction link with
      | rel a b step => exact step.resolve_right List.not_mem_nil
      | refl => rfl
      | symm _ _ _ ih => exact ih.symm
      | trans _ _ _ _ _ ih ih' => exact ih.trans ih'
  | cons edge rest ih =>
      obtain ⟨left, right⟩ := edge
      obtain ⟨root', rooted', classes⟩ := ih (union_spec rooted left right)
      refine ⟨root', rooted', fun u v => ?_⟩
      rw [classes]
      have edge_link : Relation.EqvGen
          (fun a b => root a = root b ∨ (a, b) ∈ (left, right) :: rest) left right :=
        .rel _ _ (Or.inr List.mem_cons_self)
      have same_link {a b : α} (same : root a = root b) : Relation.EqvGen
          (fun a b => root a = root b ∨ (a, b) ∈ (left, right) :: rest) a b :=
        .rel _ _ (Or.inl same)
      constructor
      · intro link
        induction link with
        | rel a b step =>
            rcases step with merged | later
            · rcases merge_eq_iff.1 merged with same | ⟨first, second⟩ | ⟨first, second⟩
              · exact same_link same
              · exact .trans _ _ _ (same_link first) (.trans _ _ _ edge_link (same_link second.symm))
              · exact .trans _ _ _ (same_link first)
                  (.trans _ _ _ (.symm _ _ edge_link) (same_link second.symm))
            · exact .rel _ _ (Or.inr (List.mem_cons_of_mem _ later))
        | refl => exact .refl _
        | symm _ _ _ ih => exact .symm _ _ ih
        | trans _ _ _ _ _ ih ih' => exact .trans _ _ _ ih ih'
      · refine fun link => Relation.EqvGen.mono (fun a b step => ?_) _ _ link
        rcases step with same | listed
        · exact Or.inl (merge_eq_iff.2 (Or.inl same))
        · rcases List.mem_cons.1 listed with here | later
          · cases here
            exact Or.inl (merge_eq_iff.2 (Or.inr (Or.inl ⟨rfl, rfl⟩)))
          · exact Or.inr later

/-! ## Counting -/

theorem roots_eq (rooted : Rooted parent root) (values : List α) :
    roots parent values = (values.map root).toFinset := by
  induction values generalizing parent with
  | nil => rfl
  | cons value rest ih =>
      obtain ⟨found, rooted⟩ := findRoot_spec rooted value
      unfold roots
      simp only [found, ih rooted, List.map_cons, List.toFinset_cons]

variable {G : SimpleGraph α} {edges : List (α × α)}

/-- Edges that link what the graph links. -/
def Spans (G : SimpleGraph α) (edges : List (α × α)) : Prop :=
  (∀ edge ∈ edges, G.Reachable edge.1 edge.2) ∧
    ∀ a b, G.Adj a b → Relation.EqvGen (fun a b => (a, b) ∈ edges) a b

theorem joined_iff (spans : Spans G edges) :
    ∃ root, Rooted (join id edges) root ∧ ∀ u v, root u = root v ↔ G.Reachable u v := by
  obtain ⟨root, rooted, classes⟩ := join_spec rooted_id edges
  refine ⟨root, rooted, fun u v => ?_⟩
  rw [classes]
  constructor
  · intro link
    induction link with
    | rel a b step =>
        rcases step with same | listed
        · cases show a = b from same
          exact .refl _
        · exact spans.1 (a, b) listed
    | refl => exact .refl _
    | symm _ _ _ ih => exact ih.symm
    | trans _ _ _ _ _ ih ih' => exact ih.trans ih'
  · intro reach
    rw [SimpleGraph.reachable_iff_reflTransGen] at reach
    induction reach with
    | refl => exact .refl _
    | tail _ edge ih =>
        exact .trans _ _ _ ih ((spans.2 _ _ edge).mono fun _ _ => Or.inr)

open scoped Classical in
/-- **There are as many roots as connected components.** -/
theorem card_roots (spans : Spans G edges) {values : List α} (all : ∀ v, v ∈ values) :
    (roots (join id edges) values).card = Fintype.card G.ConnectedComponent := by
  obtain ⟨root, rooted, classes⟩ := joined_iff spans
  let component : G.ConnectedComponent → α :=
    SimpleGraph.ConnectedComponent.lift root fun v w walk _ => (classes v w).2 ⟨walk⟩
  have injective : Function.Injective component := by
    intro c d
    induction c using SimpleGraph.ConnectedComponent.ind with
    | h v =>
        induction d using SimpleGraph.ConnectedComponent.ind with
        | h w =>
            intro same
            exact SimpleGraph.ConnectedComponent.sound ((classes v w).1 same)
  have image : roots (join id edges) values = Finset.univ.image component := by
    rw [roots_eq rooted]
    ext u
    simp only [List.mem_toFinset, List.mem_map, Finset.mem_image, Finset.mem_univ, true_and]
    constructor
    · rintro ⟨v, -, rfl⟩
      exact ⟨G.connectedComponentMk v, rfl⟩
    · rintro ⟨c, rfl⟩
      induction c using SimpleGraph.ConnectedComponent.ind with
      | h v => exact ⟨v, all v, rfl⟩
  rw [image, Finset.card_image_of_injective _ injective, Finset.card_univ]

end InstrumentBench.Theory.UnionFind
