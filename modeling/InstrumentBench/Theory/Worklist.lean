/-
# Theory.Worklist -- walks over a finite graph

A walk keeps a stack of vertices to look at and the set of vertices it has seen: it
takes the last one off, and puts on those of its neighbours it has not seen.  Sets are
gone through in any order (`SetOrder`), which may be another one every time.

`traverse` stops at the first vertex asked for.  It finds one iff one is reachable
(`traverse_found_iff`), and has otherwise seen exactly what is reachable
(`mem_traverse_iff`).  `components` takes a vertex that remains and removes what is
reachable from it until nothing remains: of a symmetric graph it returns each class of
linked vertices once (`mem_components_iff`, `components_nodup`), which are the connected
components of the graph as Mathlib has it (`components_eq`).
-/
import Mathlib.Combinatorics.SimpleGraph.Connectivity.Finite
import Mathlib.Data.Fin.Tuple.Basic
import Mathlib.Data.List.FinRange
import Mathlib.Data.Fintype.Card
import Mathlib.Logic.Relation

namespace InstrumentBench.Theory

set_option autoImplicit false
set_option linter.unusedSectionVars false

/-- The order in which a set is gone through, the `n`-th time one is: each member once. -/
structure SetOrder (α : Type) where
  list : Nat → Finset α → List α
  nodup : ∀ n s, (list n s).Nodup
  mem : ∀ n s a, a ∈ list n s ↔ a ∈ s

namespace SetOrder

variable {α : Type}

/-- The order from the `m`-th time on. -/
def after (order : SetOrder α) (m : Nat) : SetOrder α where
  list n s := order.list (m + n) s
  nodup n s := order.nodup (m + n) s
  mem n s a := order.mem (m + n) s a

/-- The ascending order, every time. -/
def ascending (n : Nat) : SetOrder (Fin n) where
  list _ s := (List.finRange n).filter fun i => decide (i ∈ s)
  nodup _ _ := (List.nodup_finRange n).filter _
  mem _ s a := by simp

theorem length_list (order : SetOrder α) (n : Nat) (s : Finset α) :
    (order.list n s).length = s.card := by
  classical
  have same : (order.list n s).toFinset = s := by
    ext a
    rw [List.mem_toFinset, order.mem]
  rw [← List.toFinset_card_of_nodup (order.nodup n s), same]

end SetOrder

namespace Worklist

variable {α : Type} [DecidableEq α]

/-- The walk: whether it stopped, and what it has seen. -/
def traverse (order : SetOrder α) (stop : α → Bool) (next : α → Finset α) :
    Nat → List α → Finset α → Bool × Finset α
  | 0, _, seen => (false, seen)
  | _ + 1, [], seen => (false, seen)
  | fuel + 1, current :: rest, seen =>
      if stop current = true then (true, seen)
      else
        let fresh := next current \ seen
        traverse order stop next fuel ((order.list fuel fresh).reverse ++ rest) (seen ∪ fresh)

/-! ## What a walk sees -/

/-- A vertex is reachable from one of the starts. -/
def Reached (next : α → Finset α) (starts : Finset α) (v : α) : Prop :=
  ∃ s ∈ starts, Relation.ReflTransGen (fun a b => b ∈ next a) s v

/-- What holds of the stack and the seen vertices all along: what is seen is reachable,
and what is seen and no longer on the stack has been looked at. -/
structure Along (stop : α → Bool) (next : α → Finset α) (starts : Finset α) (pending : List α)
    (seen : Finset α) : Prop where
  pending_seen : ∀ v ∈ pending, v ∈ seen
  starts_seen : starts ⊆ seen
  reached : ∀ v ∈ seen, Reached next starts v
  looked : ∀ v ∈ seen, v ∉ pending → stop v = false ∧ next v ⊆ seen

variable {order : SetOrder α} {stop : α → Bool} {next : α → Finset α} {starts seen : Finset α}
  {pending : List α}

theorem Along.start {pending : List α} (same : ∀ v, v ∈ pending ↔ v ∈ starts) :
    Along stop next starts pending starts where
  pending_seen v := (same v).1
  starts_seen := fun _ => id
  reached v listed := ⟨v, listed, .refl⟩
  looked v listed away := absurd ((same v).2 listed) away

/-- Nothing is left to look at: what is seen is what is reachable, and the walk stopped
at none of it. -/
theorem Along.done (along : Along stop next starts [] seen) :
    (∀ v, v ∈ seen ↔ Reached next starts v) ∧ ∀ v ∈ seen, stop v = false := by
  refine ⟨fun v => ⟨along.reached v, ?_⟩, fun v listed => (along.looked v listed nofun).1⟩
  rintro ⟨s, started, walk⟩
  induction walk with
  | refl => exact along.starts_seen started
  | tail _ edge ih => exact (along.looked _ ih nofun).2 edge

/-- The walk goes on past a vertex. -/
theorem Along.step {current : α} {rest : List α} {n : Nat}
    (along : Along stop next starts (current :: rest) seen) (going : stop current = false) :
    Along stop next starts ((order.list n (next current \ seen)).reverse ++ rest)
      (seen ∪ next current \ seen) where
  pending_seen v listed := by
    rcases List.mem_append.1 listed with fresh | later
    · rw [List.mem_reverse, order.mem] at fresh
      exact Finset.mem_union_right _ fresh
    · exact Finset.mem_union_left _ (along.pending_seen v (List.mem_cons_of_mem _ later))
  starts_seen := along.starts_seen.trans Finset.subset_union_left
  reached v listed := by
    rcases Finset.mem_union.1 listed with old | fresh
    · exact along.reached v old
    · obtain ⟨s, started, walk⟩ :=
        along.reached current (along.pending_seen current List.mem_cons_self)
      exact ⟨s, started, walk.tail (Finset.mem_sdiff.1 fresh).1⟩
  looked v listed away := by
    rw [List.mem_append, not_or, List.mem_reverse, order.mem] at away
    have old : v ∈ seen := (Finset.mem_union.1 listed).resolve_right away.1
    by_cases here : v = current
    · subst here
      refine ⟨going, fun w edge => ?_⟩
      by_cases known : w ∈ seen
      · exact Finset.mem_union_left _ known
      · exact Finset.mem_union_right _ (Finset.mem_sdiff.2 ⟨edge, known⟩)
    · have passed : v ∉ current :: rest := by
        rw [List.mem_cons, not_or]
        exact ⟨here, away.2⟩
      obtain ⟨other, neighbours⟩ := along.looked v old passed
      exact ⟨other, neighbours.trans Finset.subset_union_left⟩

/-- **What a walk finds.**  With fuel for every vertex it has not looked at, it stops iff
a vertex asked for is reachable, and has otherwise seen what is reachable. -/
theorem traverse_spec [Fintype α] {fuel : Nat} (along : Along stop next starts pending seen)
    (enough : pending.length + (Fintype.card α - seen.card) ≤ fuel) :
    ((traverse order stop next fuel pending seen).1 = true ↔
        ∃ v, Reached next starts v ∧ stop v = true) ∧
      ((traverse order stop next fuel pending seen).1 = false →
        ∀ v, v ∈ (traverse order stop next fuel pending seen).2 ↔ Reached next starts v) := by
  have at_end {seen : Finset α} (along : Along stop next starts [] seen) :
      (false = true ↔ ∃ v, Reached next starts v ∧ stop v = true) ∧
        (false = false → ∀ v, v ∈ seen ↔ Reached next starts v) := by
    obtain ⟨all, none_stops⟩ := along.done
    refine ⟨⟨nofun, ?_⟩, fun _ => all⟩
    rintro ⟨v, reached, stops⟩
    rw [none_stops v ((all v).2 reached)] at stops
    exact stops
  induction fuel generalizing pending seen with
  | zero =>
      obtain rfl : pending = [] := List.eq_nil_of_length_eq_zero (by omega)
      exact at_end along
  | succ fuel ih =>
      cases pending with
      | nil => exact at_end along
      | cons current rest =>
          unfold traverse
          split
          case isTrue stops =>
            refine ⟨⟨fun _ => ?_, fun _ => rfl⟩, nofun⟩
            exact ⟨current, along.reached current (along.pending_seen current List.mem_cons_self),
              stops⟩
          case isFalse going =>
            rw [Bool.not_eq_true] at going
            refine ih (along.step going) ?_
            -- What goes on the stack is no longer unseen.
            have more : (seen ∪ next current \ seen).card =
                seen.card + (next current \ seen).card :=
              Finset.card_union_of_disjoint Finset.disjoint_sdiff
            have room := Finset.card_le_univ (seen ∪ next current \ seen)
            rw [List.length_append, List.length_reverse, order.length_list]
            rw [List.length_cons] at enough
            omega

/-! ## Components -/

/-- One component after the other: a vertex that remains, and what is reachable from it. -/
def components [Fintype α] (next : α → Finset α) :
    SetOrder α → Nat → Finset α → List (Finset α)
  | _, 0, _ => []
  | order, fuel + 1, remaining =>
      match order.list 0 remaining with
      | [] => []
      | start :: _ =>
          let component := (traverse (order.after 1) (fun _ => false) next (Fintype.card α)
            [start] {start}).2
          component ::
            components next (order.after (Fintype.card α + 1)) fuel (remaining \ component)

/-- What is reachable from a vertex. -/
def IsClass (next : α → Finset α) (v : α) (c : Finset α) : Prop :=
  ∀ w, w ∈ c ↔ Relation.ReflTransGen (fun a b => b ∈ next a) v w

theorem component_isClass [Fintype α] (order : SetOrder α) (next : α → Finset α) (start : α) :
    IsClass next start
      (traverse order (fun _ => false) next (Fintype.card α) [start] {start}).2 := by
  have along : Along (fun _ => false) next {start} [start] {start} :=
    .start fun v => by simp
  have room : 0 < Fintype.card α := Fintype.card_pos_iff.2 ⟨start⟩
  have enough : [start].length + (Fintype.card α - ({start} : Finset α).card) ≤
      Fintype.card α := by
    rw [List.length_singleton, Finset.card_singleton]
    omega
  have walk := @traverse_spec α _ order _ next _ _ _ _ _ along enough
  have ran : (traverse order (fun _ => false) next (Fintype.card α) [start] {start}).1 = false := by
    rw [← Bool.not_eq_true, walk.1]
    rintro ⟨v, -, stops⟩
    cases stops
  intro w
  rw [walk.2 ran]
  constructor
  · rintro ⟨s, here, reach⟩
    cases Finset.mem_singleton.1 here
    exact reach
  · exact fun reach => ⟨start, Finset.mem_singleton_self _, reach⟩

section Symmetric

variable [Fintype α] {fuel : Nat} {remaining : Finset α}

/-- A set of vertices that holds their neighbours, with every edge both ways. -/
structure Linked (next : α → Finset α) (s : Finset α) : Prop where
  closed : ∀ v ∈ s, next v ⊆ s
  symmetric : ∀ v ∈ s, ∀ w ∈ next v, v ∈ next w

theorem Linked.reach (linked : Linked next remaining) {v w : α} (here : v ∈ remaining)
    (link : Relation.ReflTransGen (fun a b => b ∈ next a) v w) :
    w ∈ remaining ∧ Relation.ReflTransGen (fun a b => b ∈ next a) w v := by
  induction link with
  | refl => exact ⟨here, .refl⟩
  | tail _ edge ih =>
      obtain ⟨inside, back⟩ := ih
      exact ⟨linked.closed _ inside edge, .head (linked.symmetric _ inside _ edge) back⟩

/-- Linked vertices have one class. -/
theorem IsClass.unique (linked : Linked next remaining) {v w : α} (here : v ∈ remaining)
    {c d : Finset α} (c_class : IsClass next v c) (d_class : IsClass next w d)
    (link : Relation.ReflTransGen (fun a b => b ∈ next a) v w) : c = d := by
  ext u
  rw [c_class, d_class]
  exact ⟨(linked.reach here link).2.trans, link.trans⟩

/-- What remains past a component still holds all its neighbours. -/
theorem Linked.sdiff (linked : Linked next remaining) {start : α} {c : Finset α}
    (c_class : IsClass next start c) : Linked next (remaining \ c) where
  closed v listed w edge := by
    obtain ⟨here, away⟩ := Finset.mem_sdiff.1 listed
    refine Finset.mem_sdiff.2 ⟨linked.closed v here edge, fun inside => away ?_⟩
    rw [c_class] at inside ⊢
    exact inside.tail (linked.symmetric v here w edge)
  symmetric v listed := linked.symmetric v (Finset.mem_sdiff.1 listed).1

/-- Each component takes a vertex off what remains. -/
theorem IsClass.card_sdiff_lt {start : α} (here : start ∈ remaining) {c : Finset α}
    (c_class : IsClass next start c) : (remaining \ c).card < remaining.card := by
  refine Finset.card_lt_card ⟨Finset.sdiff_subset, fun all => ?_⟩
  exact (Finset.mem_sdiff.1 (all here)).2 ((c_class start).2 .refl)

/-- **What the components are**, of a symmetric graph: the classes of the vertices that
remain, which hold all their neighbours. -/
theorem mem_components_iff (linked : Linked next remaining) (enough : remaining.card ≤ fuel)
    {c : Finset α} :
    c ∈ components next order fuel remaining ↔ ∃ v ∈ remaining, IsClass next v c := by
  induction fuel generalizing order remaining with
  | zero =>
      obtain rfl : remaining = ∅ := Finset.card_eq_zero.1 (Nat.le_zero.1 enough)
      simp [components]
  | succ fuel ih =>
      unfold components
      cases listed : order.list 0 remaining with
      | nil =>
          have empty (v : α) : v ∉ remaining := by
            rw [← order.mem 0, listed]
            exact List.not_mem_nil
          simp [empty]
      | cons start others =>
          have here : start ∈ remaining := by
            rw [← order.mem 0, listed]
            exact List.mem_cons_self
          have first := component_isClass (order.after 1) next start
          dsimp only
          rw [List.mem_cons, ih (linked.sdiff first)
            (by have := first.card_sdiff_lt here; omega)]
          constructor
          · rintro (rfl | ⟨v, later, class_v⟩)
            · exact ⟨start, here, first⟩
            · exact ⟨v, (Finset.mem_sdiff.1 later).1, class_v⟩
          · rintro ⟨v, remains, class_v⟩
            by_cases inside : Relation.ReflTransGen (fun a b => b ∈ next a) start v
            · exact Or.inl (first.unique linked here class_v inside).symm
            · exact Or.inr ⟨v, Finset.mem_sdiff.2 ⟨remains, mt (first v).1 inside⟩, class_v⟩

/-- No component comes twice. -/
theorem components_nodup (linked : Linked next remaining) (enough : remaining.card ≤ fuel) :
    (components next order fuel remaining).Nodup := by
  induction fuel generalizing order remaining with
  | zero => exact .nil
  | succ fuel ih =>
      unfold components
      cases listed : order.list 0 remaining with
      | nil => exact .nil
      | cons start others =>
          have here : start ∈ remaining := by
            rw [← order.mem 0, listed]
            exact List.mem_cons_self
          have first := component_isClass (order.after 1) next start
          have linked' := linked.sdiff first
          have enough' : (remaining \ (traverse (order.after 1) (fun _ => false) next
              (Fintype.card α) [start] {start}).2).card ≤ fuel := by
            have := first.card_sdiff_lt here
            omega
          refine List.nodup_cons.2 ⟨fun again => ?_, ih linked' enough'⟩
          obtain ⟨v, later, class_v⟩ := (mem_components_iff linked' enough').1 again
          exact (Finset.mem_sdiff.1 later).2 ((class_v v).2 .refl)

/-! ## Connected components -/

variable {G : SimpleGraph α} {s : Finset α} {graph : α → Finset α}

/-- The vertices of a connected component of the graph restricted to a set. -/
noncomputable def members (c : (G.induce (s : Set α)).ConnectedComponent) : Finset α := by
  classical
  exact s.filter fun v => ∃ here : v ∈ s, (G.induce (s : Set α)).connectedComponentMk ⟨v, here⟩ = c

theorem mem_members {c : (G.induce (s : Set α)).ConnectedComponent} {v : α} :
    v ∈ members c ↔
      ∃ here : v ∈ s, (G.induce (s : Set α)).connectedComponentMk ⟨v, here⟩ = c := by
  classical
  rw [members, Finset.mem_filter]
  exact ⟨fun both => both.2, fun ⟨here, same⟩ => ⟨here, here, same⟩⟩

theorem linked_restrict (adj : ∀ a b, b ∈ graph a ↔ G.Adj a b) :
    Linked (fun v => graph v ∩ s) s where
  closed _ _ := Finset.inter_subset_right
  symmetric v here w edge := by
    rw [Finset.mem_inter, adj] at edge
    rw [Finset.mem_inter, adj]
    exact ⟨edge.1.symm, here⟩

/-- A connected component is the class of each of its vertices. -/
theorem members_isClass (adj : ∀ a b, b ∈ graph a ↔ G.Adj a b) {v : α} (here : v ∈ s) :
    IsClass (fun v => graph v ∩ s) v
      (members ((G.induce (s : Set α)).connectedComponentMk ⟨v, here⟩)) := by
  intro w
  rw [mem_members]
  constructor
  · rintro ⟨inside, same⟩
    have walk := (SimpleGraph.reachable_iff_reflTransGen _ _).1
      (SimpleGraph.ConnectedComponent.exact same.symm)
    refine walk.lift Subtype.val fun a b edge => ?_
    show b.1 ∈ graph a.1 ∩ s
    rw [Finset.mem_inter, adj]
    exact ⟨edge, b.2⟩
  · intro walk
    induction walk with
    | refl => exact ⟨here, rfl⟩
    | @tail a b _ edge ih =>
        obtain ⟨inside, same⟩ := ih
        rw [Finset.mem_inter, adj] at edge
        refine ⟨edge.2, ?_⟩
        rw [← same]
        exact SimpleGraph.ConnectedComponent.sound (SimpleGraph.Adj.reachable edge.1.symm)

theorem members_injective :
    Function.Injective (members : (G.induce (s : Set α)).ConnectedComponent → Finset α) := by
  intro c d same
  induction c using SimpleGraph.ConnectedComponent.ind with
  | h v =>
      have inside : v.1 ∈ members ((G.induce (s : Set α)).connectedComponentMk v) :=
        mem_members.2 ⟨v.2, rfl⟩
      rw [same] at inside
      exact (mem_members.1 inside).2

open scoped Classical in
/-- **The components are the connected components** of the graph restricted to the
vertices there were, each once. -/
theorem components_eq (adj : ∀ a b, b ∈ graph a ↔ G.Adj a b) (enough : s.card ≤ fuel) :
    (components (fun v => graph v ∩ s) order fuel s : Multiset (Finset α)) =
      (Finset.univ : Finset (G.induce (s : Set α)).ConnectedComponent).val.map members := by
  have linked := linked_restrict adj (s := s)
  refine (Multiset.Nodup.ext (Multiset.coe_nodup.2 (components_nodup linked enough))
    (Finset.univ.nodup.map members_injective)).2 fun c => ?_
  rw [Multiset.mem_coe, mem_components_iff linked enough, Multiset.mem_map]
  constructor
  · rintro ⟨v, here, class_v⟩
    exact ⟨_, Finset.mem_univ _, (members_isClass adj here).unique linked here class_v .refl⟩
  · rintro ⟨d, -, rfl⟩
    induction d using SimpleGraph.ConnectedComponent.ind with
    | h v => exact ⟨v.1, v.2, members_isClass adj v.2⟩

/-! ## Another numbering -/

variable {β : Type} [DecidableEq β] [Fintype β] {next' : β → Finset β} {order' : SetOrder β}
  {fuel' : Nat}

/-- The same edges between renamed vertices. -/
def Renamed (e : α ≃ β) (next : α → Finset α) (next' : β → Finset β) : Prop :=
  ∀ a b, e b ∈ next' (e a) ↔ b ∈ next a

theorem Renamed.reach_iff {e : α ≃ β} (renamed : Renamed e next next') {a b : α} :
    Relation.ReflTransGen (fun a b => b ∈ next' a) (e a) (e b) ↔
      Relation.ReflTransGen (fun a b => b ∈ next a) a b := by
  constructor
  · intro walk
    have back : Relation.ReflTransGen (fun a b => b ∈ next a) (e.symm (e a)) (e.symm (e b)) :=
      walk.lift e.symm fun v w edge => by
        show e.symm w ∈ next (e.symm v)
        rw [← renamed, e.apply_symm_apply, e.apply_symm_apply]
        exact edge
    rw [e.symm_apply_apply, e.symm_apply_apply] at back
    exact back
  · exact fun walk => walk.lift e fun v w => (renamed v w).2

theorem Renamed.isClass {e : α ≃ β} (renamed : Renamed e next next') {v : α} {c : Finset α} :
    IsClass next' (e v) (c.map e.toEmbedding) ↔ IsClass next v c := by
  constructor
  · intro class_v w
    rw [← renamed.reach_iff, ← class_v]
    exact (Finset.mem_map' e.toEmbedding).symm
  · intro class_v w
    obtain ⟨w, rfl⟩ := e.surjective w
    rw [renamed.reach_iff, ← class_v]
    exact Finset.mem_map' e.toEmbedding

/-- **Renamed vertices have the renamed components**, in whatever order. -/
theorem components_renamed {e : α ≃ β} (renamed : Renamed e next next')
    (linked : Linked next remaining) (linked' : Linked next' (remaining.map e.toEmbedding))
    (enough : remaining.card ≤ fuel) (enough' : remaining.card ≤ fuel') :
    (components next' order' fuel' (remaining.map e.toEmbedding) : Multiset (Finset β)) =
      (components next order fuel remaining : Multiset (Finset α)).map
        (Finset.map e.toEmbedding) := by
  rw [← Finset.card_map e.toEmbedding] at enough'
  refine (Multiset.Nodup.ext (Multiset.coe_nodup.2 (components_nodup linked' enough'))
    (Multiset.Nodup.map (Finset.map_injective _)
      (Multiset.coe_nodup.2 (components_nodup linked enough)))).2 fun c => ?_
  simp only [Multiset.mem_coe, Multiset.mem_map, mem_components_iff linked enough,
    mem_components_iff linked' enough']
  constructor
  · rintro ⟨w, here, class_w⟩
    obtain ⟨v, before, rfl⟩ := Finset.mem_map.1 here
    obtain ⟨d, rfl⟩ : ∃ d : Finset α, d.map e.toEmbedding = c :=
      ⟨c.map e.symm.toEmbedding, by ext; simp⟩
    exact ⟨d, ⟨v, before, renamed.isClass.1 class_w⟩, rfl⟩
  · rintro ⟨d, ⟨v, here, class_v⟩, rfl⟩
    exact ⟨e v, Finset.mem_map_of_mem _ here, renamed.isClass.2 class_v⟩

end Symmetric

end Worklist

end InstrumentBench.Theory
