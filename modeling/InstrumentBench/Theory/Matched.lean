/-
# Theory.Matched -- lists that agree up to order and a relation

`Matched R l l'` says that `l'` is `l` in another order with every item replaced by one
that `R` relates it to.  What is computed from a list item by item carries such a
relation along: `map`, `filter`, a count, and a `mapM` that succeeded
(`Matched.mapM`).  What is then sorted is the same list (`insertionSort_eq`).
-/
import InstrumentBench.Theory.Stateful
import Mathlib.Data.List.Perm.Basic
import Mathlib.Data.List.Sort

namespace InstrumentBench.Theory

set_option autoImplicit false

variable {α β γ δ : Type}

/-- The lists agree up to order and `R`. -/
def Matched (R : α → β → Prop) (l : List α) (l' : List β) : Prop :=
  ∃ m, l.Perm m ∧ List.Forall₂ R m l'

namespace Matched

variable {R : α → β → Prop} {S : γ → δ → Prop} {l : List α} {l' : List β}

theorem map {f : α → γ} {g : β → δ} (step : ∀ a b, R a b → S (f a) (g b))
    (matched : Matched R l l') : Matched S (l.map f) (l'.map g) := by
  obtain ⟨m, order, related⟩ := matched
  refine ⟨m.map f, order.map f, ?_⟩
  rw [List.forall₂_map_left_iff, List.forall₂_map_right_iff]
  exact related.imp fun a b => step a b

theorem filter {p : α → Bool} {q : β → Bool} (agree : ∀ a b, R a b → p a = q b)
    (matched : Matched R l l') : Matched R (l.filter p) (l'.filter q) := by
  obtain ⟨m, order, related⟩ := matched
  refine ⟨m.filter p, order.filter p, ?_⟩
  clear order
  induction related with
  | nil => exact .nil
  | @cons a b m l' here _ ih =>
      rw [List.filter_cons, List.filter_cons, agree a b here]
      split
      · exact .cons here ih
      · exact ih

theorem length_eq (matched : Matched R l l') : l.length = l'.length := by
  obtain ⟨m, order, related⟩ := matched
  rw [order.length_eq, related.length_eq]

theorem countP_eq {p : α → Bool} {q : β → Bool} (agree : ∀ a b, R a b → p a = q b)
    (matched : Matched R l l') : l.countP p = l'.countP q := by
  rw [List.countP_eq_length_filter, List.countP_eq_length_filter]
  exact (matched.filter agree).length_eq

theorem left (matched : Matched R l l') {a : α} (member : a ∈ l) : ∃ b ∈ l', R a b := by
  obtain ⟨m, order, related⟩ := matched
  obtain ⟨i, hi, rfl⟩ := List.mem_iff_getElem.1 (order.mem_iff.1 member)
  have same := related.length_eq
  exact ⟨l'[i], List.getElem_mem _, related.get hi (by omega)⟩

theorem right (matched : Matched R l l') {b : β} (member : b ∈ l') : ∃ a ∈ l, R a b := by
  obtain ⟨m, order, related⟩ := matched
  obtain ⟨i, hi, rfl⟩ := List.mem_iff_getElem.1 member
  have same := related.length_eq
  exact ⟨m[i], order.mem_iff.2 (List.getElem_mem _), related.get (by omega) hi⟩

/-- A loop that succeeds on a list succeeds on a matching one. -/
theorem mapM {ε : Type} {f : α → Except ε γ} {g : β → Except ε δ} {made : List γ}
    (matched : Matched R l l') (ran : l.mapM f = .ok made)
    (step : ∀ a ∈ l, ∀ b, R a b → ∀ c, f a = .ok c → ∃ d, g b = .ok d ∧ S c d) :
    ∃ made', l'.mapM g = .ok made' ∧ Matched S made made' := by
  obtain ⟨m, order, related⟩ := matched
  -- The results in the order of the middle list.
  have reordered : ∃ made₁, made.Perm made₁ ∧ List.Forall₂ (fun a c => f a = .ok c) m made₁ := by
    obtain ⟨made₁, each, perm⟩ := List.perm_comp_forall₂ order.symm (mapM_ok_iff.1 ran)
    exact ⟨made₁, perm.symm, each⟩
  obtain ⟨made₁, perm, each⟩ := reordered
  have inside : ∀ a ∈ m, a ∈ l := fun a member => order.mem_iff.2 member
  suffices rest : ∃ made', List.Forall₂ (fun b d => g b = .ok d) l' made' ∧
      List.Forall₂ S made₁ made' by
    obtain ⟨made', ran', pairs⟩ := rest
    exact ⟨made', mapM_ok_iff.2 ran', made₁, perm, pairs⟩
  clear order perm ran
  induction related generalizing made₁ with
  | nil =>
      cases each
      exact ⟨[], .nil, .nil⟩
  | @cons a b m l' here _ ih =>
      obtain ⟨c, rest, value, later, rfl⟩ := List.forall₂_cons_left_iff.1 each
      obtain ⟨d, value', pair⟩ := step a (inside a List.mem_cons_self) b here c value
      obtain ⟨made', ran', pairs⟩ := ih rest later fun a member =>
        inside a (List.mem_cons_of_mem _ member)
      exact ⟨d :: made', .cons value' ran', .cons pair pairs⟩

/-- Equality up to order and equality is a permutation. -/
theorem perm {l l' : List α} (matched : Matched Eq l l') : l.Perm l' := by
  obtain ⟨m, order, related⟩ := matched
  rw [List.forall₂_eq_eq_eq] at related
  exact related ▸ order

end Matched

/-- Permutations of one list sort alike. -/
theorem insertionSort_eq [LinearOrder α] {l l' : List α} (order : l.Perm l') :
    l.insertionSort (· ≤ ·) = l'.insertionSort (· ≤ ·) :=
  ((List.perm_insertionSort _ l).trans (order.trans (List.perm_insertionSort _ l').symm)).eq_of_pairwise'
    (List.pairwise_insertionSort _ l) (List.pairwise_insertionSort _ l')

/-- Two lists of the same items, each once, sort alike. -/
theorem insertionSort_eq_of_nodup [LinearOrder α] {l l' : List α} (once : l.Nodup)
    (once' : l'.Nodup) (same : ∀ a, a ∈ l ↔ a ∈ l') :
    l.insertionSort (· ≤ ·) = l'.insertionSort (· ≤ ·) :=
  insertionSort_eq ((List.perm_ext_iff_of_nodup once once').2 same)

end InstrumentBench.Theory
