/-
# Theory.Boxes -- boxes, and what is left of one after another is taken out

A box of any dimension over any linear order.  What `b.slabs c` keeps of a box around an
inner one is, axis after axis, the part before the inner box and the part after it: the
slabs lie in the box (`slab_within`), their interiors are disjoint (`slabs_disjoint`),
and with the inner box they cover it (`cover`).  `Pieces` is the same of any number of
cuts: pieces of pieces are pieces (`Pieces.flatten`).
-/
import Mathlib.Data.List.FinRange
import Mathlib.Order.Fin.Basic
import Mathlib.Tactic

namespace InstrumentBench.Theory

set_option autoImplicit false

/-- A closed box. -/
@[ext] structure Box (n : Nat) (K : Type) [LE K] where
  low : Fin n → K
  high : Fin n → K
  ordered : ∀ a, low a ≤ high a

namespace Box

variable {n : Nat} {K : Type} [LinearOrder K]

def Holds (b : Box n K) (p : Fin n → K) : Prop := ∀ a, b.low a ≤ p a ∧ p a ≤ b.high a

def Inside (b : Box n K) (p : Fin n → K) : Prop := ∀ a, b.low a < p a ∧ p a < b.high a

/-- No point is inside both. -/
def Disjoint (b c : Box n K) : Prop := ∀ p, b.Inside p → ¬c.Inside p

def Within (b c : Box n K) : Prop := ∀ a, c.low a ≤ b.low a ∧ b.high a ≤ c.high a

theorem Within.refl (b : Box n K) : b.Within b := fun _ => ⟨le_rfl, le_rfl⟩

theorem Within.trans {b c d : Box n K} (first : b.Within c) (rest : c.Within d) : b.Within d :=
  fun a => ⟨(rest a).1.trans (first a).1, (first a).2.trans (rest a).2⟩

theorem Within.inside {b c : Box n K} (within : b.Within c) {p : Fin n → K} (inside : b.Inside p) :
    c.Inside p :=
  fun a => ⟨(within a).1.trans_lt (inside a).1, (inside a).2.trans_le (within a).2⟩

theorem Disjoint.symm {b c : Box n K} (disjoint : b.Disjoint c) : c.Disjoint b :=
  fun p second first => disjoint p first second

theorem Disjoint.mono {b c b' c' : Box n K} (disjoint : b.Disjoint c) (left : b'.Within b)
    (right : c'.Within c) : b'.Disjoint c' :=
  fun p first second => disjoint p (left.inside first) (right.inside second)

/-- Boxes of which one ends before the other starts are disjoint. -/
theorem disjoint_of_axis {b c : Box n K} (a : Fin n) (apart : b.high a ≤ c.low a) :
    b.Disjoint c := by
  intro p first second
  exact absurd ((first a).2.trans_le (apart.trans (second a).1.le)) (lt_irrefl _)

/-! ## Slabs -/

variable {b c : Box n K}

/-- The part of a box before an inner one on an axis, or after it, that is level with the
inner box on the axes before. -/
def slab (b c : Box n K) (within : c.Within b) (axis : Fin n) (after : Bool) : Box n K where
  low a :=
    if a < axis then c.low a else if a = axis ∧ after = true then c.high a else b.low a
  high a :=
    if a < axis then c.high a else if a = axis ∧ after = false then c.low a else b.high a
  ordered a := by
    have bounds := within a
    have inner := c.ordered a
    have outer := b.ordered a
    by_cases level : a < axis
    · rw [if_pos level, if_pos level]
      exact inner
    · rw [if_neg level, if_neg level]
      by_cases here : a = axis
      · subst here
        cases after
        · simpa using bounds.1
        · simpa using bounds.2
      · simpa [here] using outer

theorem slab_within (within : c.Within b) (axis : Fin n) (after : Bool) :
    (slab b c within axis after).Within b := by
  intro a
  have bounds := within a
  have inner := c.ordered a
  constructor
  · show b.low a ≤ ite _ _ _
    split_ifs
    · exact bounds.1
    · exact bounds.1.trans inner
    · exact le_rfl
  · show ite _ _ _ ≤ b.high a
    split_ifs
    · exact bounds.2
    · exact inner.trans bounds.2
    · exact le_rfl

/-- A slab and a later one are disjoint. -/
theorem slab_disjoint_of_lt (within : c.Within b) {i j : Fin n} (before : i < j) (u v : Bool) :
    (slab b c within i u).Disjoint (slab b c within j v) := by
  have low : (slab b c within j v).low i = c.low i := if_pos before
  have high : (slab b c within j v).high i = c.high i := if_pos before
  cases u with
  | false =>
      apply disjoint_of_axis i
      rw [low]
      exact le_of_eq (by simp [slab])
  | true =>
      apply Disjoint.symm
      apply disjoint_of_axis i
      rw [high]
      exact le_of_eq (by simp [slab])

/-- The two slabs of an axis are disjoint. -/
theorem slab_disjoint_after (within : c.Within b) (i : Fin n) :
    (slab b c within i false).Disjoint (slab b c within i true) := by
  apply disjoint_of_axis i
  have inner := c.ordered i
  simpa [slab] using inner

/-- All slabs, axis after axis. -/
def slabs (b c : Box n K) (within : c.Within b) : List (Box n K) :=
  (List.finRange n).flatMap fun axis => [slab b c within axis false, slab b c within axis true]

theorem mem_slabs {within : c.Within b} {s : Box n K} :
    s ∈ slabs b c within ↔ ∃ axis after, s = slab b c within axis after := by
  simp [slabs]

/-- **The slabs are disjoint.** -/
theorem slabs_disjoint (within : c.Within b) : (slabs b c within).Pairwise Disjoint := by
  rw [slabs, List.flatMap, List.pairwise_flatten]
  constructor
  · intro pair listed
    obtain ⟨axis, -, rfl⟩ := List.mem_map.1 listed
    simpa using slab_disjoint_after within axis
  · rw [List.pairwise_map]
    refine (List.pairwise_lt_finRange n).imp ?_
    intro i j before s first t second
    simp only [List.mem_cons, List.not_mem_nil, or_false] at first second
    rcases first with rfl | rfl <;> rcases second with rfl | rfl <;>
      exact slab_disjoint_of_lt within before _ _

/-- **The inner box and the slabs cover the box.** -/
theorem cover (within : c.Within b) {p : Fin n → K} (holds : b.Holds p) :
    c.Holds p ∨ ∃ s ∈ slabs b c within, s.Holds p := by
  by_cases inner : c.Holds p
  · exact Or.inl inner
  -- The first axis on which the point leaves the inner box.
  have leaves : ∃ a, ¬(c.low a ≤ p a ∧ p a ≤ c.high a) := not_forall.1 inner
  obtain ⟨axis, out, least⟩ := WellFounded.has_min (@wellFounded_lt (Fin n) _ _)
    {a | ¬(c.low a ≤ p a ∧ p a ≤ c.high a)} leaves
  have level : ∀ a < axis, c.low a ≤ p a ∧ p a ≤ c.high a := by
    intro a before
    by_contra other
    exact least a other before
  right
  rcases le_or_gt (c.low axis) (p axis) with after | before
  · have beyond : c.high axis < p axis := not_le.1 fun below => out ⟨after, below⟩
    refine ⟨slab b c within axis true, mem_slabs.2 ⟨axis, true, rfl⟩, fun a => ?_⟩
    constructor
    · show ite _ _ _ ≤ p a
      split_ifs with h k
      · exact (level a h).1
      · rw [k.1]
        exact beyond.le
      · exact (holds a).1
    · show p a ≤ ite _ _ _
      split_ifs with h k
      · exact (level a h).2
      · cases k.2
      · exact (holds a).2
  · refine ⟨slab b c within axis false, mem_slabs.2 ⟨axis, false, rfl⟩, fun a => ?_⟩
    constructor
    · show ite _ _ _ ≤ p a
      split_ifs with h k
      · exact (level a h).1
      · cases k.2
      · exact (holds a).1
    · show p a ≤ ite _ _ _
      split_ifs with h k
      · exact (level a h).2
      · rw [k.1]
        exact before.le
      · exact (holds a).2

/-! ## What two boxes share -/

/-- The boxes touch. -/
def Meets (b c : Box n K) : Prop := ∀ a, b.low a ≤ c.high a ∧ c.low a ≤ b.high a

def meet (b c : Box n K) (meets : b.Meets c) : Box n K where
  low a := max (b.low a) (c.low a)
  high a := min (b.high a) (c.high a)
  ordered a := max_le (le_min (b.ordered a) (meets a).1) (le_min (meets a).2 (c.ordered a))

theorem meet_within_left (meets : b.Meets c) : (meet b c meets).Within b :=
  fun _ => ⟨le_max_left _ _, min_le_left _ _⟩

theorem meet_within_right (meets : b.Meets c) : (meet b c meets).Within c :=
  fun _ => ⟨le_max_right _ _, min_le_right _ _⟩

theorem Within.holds {b c : Box n K} (within : b.Within c) {p : Fin n → K} (holds : b.Holds p) :
    c.Holds p :=
  fun a => ⟨(within a).1.trans (holds a).1, (holds a).2.trans (within a).2⟩

/-- The slabs around what a box shares with another are disjoint from the other. -/
theorem slab_disjoint_of_meet (meets : b.Meets c) (axis : Fin n) (after : Bool) :
    (slab b (meet b c meets) (meet_within_left meets) axis after).Disjoint c := by
  intro p first second
  have inside := (slab_within (meet_within_left meets) axis after).inside first axis
  have other := second axis
  have here := first axis
  cases after with
  | false =>
      have below : p axis < max (b.low axis) (c.low axis) := by simpa [slab, meet] using here.2
      exact absurd below (not_lt.2 (max_le inside.1.le other.1.le))
  | true =>
      have above : min (b.high axis) (c.high axis) < p axis := by simpa [slab, meet] using here.1
      exact absurd above (not_lt.2 (le_min inside.2.le other.2.le))

/-! ## Pieces -/

/-- What is left of a box where some boxes were taken out of it. -/
structure Pieces (whole : Box n K) (removed pieces : List (Box n K)) : Prop where
  within : ∀ p ∈ pieces, p.Within whole
  disjoint : pieces.Pairwise Disjoint
  covers : ∀ x, whole.Holds x → (∃ p ∈ pieces, p.Holds x) ∨ ∃ r ∈ removed, r.Holds x

theorem Pieces.whole (b : Box n K) : Pieces b [] [b] where
  within p member := by
    rw [List.mem_singleton.1 member]
    exact .refl b
  disjoint := List.pairwise_singleton _ _
  covers x holds := Or.inl ⟨b, List.mem_singleton.2 rfl, holds⟩

theorem Pieces.mono {whole : Box n K} {removed removed' pieces : List (Box n K)}
    (cut : Pieces whole removed pieces) (more : removed ⊆ removed') :
    Pieces whole removed' pieces where
  within := cut.within
  disjoint := cut.disjoint
  covers x holds := by
    rcases cut.covers x holds with kept | ⟨r, member, lost⟩
    · exact Or.inl kept
    · exact Or.inr ⟨r, more member, lost⟩

/-- **Pieces of pieces are pieces.** -/
theorem Pieces.flatten {whole : Box n K} {removed pieces more : List (Box n K)}
    {parts : List (List (Box n K))} (cut : Pieces whole removed pieces)
    (each : List.Forall₂ (fun piece part => Pieces piece more part) pieces parts) :
    Pieces whole (removed ++ more) parts.flatten where
  within p member := by
    obtain ⟨part, listed, inside⟩ := List.mem_flatten.1 member
    obtain ⟨i, hi, rfl⟩ := List.mem_iff_getElem.1 listed
    have length := each.length_eq
    have piece := each.get (by omega) hi
    exact (piece.within p inside).trans (cut.within _ (List.getElem_mem _))
  disjoint := by
    have inner : ∀ part ∈ parts, part.Pairwise Disjoint := by
      intro part listed
      obtain ⟨i, hi, rfl⟩ := List.mem_iff_getElem.1 listed
      have length := each.length_eq
      exact (each.get (by omega) hi).disjoint
    refine List.pairwise_flatten.2 ⟨inner, ?_⟩
    have disjoint := cut.disjoint
    clear cut inner
    induction each with
    | nil => exact .nil
    | @cons piece part pieces parts here rest ih =>
        obtain ⟨first, later⟩ := List.pairwise_cons.1 disjoint
        refine List.pairwise_cons.2 ⟨?_, ih later⟩
        intro part' listed p inside q other
        obtain ⟨i, hi, rfl⟩ := List.mem_iff_getElem.1 listed
        have length := rest.length_eq
        have piece' := rest.get (by omega) hi
        exact (first _ (List.getElem_mem _)).mono (here.within p inside) (piece'.within q other)
  covers x holds := by
    rcases cut.covers x holds with ⟨piece, listed, kept⟩ | ⟨r, member, lost⟩
    · obtain ⟨i, hi, rfl⟩ := List.mem_iff_getElem.1 listed
      have length := each.length_eq
      have part := each.get hi (by omega)
      rcases part.covers x kept with ⟨p, inside, here⟩ | ⟨r, member, lost⟩
      · exact Or.inl ⟨p, List.mem_flatten.2 ⟨_, List.getElem_mem _, inside⟩, here⟩
      · exact Or.inr ⟨r, List.mem_append_right _ member, lost⟩
    · exact Or.inr ⟨r, List.mem_append_left _ member, lost⟩

end Box

end InstrumentBench.Theory
