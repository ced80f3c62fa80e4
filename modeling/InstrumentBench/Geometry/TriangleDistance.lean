/-
# Geometry.TriangleDistance -- the distance of two triangles

`_triangle_distance` measures from every corner to the other triangle and between every two
edges, and takes the least.  That this is the distance of two disjoint triangles rests on
where they are closest:

* `exists_slide`: two points of the triangles, the first held on a line along an edge, can
  be moved at constant rates, without coming further apart, until one of them reaches an
  edge it was not held on.  Either some movement keeps their difference, or one aims each
  at the other, and the triangles being disjoint they do not arrive;
* `exists_touching`: so no two points are closer than a corner and a point, or than two
  points of edges (`Touching`);
* `distances_exact`: the distances of points and triangles, of segments and of triangles
  are the least distances of their points.
-/
import InstrumentBench.Geometry.ClosestPoint
import Mathlib.Order.CompletePartialOrder

namespace InstrumentBench.Geometry

set_option autoImplicit false
set_option linter.unusedSectionVars false

open InstrumentBench.Theory

section

variable {K : Type} [Field K] [LinearOrder K] [IsStrictOrderedRing K] [FloorRing K]

/-! ## Weights -/

def corner (t : Triple (Vec K)) : Fin 3 → Vec K := ![t.first, t.second, t.third]

/-- The combination of the corners with weights `w`. -/
def weighted (t : Triple (Vec K)) (w : Fin 3 → K) : Vec K := ∑ k, w k • corner t k

/-- The weights of a point of the triangle. -/
structure Weights (w : Fin 3 → K) : Prop where
  nonneg : ∀ k, 0 ≤ w k
  total : ∑ k, w k = 1

theorem mem_hull_iff_weights (t : Triple (Vec K)) (p : Vec K) :
    p ∈ hull t ↔ ∃ w, Weights w ∧ p = weighted t w := by
  rw [mem_hull_iff]
  constructor
  · rintro ⟨x, y, z, hx, hy, hz, total, rfl⟩
    refine ⟨![x, y, z], ⟨?_, by simpa [Fin.sum_univ_three] using total⟩, ?_⟩
    · intro k
      fin_cases k
      · exact hx
      · exact hy
      · exact hz
    · simp [weighted, corner, Fin.sum_univ_three]
  · rintro ⟨w, weights, rfl⟩
    exact ⟨w 0, w 1, w 2, weights.nonneg 0, weights.nonneg 1, weights.nonneg 2,
      by rw [← weights.total, Fin.sum_univ_three], by simp [weighted, corner, Fin.sum_univ_three]⟩

theorem weighted_add_smul (t : Triple (Vec K)) (w r : Fin 3 → K) (time : K) :
    weighted t (fun k => w k + time * r k) = weighted t w + time • weighted t r := by
  simp only [weighted, add_smul, mul_smul, Finset.sum_add_distrib, Finset.smul_sum]

/-- The rates at which weights change that move a point along the edge opposite to corner
`k`. -/
def alongEdge (k : Fin 3) (rate : K) : Fin 3 → K :=
  fun j => if j = k then 0 else if j = k + 1 then -rate else rate

theorem sum_from {M : Type} [AddCommMonoid M] (k : Fin 3) (f : Fin 3 → M) :
    ∑ j, f j = f k + f (k + 1) + f (k + 2) := by
  rw [Fin.sum_univ_three]
  fin_cases k
  · rfl
  · show f 0 + f 1 + f 2 = f 1 + f 2 + f 0
    abel
  · show f 0 + f 1 + f 2 = f 2 + f 0 + f 1
    abel

/-- Rates of both weights, the first along an edge, that keep the difference of the two
points or aim at its end. -/
theorem exists_rates (t t' : Triple (Vec K)) (k : Fin 3) (h : Vec K) :
    ∃ r r' : Fin 3 → K, r k = 0 ∧ ∑ j, r j = 0 ∧ ∑ j, r' j = 0 ∧
      ((weighted t r - weighted t' r' = 0 ∧ ¬(r = 0 ∧ r' = 0)) ∨
        weighted t r - weighted t' r' = -h) := by
  let u := corner t (k + 2) - corner t (k + 1)
  let e := corner t' 1 - corner t' 0
  let f := corner t' 2 - corner t' 0
  let moves : (Fin 3 → K) →ₗ[K] Vec K :=
    (LinearMap.proj 0).smulRight u - (LinearMap.proj 1).smulRight e -
      (LinearMap.proj 2).smulRight f
  have apart : k + 1 ≠ k ∧ k + 2 ≠ k ∧ k + 2 ≠ k + 1 := by
    revert k
    decide
  have moved (v : Fin 3 → K) :
      weighted t (alongEdge k (v 0)) - weighted t' ![-(v 1) - v 2, v 1, v 2] = moves v := by
    have first : weighted t (alongEdge k (v 0)) = v 0 • u := by
      rw [weighted, sum_from k]
      simp only [alongEdge, apart, if_true, if_false, zero_smul, zero_add, neg_smul, u, smul_sub]
      abel
    have second : weighted t' ![-(v 1) - v 2, v 1, v 2] = v 1 • e + v 2 • f := by
      simp only [weighted, Fin.sum_univ_three, Matrix.cons_val, sub_smul, neg_smul, smul_sub, e, f]
      abel
    rw [first, second]
    simp only [moves, LinearMap.sub_apply, LinearMap.smulRight_apply, LinearMap.proj_apply]
    abel
  have still (v : Fin 3 → K) : alongEdge k (v 0) k = 0 ∧ ∑ j, alongEdge k (v 0) j = 0 ∧
      ∑ j, (![-(v 1) - v 2, v 1, v 2] : Fin 3 → K) j = 0 := by
    refine ⟨if_pos rfl, ?_, ?_⟩
    · rw [sum_from k]
      simp [alongEdge, apart]
    · simp only [Fin.sum_univ_three, Matrix.cons_val]
      ring
  rcases kernel_or_reaches moves (-h) with ⟨v, nonzero, zero⟩ | ⟨v, reached⟩
  · refine ⟨_, _, (still v).1, (still v).2.1, (still v).2.2, .inl ⟨(moved v).trans zero, ?_⟩⟩
    rintro ⟨flat, flat'⟩
    apply nonzero
    have first := congrFun flat (k + 2)
    have second := congrFun flat' 1
    have third := congrFun flat' 2
    simp only [alongEdge, apart, if_false, Pi.zero_apply] at first
    simp only [Matrix.cons_val, Pi.zero_apply] at second third
    funext j
    fin_cases j
    · exact first
    · exact second
    · exact third
  · exact ⟨_, _, (still v).1, (still v).2.1, (still v).2.2, .inr ((moved v).trans reached)⟩

/-- **Sliding to an end.**  From two points of disjoint triangles, the first on a line along
an edge, there are two that are no further apart, the first on the same line, such that
one of them has come to an edge it was not held on. -/
theorem exists_slide {t t' : Triple (Vec K)} (disjoint : Disjoint (hull t) (hull t')) (k : Fin 3)
    {w w' : Fin 3 → K} (weights : Weights w) (weights' : Weights w') :
    ∃ v v', Weights v ∧ Weights v' ∧ v k = w k ∧
      dot (weighted t v - weighted t' v') (weighted t v - weighted t' v') ≤
        dot (weighted t w - weighted t' w') (weighted t w - weighted t' w') ∧
      (v (k + 1) = 0 ∨ v (k + 2) = 0 ∨ ∃ j, v' j = 0) := by
  obtain ⟨r, r', held, total, total', moves⟩ := exists_rates t t' k (weighted t w - weighted t' w')
  -- the weights of both points as one family
  let start : Fin 3 ⊕ Fin 3 → K := Sum.elim w w'
  let rate : Fin 3 ⊕ Fin 3 → K := Sum.elim r r'
  have nonneg (i : Fin 3 ⊕ Fin 3) : 0 ≤ start i := by
    cases i with
    | inl j => exact weights.nonneg j
    | inr j => exact weights'.nonneg j
  have sums (time : K) : ∑ j, (w j + time * r j) = 1 ∧ ∑ j, (w' j + time * r' j) = 1 := by
    simp only [Finset.sum_add_distrib, ← Finset.mul_sum, total, total', mul_zero, add_zero,
      weights.total, weights'.total, and_self]
  have difference (time : K) :
      weighted t (fun j => w j + time * r j) - weighted t' (fun j => w' j + time * r' j) =
        weighted t w - weighted t' w' + time • (weighted t r - weighted t' r') := by
    rw [weighted_add_smul, weighted_add_smul, smul_sub]
    abel
  -- where the points would meet one of them is outside
  have meets (aims : weighted t r - weighted t' r' = -(weighted t w - weighted t' w')) :
      ∃ i, start i + 1 * rate i < 0 := by
    by_contra inside
    push Not at inside
    have same := difference 1
    rw [aims, one_smul, add_neg_cancel, sub_eq_zero] at same
    have first := (mem_hull_iff_weights t _).2 ⟨_, ⟨fun j => inside (.inl j), (sums 1).1⟩, rfl⟩
    have second := (mem_hull_iff_weights t' _).2 ⟨_, ⟨fun j => inside (.inr j), (sums 1).2⟩, rfl⟩
    exact Set.disjoint_left.1 disjoint first (same ▸ second)
  have falls : ∃ i, rate i < 0 := by
    rcases moves with ⟨-, nonzero⟩ | aims
    · by_contra rising
      push Not at rising
      refine nonzero ⟨?_, ?_⟩
      · funext j
        exact (Finset.sum_eq_zero_iff_of_nonneg fun j _ => rising (.inl j)).1 total j
          (Finset.mem_univ j)
      · funext j
        exact (Finset.sum_eq_zero_iff_of_nonneg fun j _ => rising (.inr j)).1 total' j
          (Finset.mem_univ j)
    · obtain ⟨i, out⟩ := meets aims
      exact ⟨i, by linarith [nonneg i]⟩
  obtain ⟨time, after, stays, ⟨i, zero, falling⟩, earliest⟩ := exists_first_exit nonneg falls
  refine ⟨fun j => w j + time * r j, fun j => w' j + time * r' j,
    ⟨fun j => stays (.inl j), (sums time).1⟩, ⟨fun j => stays (.inr j), (sums time).2⟩,
    by simp only [held, mul_zero, add_zero], ?_, ?_⟩
  · rw [difference time]
    rcases moves with ⟨keeps, -⟩ | aims
    · rw [keeps, smul_zero, add_zero]
    · have early : time ≤ 1 := earliest 1 zero_le_one (meets aims)
      have shrinks : weighted t w - weighted t' w' + time • -(weighted t w - weighted t' w') =
          (1 - time) • (weighted t w - weighted t' w') := by
        rw [sub_smul, one_smul, smul_neg]
        abel
      rw [aims, shrinks, dot_eq_dotProduct, dot_eq_dotProduct, smul_dotProduct, dotProduct_smul,
        smul_eq_mul, smul_eq_mul, ← mul_assoc]
      exact mul_le_of_le_one_left (square_nonneg _) (by nlinarith)
  · cases i with
    | inr j => exact .inr (.inr ⟨j, zero⟩)
    | inl j =>
        have moved : j ≠ k := by
          rintro rfl
          exact falling.ne held
        have others : ∀ j k : Fin 3, j ≠ k → j = k + 1 ∨ j = k + 2 := by decide
        rcases others j k moved with rfl | rfl
        · exact .inl zero
        · exact .inr (.inl zero)

/-! ## Where two triangles are closest -/

/-- A corner and a point of the other triangle, or points of two edges. -/
inductive Touching (t t' : Triple (Vec K)) : Vec K → Vec K → Prop
  | corner (k : Fin 3) (q : Vec K) (inside : q ∈ hull t') : Touching t t' (corner t k) q
  | corner' (p : Vec K) (inside : p ∈ hull t) (k : Fin 3) : Touching t t' p (corner t' k)
  | edges (p q : Vec K) (edge edge' : Vec K × Vec K) (member : edge ∈ edges t)
      (member' : edge' ∈ edges t') (on : p ∈ segment K edge.1 edge.2)
      (on' : q ∈ segment K edge'.1 edge'.2) : Touching t t' p q

theorem Touching.swap {t t' : Triple (Vec K)} {p q : Vec K} (touching : Touching t t' p q) :
    Touching t' t q p := by
  cases touching with
  | corner k q inside => exact .corner' q inside k
  | corner' p inside k => exact .corner k p inside
  | edges p q edge edge' member member' on on' =>
      exact .edges q p edge' edge member' member on' on

theorem edge_mem_edges (t : Triple (Vec K)) (k : Fin 3) :
    (corner t (k + 1), corner t (k + 2)) ∈ edges t := by
  fin_cases k <;> simp [edges, corner]

theorem weighted_mem_segment {t : Triple (Vec K)} {w : Fin 3 → K} (weights : Weights w) {k : Fin 3}
    (zero : w k = 0) : weighted t w ∈ segment K (corner t (k + 1)) (corner t (k + 2)) := by
  refine ⟨w (k + 1), w (k + 2), weights.nonneg _, weights.nonneg _, ?_, ?_⟩
  · rw [← weights.total, sum_from k, zero, zero_add]
  · rw [weighted, sum_from k, zero, zero_smul, zero_add]

theorem mem_hull_of_weights {t : Triple (Vec K)} {w : Fin 3 → K} (weights : Weights w) :
    weighted t w ∈ hull t := (mem_hull_iff_weights t _).2 ⟨w, weights, rfl⟩

/-- From a point of an edge. -/
theorem touching_of_edge {t t' : Triple (Vec K)} (disjoint : Disjoint (hull t) (hull t'))
    {k : Fin 3} {w w' : Fin 3 → K} (weights : Weights w) (weights' : Weights w') (zero : w k = 0) :
    ∃ p q, Touching t t' p q ∧ dot (p - q) (p - q) ≤
      dot (weighted t w - weighted t' w') (weighted t w - weighted t' w') := by
  obtain ⟨v, v', good, good', held, closer, ends⟩ := exists_slide disjoint k weights weights'
  rw [zero] at held
  have total := good.total
  rw [sum_from k] at total
  refine ⟨weighted t v, weighted t' v', ?_, closer⟩
  rcases ends with first | second | ⟨j, other⟩
  · have point : weighted t v = corner t (k + 2) := by
      rw [held, first, zero_add, zero_add] at total
      rw [weighted, sum_from k, held, first, total]
      simp
    rw [point]
    exact .corner _ _ (mem_hull_of_weights good')
  · have point : weighted t v = corner t (k + 1) := by
      rw [held, second, zero_add, add_zero] at total
      rw [weighted, sum_from k, held, second, total]
      simp
    rw [point]
    exact .corner _ _ (mem_hull_of_weights good')
  · exact .edges _ _ _ _ (edge_mem_edges t k) (edge_mem_edges t' j) (weighted_mem_segment good held)
      (weighted_mem_segment good' other)

theorem dot_sub_comm (p q : Vec K) : dot (p - q) (p - q) = dot (q - p) (q - p) := by
  have negated : p - q = -(q - p) := by abel
  rw [negated, dot_eq_dotProduct, dot_eq_dotProduct, neg_dotProduct_neg]

/-- **Two disjoint triangles are closest at a corner or at two edges.** -/
theorem exists_touching {t t' : Triple (Vec K)} (disjoint : Disjoint (hull t) (hull t'))
    {p q : Vec K} (inside : p ∈ hull t) (inside' : q ∈ hull t') :
    ∃ x y, Touching t t' x y ∧ dot (x - y) (x - y) ≤ dot (p - q) (p - q) := by
  obtain ⟨w, weights, rfl⟩ := (mem_hull_iff_weights t p).1 inside
  obtain ⟨w', weights', rfl⟩ := (mem_hull_iff_weights t' q).1 inside'
  obtain ⟨v, v', good, good', -, closer, ends⟩ := exists_slide disjoint 0 weights weights'
  have first {k : Fin 3} (zero : v k = 0) : ∃ x y, Touching t t' x y ∧ dot (x - y) (x - y) ≤
      dot (weighted t w - weighted t' w') (weighted t w - weighted t' w') := by
    obtain ⟨x, y, touching, near⟩ := touching_of_edge disjoint good good' zero
    exact ⟨x, y, touching, near.trans closer⟩
  rcases ends with zero | zero | ⟨j, zero⟩
  · exact first zero
  · exact first zero
  · obtain ⟨y, x, touching, near⟩ := touching_of_edge disjoint.symm good' good zero
    refine ⟨x, y, touching.swap, ?_⟩
    rw [dot_sub_comm]
    rw [dot_sub_comm (weighted t v)] at closer
    exact near.trans closer

variable (sqrt : K → K)

/-! ## The distance the code measures -/

def corners (t : Triple (Vec K)) : List (Vec K) := [t.first, t.second, t.third]

theorem corner_mem_corners (t : Triple (Vec K)) (k : Fin 3) : corner t k ∈ corners t := by
  fin_cases k <;> simp [corner, corners]

theorem mem_hull_of_mem_corners {t : Triple (Vec K)} {p : Vec K} (member : p ∈ corners t) :
    p ∈ hull t := by
  simp only [corners, List.mem_cons, List.not_mem_nil, or_false] at member
  rcases member with rfl | rfl | rfl
  · exact first_mem_hull t
  · exact second_mem_hull t
  · exact third_mem_hull t

theorem segment_subset_hull {t : Triple (Vec K)} {edge : Vec K × Vec K} (member : edge ∈ edges t) :
    segment K edge.1 edge.2 ⊆ hull t := by
  have convex : Convex K (hull t) := convex_convexHull K _
  simp only [edges, List.mem_cons, List.not_mem_nil, or_false] at member
  rcases member with rfl | rfl | rfl
  · exact convex.segment_subset (first_mem_hull t) (second_mem_hull t)
  · exact convex.segment_subset (second_mem_hull t) (third_mem_hull t)
  · exact convex.segment_subset (third_mem_hull t) (first_mem_hull t)

/-- The distances `_triangle_distance` takes the least of. -/
def measured (t t' : Triple (Vec K)) : List K :=
  (corners t).map (fun p => pointTriangleDistance sqrt p t') ++
    ((corners t').map (fun p => pointTriangleDistance sqrt p t) ++
      ((edges t).flatMap fun a => (edges t').map fun b => (a, b)).map fun pair =>
        segmentDistance sqrt pair.1.1 pair.1.2 pair.2.1 pair.2.2)

/-- No edge of either triangle passes the test against the other. -/
def Uncrossed (t t' : Triple (Vec K)) : Prop :=
  (∀ edge ∈ edges t, segmentIntersectsTriangle edge.1 edge.2 t' = false) ∧
    ∀ edge ∈ edges t', segmentIntersectsTriangle edge.1 edge.2 t = false

theorem triangleDistance_isLeast_measured {t t' : Triple (Vec K)} (uncrossed : Uncrossed t t') :
    IsLeast {d | d ∈ measured sqrt t t'} (triangleDistance sqrt t t') := by
  have none : ((edges t).any fun edge => segmentIntersectsTriangle edge.1 edge.2 t') = false :=
    List.any_eq_false.2 fun edge member => by simp [uncrossed.1 edge member]
  have none' : ((edges t').any fun edge => segmentIntersectsTriangle edge.1 edge.2 t) = false :=
    List.any_eq_false.2 fun edge member => by simp [uncrossed.2 edge member]
  have chosen : triangleDistance sqrt t t' =
      least (pointTriangleDistance sqrt t.first t') (measured sqrt t t').tail := by
    unfold triangleDistance
    rw [none, none', if_neg Bool.false_ne_true, if_neg Bool.false_ne_true]
    simp only [measured, corners, least, List.map_cons, List.map_nil, List.cons_append,
      List.nil_append, List.tail_cons, List.foldl_cons, List.foldl_nil, List.foldl_map, pyMin_eq]
  rw [chosen]
  exact ⟨least_mem _ _, fun d member => least_le_of_mem member⟩

end

/-! ## Exact distances -/

section Real

/-- The distances between the points of two sets. -/
def distances (S T : Set (Vec ℝ)) : Set ℝ := {d | ∃ p ∈ S, ∃ q ∈ T, d = norm Real.sqrt (p - q)}

theorem norm_le_norm {u v : Vec ℝ} (shorter : dot u u ≤ dot v v) :
    norm Real.sqrt u ≤ norm Real.sqrt v := Real.sqrt_le_sqrt shorter

theorem pointTriangleDistance_isLeast (p : Vec ℝ) {t : Triple (Vec ℝ)} (proper : Proper t) :
    IsLeast (distances {p} (hull t)) (pointTriangleDistance Real.sqrt p t) := by
  obtain ⟨x, ⟨inside, closest⟩, measured⟩ := pointTriangleDistance_closest Real.sqrt p proper
  rw [measured]
  refine ⟨⟨p, rfl, x, inside, rfl⟩, ?_⟩
  rintro d ⟨_, rfl, y, member, rfl⟩
  exact norm_le_norm (closest y member)

theorem segmentDistance_isLeast {p1 q1 p2 q2 : Vec ℝ}
    (long : contactEpsilon < dot (q1 - p1) (q1 - p1))
    (long' : contactEpsilon < dot (q2 - p2) (q2 - p2)) :
    IsLeast (distances (segment ℝ p1 q1) (segment ℝ p2 q2))
      (segmentDistance Real.sqrt p1 q1 p2 q2) := by
  obtain ⟨x, y, ⟨on, on', closest⟩, measured⟩ :=
    segmentDistance_closest Real.sqrt p1 q1 p2 q2 long long'
  rw [measured]
  refine ⟨⟨x, on, y, on', rfl⟩, ?_⟩
  rintro d ⟨x', member, y', member', rfl⟩
  exact norm_le_norm (closest x' member y' member')

/-- A triangle whose corners are not on a line and whose edges are longer than the
tolerance. -/
structure Sound (t : Triple (Vec ℝ)) : Prop where
  proper : Proper t
  long : ∀ edge ∈ edges t, contactEpsilon < dot (edge.2 - edge.1) (edge.2 - edge.1)

theorem distances_comm (S T : Set (Vec ℝ)) : distances S T = distances T S := by
  have swapped (S T : Set (Vec ℝ)) : distances S T ⊆ distances T S := by
    rintro d ⟨p, member, q, member', rfl⟩
    exact ⟨q, member', p, member, by rw [norm, norm, dot_sub_comm]⟩
  exact Set.Subset.antisymm (swapped S T) (swapped T S)

theorem distances_mono {S S' T T' : Set (Vec ℝ)} (left : S ⊆ S') (right : T ⊆ T') :
    distances S T ⊆ distances S' T' := by
  rintro d ⟨p, member, q, member', rfl⟩
  exact ⟨p, left member, q, right member', rfl⟩

/-- What is measured from a corner. -/
theorem corner_isLeast {t t' : Triple (Vec ℝ)} (sound : Sound t') {p : Vec ℝ}
    (member : p ∈ corners t) :
    pointTriangleDistance Real.sqrt p t' ∈ distances (hull t) (hull t') ∧
      ∀ q ∈ hull t', pointTriangleDistance Real.sqrt p t' ≤ norm Real.sqrt (p - q) := by
  have least := pointTriangleDistance_isLeast p sound.proper
  have inside : ({p} : Set (Vec ℝ)) ⊆ hull t :=
    Set.singleton_subset_iff.2 (mem_hull_of_mem_corners member)
  exact ⟨distances_mono inside subset_rfl least.1, fun q member => least.2 ⟨p, rfl, q, member, rfl⟩⟩

/-- **The distance of two disjoint triangles** is the one the code computes. -/
theorem triangleDistance_isLeast {t t' : Triple (Vec ℝ)} (sound : Sound t) (sound' : Sound t')
    (disjoint : Disjoint (hull t) (hull t')) (uncrossed : Uncrossed t t') :
    IsLeast (distances (hull t) (hull t')) (triangleDistance Real.sqrt t t') := by
  obtain ⟨chosen, below⟩ := triangleDistance_isLeast_measured Real.sqrt uncrossed
  constructor
  · -- whatever is measured is a distance of two points
    rcases List.mem_append.1 chosen with first | rest
    · obtain ⟨p, member, measured⟩ := List.mem_map.1 first
      rw [← measured]
      exact (corner_isLeast sound' member).1
    · rcases List.mem_append.1 rest with second | third
      · obtain ⟨p, member, measured⟩ := List.mem_map.1 second
        rw [← measured, distances_comm]
        exact (corner_isLeast sound member).1
      · obtain ⟨⟨edge, edge'⟩, member, measured⟩ := List.mem_map.1 third
        obtain ⟨edge, listed, same⟩ := List.mem_flatMap.1 member
        obtain ⟨edge', listed', same⟩ := List.mem_map.1 same
        cases same
        rw [← measured]
        exact distances_mono (segment_subset_hull listed) (segment_subset_hull listed')
          (segmentDistance_isLeast (sound.long _ listed) (sound'.long _ listed')).1
  · -- no two points are closer than a corner and a point, or two points of edges
    rintro d ⟨p, inside, q, inside', rfl⟩
    obtain ⟨x, y, touching, closer⟩ := exists_touching disjoint inside inside'
    refine le_trans ?_ (norm_le_norm closer)
    cases touching with
    | corner k q inside =>
        have member := corner_mem_corners t k
        refine (below (List.mem_append_left _ (List.mem_map.2 ⟨_, member, rfl⟩))).trans ?_
        exact (corner_isLeast sound' member).2 y inside
    | corner' p inside k =>
        have member := corner_mem_corners t' k
        refine (below (List.mem_append_right _ (List.mem_append_left _
          (List.mem_map.2 ⟨_, member, rfl⟩)))).trans ?_
        rw [norm, dot_sub_comm]
        exact (corner_isLeast sound member).2 x inside
    | edges p q edge edge' member member' on on' =>
        have listed : (edge, edge') ∈ (edges t).flatMap fun a => (edges t').map fun b => (a, b) :=
          List.mem_flatMap.2 ⟨edge, member, List.mem_map.2 ⟨edge', member', rfl⟩⟩
        refine (below (List.mem_append_right _ (List.mem_append_right _
          (List.mem_map.2 ⟨_, listed, rfl⟩)))).trans ?_
        exact (segmentDistance_isLeast (sound.long _ member) (sound'.long _ member')).2
          ⟨x, on, y, on', rfl⟩

/-- **Distances are exact.**  In real arithmetic the distance of two disjoint triangles that
pass no test for a crossing is the least distance of their points; so is the distance of a
point and a triangle, and that of two segments, parallel or not. -/
theorem distances_exact :
    (∀ (p : Vec ℝ) (t : Triple (Vec ℝ)), Proper t →
      IsLeast (distances {p} (hull t)) (pointTriangleDistance Real.sqrt p t)) ∧
    (∀ p1 q1 p2 q2 : Vec ℝ, contactEpsilon < dot (q1 - p1) (q1 - p1) →
      contactEpsilon < dot (q2 - p2) (q2 - p2) →
      IsLeast (distances (segment ℝ p1 q1) (segment ℝ p2 q2))
        (segmentDistance Real.sqrt p1 q1 p2 q2)) ∧
    ∀ t t' : Triple (Vec ℝ), Sound t → Sound t' → Disjoint (hull t) (hull t') → Uncrossed t t' →
      IsLeast (distances (hull t) (hull t')) (triangleDistance Real.sqrt t t') :=
  ⟨fun p _ proper => pointTriangleDistance_isLeast p proper,
    fun _ _ _ _ long long' => segmentDistance_isLeast long long',
    fun _ _ sound sound' disjoint uncrossed =>
      triangleDistance_isLeast sound sound' disjoint uncrossed⟩

/-- The right triangle of unit legs at height `z`. -/
def level (z : ℝ) : Triple (Vec ℝ) := ⟨![0, 0, z], ![1, 0, z], ![0, 1, z]⟩

theorem sound_level (z : ℝ) : Sound (level z) where
  proper flat := by
    have up := congrFun flat 2
    simp [level, cross] at up
  long := by
    have small : (contactEpsilon : ℝ) < 1 := by
      unfold contactEpsilon
      norm_num
    intro edge member
    simp only [edges, level, List.mem_cons, List.not_mem_nil, or_false] at member
    rcases member with rfl | rfl | rfl <;>
      simp only [dot_eq_dotProduct, dotProduct, Fin.sum_univ_three, Pi.sub_apply,
        Matrix.cons_val] <;>
      linarith

theorem disjoint_level {y z : ℝ} (apart : y ≠ z) : Disjoint (hull (level y)) (hull (level z)) := by
  have height {h : ℝ} {p : Vec ℝ} (inside : p ∈ hull (level h)) : p 2 = h := by
    obtain ⟨a, b, c, -, -, -, total, rfl⟩ := (mem_hull_iff _ _).1 inside
    simp only [level, Pi.add_apply, Pi.smul_apply, smul_eq_mul, Matrix.cons_val]
    rw [← add_mul, ← add_mul, total, one_mul]
  exact Set.disjoint_left.2 fun p first second => apart ((height first).symm.trans (height second))

theorem uncrossed_level (y z : ℝ) : Uncrossed (level y) (level z) := by
  have parallel (h h' : ℝ) : ∀ edge ∈ edges (level h),
      segmentIntersectsTriangle edge.1 edge.2 (level h') = false := by
    intro edge member
    simp only [edges, level, List.mem_cons, List.not_mem_nil, or_false] at member
    rcases member with rfl | rfl | rfl <;>
      simp [segmentIntersectsTriangle, rayTriangleDistance, level, cross, dot_eq_dotProduct,
        dotProduct, Fin.sum_univ_three, contactEpsilon_pos.le]
  exact ⟨parallel y z, parallel z y⟩

/-- Two triangles one above the other. -/
theorem distances_exact_level : IsLeast (distances (hull (level 0)) (hull (level 1)))
    (triangleDistance Real.sqrt (level 0) (level 1)) :=
  distances_exact.2.2 (level 0) (level 1) (sound_level 0) (sound_level 1)
    (disjoint_level zero_ne_one) (uncrossed_level 0 1)

end Real

end InstrumentBench.Geometry
