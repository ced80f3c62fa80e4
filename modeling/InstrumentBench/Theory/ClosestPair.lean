/-
# Theory.ClosestPair -- closest points of convex hulls, in coordinates

Distances are compared by their squares, so that any ordered field will do.

* `closest_pair`: two points of two hulls are closest if the difference between them
  makes no acute angle with the way to any vertex;
* `kernel_or_reaches`: a linear map of a space to itself that is not onto forgets a
  direction;
* `exists_first_exit`: numbers that start out nonnegative and change at constant rates,
  one of them downwards, reach a first time at which one of them is zero;
* `not_beyond`, `face_of_no_region`: around a corner of a triangle the regions of the edges
  and of their far ends leave no gap, so that a point in none of the six regions of corners
  and edges lies over the face;
* `edge_share`, `opposite_share`, `face_share`: the coordinates of the point of each region;
* `unitClamp_stationary`, `clamp_in_turn`: the minimum of a convex quadratic on the unit
  square, one coordinate clamped after the other.
-/
import InstrumentBench.Theory.Numerals
import Mathlib.Analysis.Convex.Hull
import Mathlib.Analysis.Convex.Join
import Mathlib.Data.Matrix.Mul
import Mathlib.LinearAlgebra.FiniteDimensional.Basic
import Mathlib.LinearAlgebra.Matrix.DotProduct
import Mathlib.Tactic.Linarith
import Mathlib.Tactic.FieldSimp

namespace InstrumentBench.Theory

set_option autoImplicit false

variable {K : Type} [Field K] [LinearOrder K] [IsStrictOrderedRing K]

/-! ## Hulls -/

section Hulls

variable {ι : Type} [Fintype ι]

theorem square_nonneg (v : ι → K) : 0 ≤ dotProduct v v :=
  Finset.sum_nonneg fun _ _ => mul_self_nonneg _

/-- What bounds a linear function at the vertices bounds it on the hull. -/
theorem le_dotProduct_of_vertices {S : Set (ι → K)} {h : ι → K} {bound : K}
    (vertices : ∀ s ∈ S, bound ≤ dotProduct h s) {x : ι → K} (inside : x ∈ convexHull K S) :
    bound ≤ dotProduct h x := by
  have linear : IsLinearMap K fun s : ι → K => dotProduct h s :=
    ⟨dotProduct_add h, fun c s => dotProduct_smul c h s⟩
  exact convexHull_min vertices (convex_halfSpace_ge linear bound) inside

/-- **Closest pairs.**  Points `x` and `y` are closest in two hulls if no vertex lies, from
either of them, towards the other. -/
theorem closest_pair {S T : Set (ι → K)} {x y : ι → K}
    (left : ∀ s ∈ S, 0 ≤ dotProduct (x - y) (s - x))
    (right : ∀ t ∈ T, dotProduct (x - y) (t - y) ≤ 0)
    {x' y' : ι → K} (inside : x' ∈ convexHull K S) (inside' : y' ∈ convexHull K T) :
    dotProduct (x - y) (x - y) ≤ dotProduct (x' - y') (x' - y') := by
  have away : dotProduct (x - y) x ≤ dotProduct (x - y) x' :=
    le_dotProduct_of_vertices
      (fun s member => by simpa [dotProduct_sub] using left s member) inside
  have towards : dotProduct (-(x - y)) y ≤ dotProduct (-(x - y)) y' :=
    le_dotProduct_of_vertices
      (fun t member => by
        have obtuse := right t member
        rw [dotProduct_sub] at obtuse
        rw [neg_dotProduct, neg_dotProduct]
        linarith) inside'
  rw [neg_dotProduct, neg_dotProduct, neg_le_neg_iff] at towards
  have split : x' - y' = (x - y) + ((x' - x) - (y' - y)) := by abel
  have square := square_nonneg ((x' - x) - (y' - y))
  rw [split, dotProduct_add, add_dotProduct, add_dotProduct,
    dotProduct_comm ((x' - x) - (y' - y)) (x - y)]
  have product : 0 ≤ dotProduct (x - y) ((x' - x) - (y' - y)) := by
    rw [dotProduct_sub, dotProduct_sub, dotProduct_sub]
    linarith
  linarith

end Hulls

/-! ## Directions and times -/

/-- A linear map of a space to itself has a direction it forgets, or it reaches everything. -/
theorem kernel_or_reaches {F V : Type} [Field F] [AddCommGroup V] [Module F V]
    [FiniteDimensional F V] (f : V →ₗ[F] V) (target : V) :
    (∃ v, v ≠ 0 ∧ f v = 0) ∨ ∃ v, f v = target := by
  by_cases injective : Function.Injective f
  · exact .inr (LinearMap.injective_iff_surjective.1 injective target)
  · left
    rw [← LinearMap.ker_eq_bot, Submodule.eq_bot_iff] at injective
    push Not at injective
    obtain ⟨v, member, nonzero⟩ := injective
    exact ⟨v, nonzero, LinearMap.mem_ker.1 member⟩

/-- **The first exit.**  Until the first time at which one of the numbers is zero, and at
that time, none is negative. -/
theorem exists_first_exit {ι : Type} [Fintype ι] {start rate : ι → K} (nonneg : ∀ i, 0 ≤ start i)
    (falls : ∃ i, rate i < 0) :
    ∃ time, 0 ≤ time ∧ (∀ i, 0 ≤ start i + time * rate i) ∧
      (∃ i, start i + time * rate i = 0 ∧ rate i < 0) ∧
      ∀ later, 0 ≤ later → (∃ i, start i + later * rate i < 0) → time ≤ later := by
  obtain ⟨first, member, least⟩ := Finset.exists_min_image
    (Finset.univ.filter fun i => rate i < 0) (fun i => start i / -rate i)
    (falls.imp fun i falling => Finset.mem_filter.2 ⟨Finset.mem_univ i, falling⟩)
  have falling : rate first < 0 := (Finset.mem_filter.1 member).2
  have before (i : ι) (down : rate i < 0) : start first / -rate first ≤ start i / -rate i :=
    least i (Finset.mem_filter.2 ⟨Finset.mem_univ i, down⟩)
  refine ⟨start first / -rate first, div_nonneg (nonneg first) (by linarith), ?_,
    ⟨first, by have := falling.ne; field_simp; ring, falling⟩, ?_⟩
  · intro i
    by_cases down : rate i < 0
    · have bound := before i down
      rw [le_div_iff₀ (by linarith : 0 < -rate i)] at bound
      linarith
    · have product := mul_nonneg (div_nonneg (nonneg first) (by linarith : 0 ≤ -rate first))
        (not_lt.1 down)
      linarith [nonneg i]
  · rintro later nonnegLater ⟨i, out⟩
    have down : rate i < 0 := by
      by_contra up
      have product := mul_nonneg nonnegLater (not_lt.1 up)
      linarith [nonneg i]
    refine (before i down).trans ?_
    rw [div_le_iff₀ (by linarith : 0 < -rate i)]
    linarith

/-! ## Around a corner -/

/-- **No gap at a corner.**  The corner has edges of square lengths `A` and `C` and inner
product `B`; `x` and `y` are the inner products with the way to a point.  A point behind
the corner along the first edge, and on the outer side of that edge, lies in the region of
the corner, of the second edge or of its far end. -/
theorem not_beyond {A B C x y : K} (positive : 0 < C) (area : 0 < A * C - B * B) (behind : x < 0)
    (outside : A * y ≤ B * x) (corner : ¬(x ≤ 0 ∧ y ≤ 0))
    (edge : ¬(C * x - B * y ≤ 0 ∧ 0 ≤ y ∧ y ≤ C)) (far : ¬(C ≤ y ∧ x - B ≤ y - C)) : False := by
  have up : 0 < y := by
    by_contra low
    exact corner ⟨behind.le, not_lt.1 low⟩
  have long : 0 < A := by
    by_contra short
    nlinarith [mul_nonneg (neg_nonneg.2 (not_lt.1 short)) positive.le, mul_self_nonneg B]
  have obtuse : B < 0 := by
    by_contra acute
    nlinarith [mul_pos long up, mul_nonneg (not_lt.1 acute) (neg_nonneg.2 behind.le)]
  have low : C * x - B * y < 0 := by
    by_contra high
    have scaled := mul_nonneg long.le (not_lt.1 high)
    have slope := mul_le_mul_of_nonneg_left outside (neg_nonneg.2 obtuse.le)
    nlinarith [mul_pos_of_neg_of_neg behind (neg_neg_of_pos area)]
  have past : C < y := by
    by_contra short
    exact edge ⟨low.le, up.le, not_lt.1 short⟩
  have turned : y - C < x - B := by
    by_contra back
    exact far ⟨past.le, not_lt.1 back⟩
  nlinarith [mul_lt_mul_of_pos_left past long,
    mul_lt_mul_of_pos_left (by linarith : -x < -B) (neg_pos.2 obtuse)]

/-- The share of an edge at which a point lies beside it, the other corner on the other
side. -/
theorem edge_share {A B x y : K} (positive : 0 < A) (low : 0 ≤ x) (high : x ≤ A)
    (below : A * y ≤ B * x) : 0 ≤ x / A ∧ x / A ≤ 1 ∧ x / A * A = x ∧ y ≤ x / A * B := by
  refine ⟨div_nonneg low positive.le, (div_le_one positive).2 high,
    div_mul_cancel₀ x positive.ne', ?_⟩
  rw [div_mul_eq_mul_div, le_div_iff₀ positive]
  linarith

/-- **The face is what is left.**  Where the tests of the three corners and the three edges
all fail, the point lies on the inner side of every edge. -/
theorem face_of_no_region {A B C x y : K} (posA : 0 < A) (posC : 0 < C)
    (posN : 0 < A - 2 * B + C) (area : 0 < A * C - B * B) (notFirst : ¬(x ≤ 0 ∧ y ≤ 0))
    (notSecond : ¬(0 ≤ x - A ∧ y - B ≤ x - A))
    (notEdgeSecond : ¬(x * (y - B) - (x - A) * y ≤ 0 ∧ 0 ≤ x ∧ x - A ≤ 0))
    (notThird : ¬(0 ≤ y - C ∧ x - B ≤ y - C))
    (notEdgeThird : ¬((x - B) * y - x * (y - C) ≤ 0 ∧ 0 ≤ y ∧ y - C ≤ 0))
    (notOpposite : ¬((x - A) * (y - C) - (x - B) * (y - B) ≤ 0 ∧ 0 ≤ y - B - (x - A) ∧
      0 ≤ x - B - (y - C))) :
    0 < (x - A) * (y - C) - (x - B) * (y - B) ∧ 0 < (x - B) * y - x * (y - C) ∧
      0 < x * (y - B) - (x - A) * y := by
  have areaSecond : 0 < A * (A - 2 * B + C) - (A - B) * (A - B) := by linarith
  have areaThird : 0 < C * (A - 2 * B + C) - (C - B) * (C - B) := by linarith
  refine ⟨?_, ?_, ?_⟩
  · by_contra out
    by_cases fromSecond : y - B - (x - A) < 0
    · refine not_beyond (A := A - 2 * B + C) (B := A - B) (C := A) (x := y - B - (x - A))
        (y := A - x) posA (by linarith) fromSecond (by linarith) ?_ ?_ ?_
      · exact fun corner => notSecond ⟨by linarith [corner.2], by linarith [corner.1]⟩
      · exact fun edge =>
          notEdgeSecond ⟨by linarith [edge.1], by linarith [edge.2.2], by linarith [edge.2.1]⟩
      · exact fun far => notFirst ⟨by linarith [far.1], by linarith [far.2]⟩
    · have fromThird : x - B - (y - C) < 0 := by
        by_contra inner
        exact notOpposite ⟨not_lt.1 out, not_lt.1 fromSecond, not_lt.1 inner⟩
      refine not_beyond (A := A - 2 * B + C) (B := C - B) (C := C) (x := x - B - (y - C))
        (y := C - y) posC (by linarith) fromThird (by linarith) ?_ ?_ ?_
      · exact fun corner => notThird ⟨by linarith [corner.2], by linarith [corner.1]⟩
      · exact fun edge =>
          notEdgeThird ⟨by linarith [edge.1], by linarith [edge.2.2], by linarith [edge.2.1]⟩
      · exact fun far => notFirst ⟨by linarith [far.2], by linarith [far.1]⟩
  · by_contra out
    by_cases fromFirst : y < 0
    · refine not_beyond (A := C) (B := B) (C := A) (x := y) (y := x)
        posA (by linarith) fromFirst (by linarith) ?_ ?_ ?_
      · exact fun corner => notFirst ⟨corner.2, corner.1⟩
      · exact fun edge => notEdgeSecond ⟨by linarith [edge.1], edge.2.1, by linarith [edge.2.2]⟩
      · exact fun far => notSecond ⟨by linarith [far.1], by linarith [far.2]⟩
    · have fromThird : C - y < 0 := by
        by_contra inner
        exact notEdgeThird ⟨not_lt.1 out, not_lt.1 fromFirst, by linarith [not_lt.1 inner]⟩
      refine not_beyond (A := C) (B := C - B) (C := A - 2 * B + C) (x := C - y)
        (y := x - B - (y - C)) posN (by linarith) fromThird (by linarith) ?_ ?_ ?_
      · exact fun corner => notThird ⟨by linarith [corner.1], by linarith [corner.2]⟩
      · exact fun edge => notOpposite ⟨by linarith [edge.1], by linarith [edge.2.2], edge.2.1⟩
      · exact fun far => notSecond ⟨by linarith [far.2], by linarith [far.1]⟩
  · by_contra out
    by_cases fromFirst : x < 0
    · refine not_beyond (A := A) (B := B) (C := C) (x := x) (y := y)
        posC (by linarith) fromFirst (by linarith) notFirst ?_ ?_
      · exact fun edge => notEdgeThird ⟨by linarith [edge.1], edge.2.1, by linarith [edge.2.2]⟩
      · exact fun far => notThird ⟨by linarith [far.1], by linarith [far.2]⟩
    · have fromSecond : A - x < 0 := by
        by_contra inner
        exact notEdgeSecond ⟨not_lt.1 out, not_lt.1 fromFirst, by linarith [not_lt.1 inner]⟩
      refine not_beyond (A := A) (B := A - B) (C := A - 2 * B + C) (x := A - x)
        (y := y - B - (x - A)) posN (by linarith) fromSecond (by linarith) ?_ ?_ ?_
      · exact fun corner => notSecond ⟨by linarith [corner.1], by linarith [corner.2]⟩
      · exact fun edge => notOpposite ⟨by linarith [edge.1], edge.2.1, by linarith [edge.2.2]⟩
      · exact fun far => notThird ⟨by linarith [far.2], by linarith [far.1]⟩

/-! ### Shares

`A`, `B`, `C` are the inner products of the edges from the first corner, `x` and `y` those
with the way to the point. -/

theorem gram_positive {A B C : K} (nonnegA : 0 ≤ A) (nonnegC : 0 ≤ C)
    (area : 0 < A * C - B * B) : 0 < A ∧ 0 < C ∧ 0 < A - 2 * B + C := by
  have square := mul_self_nonneg B
  have product : 0 < A * C := by linarith
  have posA : 0 < A := lt_of_le_of_ne nonnegA fun zero => by simp [← zero] at product
  have posC : 0 < C := lt_of_le_of_ne nonnegC fun zero => by simp [← zero] at product
  refine ⟨posA, posC, pos_of_mul_pos_right ?_ posA.le⟩
  have whole : A * (A - 2 * B + C) = (A - B) * (A - B) + (A * C - B * B) := by ring
  rw [whole]
  exact add_pos_of_nonneg_of_pos (mul_self_nonneg _) area

/-- The edge opposite to the first corner. -/
theorem opposite_share {A B C x y : K} (posN : 0 < A - 2 * B + C)
    (edge : (x - A) * (y - C) - (x - B) * (y - B) ≤ 0 ∧ 0 ≤ y - B - (x - A) ∧
      0 ≤ x - B - (y - C)) :
    ∃ s, s = (y - B - (x - A)) / (A - 2 * B + C) ∧ 0 ≤ s ∧ s ≤ 1 ∧
      x - (1 - s) * A - s * B = y - (1 - s) * B - s * C ∧ 0 ≤ x - (1 - s) * A - s * B := by
  obtain ⟨inner, low, high⟩ := edge
  have beside : (A - 2 * B + C) * (A - x) ≤ (A - B) * (y - B - (x - A)) := by linarith
  obtain ⟨low', high', share, side⟩ := edge_share posN low (by linarith) beside
  exact ⟨_, rfl, low', high', by linear_combination share, by linarith⟩

/-- The face. -/
theorem face_share {A B C x y : K} (area : 0 < A * C - B * B)
    (first : 0 < (x - A) * (y - C) - (x - B) * (y - B))
    (second : 0 < (x - B) * y - x * (y - C)) (third : 0 < x * (y - B) - (x - A) * y) :
    ∃ v w, v = ((x - B) * y - x * (y - C)) * (1 / (A * C - B * B)) ∧
      w = (x * (y - B) - (x - A) * y) * (1 / (A * C - B * B)) ∧ 0 ≤ v ∧ 0 ≤ w ∧ v + w ≤ 1 ∧
      x - v * A - w * B = 0 ∧ y - v * B - w * C = 0 := by
  have scaled (z : K) : z * (1 / (A * C - B * B)) * (A * C - B * B) = z := by
    rw [mul_assoc, one_div_mul_cancel area.ne', mul_one]
  have inverse : 0 < 1 / (A * C - B * B) := one_div_pos.2 area
  have shareV := scaled ((x - B) * y - x * (y - C))
  have shareW := scaled (x * (y - B) - (x - A) * y)
  refine ⟨_, _, rfl, rfl, (mul_pos second inverse).le, (mul_pos third inverse).le, ?_, ?_, ?_⟩
  · refine le_of_mul_le_mul_right ?_ area
    rw [add_mul, shareV, shareW]
    linarith
  · refine (mul_eq_zero.1 ?_).resolve_right area.ne'
    linear_combination -A * shareV - B * shareW
  · refine (mul_eq_zero.1 ?_).resolve_right area.ne'
    linear_combination -B * shareV - C * shareW

/-! ## Clamping -/

/-- The number of the unit interval closest to `x`. -/
def unitClamp (x : K) : K := min (max x 0) 1

theorem unitClamp_mem (x : K) : 0 ≤ unitClamp x ∧ unitClamp x ≤ 1 :=
  ⟨le_min (le_max_right _ _) zero_le_one, min_le_right _ _⟩

/-- Where the clamped number is not the number, it is the end the number is beyond. -/
theorem unitClamp_cases (x : K) :
    (unitClamp x = 0 ∧ x ≤ 0) ∨ (unitClamp x = 1 ∧ 1 ≤ x) ∨ (unitClamp x = x ∧ 0 ≤ x ∧ x ≤ 1) := by
  unfold unitClamp
  rcases le_total x 0 with low | low
  · left
    exact ⟨by rw [max_eq_right low, min_eq_left zero_le_one], low⟩
  · right
    rw [max_eq_left low]
    rcases le_total x 1 with high | high
    · exact .inr ⟨min_eq_left high, low, high⟩
    · exact .inl ⟨min_eq_right high, high⟩

/-- **A clamped number is stationary**: from it, the number lies towards no other number
of the interval. -/
theorem unitClamp_stationary (x : K) {s : K} (low : 0 ≤ s) (high : s ≤ 1) :
    0 ≤ (unitClamp x - x) * (s - unitClamp x) := by
  rcases unitClamp_cases x with ⟨same, below⟩ | ⟨same, above⟩ | ⟨same, -⟩
  · rw [same]
    exact mul_nonneg (by linarith) (by linarith)
  · rw [same]
    exact mul_nonneg_of_nonpos_of_nonpos (by linarith) (by linarith)
  · rw [same, sub_self, zero_mul]

/-- **Clamping in turn.**  `F(s, t) = a s² + e t² - 2 b s t + 2 c s - 2 f t` on the unit square.
If at the clamped minimum `s` over the plane the best `t` is not positive, then neither
is it at the best `s` of the side `t = 0`. -/
theorem clamp_in_turn {a b c e f s : K} (positive : 0 < a) (long : 0 < e)
    (gram : 0 ≤ a * e - b * b) (parallel : a * e - b * b = 0 → s = 0 ∧ c * e = b * f)
    (crossed : a * e - b * b ≠ 0 → s = unitClamp ((b * f - c * e) / (a * e - b * b)))
    (outside : b * s + f ≤ 0) : b * unitClamp (-c / a) + f ≤ 0 := by
  have inside : 0 ≤ s ∧ s ≤ 1 := by
    by_cases flat : a * e - b * b = 0
    · rw [(parallel flat).1]
      exact ⟨le_rfl, zero_le_one⟩
    · rw [crossed flat]
      exact unitClamp_mem _
  have scaled : a * (-c / a) = -c := by field_simp
  -- where the best `s` has to move, the vertex of the parabola is on the same side
  have slope (moves : 0 < b * (unitClamp (-c / a) - s)) : a * f ≤ b * c := by
    by_cases flat : a * e - b * b = 0
    · obtain ⟨-, same⟩ := parallel flat
      have product : e * (a * f - b * c) = 0 := by linear_combination f * flat - b * same
      rcases mul_eq_zero.1 product with zero | zero
      · exact absurd zero long.ne'
      · linarith
    · have area : 0 < a * e - b * b := lt_of_le_of_ne gram (Ne.symm flat)
      have vertex : (a * e - b * b) * ((b * f - c * e) / (a * e - b * b)) = b * f - c * e := by
        rw [mul_div_assoc', mul_div_cancel_left₀ _ flat]
      have bounds := unitClamp_mem (-c / a)
      have reached : b * ((b * f - c * e) / (a * e - b * b)) ≤ b * s := by
        rw [crossed flat] at moves ⊢
        rcases unitClamp_cases ((b * f - c * e) / (a * e - b * b)) with
          ⟨same, below⟩ | ⟨same, above⟩ | ⟨same, -⟩
        · rw [same] at moves ⊢
          have up : 0 < b := by
            by_contra down
            nlinarith
          nlinarith
        · rw [same] at moves ⊢
          have down : b < 0 := by
            by_contra up
            nlinarith
          nlinarith
        · rw [same]
      have low : (a * e - b * b) * (b * ((b * f - c * e) / (a * e - b * b)) + f) ≤ 0 :=
        mul_nonpos_of_nonneg_of_nonpos area.le (by linarith)
      have factor : e * (a * f - b * c) ≤ 0 := by linear_combination low - b * vertex
      by_contra above
      exact absurd factor (not_le.2 (mul_pos long (by linarith)))
  by_cases moves : 0 < b * (unitClamp (-c / a) - s)
  · have bound := slope moves
    have bounded : b * unitClamp (-c / a) ≤ b * (-c / a) := by
      rcases unitClamp_cases (-c / a) with ⟨same, below⟩ | ⟨same, above⟩ | ⟨same, -⟩
      · rw [same] at moves ⊢
        have down : b < 0 := by
          by_contra up
          nlinarith
        nlinarith
      · rw [same] at moves ⊢
        have up : 0 < b := by
          by_contra down
          nlinarith
        nlinarith
      · rw [same]
    have side : a * (b * (-c / a) + f) ≤ 0 := by
      have expand : a * (b * (-c / a) + f) = b * (a * (-c / a)) + a * f := by ring
      rw [expand, scaled]
      linarith
    have vertex : b * (-c / a) + f ≤ 0 := by
      by_contra above
      exact absurd side (not_le.2 (mul_pos positive (not_le.1 above)))
    linarith
  · have still : b * (unitClamp (-c / a) - s) ≤ 0 := not_lt.1 moves
    linarith

end InstrumentBench.Theory
