/-
# Geometry.ClosestPoint -- the closest point of a triangle, and of two segments

`_point_triangle_distance` finds the region of corner, edge or face a point lies over by the
signs of six inner products; `_segment_distance` minimises over the line, clamps, and
minimises again.  The points they measure to are the closest ones:

* `pointTriangleDistance_closest`, for a triangle whose corners are not on a line;
* `segmentDistance_closest`, for segments longer than the tolerance, parallel ones too.

`closest_of_coordinates` and `closestPair_of_shares` are the conditions both are checked
against.
-/
import InstrumentBench.Geometry.Connectivity
import InstrumentBench.Theory.ClosestPair

namespace InstrumentBench.Geometry

set_option autoImplicit false
set_option linter.unusedSectionVars false

open InstrumentBench.Theory

section

variable {K : Type} [Field K] [LinearOrder K] [IsStrictOrderedRing K] [FloorRing K]

theorem dot_eq_dotProduct (left right : Vec K) : dot left right = dotProduct left right := by
  simp only [dot, sum, List.foldl_cons, List.foldl_nil, dotProduct, Fin.sum_univ_three]
  norm_num

theorem clamp_eq_unitClamp (x : K) : clamp x = unitClamp x := rfl

/-! ## Triangles -/

/-- The closed triangle. -/
def hull (t : Triple (Vec K)) : Set (Vec K) := convexHull K {t.first, t.second, t.third}

theorem first_mem_hull (t : Triple (Vec K)) : t.first ∈ hull t :=
  subset_convexHull K _ (by simp)

theorem second_mem_hull (t : Triple (Vec K)) : t.second ∈ hull t :=
  subset_convexHull K _ (by simp)

theorem third_mem_hull (t : Triple (Vec K)) : t.third ∈ hull t :=
  subset_convexHull K _ (by simp)

/-- **The points of a triangle** by their barycentric coordinates. -/
theorem mem_hull_iff (t : Triple (Vec K)) (p : Vec K) :
    p ∈ hull t ↔ ∃ x y z : K, 0 ≤ x ∧ 0 ≤ y ∧ 0 ≤ z ∧ x + y + z = 1 ∧
      p = x • t.first + y • t.second + z • t.third := by
  constructor
  · intro inside
    refine convexHull_min (t := {p | ∃ x y z : K, 0 ≤ x ∧ 0 ≤ y ∧ 0 ≤ z ∧ x + y + z = 1 ∧
      p = x • t.first + y • t.second + z • t.third}) ?_ ?_ inside
    · rintro p (rfl | rfl | rfl)
      · exact ⟨1, 0, 0, by simp⟩
      · exact ⟨0, 1, 0, by simp⟩
      · exact ⟨0, 0, 1, by simp⟩
    · rintro p ⟨x, y, z, hx, hy, hz, total, rfl⟩ q ⟨x', y', z', hx', hy', hz', total', rfl⟩
        s r hs hr one
      refine ⟨s * x + r * x', s * y + r * y', s * z + r * z', by positivity, by positivity,
        by positivity, by linear_combination s * total + r * total' + one, ?_⟩
      simp only [smul_add, add_smul, mul_smul]
      abel
  · rintro ⟨x, y, z, hx, hy, hz, total, rfl⟩
    have convex : Convex K (hull t) := convex_convexHull K _
    have member := convex.sum_mem (t := (Finset.univ : Finset (Fin 3))) (w := ![x, y, z])
      (z := ![t.first, t.second, t.third])
      (by simp [Fin.forall_fin_succ, hx, hy, hz]) (by simpa [Fin.sum_univ_three] using total)
      (by simp [Fin.forall_fin_succ, first_mem_hull, second_mem_hull, third_mem_hull])
    simpa [Fin.sum_univ_three] using member

/-! ## A point and a triangle -/

/-- `x` is the point of `S` closest to `p`. -/
def Closest (p x : Vec K) (S : Set (Vec K)) : Prop :=
  x ∈ S ∧ ∀ y ∈ S, dot (p - x) (p - x) ≤ dot (p - y) (p - y)

/-- **A point of a triangle is the closest one** if the point outside lies over it, or behind
the edge or the corner it is on.  `v` and `w` are its coordinates along the edges from the
first corner, and the three conditions are those at the corners. -/
theorem closest_of_coordinates {t : Triple (Vec K)} {p : Vec K} {v w : K} (hv : 0 ≤ v) (hw : 0 ≤ w)
    (inside : v + w ≤ 1) {g h : K}
    (along : g = dot (t.second - t.first) (p - t.first) -
      v * dot (t.second - t.first) (t.second - t.first) -
      w * dot (t.second - t.first) (t.third - t.first))
    (across : h = dot (t.third - t.first) (p - t.first) -
      v * dot (t.second - t.first) (t.third - t.first) -
      w * dot (t.third - t.first) (t.third - t.first))
    (atFirst : 0 ≤ v * g + w * h) (atSecond : g ≤ v * g + w * h) (atThird : h ≤ v * g + w * h) :
    Closest p (t.first + (v • (t.second - t.first) + w • (t.third - t.first))) (hull t) := by
  obtain ⟨a, b, c⟩ := t
  obtain ⟨e, rfl⟩ : ∃ e, b = a + e := ⟨b - a, by abel⟩
  obtain ⟨f, rfl⟩ : ∃ f, c = a + f := ⟨c - a, by abel⟩
  obtain ⟨m, rfl⟩ : ∃ m, p = a + m := ⟨p - a, by abel⟩
  simp only [add_sub_cancel_left, dot_eq_dotProduct] at along across ⊢
  constructor
  · rw [mem_hull_iff]
    refine ⟨1 - v - w, v, w, by linarith, hv, hw, by ring, ?_⟩
    simp only [sub_smul, one_smul, smul_add]
    abel
  · intro y member
    rw [dot_eq_dotProduct, dot_eq_dotProduct]
    refine closest_pair (S := {a + m}) (T := {a, a + e, a + f}) ?_ ?_ (by simp) member
    · rintro s rfl
      simp
    · have residual : a + m - (a + (v • e + w • f)) = m - (v • e + w • f) := by abel
      rw [residual]
      have toE : dotProduct (m - (v • e + w • f)) e = g := by
        rw [along]
        simp only [sub_dotProduct, add_dotProduct, smul_dotProduct, smul_eq_mul,
          dotProduct_comm f e, dotProduct_comm m e]
        ring
      have toF : dotProduct (m - (v • e + w • f)) f = h := by
        rw [across]
        simp only [sub_dotProduct, add_dotProduct, smul_dotProduct, smul_eq_mul,
          dotProduct_comm m f]
        ring
      rintro s (rfl | rfl | rfl)
      · have way : s - (s + (v • e + w • f)) = -(v • e + w • f) := by abel
        rw [way, dotProduct_neg, dotProduct_add, dotProduct_smul, dotProduct_smul, toE, toF,
          smul_eq_mul, smul_eq_mul]
        linarith
      · have way : a + e - (a + (v • e + w • f)) = e - (v • e + w • f) := by abel
        rw [way, dotProduct_sub, dotProduct_add, dotProduct_smul, dotProduct_smul, toE, toF,
          smul_eq_mul, smul_eq_mul]
        linarith
      · have way : a + f - (a + (v • e + w • f)) = f - (v • e + w • f) := by abel
        rw [way, dotProduct_sub, dotProduct_add, dotProduct_smul, dotProduct_smul, toE, toF,
          smul_eq_mul, smul_eq_mul]
        linarith

/-- The corners are not on a line. -/
def Proper (t : Triple (Vec K)) : Prop := cross (t.second - t.first) (t.third - t.first) ≠ 0

theorem dot_self_pos {v : Vec K} (nonzero : v ≠ 0) : 0 < dot v v := by
  rw [dot_eq_dotProduct]
  exact lt_of_le_of_ne (square_nonneg v) fun zero => nonzero (dotProduct_self_eq_zero.1 zero.symm)

theorem dot_cross_self (u v : Vec K) :
    dot (cross u v) (cross u v) = dot u u * dot v v - dot u v * dot u v := by
  simp only [dot_eq_dotProduct, dotProduct, Fin.sum_univ_three, cross, Matrix.cons_val]
  ring

/-- The ways to a point from two corners. -/
theorem dot_way (u p a s : Vec K) : dot u (p - s) = dot u (p - a) - dot u (s - a) := by
  simp only [dot_eq_dotProduct, dotProduct_sub]
  ring

variable (sqrt : K → K)

/-- **The code's point of a triangle is the closest one.** -/
theorem pointTriangleDistance_closest (p : Vec K) {t : Triple (Vec K)} (proper : Proper t) :
    ∃ x, Closest p x (hull t) ∧ pointTriangleDistance sqrt p t = norm sqrt (p - x) := by
  have area : 0 < dot (t.second - t.first) (t.second - t.first) *
      dot (t.third - t.first) (t.third - t.first) -
      dot (t.second - t.first) (t.third - t.first) *
        dot (t.second - t.first) (t.third - t.first) := by
    rw [← dot_cross_self]
    exact dot_self_pos proper
  have wayAB := dot_way (t.second - t.first) p t.first t.second
  have wayCB := dot_way (t.third - t.first) p t.first t.second
  have wayAC := dot_way (t.second - t.first) p t.first t.third
  have wayCC := dot_way (t.third - t.first) p t.first t.third
  have swap : dot (t.third - t.first) (t.second - t.first) =
      dot (t.second - t.first) (t.third - t.first) := by
    simp only [dot_eq_dotProduct, dotProduct_comm]
  rw [swap] at wayCB
  have closest := @closest_of_coordinates K _ _ _ _ t p
  have nonnegA : 0 ≤ dot (t.second - t.first) (t.second - t.first) := by
    rw [dot_eq_dotProduct]; exact square_nonneg _
  have nonnegC : 0 ≤ dot (t.third - t.first) (t.third - t.first) := by
    rw [dot_eq_dotProduct]; exact square_nonneg _
  unfold pointTriangleDistance
  dsimp only
  rw [wayAB, wayCB, wayAC, wayCC]
  generalize dot (t.second - t.first) (t.second - t.first) = A at *
  generalize dot (t.second - t.first) (t.third - t.first) = B at *
  generalize dot (t.third - t.first) (t.third - t.first) = C at *
  generalize dot (t.second - t.first) (p - t.first) = x at *
  generalize dot (t.third - t.first) (p - t.first) = y at *
  obtain ⟨posA, posC, posN⟩ := gram_positive nonnegA nonnegC area
  split
  · -- the first corner
    rename_i first
    have found := closest (v := 0) (w := 0) le_rfl le_rfl (by simp) rfl rfl (by simp)
      (by simpa using first.1) (by simpa using first.2)
    simp only [zero_smul, add_zero] at found
    exact ⟨_, found, rfl⟩
  rename_i notFirst
  split
  · -- the second corner
    rename_i second
    have found := closest (v := 1) (w := 0) zero_le_one le_rfl (by simp) rfl rfl
      (by simpa using second.1) (by simp) (by simpa using second.2)
    simp only [zero_smul, add_zero, one_smul, add_sub_cancel] at found
    exact ⟨_, found, rfl⟩
  rename_i notSecond
  split
  · -- the edge between them
    rename_i edge
    rw [sub_sub_cancel]
    obtain ⟨low, high, share, side⟩ := edge_share posA edge.2.1 (sub_nonpos.1 edge.2.2)
      (show A * y ≤ B * x by linarith only [edge.1])
    have found := closest (v := x / A) (w := 0) (g := 0) (h := y - x / A * B) low le_rfl
      (by simpa using high) (by rw [share]; simp) (by simp) (by simp) (by simp)
      (by simpa using side)
    simp only [zero_smul, add_zero] at found
    exact ⟨_, found, rfl⟩
  rename_i notEdgeSecond
  split
  · -- the third corner
    rename_i third
    have found := closest (v := 0) (w := 1) le_rfl zero_le_one (by simp) rfl rfl
      (by simpa using third.1) (by simpa using third.2) (by simp)
    simp only [zero_smul, zero_add, one_smul, add_sub_cancel] at found
    exact ⟨_, found, rfl⟩
  rename_i notThird
  split
  · -- the edge from the first corner to the third
    rename_i edge
    rw [sub_sub_cancel]
    obtain ⟨low, high, share, side⟩ := edge_share posC edge.2.1 (sub_nonpos.1 edge.2.2)
      (show C * x ≤ B * y by linarith only [edge.1])
    have found := closest (v := 0) (w := y / C) (g := x - y / C * B) (h := 0) le_rfl low
      (by simpa using high) (by simp) (by rw [share]; simp) (by simp) (by simpa using side)
      (by simp)
    simp only [zero_smul, zero_add] at found
    exact ⟨_, found, rfl⟩
  rename_i notEdgeThird
  split
  · -- the edge from the second corner to the third
    rename_i edge
    have whole : y - B - (x - A) + (x - B - (y - C)) = A - 2 * B + C := by ring
    rw [whole]
    obtain ⟨s, is, low, high, level, lifted⟩ := opposite_share posN edge
    rw [← is]
    have together : (1 - s) * (x - (1 - s) * A - s * B) + s * (x - (1 - s) * A - s * B) =
        x - (1 - s) * A - s * B := by ring
    have found := closest (v := 1 - s) (w := s) (sub_nonneg.2 high) low (by simp) rfl level
      (by rw [together]; exact lifted) together.ge together.ge
    have point : t.first + ((1 - s) • (t.second - t.first) + s • (t.third - t.first)) =
        t.second + s • (t.third - t.second) := by
      simp only [sub_smul, one_smul, smul_sub]
      abel
    rw [point] at found
    exact ⟨_, found, rfl⟩
  rename_i notEdgeOpposite
  -- the face
  obtain ⟨first, second, third⟩ := face_of_no_region posA posC posN area notFirst notSecond
    notEdgeSecond notThird notEdgeThird notEdgeOpposite
  have whole : (x - A) * (y - C) - (x - B) * (y - B) + ((x - B) * y - x * (y - C)) +
      (x * (y - B) - (x - A) * y) = A * C - B * B := by ring
  obtain ⟨v, w, isV, isW, low, low', high, flat, flat'⟩ := face_share area first second third
  rw [whole, ← isV, ← isW]
  have found := closest low low' high flat.symm flat'.symm (by simp) (by simp) (by simp)
  exact ⟨_, found, rfl⟩

/-! ## Two segments -/

/-- `x` and `y` are points of `S` and `T` closest to each other. -/
def ClosestPair (x y : Vec K) (S T : Set (Vec K)) : Prop :=
  x ∈ S ∧ y ∈ T ∧ ∀ x' ∈ S, ∀ y' ∈ T, dot (x - y) (x - y) ≤ dot (x' - y') (x' - y')

/-- **Points of two segments are closest** if the difference between them is square to each
segment, or turned away from the end the point is at.  `s` and `t` are the shares of the
segments. -/
theorem closestPair_of_shares {p1 q1 p2 q2 : Vec K} {s t : K} (hs : 0 ≤ s ∧ s ≤ 1)
    (ht : 0 ≤ t ∧ t ≤ 1) {g k : K}
    (along : g = dot (q1 - p1) (p1 - p2) + s * dot (q1 - p1) (q1 - p1) -
      t * dot (q1 - p1) (q2 - p2))
    (across : k = dot (q2 - p2) (p1 - p2) + s * dot (q1 - p1) (q2 - p2) -
      t * dot (q2 - p2) (q2 - p2))
    (atStart : 0 ≤ g * (0 - s)) (atStop : 0 ≤ g * (1 - s))
    (atStart' : 0 ≤ k * t) (atStop' : k * (1 - t) ≤ 0) :
    ClosestPair (p1 + s • (q1 - p1)) (p2 + t • (q2 - p2)) (segment K p1 q1) (segment K p2 q2) := by
  obtain ⟨d, rfl⟩ : ∃ d, q1 = p1 + d := ⟨q1 - p1, by abel⟩
  obtain ⟨e, rfl⟩ : ∃ e, q2 = p2 + e := ⟨q2 - p2, by abel⟩
  obtain ⟨r, rfl⟩ : ∃ r, p1 = p2 + r := ⟨p1 - p2, by abel⟩
  simp only [add_sub_cancel_left, dot_eq_dotProduct] at along across ⊢
  have difference : p2 + r + s • d - (p2 + t • e) = r + s • d - t • e := by abel
  have toD : dotProduct (r + s • d - t • e) d = g := by
    rw [along]
    simp only [sub_dotProduct, add_dotProduct, smul_dotProduct, smul_eq_mul, dotProduct_comm e d,
      dotProduct_comm r d]
  have toE : dotProduct (r + s • d - t • e) e = k := by
    rw [across]
    simp only [sub_dotProduct, add_dotProduct, smul_dotProduct, smul_eq_mul, dotProduct_comm r e]
  refine ⟨?_, ?_, ?_⟩
  · rw [segment_eq_image']
    exact ⟨s, hs, by simp⟩
  · rw [segment_eq_image']
    exact ⟨t, ht, by simp⟩
  · intro x' member y' member'
    rw [← convexHull_pair] at member member'
    rw [dot_eq_dotProduct, dot_eq_dotProduct]
    refine closest_pair ?_ ?_ member member'
    · rw [difference]
      rintro v (rfl | rfl)
      · have way : p2 + r - (p2 + r + s • d) = (0 - s) • d := by rw [sub_smul, zero_smul]; abel
        rw [way, dotProduct_smul, toD, smul_eq_mul, mul_comm]
        exact atStart
      · have way : p2 + r + d - (p2 + r + s • d) = (1 - s) • d := by rw [sub_smul, one_smul]; abel
        rw [way, dotProduct_smul, toD, smul_eq_mul, mul_comm]
        exact atStop
    · rw [difference]
      rintro v (rfl | rfl)
      · have way : v - (v + t • e) = (-t) • e := by rw [neg_smul]; abel
        rw [way, dotProduct_smul, toE, smul_eq_mul]
        linarith
      · have way : p2 + e - (p2 + t • e) = (1 - t) • e := by rw [sub_smul, one_smul]; abel
        rw [way, dotProduct_smul, toE, smul_eq_mul, mul_comm]
        exact atStop'

theorem contactEpsilon_pos : (0 : K) < contactEpsilon := by
  unfold contactEpsilon
  norm_num

/-- What the inner products of three ways have in common: where the first two are parallel,
so are their products with the third. -/
theorem gram (d e r : Vec K) (long : 0 < dot e e) :
    0 ≤ dot d d * dot e e - dot d e * dot d e ∧
      (dot d d * dot e e - dot d e * dot d e = 0 → dot d r * dot e e = dot d e * dot e r) := by
  have square : dot (dot e e • d - dot d e • e) (dot e e • d - dot d e • e) =
      dot e e * (dot d d * dot e e - dot d e * dot d e) := by
    simp only [dot_eq_dotProduct, sub_dotProduct, dotProduct_sub, smul_dotProduct, dotProduct_smul,
      smul_eq_mul, dotProduct_comm e d]
    ring
  constructor
  · have nonneg : 0 ≤ dot (dot e e • d - dot d e • e) (dot e e • d - dot d e • e) := by
      rw [dot_eq_dotProduct]
      exact square_nonneg _
    rw [square] at nonneg
    exact nonneg_of_mul_nonneg_right nonneg long
  · intro flat
    rw [flat, mul_zero, dot_eq_dotProduct, dotProduct_self_eq_zero] at square
    have product := congrArg (fun w => dotProduct w r) square
    simp only [sub_dotProduct, smul_dotProduct, smul_eq_mul, zero_dotProduct] at product
    simp only [dot_eq_dotProduct] at product ⊢
    linarith

/-- **The code's points of two segments are closest**, of parallel segments too. -/
theorem segmentDistance_closest (p1 q1 p2 q2 : Vec K)
    (long : contactEpsilon < dot (q1 - p1) (q1 - p1))
    (long' : contactEpsilon < dot (q2 - p2) (q2 - p2)) :
    ∃ x y, ClosestPair x y (segment K p1 q1) (segment K p2 q2) ∧
      segmentDistance sqrt p1 q1 p2 q2 = norm sqrt (x - y) := by
  have small := contactEpsilon_pos (K := K)
  obtain ⟨area, parallel⟩ := gram (q1 - p1) (q2 - p2) (p1 - p2) (small.trans long')
  have closest := @closestPair_of_shares K _ _ _ _ p1 q1 p2 q2
  unfold segmentDistance
  dsimp only
  rw [if_neg fun both => absurd both.1 (not_le.2 long), if_neg (not_le.2 long),
    if_neg (not_le.2 long')]
  generalize dot (q1 - p1) (q1 - p1) = a at *
  generalize dot (q2 - p2) (q2 - p2) = e at *
  generalize dot (q1 - p1) (q2 - p2) = b at *
  generalize dot (q1 - p1) (p1 - p2) = c at *
  generalize dot (q2 - p2) (p1 - p2) = f at *
  have positive : 0 < a := small.trans long
  have positive' : 0 < e := small.trans long'
  generalize isFirst :
    (if a * e - b * b = 0 then 0 else clamp ((b * f - c * e) / (a * e - b * b))) = s
  have flat : a * e - b * b = 0 → s = 0 ∧ c * e = b * f := by
    intro zero
    rw [if_pos zero] at isFirst
    exact ⟨isFirst.symm, parallel zero⟩
  have crossed : a * e - b * b ≠ 0 → s = unitClamp ((b * f - c * e) / (a * e - b * b)) := by
    intro nonzero
    rw [if_neg nonzero] at isFirst
    exact isFirst.symm
  have inside : 0 ≤ s ∧ s ≤ 1 := by
    by_cases zero : a * e - b * b = 0
    · rw [(flat zero).1]
      exact ⟨le_rfl, zero_le_one⟩
    · rw [crossed zero]
      exact unitClamp_mem _
  split
  · -- the best point of the second line lies before the segment
    rename_i before
    have outside : b * s + f < 0 * e := (div_lt_iff₀ positive').1 before
    have turned := clamp_in_turn positive positive' area flat crossed (by linarith)
    have onLine : a * (-c / a) = -c := by field_simp
    have start := unitClamp_stationary (-c / a) le_rfl zero_le_one
    have stop := unitClamp_stationary (-c / a) zero_le_one le_rfl
    have sides := unitClamp_mem (-c / a)
    rw [clamp_eq_unitClamp]
    generalize unitClamp (-c / a) = u at *
    have slope : c + u * a - 0 * b = a * (u - -c / a) := by linear_combination onLine
    exact ⟨_, _, closest sides ⟨le_rfl, zero_le_one⟩ slope.symm rfl
      (by rw [mul_assoc]; exact mul_nonneg positive.le start)
      (by rw [mul_assoc]; exact mul_nonneg positive.le stop) (by simp) (by linarith), rfl⟩
  split
  · -- it lies behind the segment
    rename_i behind
    have outside : 1 * e < b * s + f := (lt_div_iff₀ positive').1 behind
    have turned := clamp_in_turn (a := a) (b := -b) (c := c - b) (e := e) (f := e - f) (s := s)
      positive positive' (by linarith)
      (fun zero => ⟨(flat (by linarith)).1, by linarith [(flat (by linarith)).2]⟩)
      (fun nonzero => by
        have same : a * e - -b * -b = a * e - b * b := by ring
        have same' : -b * (e - f) - (c - b) * e = b * f - c * e := by ring
        rw [same] at nonzero ⊢
        rw [same', crossed nonzero])
      (by linarith)
    have same : -(c - b) / a = (b - c) / a := by rw [neg_sub]
    rw [same] at turned
    have onLine : a * ((b - c) / a) = b - c := by field_simp
    have start := unitClamp_stationary ((b - c) / a) le_rfl zero_le_one
    have stop := unitClamp_stationary ((b - c) / a) zero_le_one le_rfl
    have sides := unitClamp_mem ((b - c) / a)
    rw [clamp_eq_unitClamp]
    generalize unitClamp ((b - c) / a) = u at *
    have slope : c + u * a - 1 * b = a * (u - (b - c) / a) := by linear_combination onLine
    exact ⟨_, _, closest sides ⟨zero_le_one, le_rfl⟩ slope.symm rfl
      (by rw [mul_assoc]; exact mul_nonneg positive.le start)
      (by rw [mul_assoc]; exact mul_nonneg positive.le stop) (by linarith) (by simp), rfl⟩
  · -- it lies on the segment
    rename_i notBefore notBehind
    have share : (b * s + f) / e * e = b * s + f := div_mul_cancel₀ _ positive'.ne'
    have level : 0 = f + s * b - (b * s + f) / e * e := by linear_combination share
    have turned (r : K) (low : 0 ≤ r) (high : r ≤ 1) :
        0 ≤ (c + s * a - (b * s + f) / e * b) * (r - s) := by
      have scaled :
          e * (c + s * a - (b * s + f) / e * b) = s * (a * e - b * b) - (b * f - c * e) := by
        linear_combination -b * share
      refine nonneg_of_mul_nonneg_right (a := e) ?_ positive'
      rw [← mul_assoc, scaled]
      by_cases zero : a * e - b * b = 0
      · rw [zero, (flat zero).2, mul_zero, sub_self, sub_self, zero_mul]
      · have vertex : (b * f - c * e) / (a * e - b * b) * (a * e - b * b) = b * f - c * e :=
          div_mul_cancel₀ _ zero
        have stationary := mul_nonneg area
          (unitClamp_stationary ((b * f - c * e) / (a * e - b * b)) low high)
        rw [← crossed zero] at stationary
        calc 0 ≤ (a * e - b * b) * ((s - (b * f - c * e) / (a * e - b * b)) * (r - s)) :=
              stationary
          _ = (s * (a * e - b * b) - (b * f - c * e) / (a * e - b * b) * (a * e - b * b)) *
              (r - s) := by ring
          _ = (s * (a * e - b * b) - (b * f - c * e)) * (r - s) := by rw [vertex]
    exact ⟨_, _, closest inside ⟨not_lt.1 notBefore, not_lt.1 notBehind⟩ rfl level
      (turned 0 le_rfl zero_le_one) (turned 1 zero_le_one le_rfl) (by simp) (by simp), rfl⟩

end

end InstrumentBench.Geometry
