/-
# Geometry.RowPruning -- the rows that are not looked at

`_projected_intersections` visits, for each triangle, the rows of cells around the triangle's
bounds and one more on either side.  A row is met if its centre is within a tolerance of
the triangle, so the margin of one cell has to be as wide as the tolerance, which never falls
below `1e-12`.

* `beside_of_pruned`: with cells of `1e-12` or more, a row that is passed over lies beside
  its triangle.
* `narrow_row_lost`: with smaller cells there is a mesh and a region where the last row, a
  narrow one, is met and passed over.
* `pruning_exact_iff`: the pruning loses nothing exactly for cells of `1e-12` or more.
-/
import InstrumentBench.Geometry.VoxelBlocks

namespace InstrumentBench.Geometry

set_option autoImplicit false
set_option linter.unusedSectionVars false

open InstrumentBench.Theory
open InstrumentBench.Fibsem (PyError)

section

variable {K : Type} [Field K] [LinearOrder K] [IsStrictOrderedRing K] [FloorRing K]

/-! ## Every row -/

/-- What `_projected_intersections` would collect from every row of the grid. -/
def unprunedIntersections (roi : Bounds K) (edge : K) (shape : Shape) (mesh : TriangleMesh K) :
    List ((Nat × Nat) × List K) :=
  PyDict.group (mesh.triangles.flatMap
    (crossingsOver roi edge fun axis => List.range (shape axis)))

/-! ## Rows that are passed over -/

variable {roi : Bounds K} {edge : K} {shape : Shape}

/-- A run of rows that leaves out only rows without crossings. -/
theorem flatMap_range' {α : Type} {f : Nat → List α} {first n count : Nat}
    (inside : ∀ i ∈ List.range' first n, i < count)
    (outside : ∀ i < count, i ∉ List.range' first n → f i = []) :
    (List.range' first n).flatMap f = (List.range count).flatMap f := by
  rcases Nat.eq_zero_or_pos n with rfl | positive
  · symm
    rw [List.range'_zero, List.flatMap_nil, List.flatMap_eq_nil_iff]
    intro i listed
    exact outside i (List.mem_range.1 listed) List.not_mem_nil
  · have last := inside (first + n - 1) (by rw [List.mem_range'_1]; omega)
    obtain ⟨more, rfl⟩ : ∃ more, count = first + n + more := ⟨count - (first + n), by omega⟩
    have split : List.range (first + n + more) =
        List.range' 0 first ++ List.range' first n ++ List.range' (first + n) more := by
      rw [List.range_eq_range', ← List.range'_append_1, ← List.range'_append_1, Nat.zero_add,
        Nat.zero_add]
    have before : (List.range' 0 first).flatMap f = [] := by
      rw [List.flatMap_eq_nil_iff]
      intro i listed
      rw [List.mem_range'_1] at listed
      apply outside i (by omega)
      rw [List.mem_range'_1]
      omega
    have after : (List.range' (first + n) more).flatMap f = [] := by
      rw [List.flatMap_eq_nil_iff]
      intro i listed
      rw [List.mem_range'_1] at listed
      apply outside i (by omega)
      rw [List.mem_range'_1]
      omega
    rw [split, List.flatMap_append, List.flatMap_append, before, after, List.nil_append,
      List.append_nil]

theorem rowTolerance_le (large : 1e-12 ≤ edge) : rowTolerance edge ≤ edge := by
  have positive : 0 < edge := lt_of_lt_of_le (by norm_num) large
  apply max_le _ large
  have small : edge * 1e-10 ≤ edge * 1 := mul_le_mul_of_nonneg_left (by norm_num) positive.le
  linarith

/-- The centre of a row is past the row's start. -/
theorem start_lt_center (grid : Gridded roi edge shape) {axis : Fin 3} {i : Nat}
    (within : i < shape axis) : roi.minimum axis + i * edge < center roi edge axis i := by
  have room := grid.starts axis i within
  have positive := grid.positive
  rw [Bounds.size, Pi.sub_apply] at room
  have above : roi.minimum axis + i * edge <
      min (roi.minimum axis + i * edge + edge) (roi.maximum axis) :=
    lt_min (by linarith) (by linarith)
  unfold center cellCenter
  dsimp only
  linarith

/-- **A row that is passed over lies beside its triangle**, as long as the cells are no
smaller than the tolerance. -/
theorem beside_of_pruned (grid : Gridded roi edge shape) (large : 1e-12 ≤ edge)
    (t : Triple (Vec K)) {axis : Fin 3} {i : Nat} (within : i < shape axis)
    (pruned : i ∉ candidateRows roi edge shape t axis) :
    Beside (rowTolerance edge) t axis (center roi edge axis i) := by
  have positive := grid.positive
  have tolerance := rowTolerance_le large
  obtain ⟨-, half⟩ := center_bounds grid within
  have start := start_lt_center grid within
  simp only [candidateRows, candidateIndexRange, List.mem_range'_1] at pruned
  by_cases early : (i : Int) < ⌊(lowest t axis - roi.minimum axis) / edge⌋ - 1
  · -- the row and the next one end before the triangle begins
    left
    have floor : ((i : Int) + 2 : Int) ≤ ⌊(lowest t axis - roi.minimum axis) / edge⌋ := by omega
    rw [Int.le_floor, le_div_iff₀ positive] at floor
    push_cast at floor
    linarith
  · -- the row before it begins after the triangle has ended
    right
    have floor : ⌊(highest t axis - roi.minimum axis) / edge⌋ < (i : Int) - 1 := by omega
    rw [Int.floor_lt, div_lt_iff₀ positive] at floor
    push_cast at floor
    linarith

/-- **A triangle loses no crossing.** -/
theorem triangleCrossings_unpruned (grid : Gridded roi edge shape) (large : 1e-12 ≤ edge)
    (t : Triple (Vec K)) :
    triangleCrossings roi edge shape t =
      crossingsOver roi edge (fun axis => List.range (shape axis)) t := by
  have inside : ∀ axis, ∀ i ∈ candidateRows roi edge shape t axis, i < shape axis := by
    intro axis i listed
    exact lt_of_mem_candidateIndexRange listed
  rw [triangleCrossings_eq]
  unfold crossingsOver
  dsimp only
  by_cases hidden : |denominator t| ≤ rowTolerance edge
  · rw [if_pos hidden, if_pos hidden]
  rw [if_neg hidden, if_neg hidden]
  refine Eq.trans (List.flatMap_congr ?_) (flatMap_range' (inside 2) ?_)
  · intro iz _
    split
    · rfl
    · apply flatMap_range' (inside 1)
      intro iy within pruned
      rw [if_pos (beside_of_pruned grid large t within pruned)]
  · intro iz within pruned
    rw [if_pos (beside_of_pruned grid large t within pruned)]

theorem pruned_eq_unpruned (grid : Gridded roi edge shape) (large : 1e-12 ≤ edge)
    (mesh : TriangleMesh K) :
    projectedIntersections roi edge shape mesh = unprunedIntersections roi edge shape mesh := by
  unfold projectedIntersections unprunedIntersections
  congr 1
  exact List.flatMap_congr fun t _ => triangleCrossings_unpruned grid large t

/-! ## Cells below the tolerance -/

/-- The length by which the narrow row is moved: what the tolerance leaves over, or the cell,
a quarter of the smaller. -/
def nudge (edge : K) : K := min (1e-12 - edge) edge / 4

theorem nudge_pos (positive : 0 < edge) (small : edge < 1e-12) : 0 < nudge edge := by
  apply div_pos _ (by norm_num)
  exact lt_min (by linarith) positive

theorem nudge_le (edge : K) : 4 * nudge edge ≤ 1e-12 - edge ∧ 4 * nudge edge ≤ edge := by
  unfold nudge
  constructor
  · linarith [min_le_left (1e-12 - edge) edge]
  · linarith [min_le_right (1e-12 - edge) edge]

/-- A region of two whole rows and a narrow one. -/
def narrowRegion (edge : K) (positive : 0 < edge) (small : edge < 1e-12) : Bounds K where
  minimum := ![0, 0, -(edge / 2)]
  maximum := ![edge, 2 * edge + 2 * nudge edge, edge / 2]
  ordered := by
    have nudged := nudge_pos positive small
    intro axis
    fin_cases axis
    · show ¬edge < 0
      linarith
    · show ¬2 * edge + 2 * nudge edge < 0
      linarith
    · show ¬edge / 2 < -(edge / 2)
      linarith

/-- A triangle of size one that ends just below the end of the first row. -/
def tallTriangle (edge : K) : TriangleMesh K where
  size := 3
  vertices := ![![0, edge - nudge edge, -1], ![0, edge - nudge edge, 1],
    ![0, edge - nudge edge - 1, 0]]
  faces := [⟨0, 1, 2⟩]
  three := le_rfl
  nonempty := by simp
  proper := by decide

theorem narrowRegion_shape (positive : 0 < edge) (small : edge < 1e-12) :
    gridShape (narrowRegion edge positive small) edge 3 = .ok ![1, 3, 1] := by
  have nudged := nudge_pos positive small
  obtain ⟨-, quarter⟩ := nudge_le edge
  have sizes :
      (narrowRegion edge positive small).size = ![edge, 2 * edge + 2 * nudge edge, edge] := by
    funext axis
    fin_cases axis <;> simp [Bounds.size, narrowRegion]
  have one : ⌈edge / edge⌉ = 1 := by
    rw [div_self positive.ne', Int.ceil_one]
  have three : ⌈(2 * edge + 2 * nudge edge) / edge⌉ = 3 := by
    rw [Int.ceil_eq_iff, lt_div_iff₀ positive, div_le_iff₀ positive]
    push_cast
    constructor <;> linarith
  have shape : (fun axis : Fin 3 =>
      (max 1 ⌈(narrowRegion edge positive small).size axis / edge⌉).toNat) = ![1, 3, 1] := by
    rw [sizes]
    funext axis
    fin_cases axis <;> simp [one, three]
  unfold gridShape
  rw [if_neg (not_le.2 positive), if_neg (by decide), if_neg, shape]
  · rfl
  · rintro ⟨axis, flat⟩
    rw [sizes] at flat
    fin_cases axis
    · exact absurd flat (not_le.2 positive)
    · change 2 * edge + 2 * nudge edge ≤ 0 at flat
      linarith
    · exact absurd flat (not_le.2 positive)

/-- The triangle of the mesh. -/
def tallCorners (edge : K) : Triple (Vec K) :=
  ⟨![0, edge - nudge edge, -1], ![0, edge - nudge edge, 1], ![0, edge - nudge edge - 1, 0]⟩

theorem tallTriangle_triangles (edge : K) :
    (tallTriangle edge).triangles = [tallCorners edge] := rfl

theorem denominator_tallCorners (edge : K) : denominator (tallCorners edge) = -2 := by
  simp [denominator, tallCorners]
  ring

theorem lowest_tallCorners (edge : K) :
    lowest (tallCorners edge) 1 = edge - nudge edge - 1 ∧ lowest (tallCorners edge) 2 = -1 := by
  constructor
  · simp [lowest, tallCorners]
  · simp [lowest, tallCorners]

theorem highest_tallCorners (edge : K) :
    highest (tallCorners edge) 1 = edge - nudge edge ∧ highest (tallCorners edge) 2 = 1 := by
  constructor
  · simp [highest, tallCorners]
  · simp [highest, tallCorners]

theorem rowTolerance_small (small : edge < 1e-12) : rowTolerance edge = 1e-12 := by
  apply max_eq_right
  linarith

/-- The narrow row is centred a little past two cells, and the layer on the axis. -/
theorem center_narrow (positive : 0 < edge) (small : edge < 1e-12) :
    center (narrowRegion edge positive small) edge 1 2 = 2 * edge + nudge edge ∧
      center (narrowRegion edge positive small) edge 2 0 = 0 := by
  have nudged := nudge_pos positive small
  obtain ⟨-, quarter⟩ := nudge_le edge
  unfold center cellCenter
  constructor
  · show (0 + ((2 : Nat) : K) * edge + min (0 + ((2 : Nat) : K) * edge + edge)
      (2 * edge + 2 * nudge edge)) / 2 = _
    rw [min_eq_right (by push_cast; linarith)]
    push_cast
    ring
  · show (-(edge / 2) + ((0 : Nat) : K) * edge + min (-(edge / 2) + ((0 : Nat) : K) * edge + edge)
      (edge / 2)) / 2 = _
    rw [min_eq_right (by push_cast; linarith)]
    push_cast
    ring

/-- **The narrow row is met**: its centre is within the tolerance of the triangle. -/
theorem narrow_row_met (positive : 0 < edge) (small : edge < 1e-12) :
    ((2, 0), 0) ∈ crossingsOver (narrowRegion edge positive small) edge
      (fun axis => List.range ((![1, 3, 1] : Shape) axis)) (tallCorners edge) := by
  have nudged := nudge_pos positive small
  obtain ⟨left, -⟩ := nudge_le edge
  obtain ⟨row, layer⟩ := center_narrow positive small
  obtain ⟨low, low'⟩ := lowest_tallCorners edge
  obtain ⟨high, high'⟩ := highest_tallCorners edge
  rw [mem_crossingsOver, rowTolerance_small small, denominator_tallCorners, row, layer]
  refine ⟨by norm_num, ⟨by simp, ?_⟩, ⟨by simp, ?_⟩, ?_⟩
  · unfold Beside
    rw [low', high']
    norm_num
  · unfold Beside
    rw [low, high, not_or, not_lt, not_lt]
    constructor <;> linarith
  · have first : (weights (tallCorners edge) (2 * edge + nudge edge) 0).first =
        (1 + (edge + 2 * nudge edge)) / 2 := by
      show ((edge - nudge edge - (edge - nudge edge - 1)) * (0 - 0) +
        (0 - 1) * (2 * edge + nudge edge - (edge - nudge edge - 1))) /
          denominator (tallCorners edge) = _
      rw [denominator_tallCorners]
      ring
    have second : (weights (tallCorners edge) (2 * edge + nudge edge) 0).second =
        (1 + (edge + 2 * nudge edge)) / 2 := by
      show ((edge - nudge edge - 1 - (edge - nudge edge)) * (0 - 0) +
        (-1 - 0) * (2 * edge + nudge edge - (edge - nudge edge - 1))) /
          denominator (tallCorners edge) = _
      rw [denominator_tallCorners]
      ring
    have third : (weights (tallCorners edge) (2 * edge + nudge edge) 0).third =
        -(edge + 2 * nudge edge) := by
      show 1 - (weights (tallCorners edge) (2 * edge + nudge edge) 0).first -
        (weights (tallCorners edge) (2 * edge + nudge edge) 0).second = _
      rw [first, second]
      ring
    unfold crossing
    dsimp only
    rw [first, second, third, if_neg, if_neg]
    · simp [tallCorners]
    · rw [not_lt, max_self]
      apply max_le <;> linarith
    · rw [not_lt, min_self]
      apply le_min <;> linarith

/-- **The narrow row is passed over.** -/
theorem narrow_row_pruned (positive : 0 < edge) (small : edge < 1e-12) :
    2 ∉ candidateRows (narrowRegion edge positive small) edge ![1, 3, 1] (tallCorners edge) 1 := by
  have nudged := nudge_pos positive small
  obtain ⟨-, quarter⟩ := nudge_le edge
  have first_row : ⌊(highest (tallCorners edge) 1 - 0) / edge⌋ = 0 := by
    rw [(highest_tallCorners edge).1, Int.floor_eq_zero_iff, Set.mem_Ico, le_div_iff₀ positive,
      div_lt_iff₀ positive]
    constructor <;> linarith
  show 2 ∉ candidateIndexRange _ (highest (tallCorners edge) 1) 0 3 edge
  simp only [candidateIndexRange, List.mem_range'_1, first_row]
  omega

/-- **Below the tolerance a crossing is lost.** -/
theorem narrow_row_lost (positive : 0 < edge) (small : edge < 1e-12) :
    projectedIntersections (narrowRegion edge positive small) edge ![1, 3, 1] (tallTriangle edge) ≠
      unprunedIntersections (narrowRegion edge positive small) edge ![1, 3, 1]
        (tallTriangle edge) := by
  intro same
  have met : (0 : K) ∈ ((unprunedIntersections (narrowRegion edge positive small) edge ![1, 3, 1]
      (tallTriangle edge)).lookup (2, 0)).getD [] := by
    unfold unprunedIntersections
    rw [PyDict.mem_group, tallTriangle_triangles, List.flatMap_singleton]
    exact narrow_row_met positive small
  rw [← same] at met
  unfold projectedIntersections at met
  rw [PyDict.mem_group, tallTriangle_triangles, List.flatMap_singleton,
    mem_triangleCrossings] at met
  exact narrow_row_pruned positive small met.2.2.1.1

/-- **Row pruning loses nothing exactly where a cell is as large as the tolerance.**  For cells
of `1e-12` and more, every mesh in every region has the crossings that every row of the grid
would give, in the same order; for smaller cells some mesh in some region has not. -/
theorem pruning_exact_iff (positive : 0 < edge) :
    (∀ (roi : Bounds K) (maximumCells : Int) (shape : Shape) (mesh : TriangleMesh K),
      gridShape roi edge maximumCells = .ok shape →
        projectedIntersections roi edge shape mesh = unprunedIntersections roi edge shape mesh) ↔
      1e-12 ≤ edge := by
  constructor
  · intro exact_
    by_contra small
    rw [not_le] at small
    exact narrow_row_lost positive small
      (exact_ _ 3 _ _ (narrowRegion_shape positive small))
  · intro large roi maximumCells shape mesh shaped
    exact pruned_eq_unpruned (gridded_of_gridShape shaped) large mesh

end

/-- The two cubes keep their crossings in their region. -/
theorem twoCubes_unpruned :
    projectedIntersections twoCubes 1 ![2, 1, 1] (assemble leftCube [rightCube]) =
      unprunedIntersections twoCubes 1 ![2, 1, 1] (assemble leftCube [rightCube]) :=
  (pruning_exact_iff (show (0 : ℚ) < 1 by norm_num)).2 (by norm_num) twoCubes MAXIMUM_VOXEL_CELLS
    ![2, 1, 1] _ twoCubes_shape

/-- With cells of a tenth of the tolerance a crossing is lost. -/
theorem tenth_of_tolerance_lost :
    gridShape (narrowRegion (1e-13 : ℚ) (by norm_num) (by norm_num)) 1e-13 3 = .ok ![1, 3, 1] ∧
      projectedIntersections (narrowRegion (1e-13 : ℚ) (by norm_num) (by norm_num)) 1e-13 ![1, 3, 1]
          (tallTriangle 1e-13) ≠
        unprunedIntersections (narrowRegion (1e-13 : ℚ) (by norm_num) (by norm_num)) 1e-13
          ![1, 3, 1] (tallTriangle 1e-13) :=
  ⟨narrowRegion_shape _ _, narrow_row_lost _ _⟩

end InstrumentBench.Geometry
