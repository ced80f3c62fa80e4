/-
# Geometry.Voxel -- occupancy by ray parity

`_voxelize`: a ray along the first axis through the centres of every row of cells, the
crossings of the ray with the triangles of a mesh, and the cells with an odd number of
crossings beyond their centre.  Crossings within a tolerance of the one before count
once.  The numbers are exact.
-/
import InstrumentBench.Geometry.Metrics
import InstrumentBench.Theory.PyDict
import Mathlib.Algebra.Order.Floor.Ring
import Mathlib.Data.List.Sort

namespace InstrumentBench.Geometry

set_option autoImplicit false
set_option linter.unusedSectionVars false

open InstrumentBench.Theory
open InstrumentBench.Fibsem (PyError)

def MAXIMUM_VOXEL_CELLS : Nat := 4194304

/-- The rows of cells: how many there are on each axis. -/
abbrev Shape := Fin 3 → Nat

section

variable {K : Type} [Field K] [LinearOrder K] [IsStrictOrderedRing K] [FloorRing K]

/-- `_cell_center` -/
def cellCenter (low high : K) (index : Nat) (edge : K) : K :=
  let cellLow := low + index * edge
  (cellLow + min (cellLow + edge) high) / 2

/-- `_grid_shape`; finite numbers only. -/
def gridShape (roi : Bounds K) (edge : K) (maximumCells : Int) : Except PyError Shape :=
  if edge ≤ 0 then PyError.value "voxel size must be positive and finite"
  else if maximumCells ≤ 0 then PyError.value "maximum voxel cell count must be positive"
  else if ∃ axis, roi.size axis ≤ 0 then PyError.value "voxel ROI must have positive volume"
  else
    let shape : Shape := fun axis => (max 1 ⌈roi.size axis / edge⌉).toNat
    if maximumCells < (shape 0 * shape 1 * shape 2 : Nat) then
      PyError.value "voxel cell count exceeds the resource limit"
    else .ok shape

/-- `_candidate_index_range` -/
def candidateIndexRange (boundLow boundHigh roiLow : K) (count : Nat) (edge : K) : List Nat :=
  let first := max 0 (⌊(boundLow - roiLow) / edge⌋ - 1)
  let last := min ((count : Int) - 1) (⌊(boundHigh - roiLow) / edge⌋ + 1)
  List.range' first.toNat (last + 1 - first).toNat

/-- The least and the greatest coordinate of a triangle on an axis. -/
def lowest (t : Triple (Vec K)) (axis : Fin 3) : K :=
  min (min (t.first axis) (t.second axis)) (t.third axis)

def highest (t : Triple (Vec K)) (axis : Fin 3) : K :=
  max (max (t.first axis) (t.second axis)) (t.third axis)

/-- A value lies beside a triangle on an axis. -/
def Beside (epsilon : K) (t : Triple (Vec K)) (axis : Fin 3) (value : K) : Prop :=
  value < lowest t axis - epsilon ∨ highest t axis + epsilon < value

instance (epsilon : K) (t : Triple (Vec K)) (axis : Fin 3) (value : K) :
    Decidable (Beside epsilon t axis value) := inferInstanceAs (Decidable (_ ∨ _))

/-- Twice the area of the triangle as the ray sees it. -/
def denominator (t : Triple (Vec K)) : K :=
  (t.second 1 - t.third 1) * (t.first 2 - t.third 2) +
    (t.third 2 - t.second 2) * (t.first 1 - t.third 1)

/-- The barycentric weights of a point in the plane across the ray. -/
def weights (t : Triple (Vec K)) (y z : K) : Triple K :=
  let first := ((t.second 1 - t.third 1) * (z - t.third 2) +
    (t.third 2 - t.second 2) * (y - t.third 1)) / denominator t
  let second := ((t.third 1 - t.first 1) * (z - t.third 2) +
    (t.first 2 - t.third 2) * (y - t.third 1)) / denominator t
  ⟨first, second, 1 - first - second⟩

/-- Where the ray through a point meets a triangle. -/
def crossing (epsilon : K) (t : Triple (Vec K)) (y z : K) : Option K :=
  let w := weights t y z
  if min (min w.first w.second) w.third < -epsilon then none
  else if 1 + epsilon < max (max w.first w.second) w.third then none
  else some (w.first * t.first 0 + w.second * t.second 0 + w.third * t.third 0)

/-- The tolerance across the ray. -/
def rowTolerance (edge : K) : K := max (edge * 1e-10) 1e-12

/-- The tolerance along the ray. -/
def rayTolerance (edge : K) : K := max (edge * 1e-9) 1e-12

variable (roi : Bounds K) (edge : K) (shape : Shape)

/-- The centre of a cell on an axis. -/
def center (axis : Fin 3) (index : Nat) : K :=
  cellCenter (roi.minimum axis) (roi.maximum axis) index edge

/-- The rows a triangle might meet, on an axis. -/
def candidateRows (t : Triple (Vec K)) (axis : Fin 3) : List Nat :=
  candidateIndexRange (lowest t axis) (highest t axis) (roi.minimum axis) (shape axis) edge

/-- The crossings of one triangle, each with its row. -/
def triangleCrossings (t : Triple (Vec K)) : List ((Nat × Nat) × K) :=
  let epsilon := rowTolerance edge
  if |denominator t| ≤ epsilon then []
  else
    (candidateRows roi edge shape t 2).flatMap fun iz =>
      if Beside epsilon t 2 (center roi edge 2 iz) then []
      else
        (candidateRows roi edge shape t 1).flatMap fun iy =>
          if Beside epsilon t 1 (center roi edge 1 iy) then []
          else
            match crossing epsilon t (center roi edge 1 iy) (center roi edge 2 iz) with
            | none => []
            | some x => [((iy, iz), x)]

/-- `_projected_intersections` -/
def projectedIntersections (mesh : TriangleMesh K) : List ((Nat × Nat) × List K) :=
  PyDict.group (mesh.triangles.flatMap (triangleCrossings roi edge shape))

/-- The crossings of a row in order, without those within the tolerance of the last. -/
def intersections (raw : List K) : List K :=
  (raw.insertionSort (· ≤ ·)).foldl (fun kept value =>
    match kept.getLast? with
    | none => [value]
    | some last => if rayTolerance edge < |value - last| then kept ++ [value] else kept) []

/-- `bisect.bisect_right` in a sorted list. -/
def bisectRight (values : List K) (x : K) : Nat := values.countP fun value => decide (value ≤ x)

/-- The number of a cell. -/
def cellNumber (ix iy iz : Nat) : Nat := (iz * shape 1 + iy) * shape 0 + ix

/-- The occupied cells of a row. -/
def occupiedInRow (item : (Nat × Nat) × List K) : List Nat :=
  let crossings := intersections edge item.2
  ((List.range (shape 0)).filter fun ix =>
    (crossings.length - bisectRight crossings (center roi edge 0 ix + rayTolerance edge)) % 2 = 1
  ).map fun ix => cellNumber shape ix item.1.1 item.1.2

/-- `_voxelize` -/
def voxelize (mesh : TriangleMesh K) : Finset Nat :=
  ((projectedIntersections roi edge shape mesh).flatMap (occupiedInRow roi edge shape)).toFinset

end

end InstrumentBench.Geometry
