/-
# Geometry.VoxelBlocks -- which cells a mesh of boxes occupies

A mesh put together from the surfaces of boxes with disjoint interiors, voxelized
where no centre of a cell lies within the tolerance of a face plane.  The ray through a
row of cells meets the two faces across it of every block it runs through
(`mem_rowCrossings_iff`), and a centre is inside a block iff an odd number of these
faces lie beyond it (`odd_faces_iff`).  The code counts what is left of them after
crossings close to the one before are dropped, so the face two blocks share is one
crossing: a cell is right iff an even number of faces beyond its centre is lost
(`occupied_iff`, `occupied_exact_iff`).
-/
import InstrumentBench.Geometry.Extremes
import InstrumentBench.Geometry.Voxel
import InstrumentBench.Theory.Separated
import InstrumentBench.Theory.Stateful
import Mathlib.Algebra.Order.Floor.Semiring
import Mathlib.Tactic.FieldSimp
import Mathlib.Tactic.Linarith
import Mathlib.Tactic.Ring

namespace InstrumentBench.Geometry

set_option autoImplicit false
set_option linter.unusedSectionVars false

open InstrumentBench.Theory
open InstrumentBench.Fibsem (PyError)

section

variable {K : Type} [Field K] [LinearOrder K] [IsStrictOrderedRing K] [FloorRing K]

/-! ## Meshes of blocks -/

/-- One mesh after the other. -/
def TriangleMesh.append (m n : TriangleMesh K) : TriangleMesh K where
  size := m.size + n.size
  vertices := Fin.append m.vertices n.vertices
  faces := m.faces.map (Triple.map (Fin.castAdd n.size)) ++
    n.faces.map (Triple.map (Fin.natAdd m.size))
  three := by have := m.three; omega
  nonempty := by simp [m.nonempty]
  proper := by
    intro face listed
    rcases List.mem_append.1 listed with left | right
    · obtain ⟨face, own, rfl⟩ := List.mem_map.1 left
      exact (m.proper face own).map (Fin.castAdd_injective _ _)
    · obtain ⟨face, own, rfl⟩ := List.mem_map.1 right
      exact (n.proper face own).map (Fin.natAdd_injective _ _)

theorem TriangleMesh.append_triangles (m n : TriangleMesh K) :
    (m.append n).triangles = m.triangles ++ n.triangles := by
  unfold triangles append
  rw [List.map_append, List.map_map, List.map_map]
  congr 1
  · refine List.map_congr_left fun face _ => ?_
    simp [Triple.map]
  · refine List.map_congr_left fun face _ => ?_
    simp [Triple.map]

/-- A box with a volume. -/
structure Block (K : Type) [LT K] where
  low : Vec K
  high : Vec K
  solid : ∀ axis, low axis < high axis

namespace Block

/-- The surface of a block. -/
def mesh (b : Block K) : TriangleMesh K := cornerMesh b.low b.high

/-- A point inside a block. -/
def Inside (b : Block K) (p : Vec K) : Prop := ∀ axis, b.low axis < p axis ∧ p axis < b.high axis

instance (b : Block K) (p : Vec K) : Decidable (b.Inside p) := inferInstanceAs (Decidable (∀ _, _))

/-- Two blocks with disjoint interiors: on some axis one ends before the other starts. -/
def Apart (b c : Block K) : Prop := ∃ axis, b.high axis ≤ c.low axis ∨ c.high axis ≤ b.low axis

instance (b c : Block K) : Decidable (b.Apart c) := inferInstanceAs (Decidable (∃ _, _))

/-- The ray along the first axis through a row runs through the block. -/
def Crosses (b : Block K) (y z : K) : Prop :=
  (b.low 1 < y ∧ y < b.high 1) ∧ (b.low 2 < z ∧ z < b.high 2)

instance (b : Block K) (y z : K) : Decidable (b.Crosses y z) := inferInstanceAs (Decidable (_ ∧ _))

/-- The area of the block as the ray sees it. -/
def area (b : Block K) : K := (b.high 1 - b.low 1) * (b.high 2 - b.low 2)

/-- The two faces across the ray. -/
def ends (b : Block K) : List K := [b.low 0, b.high 0]

end Block

/-- The mesh of one block after the other. -/
def assemble (first : Block K) (rest : List (Block K)) : TriangleMesh K :=
  rest.foldl (fun m b => m.append b.mesh) first.mesh

theorem assemble_triangles (first : Block K) (rest : List (Block K)) :
    (assemble first rest).triangles = (first :: rest).flatMap fun b => b.mesh.triangles := by
  suffices all : ∀ m : TriangleMesh K, (rest.foldl (fun m b => m.append b.mesh) m).triangles =
      m.triangles ++ rest.flatMap fun b => b.mesh.triangles from all first.mesh
  induction rest with
  | nil => simp
  | cons b rest ih =>
      intro m
      rw [List.foldl_cons, ih, TriangleMesh.append_triangles, List.flatMap_cons, List.append_assoc]

/-- A box the code makes is a block. -/
theorem boxMesh_block {N : Numerics K} {center size : Vec K} {mesh : TriangleMesh K}
    (made : boxMesh N center size = .ok mesh) : ∃ b : Block K, mesh = b.mesh := by
  obtain ⟨center, -, made⟩ := bind_ok_iff.1 made
  obtain ⟨size, -, made⟩ := bind_ok_iff.1 made
  split at made
  case isTrue => cases made
  case isFalse positive =>
    unfold TriangleMesh.checked at made
    split at made
    case isFalse => cases made
    case isTrue =>
      cases made
      refine ⟨⟨_, _, fun axis => ?_⟩, rfl⟩
      have solid : 0 < size axis := by
        refine lt_of_lt_of_le ?_ (leastOf_le size axis)
        norm_num at positive
        exact positive
      norm_num
      linarith

/-! ## The triangles across the ray -/

/-- A triangle in a face of a block across the ray, as far as the code looks at it. -/
structure Facing (b : Block K) (x : K) (t : Triple (Vec K)) : Prop where
  flat : t.first 0 = x ∧ t.second 0 = x ∧ t.third 0 = x
  area : |denominator t| = b.area
  lowest : ∀ axis, axis ≠ 0 → lowest t axis = b.low axis
  highest : ∀ axis, axis ≠ 0 → highest t axis = b.high axis

/-- A triangle that lies in a plane along the ray has no area the ray sees. -/
theorem denominator_flat {t : Triple (Vec K)}
    (flat : t.first 1 = t.third 1 ∧ t.second 1 = t.third 1 ∨
      t.first 2 = t.third 2 ∧ t.second 2 = t.third 2) : denominator t = 0 := by
  rcases flat with ⟨one, two⟩ | ⟨one, two⟩
  · simp [denominator, one, two]
  · simp [denominator, one, two]

/-- The two halves of a rectangle across the ray, on each side of its diagonal. -/
def upper (x : K) (b : Block K) : List (Triple (Vec K)) :=
  [⟨![x, b.low 1, b.low 2], ![x, b.low 1, b.high 2], ![x, b.high 1, b.high 2]⟩,
   ⟨![x, b.low 1, b.low 2], ![x, b.high 1, b.high 2], ![x, b.low 1, b.high 2]⟩]

def lower (x : K) (b : Block K) : List (Triple (Vec K)) :=
  [⟨![x, b.low 1, b.low 2], ![x, b.high 1, b.high 2], ![x, b.high 1, b.low 2]⟩,
   ⟨![x, b.low 1, b.low 2], ![x, b.high 1, b.low 2], ![x, b.high 1, b.high 2]⟩]

theorem facing_of_mem {b : Block K} {x : K} {t : Triple (Vec K)}
    (listed : t ∈ upper x b ++ lower x b) : Facing b x t := by
  have one := (b.solid 1).le
  have two := (b.solid 2).le
  have area : |b.area| = b.area :=
    abs_of_nonneg (mul_nonneg (sub_nonneg.2 one) (sub_nonneg.2 two))
  have seen (t : Triple (Vec K)) (same : denominator t = b.area ∨ denominator t = -b.area) :
      |denominator t| = b.area := by
    rcases same with same | same
    · rw [same, area]
    · rw [same, abs_neg, area]
  have sides {p : Fin 3 → Prop} (y : p 1) (z : p 2) : ∀ axis, axis ≠ 0 → p axis := by
    intro axis across
    fin_cases axis
    · exact absurd rfl across
    · exact y
    · exact z
  simp only [upper, lower, List.cons_append, List.nil_append, List.mem_cons,
    List.not_mem_nil, or_false] at listed
  rcases listed with rfl | rfl | rfl | rfl
  · refine ⟨⟨rfl, rfl, rfl⟩, seen _ (Or.inl ?_), sides ?_ ?_, sides ?_ ?_⟩
    · simp [denominator, Block.area]
      ring
    all_goals simp [lowest, highest, one, two]
  · refine ⟨⟨rfl, rfl, rfl⟩, seen _ (Or.inr ?_), sides ?_ ?_, sides ?_ ?_⟩
    · simp [denominator, Block.area]
      ring
    all_goals simp [lowest, highest, one, two]
  · refine ⟨⟨rfl, rfl, rfl⟩, seen _ (Or.inl ?_), sides ?_ ?_, sides ?_ ?_⟩
    · simp [denominator, Block.area]
      ring
    all_goals simp [lowest, highest, one, two]
  · refine ⟨⟨rfl, rfl, rfl⟩, seen _ (Or.inr ?_), sides ?_ ?_, sides ?_ ?_⟩
    · simp [denominator, Block.area]
      ring
    all_goals simp [lowest, highest, one, two]

theorem mesh_triangles (b : Block K) {t : Triple (Vec K)} (listed : t ∈ b.mesh.triangles) :
    denominator t = 0 ∨ ∃ x ∈ b.ends, t ∈ upper x b ++ lower x b := by
  simp only [Block.mesh, TriangleMesh.triangles, cornerMesh, boxFaces, List.map_cons, List.map_nil,
    List.mem_cons, List.not_mem_nil, or_false, Triple.map] at listed
  rcases listed with rfl | rfl | rfl | rfl | rfl | rfl | rfl | rfl | along | along | along | along
  iterate 4 exact Or.inl (denominator_flat (Or.inr ⟨rfl, rfl⟩))
  iterate 4 exact Or.inl (denominator_flat (Or.inl ⟨rfl, rfl⟩))
  · exact Or.inr ⟨b.low 0, by simp [Block.ends], by simp [upper, lower, along]⟩
  · exact Or.inr ⟨b.low 0, by simp [Block.ends], by simp [upper, lower, along]⟩
  · exact Or.inr ⟨b.high 0, by simp [Block.ends], by simp [upper, lower, along]⟩
  · exact Or.inr ⟨b.high 0, by simp [Block.ends], by simp [upper, lower, along]⟩

/-- Of each half one of the two triangles is in the mesh. -/
theorem exists_mem_mesh (b : Block K) {x : K} (face : x ∈ b.ends) :
    (∃ t ∈ upper x b, t ∈ b.mesh.triangles) ∧ ∃ t ∈ lower x b, t ∈ b.mesh.triangles := by
  simp only [Block.mesh, TriangleMesh.triangles, cornerMesh, boxFaces, List.map_cons, List.map_nil,
    List.mem_cons, List.not_mem_nil, or_false, Triple.map, upper, lower]
  simp only [Block.ends, List.mem_cons, List.not_mem_nil, or_false] at face
  rcases face with rfl | rfl
  · exact ⟨⟨_, Or.inl rfl, by simp⟩, ⟨_, Or.inl rfl, by simp⟩⟩
  · exact ⟨⟨_, Or.inr rfl, by simp⟩, ⟨_, Or.inr rfl, by simp⟩⟩

/-! ## Crossings -/

variable {epsilon : K} {t : Triple (Vec K)} {x y z : K}

/-- A crossing lies in the plane of its triangle. -/
theorem crossing_plane (flat : t.first 0 = x ∧ t.second 0 = x ∧ t.third 0 = x) {value : K}
    (found : crossing epsilon t y z = some value) : value = x := by
  obtain ⟨one, two, three⟩ := flat
  unfold crossing at found
  simp only at found
  split at found
  case isTrue => cases found
  case isFalse =>
    split at found
    case isTrue => cases found
    case isFalse =>
      cases found
      rw [one, two, three, weights]
      ring

/-- A ray inside a triangle crosses it. -/
theorem crossing_inside (nonneg : 0 ≤ epsilon)
    (flat : t.first 0 = x ∧ t.second 0 = x ∧ t.third 0 = x) {w : Triple K}
    (weighed : weights t y z = w) (first : 0 ≤ w.first) (second : 0 ≤ w.second)
    (third : 0 ≤ w.third) : crossing epsilon t y z = some x := by
  have total : w.first + w.second + w.third = 1 := by
    rw [← weighed, weights]
    ring
  have some_value : ∃ value, crossing epsilon t y z = some value := by
    unfold crossing
    simp only [weighed]
    rw [if_neg, if_neg]
    · exact ⟨_, rfl⟩
    · rw [not_lt]
      refine (max_le (max_le ?_ ?_) ?_).trans (le_add_of_nonneg_right nonneg)
      all_goals linarith
    · rw [not_lt]
      exact (neg_nonpos.2 nonneg).trans (le_min (le_min first second) third)
  obtain ⟨value, found⟩ := some_value
  rw [found, crossing_plane flat found]

/-- The weights are the solution of the linear equations of the ray. -/
theorem weights_eq {w : Triple K} (seen : denominator t ≠ 0)
    (first : (t.second 1 - t.third 1) * (z - t.third 2) +
      (t.third 2 - t.second 2) * (y - t.third 1) = w.first * denominator t)
    (second : (t.third 1 - t.first 1) * (z - t.third 2) +
      (t.first 2 - t.third 2) * (y - t.third 1) = w.second * denominator t)
    (total : w.third = 1 - w.first - w.second) : weights t y z = w := by
  rw [weights, first, second, mul_div_cancel_right₀ _ seen, mul_div_cancel_right₀ _ seen, ← total]

/-- **A ray through a block crosses a triangle in each of its faces across the ray.** -/
theorem exists_crossing (nonneg : 0 ≤ epsilon) (b : Block K) (face : x ∈ b.ends)
    (through : b.Crosses y z) :
    ∃ t ∈ b.mesh.triangles, Facing b x t ∧ crossing epsilon t y z = some x := by
  have one : 0 < b.high 1 - b.low 1 := sub_pos.2 (b.solid 1)
  have two : 0 < b.high 2 - b.low 2 := sub_pos.2 (b.solid 2)
  have area : b.area ≠ 0 := (mul_pos one two).ne'
  obtain ⟨⟨left, right⟩, bottom, top⟩ := through
  obtain ⟨⟨t, half, listed⟩, t', half', listed'⟩ := exists_mem_mesh b face
  -- The coordinates of the row within the face, between zero and one.
  generalize within : (y - b.low 1) / (b.high 1 - b.low 1) = u
  generalize within' : (z - b.low 2) / (b.high 2 - b.low 2) = v
  have u_nonneg : 0 ≤ u := by
    rw [← within]
    exact div_nonneg (sub_nonneg.2 left.le) one.le
  have u_le : u ≤ 1 := by
    rw [← within, div_le_one one]
    linarith
  have v_nonneg : 0 ≤ v := by
    rw [← within']
    exact div_nonneg (sub_nonneg.2 bottom.le) two.le
  have v_le : v ≤ 1 := by
    rw [← within', div_le_one two]
    linarith
  have at_y : y = b.low 1 + u * (b.high 1 - b.low 1) := by
    rw [← within]
    field_simp
    ring
  have at_z : z = b.low 2 + v * (b.high 2 - b.low 2) := by
    rw [← within']
    field_simp
    ring
  rcases le_total u v with above | below
  · have facing := facing_of_mem (List.mem_append_left (lower x b) half)
    have seen : denominator t ≠ 0 := abs_ne_zero.1 (facing.area.trans_ne area)
    refine ⟨t, listed, facing, ?_⟩
    simp only [upper, List.mem_cons, List.not_mem_nil, or_false] at half
    rcases half with rfl | rfl
    · refine crossing_inside nonneg facing.flat (w := ⟨1 - v, v - u, u⟩) ?_ ?_ ?_ ?_
      · refine weights_eq seen ?_ ?_ ?_
        all_goals simp [denominator, at_y, at_z]
        all_goals ring
      all_goals simp only
      all_goals linarith
    · refine crossing_inside nonneg facing.flat (w := ⟨1 - v, u, v - u⟩) ?_ ?_ ?_ ?_
      · refine weights_eq seen ?_ ?_ ?_
        all_goals simp [denominator, at_y, at_z]
        all_goals ring
      all_goals simp only
      all_goals linarith
  · have facing := facing_of_mem (List.mem_append_right (upper x b) half')
    have seen : denominator t' ≠ 0 := abs_ne_zero.1 (facing.area.trans_ne area)
    refine ⟨t', listed', facing, ?_⟩
    simp only [lower, List.mem_cons, List.not_mem_nil, or_false] at half'
    rcases half' with rfl | rfl
    · refine crossing_inside nonneg facing.flat (w := ⟨1 - u, v, u - v⟩) ?_ ?_ ?_ ?_
      · refine weights_eq seen ?_ ?_ ?_
        all_goals simp [denominator, at_y, at_z]
        all_goals ring
      all_goals simp only
      all_goals linarith
    · refine crossing_inside nonneg facing.flat (w := ⟨1 - u, u - v, v⟩) ?_ ?_ ?_ ?_
      · refine weights_eq seen ?_ ?_ ?_
        all_goals simp [denominator, at_y, at_z]
        all_goals ring
      all_goals simp only
      all_goals linarith

/-! ## The grid -/

/-- What a grid shape promises: cells of a positive edge that start inside the region. -/
structure Gridded (roi : Bounds K) (edge : K) (shape : Shape) : Prop where
  positive : 0 < edge
  starts : ∀ axis, ∀ i < shape axis, i * edge < roi.size axis

theorem gridded_of_gridShape {roi : Bounds K} {edge : K} {maximumCells : Int} {shape : Shape}
    (shaped : gridShape roi edge maximumCells = .ok shape) : Gridded roi edge shape := by
  unfold gridShape at shaped
  split at shaped
  case isTrue => cases shaped
  case isFalse positive =>
    rw [not_le] at positive
    split at shaped
    case isTrue => cases shaped
    case isFalse =>
      split at shaped
      case isTrue => cases shaped
      case isFalse wide =>
        push Not at wide
        dsimp only at shaped
        split at shaped
        case isTrue => cases shaped
        case isFalse =>
          cases shaped
          refine ⟨positive, fun axis i within => ?_⟩
          -- Before the last cell there is room for another.
          have cells : (i : Int) < max 1 ⌈roi.size axis / edge⌉ := by
            rw [Int.lt_toNat] at within
            exact within
          have width : 0 < roi.size axis / edge := div_pos (wide axis) positive
          have below : (i : Int) < ⌈roi.size axis / edge⌉ := by
            rcases lt_max_iff.1 cells with first | later
            · have := Int.ceil_pos.2 width
              omega
            · exact later
          rw [← lt_div_iff₀ positive]
          exact_mod_cast Int.lt_ceil.1 below

variable {roi : Bounds K} {edge : K} {shape : Shape} {axis : Fin 3} {i : Nat}

/-- The centre lies in the lower half of a cell of the whole edge. -/
theorem center_bounds (grid : Gridded roi edge shape) (within : i < shape axis) :
    roi.minimum axis + i * edge ≤ center roi edge axis i ∧
      center roi edge axis i ≤ roi.minimum axis + i * edge + edge / 2 := by
  have room : roi.minimum axis + i * edge < roi.maximum axis := by
    have := grid.starts axis i within
    rw [Bounds.size, Pi.sub_apply] at this
    linarith
  have positive := grid.positive
  unfold center cellCenter
  have below := min_le_left (roi.minimum axis + i * edge + edge) (roi.maximum axis)
  have above : roi.minimum axis + i * edge ≤
      min (roi.minimum axis + i * edge + edge) (roi.maximum axis) :=
    le_min (by linarith) room.le
  constructor
  · dsimp only
    linarith
  · dsimp only
    linarith

/-- **No row is passed over** whose centre lies between the bounds of a triangle. -/
theorem mem_candidateIndexRange (grid : Gridded roi edge shape) (within : i < shape axis)
    {boundLow boundHigh : K} (after : boundLow ≤ center roi edge axis i)
    (before : center roi edge axis i ≤ boundHigh) :
    i ∈ candidateIndexRange boundLow boundHigh (roi.minimum axis) (shape axis) edge := by
  obtain ⟨start, half⟩ := center_bounds grid within
  have positive := grid.positive
  have first : ⌊(boundLow - roi.minimum axis) / edge⌋ < (i : Int) + 1 := by
    rw [Int.floor_lt, div_lt_iff₀ positive]
    push_cast
    linarith
  have last : (i : Int) ≤ ⌊(boundHigh - roi.minimum axis) / edge⌋ := by
    rw [Int.le_floor, le_div_iff₀ positive]
    push_cast
    linarith
  simp only [candidateIndexRange, List.mem_range'_1]
  omega

theorem lt_of_mem_candidateIndexRange {boundLow boundHigh low : K} {count : Nat}
    (listed : i ∈ candidateIndexRange boundLow boundHigh low count edge) : i < count := by
  simp only [candidateIndexRange, List.mem_range'_1] at listed
  omega

/-! ## The crossings of a row -/

/-- The tolerance of the code on an axis. -/
def tolerance (edge : K) (axis : Fin 3) : K :=
  if axis = 0 then rayTolerance edge else rowTolerance edge

theorem rowTolerance_pos (edge : K) : 0 < rowTolerance edge := lt_max_of_lt_right (by norm_num)

theorem rayTolerance_pos (edge : K) : 0 < rayTolerance edge := lt_max_of_lt_right (by norm_num)

/-- No centre of a cell lies within the tolerance of a face plane of the block. -/
def Clear (roi : Bounds K) (edge : K) (shape : Shape) (b : Block K) : Prop :=
  ∀ axis, ∀ i < shape axis,
    tolerance edge axis < |center roi edge axis i - b.low axis| ∧
      tolerance edge axis < |center roi edge axis i - b.high axis|

/-- The body of the loops over rows, for any rows. -/
def crossingsOver (roi : Bounds K) (edge : K) (rows : Fin 3 → List Nat) (t : Triple (Vec K)) :
    List ((Nat × Nat) × K) :=
  let epsilon := rowTolerance edge
  if |denominator t| ≤ epsilon then []
  else
    (rows 2).flatMap fun iz =>
      if Beside epsilon t 2 (center roi edge 2 iz) then []
      else
        (rows 1).flatMap fun iy =>
          if Beside epsilon t 1 (center roi edge 1 iy) then []
          else
            match crossing epsilon t (center roi edge 1 iy) (center roi edge 2 iz) with
            | none => []
            | some x => [((iy, iz), x)]

theorem triangleCrossings_eq (roi : Bounds K) (edge : K) (shape : Shape) (t : Triple (Vec K)) :
    triangleCrossings roi edge shape t = crossingsOver roi edge (candidateRows roi edge shape t) t :=
  rfl

theorem mem_crossingsOver {rows : Fin 3 → List Nat} {t : Triple (Vec K)} {iy iz : Nat} {x : K} :
    ((iy, iz), x) ∈ crossingsOver roi edge rows t ↔
      rowTolerance edge < |denominator t| ∧
        (iz ∈ rows 2 ∧ ¬Beside (rowTolerance edge) t 2 (center roi edge 2 iz)) ∧
        (iy ∈ rows 1 ∧ ¬Beside (rowTolerance edge) t 1 (center roi edge 1 iy)) ∧
        crossing (rowTolerance edge) t (center roi edge 1 iy) (center roi edge 2 iz) = some x := by
  unfold crossingsOver
  dsimp only
  split
  case isTrue hidden => simp [not_lt.2 hidden]
  case isFalse seen =>
    rw [not_le] at seen
    simp only [List.mem_flatMap, seen, true_and]
    constructor
    · rintro ⟨iz', layer, found⟩
      split at found
      case isTrue => cases found
      case isFalse near =>
        obtain ⟨iy', row, found⟩ := List.mem_flatMap.1 found
        split at found
        case isTrue => cases found
        case isFalse near' =>
          split at found
          case h_1 => cases found
          case h_2 value crossed =>
            cases List.mem_singleton.1 found
            exact ⟨⟨layer, near⟩, ⟨row, near'⟩, crossed⟩
    · rintro ⟨⟨layer, near⟩, ⟨row, near'⟩, crossed⟩
      refine ⟨iz, layer, ?_⟩
      rw [if_neg near, List.mem_flatMap]
      refine ⟨iy, row, ?_⟩
      rw [if_neg near', crossed]
      exact List.mem_singleton_self _

theorem mem_triangleCrossings {t : Triple (Vec K)} {iy iz : Nat} {x : K} :
    ((iy, iz), x) ∈ triangleCrossings roi edge shape t ↔
      rowTolerance edge < |denominator t| ∧
        (iz ∈ candidateRows roi edge shape t 2 ∧
          ¬Beside (rowTolerance edge) t 2 (center roi edge 2 iz)) ∧
        (iy ∈ candidateRows roi edge shape t 1 ∧
          ¬Beside (rowTolerance edge) t 1 (center roi edge 1 iy)) ∧
        crossing (rowTolerance edge) t (center roi edge 1 iy) (center roi edge 2 iz) = some x :=
  mem_crossingsOver

/-- A centre between the bounds of a face but for the tolerance is between them. -/
theorem between_of_not_beside {b : Block K} (clear : Clear roi edge shape b) {x : K}
    {t : Triple (Vec K)} (facing : Facing b x t) (across : axis ≠ 0) (within : i < shape axis)
    (near : ¬Beside (rowTolerance edge) t axis (center roi edge axis i)) :
    b.low axis < center roi edge axis i ∧ center roi edge axis i < b.high axis := by
  obtain ⟨below, above⟩ := clear axis i within
  rw [tolerance, if_neg across] at below above
  unfold Beside at near
  rw [not_or, not_lt, not_lt, facing.lowest axis across, facing.highest axis across] at near
  constructor
  · rcases lt_abs.1 below with after | before
    · have := rowTolerance_pos edge
      linarith
    · linarith
  · rcases lt_abs.1 above with after | before
    · linarith
    · have := rowTolerance_pos edge
      linarith

/-- **The ray of a row meets exactly the two ends of a block it runs through**, where the
block is wide enough to be seen. -/
theorem mem_blockCrossings_iff (grid : Gridded roi edge shape) {b : Block K}
    (clear : Clear roi edge shape b) {iy iz : Nat} (row : iy < shape 1) (layer : iz < shape 2)
    {x : K} :
    (∃ t ∈ b.mesh.triangles, ((iy, iz), x) ∈ triangleCrossings roi edge shape t) ↔
      rowTolerance edge < b.area ∧ b.Crosses (center roi edge 1 iy) (center roi edge 2 iz) ∧
        x ∈ b.ends := by
  constructor
  · rintro ⟨t, listed, crossed⟩
    obtain ⟨seen, ⟨-, near⟩, ⟨-, near'⟩, found⟩ := mem_triangleCrossings.1 crossed
    rcases mesh_triangles b listed with hidden | ⟨face, side, half⟩
    · rw [hidden, abs_zero] at seen
      exact absurd seen (not_lt.2 (rowTolerance_pos edge).le)
    · have facing := facing_of_mem half
      rw [facing.area] at seen
      refine ⟨seen, ⟨?_, ?_⟩, ?_⟩
      · exact between_of_not_beside clear facing (by decide) row near'
      · exact between_of_not_beside clear facing (by decide) layer near
      · rw [crossing_plane facing.flat found]
        exact side
  · rintro ⟨wide, through, side⟩
    obtain ⟨t, listed, facing, found⟩ :=
      exists_crossing (rowTolerance_pos edge).le b side through
    refine ⟨t, listed, mem_triangleCrossings.2 ⟨?_, ⟨?_, ?_⟩, ⟨?_, ?_⟩, found⟩⟩
    · rw [facing.area]
      exact wide
    all_goals obtain ⟨⟨left, right⟩, bottom, top⟩ := through
    all_goals have positive := rowTolerance_pos edge
    · apply mem_candidateIndexRange grid layer
      · rw [facing.lowest 2 (by decide)]
        exact bottom.le
      · rw [facing.highest 2 (by decide)]
        exact top.le
    · unfold Beside
      rw [facing.lowest 2 (by decide), facing.highest 2 (by decide), not_or, not_lt, not_lt]
      constructor <;> linarith
    · apply mem_candidateIndexRange grid row
      · rw [facing.lowest 1 (by decide)]
        exact left.le
      · rw [facing.highest 1 (by decide)]
        exact right.le
    · unfold Beside
      rw [facing.lowest 1 (by decide), facing.highest 1 (by decide), not_or, not_lt, not_lt]
      constructor <;> linarith

/-- The crossings the code collects for a row. -/
def rowCrossings (roi : Bounds K) (edge : K) (shape : Shape) (mesh : TriangleMesh K)
    (iy iz : Nat) : List K :=
  ((projectedIntersections roi edge shape mesh).lookup (iy, iz)).getD []

theorem mem_rowCrossings_iff (grid : Gridded roi edge shape) {first : Block K}
    {rest : List (Block K)} (clear : ∀ b ∈ first :: rest, Clear roi edge shape b) {iy iz : Nat}
    (row : iy < shape 1) (layer : iz < shape 2) {x : K} :
    x ∈ rowCrossings roi edge shape (assemble first rest) iy iz ↔
      ∃ b ∈ first :: rest, rowTolerance edge < b.area ∧
        b.Crosses (center roi edge 1 iy) (center roi edge 2 iz) ∧ x ∈ b.ends := by
  rw [rowCrossings, projectedIntersections, PyDict.mem_group, assemble_triangles]
  constructor
  · intro listed
    obtain ⟨t, inside, crossed⟩ := List.mem_flatMap.1 listed
    obtain ⟨b, own, inside⟩ := List.mem_flatMap.1 inside
    exact ⟨b, own, (mem_blockCrossings_iff grid (clear b own) row layer).1 ⟨t, inside, crossed⟩⟩
  · rintro ⟨b, own, met⟩
    obtain ⟨t, inside, crossed⟩ := (mem_blockCrossings_iff grid (clear b own) row layer).2 met
    exact List.mem_flatMap.2 ⟨t, List.mem_flatMap.2 ⟨b, own, inside⟩, crossed⟩

/-- The code drops a crossing as `Separated.kept` does. -/
theorem intersections_eq_kept (raw : List K) :
    intersections edge raw =
      Separated.kept (rayTolerance edge) (raw.insertionSort (· ≤ ·)) := by
  suffices after : ∀ values before : List K,
      values.foldl (fun kept value =>
        match kept.getLast? with
        | none => [value]
        | some last =>
            if rayTolerance edge < |value - last| then kept ++ [value] else kept) before =
        before ++ Separated.keptFrom (rayTolerance edge) before.getLast? values from after _ []
  intro values
  induction values with
  | nil =>
      intro before
      exact (List.append_nil before).symm
  | cons value rest ih =>
      intro before
      rw [List.foldl_cons, ih, Separated.keptFrom]
      cases last : before.getLast? with
      | none =>
          have alone : ¬Separated.Near (rayTolerance edge) none value := id
          rw [List.getLast?_eq_none_iff.1 last, if_neg alone]
          rfl
      | some w =>
          by_cases near : Separated.Near (rayTolerance edge) (some w) value
          · dsimp only
            rw [if_pos near, if_neg (not_lt.2 near), last]
          · dsimp only
            rw [if_neg near, if_pos (not_le.1 near), List.getLast?_concat, List.append_assoc]
            rfl

theorem digits {n a b c d : Nat} (low : c < n) (low' : d < n) (same : a * n + c = b * n + d) :
    a = b ∧ c = d := by
  have last : c = d := by
    have := congrArg (· % n) same
    simpa only [Nat.mul_add_mod', Nat.mod_eq_of_lt low, Nat.mod_eq_of_lt low'] using this
  refine ⟨Nat.eq_of_mul_eq_mul_right (Nat.zero_lt_of_lt low) ?_, last⟩
  omega

theorem cellNumber_injective {ix iy iz jx jy jz : Nat} (x : ix < shape 0) (x' : jx < shape 0)
    (y : iy < shape 1) (y' : jy < shape 1)
    (same : cellNumber shape ix iy iz = cellNumber shape jx jy jz) :
    ix = jx ∧ iy = jy ∧ iz = jz := by
  unfold cellNumber at same
  obtain ⟨rows, column⟩ := digits x x' same
  obtain ⟨layer, row⟩ := digits y y' rows
  exact ⟨column, row, layer⟩

/-- **A cell is occupied where an odd number of the crossings kept for its row lie
beyond it.** -/
theorem mem_voxelize_iff (mesh : TriangleMesh K) {ix iy iz : Nat} (column : ix < shape 0)
    (row : iy < shape 1) :
    cellNumber shape ix iy iz ∈ voxelize roi edge shape mesh ↔
      Odd ((intersections edge (rowCrossings roi edge shape mesh iy iz)).countP fun value =>
        decide (center roi edge 0 ix + rayTolerance edge < value)) := by
  have odd (raw : List K) (ix : Nat) :
      ((intersections edge raw).length -
          bisectRight (intersections edge raw) (center roi edge 0 ix + rayTolerance edge)) % 2 = 1 ↔
        Odd ((intersections edge raw).countP fun value =>
          decide (center roi edge 0 ix + rayTolerance edge < value)) := by
    have parts := @List.length_eq_countP_add_countP _
      (fun value => decide (value ≤ center roi edge 0 ix + rayTolerance edge))
      (intersections edge raw)
    simp only [decide_eq_true_eq, not_le] at parts
    rw [parts, bisectRight, Nat.add_sub_cancel_left, Nat.odd_iff]
  have keys := PyDict.keys_group_nodup
    (mesh.triangles.flatMap (triangleCrossings roi edge shape))
  simp only [voxelize, List.mem_toFinset, List.mem_flatMap, occupiedInRow, List.mem_map,
    List.mem_filter, List.mem_range, decide_eq_true_eq, odd]
  constructor
  · rintro ⟨⟨⟨jy, jz⟩, raw⟩, item, jx, ⟨inside, beyond⟩, same⟩
    have found : (projectedIntersections roi edge shape mesh).lookup (jy, jz) = some raw :=
      (PyDict.lookup_eq_some_iff keys).2 item
    -- A row with a kept crossing is a row of the grid.
    have row' : jy < shape 1 := by
      obtain ⟨value, listed, -⟩ := List.countP_pos_iff.1 beyond.pos
      rw [intersections_eq_kept] at listed
      have collected := Separated.keptFrom_subset none _ value listed
      rw [List.mem_insertionSort] at collected
      have crossed : ((jy, jz), value) ∈ mesh.triangles.flatMap
          (triangleCrossings roi edge shape) := by
        rw [← PyDict.mem_group]
        change value ∈ ((projectedIntersections roi edge shape mesh).lookup (jy, jz)).getD []
        rw [found]
        exact collected
      obtain ⟨t, -, crossed⟩ := List.mem_flatMap.1 crossed
      obtain ⟨-, -, ⟨candidate, -⟩, -⟩ := mem_triangleCrossings.1 crossed
      exact lt_of_mem_candidateIndexRange candidate
    obtain ⟨rfl, rfl, rfl⟩ := cellNumber_injective inside column row' row same
    rw [rowCrossings, found]
    exact beyond
  · intro beyond
    cases found : (projectedIntersections roi edge shape mesh).lookup (iy, iz) with
    | none =>
        rw [rowCrossings, found] at beyond
        exact absurd beyond (by simp [intersections])
    | some raw =>
        rw [rowCrossings, found] at beyond
        exact ⟨⟨(iy, iz), raw⟩, PyDict.mem_of_lookup found, ix, ⟨column, beyond⟩, rfl⟩

/-! ## Faces beyond a centre -/

/-- The blocks the ray of a row runs through. -/
def crossed (blocks : List (Block K)) (y z : K) : List (Block K) :=
  blocks.filter fun b => decide (b.Crosses y z)

/-- The ends of the blocks on a row. -/
def rowFaces (blocks : List (Block K)) (y z : K) : List K :=
  (crossed blocks y z).flatMap Block.ends

theorem ends_beyond {b : Block K} {p : Vec K} (away : p 0 ≠ b.low 0 ∧ p 0 ≠ b.high 0)
    (through : b.Crosses (p 1) (p 2)) :
    Odd (b.ends.countP fun value => decide (p 0 < value)) ↔ b.Inside p := by
  have order := b.solid 0
  have along : b.Inside p ↔ b.low 0 < p 0 ∧ p 0 < b.high 0 := by
    obtain ⟨row, layer⟩ := through
    unfold Block.Inside
    refine ⟨fun inside => inside 0, fun inside axis => ?_⟩
    fin_cases axis
    · exact inside
    · exact row
    · exact layer
  rw [along]
  rcases lt_or_gt_of_ne away.1 with before | after
  · -- Both ends lie beyond.
    have before' : p 0 < b.high 0 := before.trans order
    simp [Block.ends, before, before', before.asymm]
  · rcases lt_or_gt_of_ne away.2 with inside | past
    · simp [Block.ends, inside, after, after.asymm]
    · simp [Block.ends, past.asymm, after.asymm]

theorem not_inside_of_apart {b c : Block K} (apart : b.Apart c) {p : Vec K} (inside : b.Inside p) :
    ¬c.Inside p := by
  intro inside'
  obtain ⟨axis, before | after⟩ := apart
  · exact absurd ((inside axis).2.trans_le before) (inside' axis).1.asymm
  · exact absurd ((inside' axis).2.trans_le after) (inside axis).1.asymm

/-- **A point is inside one of the blocks iff an odd number of faces on its row lie
beyond it.** -/
theorem odd_faces_iff {blocks : List (Block K)} (apart : blocks.Pairwise Block.Apart) {p : Vec K}
    (away : ∀ b ∈ blocks, p 0 ≠ b.low 0 ∧ p 0 ≠ b.high 0) :
    Odd ((rowFaces blocks (p 1) (p 2)).countP fun value => decide (p 0 < value)) ↔
      ∃ b ∈ blocks, b.Inside p := by
  induction blocks with
  | nil => simp [rowFaces, crossed]
  | cons b rest ih =>
      rw [List.pairwise_cons] at apart
      have later := ih apart.2 fun c listed => away c (List.mem_cons_of_mem _ listed)
      have here := away b List.mem_cons_self
      rw [List.exists_mem_cons_iff]
      by_cases through : b.Crosses (p 1) (p 2)
      · have split_faces : rowFaces (b :: rest) (p 1) (p 2) =
            b.ends ++ rowFaces rest (p 1) (p 2) := by
          simp [rowFaces, crossed, through]
        rw [split_faces, List.countP_append, Nat.odd_add', ← Nat.not_odd_iff_even, later,
          ends_beyond here through]
        -- At most one block holds the point.
        have one : b.Inside p → ¬∃ c ∈ rest, c.Inside p := by
          rintro inside ⟨c, listed, inside'⟩
          exact not_inside_of_apart (apart.1 c listed) inside inside'
        by_cases inside : b.Inside p
        · simp only [inside, one inside, true_or, not_true_eq_false]
        · simp only [inside, false_or, not_false_eq_true, iff_true]
      · have same_faces : rowFaces (b :: rest) (p 1) (p 2) = rowFaces rest (p 1) (p 2) := by
          simp [rowFaces, crossed, through]
        have outside : ¬b.Inside p := fun inside => through ⟨inside 1, inside 2⟩
        rw [same_faces, later]
        tauto

/-! ## Which cells are right -/

/-- The faces on a row of the blocks wide enough to be seen. -/
def seenFaces (edge : K) (blocks : List (Block K)) (y z : K) : List K :=
  ((crossed blocks y z).filter fun b => decide (rowTolerance edge < b.area)).flatMap Block.ends

/-- The faces on a row of the blocks too narrow to be seen. -/
def hiddenFaces (edge : K) (blocks : List (Block K)) (y z : K) : List K :=
  ((crossed blocks y z).filter fun b => !decide (rowTolerance edge < b.area)).flatMap Block.ends

/-- The faces on a row that no crossing is kept for: the hidden ones, and those within
the tolerance of the last face before them that is not lost. -/
def lostFaces (edge : K) (blocks : List (Block K)) (y z : K) : List K :=
  hiddenFaces edge blocks y z ++
    Separated.lost (rayTolerance edge) ((seenFaces edge blocks y z).insertionSort (· ≤ ·))

/-- The centre of a cell. -/
def cellPoint (roi : Bounds K) (edge : K) (ix iy iz : Nat) : Vec K :=
  ![center roi edge 0 ix, center roi edge 1 iy, center roi edge 2 iz]

theorem mem_seenFaces {blocks : List (Block K)} {y z x : K} :
    x ∈ seenFaces edge blocks y z ↔
      ∃ b ∈ blocks, rowTolerance edge < b.area ∧ b.Crosses y z ∧ x ∈ b.ends := by
  simp only [seenFaces, crossed, List.mem_flatMap, List.mem_filter, decide_eq_true_eq]
  constructor
  · rintro ⟨b, ⟨⟨listed, through⟩, wide⟩, side⟩
    exact ⟨b, listed, wide, through, side⟩
  · rintro ⟨b, listed, wide, through, side⟩
    exact ⟨b, ⟨⟨listed, through⟩, wide⟩, side⟩

/-- Every face is kept or lost. -/
theorem countP_kept_add_lostFaces (edge : K) (beyond : K → Bool) (blocks : List (Block K))
    (y z : K) :
    (Separated.kept (rayTolerance edge)
        ((seenFaces edge blocks y z).insertionSort (· ≤ ·))).countP beyond +
      (lostFaces edge blocks y z).countP beyond = (rowFaces blocks y z).countP beyond := by
  have faces : (rowFaces blocks y z).countP beyond =
      (seenFaces edge blocks y z).countP beyond + (hiddenFaces edge blocks y z).countP beyond := by
    rw [← List.countP_append, seenFaces, hiddenFaces, ← List.flatMap_append]
    exact (((List.filter_append_perm _ _).flatMap_right _).countP_eq _).symm
  have sorted := @Separated.countP_kept_add_lost _ _ _ _ (rayTolerance edge) beyond
    ((seenFaces edge blocks y z).insertionSort (· ≤ ·))
  rw [(List.perm_insertionSort (· ≤ ·) (seenFaces edge blocks y z)).countP_eq] at sorted
  rw [lostFaces, List.countP_append, faces]
  omega

/-- Where a row's crossings are kept for the faces that are seen. -/
theorem intersections_eq (grid : Gridded roi edge shape) {first : Block K} {rest : List (Block K)}
    (clear : ∀ b ∈ first :: rest, Clear roi edge shape b) {iy iz : Nat} (row : iy < shape 1)
    (layer : iz < shape 2) :
    intersections edge (rowCrossings roi edge shape (assemble first rest) iy iz) =
      Separated.kept (rayTolerance edge) ((seenFaces edge (first :: rest) (center roi edge 1 iy)
        (center roi edge 2 iz)).insertionSort (· ≤ ·)) := by
  rw [intersections_eq_kept]
  refine Separated.kept_congr (rayTolerance_pos edge).le (List.pairwise_insertionSort _ _)
    (List.pairwise_insertionSort _ _) fun x => ?_
  rw [List.mem_insertionSort, List.mem_insertionSort, mem_rowCrossings_iff grid clear row layer,
    mem_seenFaces]

/-- A face lies beyond a centre with the tolerance as without. -/
theorem beyond_iff {b : Block K} (clear : Clear roi edge shape b) {ix : Nat}
    (column : ix < shape 0) {x : K} (side : x ∈ b.ends) :
    center roi edge 0 ix + rayTolerance edge < x ↔ center roi edge 0 ix < x := by
  have positive := rayTolerance_pos edge
  have far : rayTolerance edge < |center roi edge 0 ix - x| := by
    obtain ⟨low, high⟩ := clear 0 ix column
    rcases List.mem_cons.1 side with rfl | other
    · exact low
    · cases List.mem_singleton.1 other
      exact high
  constructor
  · intro past
    linarith
  · intro past
    rw [abs_of_neg (by linarith)] at far
    linarith

/-- **A cell is right iff an even number of the faces beyond its centre is lost.** -/
theorem occupied_iff (grid : Gridded roi edge shape) {first : Block K} {rest : List (Block K)}
    (apart : (first :: rest).Pairwise Block.Apart)
    (clear : ∀ b ∈ first :: rest, Clear roi edge shape b) {ix iy iz : Nat}
    (column : ix < shape 0) (row : iy < shape 1) (layer : iz < shape 2) :
    (cellNumber shape ix iy iz ∈ voxelize roi edge shape (assemble first rest) ↔
        ∃ b ∈ first :: rest, b.Inside (cellPoint roi edge ix iy iz)) ↔
      Even ((lostFaces edge (first :: rest) (center roi edge 1 iy) (center roi edge 2 iz)).countP
        fun value => decide (center roi edge 0 ix < value)) := by
  have away (b : Block K) (listed : b ∈ first :: rest) :
      cellPoint roi edge ix iy iz 0 ≠ b.low 0 ∧ cellPoint roi edge ix iy iz 0 ≠ b.high 0 := by
    have positive := rayTolerance_pos edge
    obtain ⟨low, high⟩ := clear b listed 0 ix column
    constructor
    · exact sub_ne_zero.1 (abs_pos.1 (positive.trans low))
    · exact sub_ne_zero.1 (abs_pos.1 (positive.trans high))
  have counted := countP_kept_add_lostFaces edge
    (fun value => decide (center roi edge 0 ix < value)) (first :: rest) (center roi edge 1 iy)
    (center roi edge 2 iz)
  rw [mem_voxelize_iff _ column row, intersections_eq grid clear row layer,
    ← odd_faces_iff apart away]
  change (_ ↔ Odd ((rowFaces _ (center roi edge 1 iy) (center roi edge 2 iz)).countP
    fun value => decide (center roi edge 0 ix < value))) ↔ _
  rw [← counted, Nat.odd_add]
  have same : ∀ value ∈ Separated.kept (rayTolerance edge) ((seenFaces edge (first :: rest)
      (center roi edge 1 iy) (center roi edge 2 iz)).insertionSort (· ≤ ·)),
      decide (center roi edge 0 ix + rayTolerance edge < value) = true ↔
        decide (center roi edge 0 ix < value) = true := by
    intro value listed
    have seen := Separated.keptFrom_subset none _ value listed
    rw [List.mem_insertionSort, mem_seenFaces] at seen
    obtain ⟨b, own, -, -, side⟩ := seen
    rw [decide_eq_true_eq, decide_eq_true_eq]
    exact beyond_iff (clear b own) column side
  rw [List.countP_congr same]
  tauto

/-- **Voxelization is exact iff an even number of faces is lost beyond every centre.**
The mesh is put together from boxes with disjoint interiors, and no centre of a cell
lies within the tolerance of one of their face planes. -/
theorem occupied_exact_iff {roi : Bounds K} {edge : K} {maximumCells : Int} {shape : Shape}
    (shaped : gridShape roi edge maximumCells = .ok shape) {first : Block K}
    {rest : List (Block K)} (apart : (first :: rest).Pairwise Block.Apart)
    (clear : ∀ b ∈ first :: rest, Clear roi edge shape b) :
    (∀ ix < shape 0, ∀ iy < shape 1, ∀ iz < shape 2,
        (cellNumber shape ix iy iz ∈ voxelize roi edge shape (assemble first rest) ↔
          ∃ b ∈ first :: rest, b.Inside (cellPoint roi edge ix iy iz))) ↔
      ∀ ix < shape 0, ∀ iy < shape 1, ∀ iz < shape 2,
        Even ((lostFaces edge (first :: rest) (center roi edge 1 iy)
          (center roi edge 2 iz)).countP fun value => decide (center roi edge 0 ix < value)) := by
  have grid := gridded_of_gridShape shaped
  constructor
  · intro exact_cells ix column iy row iz layer
    exact (occupied_iff grid apart clear column row layer).1 (exact_cells ix column iy row iz layer)
  · intro even_lost ix column iy row iz layer
    exact (occupied_iff grid apart clear column row layer).2 (even_lost ix column iy row iz layer)

/-- Two blocks that no ray meets within the tolerance of one another. -/
def Spaced (edge : K) (b c : Block K) : Prop :=
  (b.high 0 + rayTolerance edge < c.low 0 ∨ c.high 0 + rayTolerance edge < b.low 0) ∨
    ∃ axis, axis ≠ 0 ∧ (b.high axis ≤ c.low axis ∨ c.high axis ≤ b.low axis)

theorem Spaced.apart {b c : Block K} (spaced : Spaced edge b c) : b.Apart c := by
  have positive := rayTolerance_pos edge
  rcases spaced with (before | after) | ⟨axis, -, beside⟩
  · exact ⟨0, Or.inl (by linarith)⟩
  · exact ⟨0, Or.inr (by linarith)⟩
  · exact ⟨axis, beside⟩

theorem ends_between {b : Block K} {x : K} (side : x ∈ b.ends) : b.low 0 ≤ x ∧ x ≤ b.high 0 := by
  have order := (b.solid 0).le
  rcases List.mem_cons.1 side with rfl | other
  · exact ⟨le_rfl, order⟩
  · cases List.mem_singleton.1 other
    exact ⟨order, le_rfl⟩

/-- Spaced blocks on one row have their faces farther apart than the tolerance. -/
theorem Spaced.faces_far {b c : Block K} (spaced : Spaced edge b c) {y z : K}
    (through : b.Crosses y z) (through' : c.Crosses y z) {v w : K} (side : v ∈ b.ends)
    (side' : w ∈ c.ends) : rayTolerance edge < |w - v| := by
  obtain ⟨low, high⟩ := ends_between side
  obtain ⟨low', high'⟩ := ends_between side'
  rcases spaced with (before | after) | ⟨axis, across, beside⟩
  · exact lt_abs.2 (Or.inl (by linarith))
  · exact lt_abs.2 (Or.inr (by linarith))
  · -- On another axis both hold the row.
    exfalso
    obtain ⟨⟨left, right⟩, bottom, top⟩ := through
    obtain ⟨⟨left', right'⟩, bottom', top'⟩ := through'
    fin_cases axis
    · exact across rfl
    · rcases beside with before | after
      · exact absurd (right.trans_le before) left'.asymm
      · exact absurd (right'.trans_le after) left.asymm
    · rcases beside with before | after
      · exact absurd (top.trans_le before) bottom'.asymm
      · exact absurd (top'.trans_le after) bottom.asymm

/-- Nothing is lost of blocks that are spaced and larger than the tolerances. -/
theorem lostFaces_eq_nil {blocks : List (Block K)} (spaced : blocks.Pairwise (Spaced edge))
    (large : ∀ b ∈ blocks, rowTolerance edge < b.area ∧
      rayTolerance edge < b.high 0 - b.low 0) (y z : K) : lostFaces edge blocks y z = [] := by
  have hidden : hiddenFaces edge blocks y z = [] := by
    simp only [hiddenFaces, List.flatMap_eq_nil_iff, List.mem_filter, crossed, decide_eq_true_eq,
      Bool.not_eq_true', decide_eq_false_iff_not]
    rintro b ⟨⟨listed, -⟩, narrow⟩
    exact absurd (large b listed).1 narrow
  have far : (seenFaces edge blocks y z).Pairwise fun v w => rayTolerance edge < |w - v| := by
    rw [seenFaces, List.pairwise_flatMap]
    constructor
    · intro b listed
      have own : b ∈ blocks := List.mem_of_mem_filter (List.mem_of_mem_filter listed)
      simp only [Block.ends, List.pairwise_cons, List.mem_singleton, forall_eq, List.not_mem_nil,
        false_implies, implies_true, List.Pairwise.nil, and_true]
      exact (large b own).2.trans_le (le_abs_self _)
    · refine (spaced.sublist (List.filter_sublist.trans List.filter_sublist)).imp_of_mem ?_
      intro b c listed listed' apart v side w side'
      have through := (List.mem_filter.1 (List.mem_of_mem_filter listed)).2
      have through' := (List.mem_filter.1 (List.mem_of_mem_filter listed')).2
      rw [decide_eq_true_eq] at through through'
      exact apart.faces_far through through' side side'
  have sorted_far : ((seenFaces edge blocks y z).insertionSort (· ≤ ·)).Pairwise
      fun v w => rayTolerance edge < |w - v| := by
    refine far.perm (List.perm_insertionSort _ _).symm ?_
    intro v w apart
    rw [abs_sub_comm]
    exact apart
  have thinned := Separated.lost_eq_nil
    (((List.pairwise_insertionSort (· ≤ ·) (seenFaces edge blocks y z)).and sorted_far).imp
      fun {v w} both => by
        rw [abs_of_nonneg (sub_nonneg.2 both.1)] at both
        exact both.2)
  rw [lostFaces, hidden, thinned]
  rfl

end

/-! ## Two boxes that share a face -/

instance (roi : Bounds ℚ) (edge : ℚ) (shape : Shape) (b : Block ℚ) :
    Decidable (Clear roi edge shape b) := inferInstanceAs (Decidable (∀ _, _))

/-- A unit cube and the one after it on the first axis. -/
def leftCube : Block ℚ := ⟨![0, 0, 0], ![1, 1, 1], by decide⟩

def rightCube : Block ℚ := ⟨![1, 0, 0], ![2, 1, 1], by decide⟩

/-- The region of both. -/
def twoCubes : Bounds ℚ := ⟨![0, 0, 0], ![2, 1, 1], by decide⟩

theorem twoCubes_shape : gridShape twoCubes 1 MAXIMUM_VOXEL_CELLS = .ok ![2, 1, 1] := by
  have shape : (fun axis : Fin 3 => (max 1 ⌈twoCubes.size axis / 1⌉).toNat) = ![2, 1, 1] := by
    decide +kernel
  unfold gridShape
  rw [if_neg (by decide +kernel), if_neg (by decide +kernel), if_neg (by decide +kernel), shape]
  decide

/-- The face the cubes share is one crossing, so the centre of the left cube has two
crossings beyond it. -/
theorem shared_face_lost :
    gridShape twoCubes 1 MAXIMUM_VOXEL_CELLS = .ok ![2, 1, 1] ∧
      [leftCube, rightCube].Pairwise Block.Apart ∧
      (∀ b ∈ [leftCube, rightCube], Clear twoCubes 1 ![2, 1, 1] b) ∧
      leftCube.Inside (cellPoint twoCubes 1 0 0 0) ∧
      cellNumber ![2, 1, 1] 0 0 0 ∉
        voxelize twoCubes 1 ![2, 1, 1] (assemble leftCube [rightCube]) := by
  refine ⟨twoCubes_shape, ?_⟩
  decide +kernel

/-! ## Two boxes with a cell between them -/

def farCube : Block ℚ := ⟨![2, 0, 0], ![3, 1, 1], by decide⟩

def threeCells : Bounds ℚ := ⟨![0, 0, 0], ![3, 1, 1], by decide⟩

theorem threeCells_shape : gridShape threeCells 1 MAXIMUM_VOXEL_CELLS = .ok ![3, 1, 1] := by
  have shape : (fun axis : Fin 3 => (max 1 ⌈threeCells.size axis / 1⌉).toNat) = ![3, 1, 1] := by
    decide +kernel
  unfold gridShape
  rw [if_neg (by decide +kernel), if_neg (by decide +kernel), if_neg (by decide +kernel), shape]
  decide

/-- The two cubes are voxelized exactly, and the cell between them is free. -/
theorem apart_cubes_exact :
    cellNumber ![3, 1, 1] 0 0 0 ∈ voxelize threeCells 1 ![3, 1, 1] (assemble leftCube [farCube]) ∧
    cellNumber ![3, 1, 1] 1 0 0 ∉ voxelize threeCells 1 ![3, 1, 1] (assemble leftCube [farCube]) ∧
    cellNumber ![3, 1, 1] 2 0 0 ∈ voxelize threeCells 1 ![3, 1, 1] (assemble leftCube [farCube]) := by
  have cells : ∀ ix < 3, ∀ iy < 1, ∀ iz < 1,
      (cellNumber ![3, 1, 1] ix iy iz ∈
          voxelize threeCells 1 ![3, 1, 1] (assemble leftCube [farCube]) ↔
        ∃ b ∈ [leftCube, farCube], b.Inside (cellPoint threeCells 1 ix iy iz)) :=
    (occupied_exact_iff threeCells_shape (by decide +kernel) (by decide +kernel)).2
      (by decide +kernel)
  refine ⟨(cells 0 (by decide) 0 (by decide) 0 (by decide)).2 (by decide +kernel),
    fun occupied => ?_, (cells 2 (by decide) 0 (by decide) 0 (by decide)).2 (by decide +kernel)⟩
  have covered := (cells 1 (by decide) 0 (by decide) 0 (by decide)).1 occupied
  revert covered
  decide +kernel

end InstrumentBench.Geometry
