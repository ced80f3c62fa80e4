/-
# Geometry.SpatialHash -- the nearest point, searched in shells of cells

`_SpatialHash` sorts points into cubic cells and looks for the point nearest to a
query in growing cubes of cells around the query's own.  It stops once the nearest
point so far is no farther than the cube's nearest face.

In exact arithmetic the shells are searched as `Theory.ShellSearch` does it: a point's
shell is the distance of its cell, by the largest coordinate (`shellOf`), and
`unseen_le` is the bound.  `nearestSquared_isLeast` is the result over any ordered
field with a floor, `nearestDistance_isLeast` the Euclidean distance over the reals.
-/
import InstrumentBench.Geometry.Metrics
import InstrumentBench.Theory.PyDict
import InstrumentBench.Theory.ShellSearch
import Mathlib.Algebra.Order.Floor.Ring
import Mathlib.Analysis.InnerProductSpace.PiL2

namespace InstrumentBench.Geometry

set_option autoImplicit false
set_option linter.unusedSectionVars false

open InstrumentBench.Theory
open InstrumentBench.Fibsem (PyError)

/-- A cell, by its three indices. -/
abbrev Cell := Fin 3 → Int

section

variable {K : Type} [Field K] [LinearOrder K] [IsStrictOrderedRing K] [FloorRing K]

/-- `_cell`, in cells of a size. -/
def cellOf (size : K) (point : Vec K) : Cell := fun axis => ⌊point axis / size⌋

/-- `cells[self._cell(point)].append(point)` for every point. -/
def sortIntoCells (size : K) (points : List (Vec K)) : List (Cell × List (Vec K)) :=
  PyDict.group (points.map fun point => (cellOf size point, point))

/-- `_SpatialHash`; it holds a cell. -/
structure SpatialHash (K : Type) where
  cellSize : K
  cells : List (Cell × List (Vec K))
  minimum : Cell
  maximum : Cell

namespace SpatialHash

/-- `_SpatialHash(points, cell_size)`: the dictionary, and the least and the greatest
index on each axis. -/
def new (points : List (Vec K)) (cellSize : K) : Except PyError (SpatialHash K) :=
  if cellSize ≤ 0 then PyError.value "surface spatial-hash cell must be positive"
  else
    match sortIntoCells cellSize points with
    | [] => PyError.value "min() iterable argument is empty"
    | first :: rest =>
        .ok
          { cellSize
            cells := first :: rest
            minimum := fun axis => (rest.map fun entry => entry.1 axis).foldl min (first.1 axis)
            maximum := fun axis => (rest.map fun entry => entry.1 axis).foldl max (first.1 axis) }

variable (h : SpatialHash K) (point : Vec K)

/-- `range(-shell, shell + 1)` -/
def span (shell : Nat) : List Int := (List.range (2 * shell + 1)).map fun i : Nat => (i : Int) - shell

/-- The offsets whose largest coordinate is the shell's number. -/
def offsets (shell : Nat) : List Cell :=
  (span shell).flatMap fun dx => (span shell).flatMap fun dy => (span shell).flatMap fun dz =>
    if max (max |dx| |dy|) |dz| ≠ (shell : Int) then [] else [![dx, dy, dz]]

/-- The points in the cells of a shell around a cell. -/
def candidates (origin : Cell) (shell : Nat) : List (Vec K) :=
  (offsets shell).flatMap fun offset => (h.cells.lookup (origin + offset)).getD []

/-- The squared distance of a candidate. -/
def distanceSquared (candidate : Vec K) : K :=
  (candidate 0 - point 0) ^ 2 + (candidate 1 - point 1) ^ 2 + (candidate 2 - point 2) ^ 2

/-- The last shell that can hold a cell. -/
def maximumShell (origin : Cell) : Nat :=
  let reach (axis : Fin 3) : Nat :=
    max (origin axis - h.minimum axis).natAbs (origin axis - h.maximum axis).natAbs
  max (max (reach 0) (reach 1)) (reach 2)

/-- How far it is to the nearest face of a cube of shells. -/
def unseenDistance (origin : Cell) (shell : Nat) : K :=
  let lower (axis : Fin 3) : K := point axis - ((origin axis - shell : Int) : K) * h.cellSize
  let upper (axis : Fin 3) : K := ((origin axis + shell + 1 : Int) : K) * h.cellSize - point axis
  min (min (min (lower 0) (lower 1)) (lower 2)) (min (min (upper 0) (upper 1)) (upper 2))

/-- The loop of `nearest_distance`; `none` is infinity. -/
def nearestSquared : Option K :=
  let origin := cellOf h.cellSize point
  ShellSearch.search (distanceSquared point) (h.candidates origin)
    (fun shell best => best ≤ h.unseenDistance point origin shell ^ 2)
    (h.maximumShell origin + 1) 0 none

/-- `nearest_distance`, over a square root. -/
def nearestDistance (sqrt : K → K) : Except PyError K :=
  match h.nearestSquared point with
  | none => PyError.value "surface spatial hash contains no points"
  | some best => .ok (sqrt best)

/-! ## Cells -/

/-- A cell holds the points that are in it. -/
theorem mem_sortIntoCells {size : K} {points : List (Vec K)} {cell : Cell} {p : Vec K} :
    p ∈ ((sortIntoCells size points).lookup cell).getD [] ↔ p ∈ points ∧ cellOf size p = cell := by
  rw [sortIntoCells, PyDict.mem_group, List.mem_map]
  constructor
  · rintro ⟨q, listed, same⟩
    cases same
    exact ⟨listed, rfl⟩
  · rintro ⟨listed, rfl⟩
    exact ⟨p, listed, rfl⟩

/-- A hash was built of its points. -/
structure Holds (h : SpatialHash K) (points : List (Vec K)) : Prop where
  positive : 0 < h.cellSize
  cells : ∀ cell p, p ∈ (h.cells.lookup cell).getD [] ↔ p ∈ points ∧ cellOf h.cellSize p = cell
  between : ∀ p ∈ points, ∀ axis, h.minimum axis ≤ cellOf h.cellSize p axis ∧
    cellOf h.cellSize p axis ≤ h.maximum axis

theorem foldl_min_le (first : Int) (rest : List Int) :
    rest.foldl min first ≤ first ∧ ∀ i ∈ rest, rest.foldl min first ≤ i := by
  induction rest generalizing first with
  | nil => simp
  | cons i rest ih =>
      obtain ⟨start, others⟩ := ih (min first i)
      rw [List.foldl_cons, List.forall_mem_cons]
      exact ⟨start.trans (min_le_left _ _), start.trans (min_le_right _ _), others⟩

theorem le_foldl_max (first : Int) (rest : List Int) :
    first ≤ rest.foldl max first ∧ ∀ i ∈ rest, i ≤ rest.foldl max first := by
  induction rest generalizing first with
  | nil => simp
  | cons i rest ih =>
      obtain ⟨start, others⟩ := ih (max first i)
      rw [List.foldl_cons, List.forall_mem_cons]
      exact ⟨(le_max_left _ _).trans start, (le_max_right _ _).trans start, others⟩

/-- A hash is built of any points but none, with any positive cell size. -/
theorem new_holds {points : List (Vec K)} (some_point : points ≠ []) {size : K}
    (positive : 0 < size) : ∃ h, new points size = .ok h ∧ h.cellSize = size ∧ Holds h points := by
  have held := fun cell p => @mem_sortIntoCells K _ _ _ _ size points cell p
  rw [new, if_neg (not_le.2 positive)]
  cases sorted : sortIntoCells size points with
  | nil =>
      obtain ⟨p, listed⟩ := List.exists_mem_of_ne_nil points some_point
      have := (held (cellOf size p) p).2 ⟨listed, rfl⟩
      rw [sorted] at this
      cases this
  | cons first rest =>
      rw [sorted] at held
      refine ⟨_, rfl, rfl, positive, held, ?_⟩
      intro p listed axis
      have cell : ((first :: rest).lookup (cellOf size p)).isSome = true := by
        have inside := (held (cellOf size p) p).2 ⟨listed, rfl⟩
        cases found : (first :: rest).lookup (cellOf size p) with
        | some entries => rfl
        | none =>
            rw [found] at inside
            cases inside
      obtain ⟨entry, stored, same⟩ := (PyDict.lookup_isSome_iff _ _).1 cell
      dsimp only
      rw [← same]
      rcases List.mem_cons.1 stored with rfl | later
      · exact ⟨(foldl_min_le _ _).1, (le_foldl_max _ _).1⟩
      · have index : entry.1 axis ∈ rest.map fun entry => entry.1 axis :=
          List.mem_map.2 ⟨entry, later, rfl⟩
        exact ⟨(foldl_min_le _ _).2 _ index, (le_foldl_max _ _).2 _ index⟩

/-! ## Shells -/

/-- The shell a point lies in, around a cell. -/
def shellOf (size : K) (origin : Cell) (p : Vec K) : Nat :=
  let reach (axis : Fin 3) : Nat := (cellOf size p axis - origin axis).natAbs
  max (max (reach 0) (reach 1)) (reach 2)

theorem mem_span {shell : Nat} {d : Int} : d ∈ span shell ↔ d.natAbs ≤ shell := by
  simp only [span, List.mem_map, List.mem_range]
  constructor
  · rintro ⟨i, small, rfl⟩
    omega
  · intro small
    exact ⟨(d + shell).toNat, by omega, by omega⟩

theorem mem_offsets {shell : Nat} {offset : Cell} :
    offset ∈ offsets shell ↔
      max (max (offset 0).natAbs (offset 1).natAbs) (offset 2).natAbs = shell := by
  have largest (x y z : Int) :
      max (max |x| |y|) |z| = (max (max x.natAbs y.natAbs) z.natAbs : Nat) := by
    push_cast
    rfl
  simp only [offsets, List.mem_flatMap, mem_span]
  constructor
  · rintro ⟨x, -, y, -, z, -, listed⟩
    split at listed
    · cases listed
    · rename_i exact_shell
      cases List.mem_singleton.1 listed
      rw [not_not, largest] at exact_shell
      exact_mod_cast exact_shell
  · intro same
    refine ⟨offset 0, by omega, offset 1, by omega, offset 2, by omega, ?_⟩
    rw [if_neg, List.mem_singleton]
    · ext axis
      fin_cases axis <;> rfl
    · rw [not_not, largest, same]

variable {h point} {points : List (Vec K)} {origin : Cell}

/-- **The candidates of a shell are the points that lie in it.** -/
theorem mem_candidates (holds : Holds h points) {shell : Nat} {p : Vec K} :
    p ∈ h.candidates origin shell ↔ p ∈ points ∧ shellOf h.cellSize origin p = shell := by
  simp only [candidates, List.mem_flatMap, mem_offsets, holds.cells]
  constructor
  · rintro ⟨offset, same, listed, cell⟩
    refine ⟨listed, ?_⟩
    rw [shellOf, cell]
    simpa using same
  · rintro ⟨listed, same⟩
    refine ⟨cellOf h.cellSize p - origin, ?_, listed, ?_⟩
    · simpa [shellOf] using same
    · abel

/-- No point lies past the last shell. -/
theorem shellOf_le (holds : Holds h points) {p : Vec K} (listed : p ∈ points) :
    shellOf h.cellSize origin p ≤ h.maximumShell origin := by
  have reach (axis : Fin 3) : (cellOf h.cellSize p axis - origin axis).natAbs ≤
      max (origin axis - h.minimum axis).natAbs (origin axis - h.maximum axis).natAbs := by
    have := holds.between p listed axis
    omega
  exact max_le_max (max_le_max (reach 0) (reach 1)) (reach 2)

/-- A cell's points lie between its faces. -/
theorem cell_bounds (positive : 0 < h.cellSize) (p : Vec K) (axis : Fin 3) :
    (cellOf h.cellSize p axis : K) * h.cellSize ≤ p axis ∧
      p axis < (cellOf h.cellSize p axis + 1 : K) * h.cellSize := by
  have low := Int.floor_le (p axis / h.cellSize)
  have high := Int.lt_floor_add_one (p axis / h.cellSize)
  rw [le_div_iff₀ positive] at low
  rw [div_lt_iff₀ positive] at high
  exact ⟨low, high⟩

/-- The distance to the faces of a cube of shells on one axis. -/
theorem unseen_le_face (holds : Holds h points) {p : Vec K} {shell : Nat} (axis : Fin 3)
    (past : shell < (cellOf h.cellSize p axis - cellOf h.cellSize point axis).natAbs) :
    point axis - ((cellOf h.cellSize point axis - shell : Int) : K) * h.cellSize ≤
        |p axis - point axis| ∨
      ((cellOf h.cellSize point axis + shell + 1 : Int) : K) * h.cellSize - point axis ≤
        |p axis - point axis| := by
  have positive := holds.positive
  obtain ⟨low, high⟩ := cell_bounds positive p axis
  rcases le_or_gt (cellOf h.cellSize p axis) (cellOf h.cellSize point axis) with before | after
  · refine Or.inl ?_
    have cells : cellOf h.cellSize p axis + 1 ≤ cellOf h.cellSize point axis - shell := by omega
    have faces : ((cellOf h.cellSize p axis + 1 : Int) : K) * h.cellSize ≤
        ((cellOf h.cellSize point axis - shell : Int) : K) * h.cellSize :=
      mul_le_mul_of_nonneg_right (by exact_mod_cast cells) positive.le
    push_cast at faces ⊢
    have away := neg_abs_le (p axis - point axis)
    linarith
  · refine Or.inr ?_
    have cells : cellOf h.cellSize point axis + shell + 1 ≤ cellOf h.cellSize p axis := by omega
    have faces : ((cellOf h.cellSize point axis + shell + 1 : Int) : K) * h.cellSize ≤
        ((cellOf h.cellSize p axis : Int) : K) * h.cellSize :=
      mul_le_mul_of_nonneg_right (by exact_mod_cast cells) positive.le
    have away := le_abs_self (p axis - point axis)
    linarith

/-- The query lies within the cube of every shell. -/
theorem unseen_nonneg (positive : 0 < h.cellSize) (shell : Nat) :
    0 ≤ h.unseenDistance point (cellOf h.cellSize point) shell := by
  have within (axis : Fin 3) :
      0 ≤ point axis - ((cellOf h.cellSize point axis - shell : Int) : K) * h.cellSize ∧
        0 ≤ ((cellOf h.cellSize point axis + shell + 1 : Int) : K) * h.cellSize - point axis := by
    obtain ⟨low, high⟩ := cell_bounds positive point axis
    have shells : 0 ≤ (shell : K) * h.cellSize := mul_nonneg (Nat.cast_nonneg shell) positive.le
    push_cast
    constructor
    · linarith
    · linarith
  simp only [unseenDistance, le_min_iff]
  exact ⟨⟨⟨(within 0).1, (within 1).1⟩, (within 2).1⟩, ⟨(within 0).2, (within 1).2⟩, (within 2).2⟩

/-- **A point past a shell is farther than the nearest face of the shell's cube.** -/
theorem unseen_le (holds : Holds h points) {p : Vec K} {shell : Nat}
    (past : shell < shellOf h.cellSize (cellOf h.cellSize point) p) :
    h.unseenDistance point (cellOf h.cellSize point) shell ^ 2 ≤ distanceSquared point p := by
  obtain ⟨axis, outside⟩ : ∃ axis : Fin 3,
      shell < (cellOf h.cellSize p axis - cellOf h.cellSize point axis).natAbs := by
    rcases lt_max_iff.1 past with first | third
    · rcases lt_max_iff.1 first with first | second
      · exact ⟨0, first⟩
      · exact ⟨1, second⟩
    · exact ⟨2, third⟩
  have face : h.unseenDistance point (cellOf h.cellSize point) shell ≤
      |p axis - point axis| := by
    simp only [unseenDistance, min_le_iff]
    have here := unseen_le_face holds axis outside
    fin_cases axis <;> rcases here with lower | upper <;> tauto
  have square : h.unseenDistance point (cellOf h.cellSize point) shell ^ 2 ≤
      (p axis - point axis) ^ 2 := by
    rw [← sq_abs (p axis - point axis)]
    exact pow_le_pow_left₀ (unseen_nonneg holds.positive shell) face 2
  refine square.trans ?_
  have x := sq_nonneg (p 0 - point 0)
  have y := sq_nonneg (p 1 - point 1)
  have z := sq_nonneg (p 2 - point 2)
  unfold distanceSquared
  fin_cases axis
  · show (p 0 - point 0) ^ 2 ≤ _
    linarith
  · show (p 1 - point 1) ^ 2 ≤ _
    linarith
  · show (p 2 - point 2) ^ 2 ≤ _
    linarith

/-! ## The nearest point -/

/-- **What the search finds is the least squared distance.** -/
theorem nearestSquared_isLeast (holds : Holds h points) (some_point : points ≠ [])
    (point : Vec K) : ∃ best, h.nearestSquared point = some best ∧
      IsLeast (distanceSquared point '' {p | p ∈ points}) best := by
  refine ShellSearch.search_isLeast (shellOf h.cellSize (cellOf h.cellSize point))
    ?_ ?_ ?_ ?_ ?_
  · intro p listed
    exact (mem_candidates holds).2 ⟨listed, rfl⟩
  · intro shell p candidate
    exact ((mem_candidates holds).1 candidate).1
  · intro shell least enough p listed past
    exact enough.trans (unseen_le holds past)
  · intro p listed
    exact Nat.lt_succ_of_le (shellOf_le holds listed)
  · exact List.exists_mem_of_ne_nil points some_point

end SpatialHash

end

/-! ## Over the reals -/

/-- The Euclidean distance of two points. -/
noncomputable def euclidean (p q : Vec ℝ) : ℝ := dist (WithLp.toLp 2 p) (WithLp.toLp 2 q)

theorem euclidean_eq (p q : Vec ℝ) :
    euclidean p q = Real.sqrt (SpatialHash.distanceSquared q p) := by
  rw [euclidean, EuclideanSpace.dist_eq, Fin.sum_univ_three]
  simp only [Real.dist_eq, sq_abs]
  rfl

/-- **`nearest_distance` is the least Euclidean distance** from the query to a point,
for any points but none, any positive cell size and any query. -/
theorem nearestDistance_isLeast {points : List (Vec ℝ)} (some_point : points ≠ []) {size : ℝ}
    (positive : 0 < size) (query : Vec ℝ) : ∃ h distance,
      SpatialHash.new points size = .ok h ∧
        h.nearestDistance query Real.sqrt = .ok distance ∧
          IsLeast ((fun p => euclidean p query) '' {p | p ∈ points}) distance := by
  obtain ⟨h, made, -, holds⟩ := SpatialHash.new_holds some_point positive
  obtain ⟨best, found, ⟨p, listed, attained⟩, lower⟩ :=
    SpatialHash.nearestSquared_isLeast holds some_point query
  refine ⟨h, Real.sqrt best, made, ?_, ⟨p, listed, ?_⟩, ?_⟩
  · rw [SpatialHash.nearestDistance, found]
  · show euclidean p query = _
    rw [euclidean_eq, attained]
  · rintro _ ⟨q, listed', rfl⟩
    show _ ≤ euclidean q query
    rw [euclidean_eq]
    exact Real.sqrt_le_sqrt (lower ⟨q, listed', rfl⟩)

/-- A query far outside the only cell that holds a point. -/
theorem nearestDistance_far : ∃ h distance,
    SpatialHash.new [(![0, 0, 0] : Vec ℝ)] 1 = .ok h ∧
      h.nearestDistance ![30, 40, 0] Real.sqrt = .ok distance ∧ distance = 50 := by
  obtain ⟨h, distance, made, found, ⟨p, listed, attained⟩, -⟩ :=
    nearestDistance_isLeast (List.cons_ne_nil ![0, 0, 0] []) one_pos ![30, 40, 0]
  refine ⟨h, distance, made, found, ?_⟩
  cases List.mem_singleton.1 listed
  rw [← attained]
  show euclidean _ _ = 50
  rw [euclidean_eq, SpatialHash.distanceSquared]
  simp
  norm_num

end InstrumentBench.Geometry
