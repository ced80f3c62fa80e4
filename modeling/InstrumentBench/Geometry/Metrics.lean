/-
# Geometry.Metrics -- boxes, triangle meshes and the parts of a scene

The geometry the backend, the oracle and the scorers share.  The numbers are a
parameter: any type with the operations the code uses, so that a definition can be
read over Python's doubles and over exact numbers alike.  What is not an operator
(`float`, `isfinite`, the trigonometry of a rotation) is a `Numerics`.

A box, a mesh and a part carry what their constructors check.
-/
import InstrumentBench.Theory.Triple
import InstrumentBench.Fibsem.Scenario
import Mathlib.Data.Fin.VecNotation
import Mathlib.Algebra.Group.Pi.Basic

namespace InstrumentBench.Geometry

set_option autoImplicit false
set_option linter.unusedSectionVars false

open InstrumentBench.Theory
open InstrumentBench.Fibsem (PyError)

/-- `Vec`, by axis. -/
abbrev Vec (K : Type) := Fin 3 → K

abbrev Face := Triple Nat

/-- What the code asks of its numbers beside the operators. -/
structure Numerics (K : Type) where
  /-- `float(value)` -/
  float : PyValue → Except PyError K
  /-- `math.isfinite` -/
  isFinite : K → Bool
  /-- `math.radians`, `math.cos` and `math.sin` -/
  radians : K → K
  cos : K → K
  sin : K → K

/-- Python's doubles, over the C library's trigonometry; a text is refused, which
`float` would read as a numeral. -/
def doubles (m : Fibsem.Libm) : Numerics Float where
  float
    | .float x => .ok x
    | .int i => Fibsem.floatOfInt i
    | .bool b => .ok (if b then 1.0 else 0.0)
    | _ => .error (.typeError (txt "float() argument must be a string or a real number"))
  isFinite := Float.isFinite
  radians := Fibsem.radians
  cos := m.cos
  sin := m.sin

section

variable {K : Type} [Add K] [Sub K] [Neg K] [Mul K] [Div K] [LT K] [DecidableLT K] [LE K]
  [DecidableLE K] [OfScientific K]

/-! ## Numbers -/

/-- `finite` -/
def finite (N : Numerics K) (value : PyValue) (name : Text) : Except PyError K :=
  match value with
  | .int _ | .float _ =>
      match N.float value with
      | .error e => .error e
      | .ok x =>
          if N.isFinite x then .ok x else .error (.valueError (name ++ txt " must be finite"))
  | _ => .error (.valueError (name ++ txt " must be numeric"))

/-- `vec3` -/
def vec3 (N : Numerics K) (value : PyValue) (name : Text) : Except PyError (Vec K) :=
  match value with
  | .seq [x, y, z] => do
      let x ← finite N x name
      let y ← finite N y name
      let z ← finite N z name
      .ok ![x, y, z]
  | _ => .error (.valueError (name ++ txt " must contain three finite numbers"))

/-- `vec3` of three numbers. -/
def finiteVec (N : Numerics K) (value : Vec K) (name : Text) : Except PyError (Vec K) :=
  if ∀ axis, N.isFinite (value axis) = true then .ok value
  else .error (.valueError (name ++ txt " must be finite"))

/-- `abs` -/
def abs (x : K) : K := if x < 0.0 then -x else x

/-- `min(a, b)` -/
def pyMin (a b : K) : K := if b < a then b else a

/-- `max(a, b)` -/
def pyMax (a b : K) : K := if a < b then b else a

/-- `min` of a list that starts with `first`. -/
def least (first : K) (rest : List K) : K := rest.foldl pyMin first

/-- `max` of a list that starts with `first`. -/
def greatest (first : K) (rest : List K) : K := rest.foldl pyMax first

/-- A count as a number. -/
def count (n : Nat) : K := OfScientific.ofScientific n false 0

/-- `sum` -/
def sum (values : List K) : K := values.foldl (· + ·) 0.0

/-- `math.prod` of a vector. -/
def prod (v : Vec K) : K := v 0 * v 1 * v 2

/-- `min(v)` -/
def leastOf (v : Vec K) : K := least (v 0) [v 1, v 2]

def dot (left right : Vec K) : K :=
  sum [left 0 * right 0, left 1 * right 1, left 2 * right 2]

def cross (left right : Vec K) : Vec K :=
  ![left 1 * right 2 - left 2 * right 1, left 2 * right 0 - left 0 * right 2,
    left 0 * right 1 - left 1 * right 0]

/-! ## Boxes -/

/-- `Bounds` -/
structure Bounds (K : Type) [LT K] where
  minimum : Vec K
  maximum : Vec K
  ordered : ∀ axis, ¬maximum axis < minimum axis

namespace Bounds

/-- `Bounds(minimum, maximum)` -/
def new (minimum maximum : Vec K) : Except PyError (Bounds K) :=
  if ordered : ∀ axis, ¬maximum axis < minimum axis then .ok ⟨minimum, maximum, ordered⟩
  else PyError.value "bounds maximum is below minimum"

def size (b : Bounds K) : Vec K := b.maximum - b.minimum

/-- `overlaps`, with its default padding. -/
def overlaps (b other : Bounds K) : Prop :=
  ∀ axis, b.minimum axis ≤ other.maximum axis + 0.0 ∧ other.minimum axis ≤ b.maximum axis + 0.0

instance (b other : Bounds K) : Decidable (b.overlaps other) :=
  inferInstanceAs (Decidable (∀ _, _))

/-- `_bounds_center` -/
def center (b : Bounds K) : Vec K := fun axis => (b.minimum axis + b.maximum axis) / 2.0

/-- `_bounds_volume` -/
def volume (b : Bounds K) : K := prod b.size

/-- The box of an extent around a center. -/
def around (center extent : Vec K) : Except PyError (Bounds K) :=
  new (fun axis => center axis - extent axis / 2.0) (fun axis => center axis + extent axis / 2.0)

end Bounds

/-! ## Meshes -/

/-- `TriangleMesh`: its faces are triples of its own vertices. -/
structure TriangleMesh (K : Type) where
  size : Nat
  vertices : Fin size → Vec K
  faces : List (Triple (Fin size))
  three : 3 ≤ size
  nonempty : faces ≠ []
  proper : ∀ face ∈ faces, face.Proper

namespace TriangleMesh

/-- `vec3` of every vertex, which the constructor makes. -/
def checked (N : Numerics K) (m : TriangleMesh K) : Except PyError (TriangleMesh K) :=
  if ∀ i axis, N.isFinite (m.vertices i axis) = true then .ok m
  else .error (.valueError (txt "mesh vertex must be finite"))

def first (m : TriangleMesh K) : Fin m.size := ⟨0, by have := m.three; omega⟩

/-- The coordinates of the vertices on an axis. -/
def coordinates (m : TriangleMesh K) (axis : Fin 3) : List K :=
  List.ofFn fun i => m.vertices i axis

/-- `bounds` -/
def bounds (m : TriangleMesh K) : Except PyError (Bounds K) :=
  Bounds.new (fun axis => least (m.vertices m.first axis) (m.coordinates axis).tail)
    (fun axis => greatest (m.vertices m.first axis) (m.coordinates axis).tail)

def triangles (m : TriangleMesh K) : List (Triple (Vec K)) := m.faces.map (Triple.map m.vertices)

/-- `volume_um3` -/
def volume (m : TriangleMesh K) : K :=
  abs (m.triangles.foldl (fun signed t => signed + dot t.first (cross t.second t.third) / 6.0) 0.0)

def centroid (m : TriangleMesh K) : Vec K :=
  fun axis => sum (m.coordinates axis) / count m.size

/-- The mesh with every vertex moved. -/
def translate (m : TriangleMesh K) (delta : Vec K) : TriangleMesh K :=
  { m with vertices := fun i => m.vertices i + delta }

@[simp] theorem translate_size (m : TriangleMesh K) (delta : Vec K) :
    (m.translate delta).size = m.size := rfl

@[simp] theorem translate_faces (m : TriangleMesh K) (delta : Vec K) :
    (m.translate delta).faces = m.faces := rfl

@[simp] theorem translate_vertices (m : TriangleMesh K) (delta : Vec K) (i : Fin m.size) :
    (m.translate delta).vertices i = m.vertices i + delta := rfl

end TriangleMesh

/-- The twelve faces of a box. -/
def boxFaces : List (Triple (Fin 8)) :=
  [⟨0, 2, 1⟩, ⟨0, 3, 2⟩, ⟨4, 5, 6⟩, ⟨4, 6, 7⟩, ⟨0, 1, 5⟩, ⟨0, 5, 4⟩, ⟨3, 7, 6⟩, ⟨3, 6, 2⟩,
   ⟨0, 4, 7⟩, ⟨0, 7, 3⟩, ⟨1, 2, 6⟩, ⟨1, 6, 5⟩]

/-- The mesh between two corners. -/
def cornerMesh (low high : Vec K) : TriangleMesh K where
  size := 8
  vertices := ![![low 0, low 1, low 2], ![high 0, low 1, low 2], ![high 0, high 1, low 2],
    ![low 0, high 1, low 2], ![low 0, low 1, high 2], ![high 0, low 1, high 2],
    ![high 0, high 1, high 2], ![low 0, high 1, high 2]]
  faces := boxFaces
  three := by decide
  nonempty := by decide
  proper := by decide

/-- `box_mesh` -/
def boxMesh (N : Numerics K) (center size : Vec K) : Except PyError (TriangleMesh K) := do
  let center ← finiteVec N center (txt "box center")
  let size ← finiteVec N size (txt "box size")
  if leastOf size ≤ 0.0 then PyError.value "box size must be positive"
  else
    (cornerMesh (fun axis => center axis - size axis / 2.0)
      (fun axis => center axis + size axis / 2.0)).checked N

/-! ## Parts -/

inductive Role where
  | source
  | sample
  | needle
  | target
  | deposition
  | coupon
deriving DecidableEq, Repr

/-- `MeshPart` -/
structure MeshPart (K : Type) where
  name : Text
  role : Role
  mesh : TriangleMesh K
  purpose : Option Text
  named : name ≠ []
  purposed : role = .deposition → purpose.getD [] ≠ []

theorem named_sample : txt "sample" ≠ [] := by decide

/-- `MeshPart(name, role, mesh, purpose)` -/
def MeshPart.new (name : Text) (role : Role) (mesh : TriangleMesh K)
    (purpose : Option Text) : Except PyError (MeshPart K) :=
  if named : name ≠ [] then
    if purposed : role = .deposition → purpose.getD [] ≠ [] then
      .ok ⟨name, role, mesh, purpose, named, purposed⟩
    else PyError.value "deposition mesh requires a purpose"
  else PyError.value "mesh part identity is invalid"

/-- `PoseState` -/
structure PoseState (K : Type) where
  position : Vec K
  orientation : Vec K

/-- `PoseState(position, orientation)` -/
def PoseState.new (N : Numerics K) (position orientation : Vec K) : Except PyError (PoseState K) :=
  do
    let position ← finiteVec N position (txt "pose position")
    let orientation ← finiteVec N orientation (txt "pose orientation")
    .ok ⟨position, orientation⟩

inductive ChangeKind where
  | cut
  | deposition
deriving DecidableEq, Repr

/-- `MaterialChange` -/
structure MaterialChange (K : Type) [LT K] where
  operation : ChangeKind
  purpose : Text
  bounds : Bounds K
  signedVolume : K

/-- `MaterialChange(operation, purpose, bounds, signed_volume_um3)` -/
def MaterialChange.new (N : Numerics K) (operation : ChangeKind) (purpose : Text)
    (bounds : Bounds K) (volume : K) : Except PyError (MaterialChange K) :=
  if N.isFinite volume = false then
    .error (.valueError (txt "signed material volume must be finite"))
  else if operation = .cut ∧ 0.0 ≤ volume ∨ operation = .deposition ∧ volume ≤ 0.0 then
    PyError.value "material change signed volume is invalid"
  else .ok ⟨operation, purpose, bounds, volume⟩

/-- `SceneSnapshot` -/
structure SceneSnapshot (K : Type) [LT K] where
  checkpointId : Text
  parts : List (MeshPart K)
  poses : List (Text × PoseState K)
  plannedSampleVolume : K
  materialChanges : List (MaterialChange K)
  needleInserted : Bool
  activeOperation : Bool
  collision : Bool

/-- `SceneSnapshot.__post_init__` -/
def SceneSnapshot.checked (N : Numerics K) (s : SceneSnapshot K) :
    Except PyError (SceneSnapshot K) :=
  if s.checkpointId ∉ [txt "step_1", txt "step_2", txt "step_3", txt "step_4"] then
    PyError.value "checkpoint ID is invalid"
  else if s.parts = [] ∨ ¬(s.parts.map MeshPart.name).Nodup then
    PyError.value "scene part names must be non-empty and unique"
  else if N.isFinite s.plannedSampleVolume = false then
    .error (.valueError (txt "planned sample volume must be finite"))
  else if s.plannedSampleVolume ≤ 0.0 then
    PyError.value "planned sample volume must be positive"
  else .ok s

end

end InstrumentBench.Geometry
