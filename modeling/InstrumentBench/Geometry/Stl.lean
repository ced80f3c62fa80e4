/-
# Geometry.Stl -- reading an STL file into a canonical mesh

`parse_stl` over any numbers: the format guess, the binary and the ASCII reader, the
welding of vertices on a lattice, the removal of degenerate facets, the numbering of
the vertices and the rotation and sorting of the faces, and the evidence it reports of
the mesh.  What the code asks of its numbers beside the operators is an `StlNumbers`.
-/
import InstrumentBench.Geometry.Metrics
import InstrumentBench.Theory.PyDict
import InstrumentBench.Theory.PyText
import InstrumentBench.Theory.Sha256
import InstrumentBench.Theory.Stateful
import InstrumentBench.Theory.UnionFind

namespace InstrumentBench.Geometry.Stl

set_option autoImplicit false
set_option linter.unusedSectionVars false

open InstrumentBench.Theory
open InstrumentBench.Fibsem (PyError)

/-- `raise StlError(message)` -/
def stlError {α : Type} (message : String) : Except PyError α :=
  .error (.other (txt "StlError") (txt message))

/-- What the code asks of its numbers beside the operators. -/
structure StlNumbers (K : Type) where
  /-- The number a `<f` word holds; `none` is an infinity or no number. -/
  float32 : UInt32 → Option K
  /-- `float(text)`: `none` is the `ValueError`, `some none` an infinity or no number. -/
  float : Text → Option (Option K)
  /-- `math.isfinite` -/
  isFinite : K → Bool
  /-- `math.floor`, `math.ceil` and `math.sqrt` -/
  floor : K → Except PyError Int
  ceil : K → Except PyError Int
  sqrt : K → Except PyError K
  /-- An `int` as an operand. -/
  ofInt : Int → Except PyError K
  /-- `struct.pack("<d", value)` -/
  packed : K → Bytes

/-- `StlLimits` -/
structure StlLimits (K : Type) where
  maximumFileBytes : Nat
  maximumTriangles : Nat
  maximumInputVertices : Nat
  maximumWeldedVertices : Nat
  maximumCoordinateAbs : K
  positive : 0 < maximumFileBytes ∧ 0 < maximumTriangles ∧ 0 < maximumInputVertices ∧
    0 < maximumWeldedVertices

/-- `StlLimits()` -/
def StlLimits.default {K : Type} [OfScientific K] : StlLimits K where
  maximumFileBytes := 64 * 1024 * 1024
  maximumTriangles := 1000000
  maximumInputVertices := 3000000
  maximumWeldedVertices := 1000000
  maximumCoordinateAbs := 1000000.0
  positive := by decide

/-- A lattice point: the key of a welded vertex. -/
abbrev WeldKey := Triple Int

/-! ## Text -/

/-- `str.split()` of ASCII text. -/
def words (t : Text) : List Text := (t.splitOnP PyText.isSpace).filter fun word => word ≠ []

/-- What `str.splitlines()` splits at in ASCII text. -/
def isLineBreak (c : CodePoint) : Bool := (10 ≤ c.val && c.val ≤ 13) || (28 ≤ c.val && c.val ≤ 30)

/-- `[line.strip() for line in text.splitlines() if line.strip()]` -/
def stlLines (t : Text) : List Text :=
  ((t.splitOnP isLineBreak).map PyText.strip).filter fun line => line ≠ []

/-! ## Words of a file -/

/-- `struct.unpack_from("<I", payload, offset)`, of enough bytes. -/
def wordAt (payload : Bytes) (offset : Nat) : UInt32 :=
  let byte (k : Nat) := ((payload.drop offset).getD k 0).toUInt32
  byte 0 ||| (byte 1 <<< 8) ||| (byte 2 <<< 16) ||| (byte 3 <<< 24)

/-- An unsigned integer in `width` bytes, the lowest first. -/
def littleEndian : Nat → Nat → Bytes
  | 0, _ => []
  | width + 1, n => UInt8.ofNat (n % 256) :: littleEndian width (n / 256)

section

variable {K : Type} [Add K] [Sub K] [Neg K] [Mul K] [Div K] [LT K] [DecidableLT K] [LE K]
  [DecidableLE K] [OfScientific K]

/-! ## Reading the facets -/

/-- `_validated_coordinate` -/
def validatedCoordinate (limits : StlLimits K) (value : Option K) : Except PyError K :=
  match value with
  | none => stlError "STL coordinates must be finite"
  | some x =>
      if limits.maximumCoordinateAbs < abs x then
        stlError "STL coordinate exceeds the scoring contract"
      else .ok x

/-- `tuple(f(axis) for axis in range(3))` -/
def axesM {β : Type} (f : Fin 3 → Except PyError β) : Except PyError (Fin 3 → β) := do
  let x ← f 0
  let y ← f 1
  let z ← f 2
  .ok ![x, y, z]

/-- The three vertices of the binary record a payload starts with. -/
def binaryRecord (N : StlNumbers K) (limits : StlLimits K) (record : Bytes) :
    Except PyError (Triple (Vec K)) :=
  if record.length < 50 then
    .error (.other (txt "struct.error") (txt "unpack_from requires a buffer of at least 50 bytes"))
  else
    (Triple.mk 0 1 2 : Triple Nat).mapM fun vertex =>
      axesM fun axis =>
        validatedCoordinate limits (N.float32 (wordAt record (12 + 12 * vertex + 4 * axis.val)))

def binaryRecords (N : StlNumbers K) (limits : StlLimits K) :
    Nat → Bytes → Except PyError (List (Triple (Vec K)))
  | 0, _ => .ok []
  | n + 1, payload => do
      let triangle ← binaryRecord N limits payload
      let rest ← binaryRecords N limits n (payload.drop 50)
      .ok (triangle :: rest)

/-- `_parse_binary` -/
def parseBinary (N : StlNumbers K) (limits : StlLimits K) (payload : Bytes) :
    Except PyError (List (Triple (Vec K))) :=
  let count := (wordAt payload 80).toNat
  if limits.maximumTriangles < count then stlError "STL triangle count exceeds the resource limit"
  else if limits.maximumInputVertices < count * 3 then
    stlError "STL input vertex count exceeds the resource limit"
  else binaryRecords N limits count (payload.drop 84)

/-- `float(value)` inside the `try`. -/
def asciiNumber (N : StlNumbers K) (text : Text) : Except PyError (Option K) :=
  match N.float text with
  | none => stlError "invalid numeric value in ASCII STL"
  | some value => .ok value

def finiteNormal (N : StlNumbers K) (text : Text) : Except PyError Unit := do
  match ← asciiNumber N text with
  | none => stlError "ASCII STL normals must be finite"
  | some _ => .ok ()

/-- The line `facet normal x y z`. -/
def facetLine (N : StlNumbers K) (line : Text) : Except PyError Unit :=
  match words line with
  | [facet, normal, x, y, z] =>
      if PyText.lower facet = txt "facet" ∧ PyText.lower normal = txt "normal" then do
        finiteNormal N x
        finiteNormal N y
        finiteNormal N z
      else stlError "invalid ASCII STL facet"
  | _ => stlError "invalid ASCII STL facet"

/-- A line of one fixed text. -/
def fixedLine (expected message : String) (lines : List Text) : Except PyError (List Text) :=
  match lines with
  | [] => stlError message
  | line :: rest => if PyText.lower line = txt expected then .ok rest else stlError message

/-- The line `vertex x y z`. -/
def vertexLine (N : StlNumbers K) (limits : StlLimits K) (lines : List Text) :
    Except PyError (Vec K × List Text) :=
  match lines with
  | [] => stlError "invalid ASCII STL vertex list"
  | line :: rest =>
      match words line with
      | [vertex, x, y, z] =>
          if PyText.lower vertex = txt "vertex" then do
            let point ← axesM fun axis => do
              validatedCoordinate limits (← asciiNumber N (![x, y, z] axis))
            .ok (point, rest)
          else stlError "invalid ASCII STL vertex"
      | _ => stlError "invalid ASCII STL vertex"

/-- The seven lines of a facet, of which the first is at hand. -/
def asciiFacet (N : StlNumbers K) (limits : StlLimits K) (line : Text) (lines : List Text) :
    Except PyError (Triple (Vec K) × List Text) := do
  facetLine N line
  let lines ← fixedLine "outer loop" "invalid ASCII STL outer loop" lines
  let (first, lines) ← vertexLine N limits lines
  let (second, lines) ← vertexLine N limits lines
  let (third, lines) ← vertexLine N limits lines
  let lines ← fixedLine "endloop" "invalid ASCII STL endloop" lines
  let lines ← fixedLine "endfacet" "invalid ASCII STL endfacet" lines
  .ok (⟨first, second, third⟩, lines)

/-- The facets of the lines between `solid` and `endsolid`, after `done` others; every
facet takes lines, so their number is fuel enough. -/
def asciiFacets (N : StlNumbers K) (limits : StlLimits K) :
    Nat → Nat → List Text → Except PyError (List (Triple (Vec K)))
  | fuel + 1, done, line :: lines => do
      let (triangle, lines) ← asciiFacet N limits line lines
      if limits.maximumTriangles < done + 1 then
        stlError "ASCII STL triangle count exceeds the resource limit"
      else if limits.maximumInputVertices < (done + 1) * 3 then
        stlError "ASCII STL input vertex count exceeds the resource limit"
      else
        let rest ← asciiFacets N limits fuel (done + 1) lines
        .ok (triangle :: rest)
  | _, _, _ => .ok []

/-- The lines between the first and the last. -/
def bodyLines (lines : List Text) : List Text := lines.tail.dropLast

/-- `_parse_ascii` -/
def parseAscii (N : StlNumbers K) (limits : StlLimits K) (payload : Bytes) :
    Except PyError (List (Triple (Vec K))) :=
  match decodeAscii payload with
  | none => stlError "invalid STL encoding"
  | some text =>
      let lines := stlLines text
      if lines.length < 2 ∨ ¬txt "solid" <+: PyText.lower (lines.headD []) then
        stlError "invalid STL: neither canonical binary nor ASCII STL"
      else if ¬txt "endsolid" <+: PyText.lower (lines.getLastD []) then
        stlError "invalid ASCII STL: missing endsolid"
      else do
        let body := bodyLines lines
        let triangles ← asciiFacets N limits body.length 0 body
        if triangles.isEmpty then stlError "invalid ASCII STL: no triangles" else .ok triangles

/-! ## Welding -/

/-- `_weld_index` -/
def weldIndex (N : StlNumbers K) (value epsilon : K) : Except PyError Int :=
  let scaled := value / epsilon
  if 0.0 ≤ scaled then N.floor (scaled + 0.5) else N.ceil (scaled - 0.5)

def weldKey (N : StlNumbers K) (epsilon : K) (vertex : Vec K) : Except PyError WeldKey := do
  let x ← weldIndex N (vertex 0) epsilon
  let y ← weldIndex N (vertex 1) epsilon
  let z ← weldIndex N (vertex 2) epsilon
  .ok ⟨x, y, z⟩

/-- `0.0 if index == 0 else index * weld_epsilon_um` -/
def latticeCoordinate (N : StlNumbers K) (epsilon : K) (index : Int) : Except PyError K :=
  if index = 0 then .ok 0.0 else do
    let x ← N.ofInt index
    .ok (x * epsilon)

/-- The coordinate of a key. -/
def latticePoint (N : StlNumbers K) (epsilon : K) (key : WeldKey) : Except PyError (Vec K) := do
  let x ← latticeCoordinate N epsilon key.first
  let y ← latticeCoordinate N epsilon key.second
  let z ← latticeCoordinate N epsilon key.third
  .ok ![x, y, z]

/-- The key of a vertex and the coordinate it is welded to. -/
def weldVertex (N : StlNumbers K) (epsilon : K) (vertex : Vec K) :
    Except PyError (WeldKey × Vec K) := do
  let key ← weldKey N epsilon vertex
  let coordinate ← latticePoint N epsilon key
  .ok (key, coordinate)

/-- `welded_coordinates` after every vertex. -/
def weldedCoordinates (welded : List (Triple (WeldKey × Vec K))) : List (WeldKey × Vec K) :=
  PyDict.setdefaults (welded.flatMap Triple.toList)

/-- `welded_coordinates[key]` -/
def coordinateOf (coordinates : List (WeldKey × Vec K)) (key : WeldKey) : Except PyError (Vec K) :=
  match coordinates.lookup key with
  | some point => .ok point
  | none => .error (.keyError [])

/-- `_cross_length` -/
def crossLength (N : StlNumbers K) (points : Triple (Vec K)) : Except PyError K :=
  let left := points.second - points.first
  let right := points.third - points.first
  let product := cross left right
  N.sqrt (sum [product 0 * product 0, product 1 * product 1, product 2 * product 2])

/-- A keyed facet and whether it is degenerate. -/
def judge (N : StlNumbers K) (epsilon : K) (coordinates : List (WeldKey × Vec K))
    (keys : Triple WeldKey) : Except PyError (Triple WeldKey × Bool) := do
  let points ← keys.mapM (coordinateOf coordinates)
  if keys.Proper then
    let length ← crossLength N points
    .ok (keys, decide (length ≤ epsilon * epsilon))
  else .ok (keys, true)

/-! ## Faces -/

/-- `_canonical_cycle` -/
def canonicalCycle (face : Face) : Face := min (min face face.rotate) face.rotate.rotate

/-- `sorted({key for face in faces for key in face})` -/
def usedKeys (faces : List (Triple WeldKey)) : List WeldKey :=
  (faces.flatMap Triple.toList).dedup.insertionSort (· ≤ ·)

/-- The faces by the places of their keys, rotated and sorted. -/
def canonicalFaces (used : List WeldKey) (faces : List (Triple WeldKey)) : List Face :=
  (faces.map fun face => canonicalCycle (face.map used.idxOf)).insertionSort (· ≤ ·)

/-- What `TriangleMesh` finds wrong with a face. -/
def faceError (size : Nat) (face : Face) : Option String :=
  if ∃ index ∈ face.toList, size ≤ index then some "mesh face index is out of range"
  else if ¬face.Proper then some "mesh face is degenerate" else none

/-- A face of indices that are in range. -/
def inRange (size : Nat) (face : Face) (ok : faceError size face = none) : Triple (Fin size) :=
  have bound : ∀ index ∈ face.toList, index < size := by
    intro index member
    by_contra beyond
    unfold faceError at ok
    rw [if_pos ⟨index, member, Nat.not_lt.1 beyond⟩] at ok
    cases ok
  ⟨⟨face.first, bound _ (by simp)⟩, ⟨face.second, bound _ (by simp)⟩,
    ⟨face.third, bound _ (by simp)⟩⟩

theorem inRange_val {size : Nat} {face : Face} (ok : faceError size face = none) :
    (inRange size face ok).map Fin.val = face := rfl

theorem inRange_proper {size : Nat} {face : Face} (ok : faceError size face = none) :
    (inRange size face ok).Proper := by
  have proper : face.Proper := by
    by_contra improper
    unfold faceError at ok
    rw [if_pos improper] at ok
    split at ok <;> cases ok
  rw [Triple.proper_iff] at proper ⊢
  exact ⟨fun same => proper.1 (congrArg Fin.val same),
    fun same => proper.2.1 (congrArg Fin.val same), fun same => proper.2.2 (congrArg Fin.val same)⟩

/-- `TriangleMesh(vertices, faces)` -/
def newMesh (N : StlNumbers K) (vertices : List (Vec K)) (faces : List Face) :
    Except PyError (TriangleMesh K) :=
  if ¬∀ vertex ∈ vertices, ∀ axis, N.isFinite (vertex axis) = true then
    .error (.valueError (txt "mesh vertex must be finite"))
  else if small : vertices.length < 3 ∨ faces = [] then
    PyError.value "mesh must contain vertices and faces"
  else
    match wrong : faces.findSome? (faceError vertices.length) with
    | some message => PyError.value message
    | none =>
        have fine := List.findSome?_eq_none_iff.1 wrong
        .ok {
          size := vertices.length
          vertices := vertices.get
          faces := faces.pmap (inRange vertices.length) fine
          three := by omega
          nonempty := by
            intro empty
            exact small (Or.inr (List.pmap_eq_nil_iff.1 empty))
          proper := by
            intro face member
            obtain ⟨index, listed, rfl⟩ := List.mem_pmap.1 member
            exact inRange_proper (fine index listed) }

/-! ## Evidence -/

/-- `tuple(sorted((a, b)))` -/
def edge (a b : Nat) : Nat × Nat := if b < a then (b, a) else (a, b)

def faceEdges (face : Face) : List (Nat × Nat) :=
  [edge face.first face.second, edge face.second face.third, edge face.third face.first]

/-- The edges that `edge_counts` counts. -/
def meshEdges (faces : List Face) : List (Nat × Nat) := faces.flatMap faceEdges

def nonManifoldEdgeCount (faces : List Face) : Nat :=
  ((meshEdges faces).dedup.filter fun e => 2 < (meshEdges faces).count e).length

def watertight (faces : List Face) : Bool :=
  !(meshEdges faces).isEmpty && (meshEdges faces).all fun e => (meshEdges faces).count e = 2

/-- `_component_count` -/
def componentCount (size : Nat) (faces : List (Triple (Fin size))) : Nat :=
  (UnionFind.roots
    (UnionFind.join id (faces.flatMap fun face =>
      [(face.first, face.second), (face.second, face.third)]))
    (List.finRange size)).card

/-- `_canonical_digest` -/
def canonicalDigest (N : StlNumbers K) (mesh : TriangleMesh K) : Text :=
  hexdigest (littleEndian 8 mesh.size ++
    (List.finRange mesh.size).flatMap (fun i =>
      N.packed (mesh.vertices i 0) ++ N.packed (mesh.vertices i 1) ++ N.packed (mesh.vertices i 2)) ++
    littleEndian 8 mesh.faces.length ++
    mesh.faces.flatMap fun face => face.toList.flatMap fun index => littleEndian 8 index.val)

/-- `MeshEvidence` -/
structure MeshEvidence (K : Type) [LT K] where
  fileSha256 : Text
  canonicalGeometrySha256 : Text
  triangleCount : Nat
  vertexCount : Nat
  connectedComponentCount : Nat
  watertight : Bool
  nonManifoldEdgeCount : Nat
  degenerateTriangleCount : Nat
  bounds : Bounds K
  volume : K
  surfaceArea : K
  centroid : Vec K

/-- `CanonicalMesh` -/
structure CanonicalMesh (K : Type) [LT K] where
  mesh : TriangleMesh K
  evidence : MeshEvidence K

/-- The canonical mesh of welded vertices and canonical faces. -/
def canonicalMesh (N : StlNumbers K) (fileSha256 : Text) (degenerate : Nat)
    (vertices : List (Vec K)) (faces : List Face) : Except PyError (CanonicalMesh K) := do
  let mesh ← newMesh N vertices faces
  let lengths ← mesh.triangles.mapM (crossLength N)
  let bounds ← mesh.bounds
  .ok {
    mesh
    evidence := {
      fileSha256
      canonicalGeometrySha256 := canonicalDigest N mesh
      triangleCount := faces.length
      vertexCount := vertices.length
      connectedComponentCount := componentCount mesh.size mesh.faces
      watertight := watertight faces
      nonManifoldEdgeCount := nonManifoldEdgeCount faces
      degenerateTriangleCount := degenerate
      bounds
      volume := mesh.volume
      surfaceArea := sum (lengths.map fun length => length / 2.0)
      centroid := mesh.centroid } }

/-! ## Parsing -/

/-- The checks of a payload before its bytes are read. -/
def checkSize (limits : StlLimits K) (payload : Bytes) : Except PyError Unit :=
  if payload = [] then stlError "STL file is empty"
  else if limits.maximumFileBytes < payload.length then
    stlError "STL file size exceeds the resource limit"
  else .ok ()

/-- The length is the one a binary file declares. -/
def isBinary (payload : Bytes) : Bool :=
  84 ≤ payload.length && 84 + (wordAt payload 80).toNat * 50 = payload.length

/-- The facets of either format. -/
def readTriangles (N : StlNumbers K) (limits : StlLimits K) (payload : Bytes) :
    Except PyError (List (Triple (Vec K))) :=
  if isBinary payload then parseBinary N limits payload else parseAscii N limits payload

/-- The part of `parse_stl` after the facets are read. -/
def canonicalise (N : StlNumbers K) (limits : StlLimits K) (epsilon : K) (fileSha256 : Text)
    (triangles : List (Triple (Vec K))) : Except PyError (CanonicalMesh K) := do
  let welded ← triangles.mapM (Triple.mapM (weldVertex N epsilon))
  let coordinates := weldedCoordinates welded
  if limits.maximumWeldedVertices < coordinates.length then
    stlError "STL welded vertex count exceeds the resource limit"
  else
    let judged ← (welded.map (Triple.map Prod.fst)).mapM (judge N epsilon coordinates)
    let valid := (judged.filter fun facet => !facet.2).map Prod.fst
    if valid.isEmpty then stlError "STL contains no non-degenerate triangles"
    else
      let used := usedKeys valid
      let vertices ← used.mapM (coordinateOf coordinates)
      canonicalMesh N fileSha256 (judged.countP fun facet => facet.2) vertices
        (canonicalFaces used valid)

/-- `parse_stl` -/
def parseStl (N : StlNumbers K) (limits : StlLimits K) (epsilon : K) (payload : Bytes) :
    Except PyError (CanonicalMesh K) := do
  checkSize limits payload
  if N.isFinite epsilon = false ∨ epsilon ≤ 0.0 then
    PyError.value "STL weld epsilon must be positive and finite"
  else
    let triangles ← readTriangles N limits payload
    canonicalise N limits epsilon (hexdigest payload) triangles

end

/-! ## Doubles -/

/-- `math.floor` -/
def floatFloor (x : Float) : Except PyError Int :=
  match x.toModel.unpack with
  | .finite s m e _ =>
      let n : Int := if signBit s then -m else m
      .ok (n * 2 ^ e.toNat / 2 ^ (-e).toNat)
  | .zero _ => .ok 0
  | .infinity _ =>
      .error (.other (txt "OverflowError") (txt "cannot convert float infinity to integer"))
  | .notANumber => PyError.value "cannot convert float NaN to integer"

/-- `math.ceil` -/
def floatCeil (x : Float) : Except PyError Int :=
  match x.toModel.unpack with
  | .finite s m e _ =>
      let n : Int := if signBit s then -m else m
      .ok (-(-(n * 2 ^ e.toNat) / 2 ^ (-e).toNat))
  | .zero _ => .ok 0
  | .infinity _ =>
      .error (.other (txt "OverflowError") (txt "cannot convert float infinity to integer"))
  | .notANumber => PyError.value "cannot convert float NaN to integer"

/-- Python's doubles. -/
def stlDoubles : StlNumbers Float where
  float32 word :=
    let x := (Float32.ofBits word).toFloat
    if x.isFinite then some x else none
  float text := (PyText.float? text).map fun x => if x.isFinite then some x else none
  isFinite := Float.isFinite
  floor := floatFloor
  ceil := floatCeil
  sqrt x := if x < 0.0 then PyError.value "math domain error" else .ok x.sqrt
  ofInt := Fibsem.floatOfInt
  packed x := littleEndian 8 x.toBits.toNat

end InstrumentBench.Geometry.Stl
