/-
# Geometry.StlTotal -- on doubles only an StlError is raised

Beside its `StlError`s the code could raise where a number overflows, a root is negative, a
key is missing or the mesh it built is refused.  On doubles, with the default limits, none of
these happens: a coordinate within the limit stays finite through welding
(`meets_weldVertex`), what is rooted is a sum of squares (`meets_crossLength`), every key
asked for was welded (`meets_judge`) and the canonical mesh is in order
(`meets_newMesh`).
-/
import InstrumentBench.Geometry.StlEvidence
import InstrumentBench.Theory.Binary64Bounds
import InstrumentBench.Theory.Outcomes

namespace InstrumentBench.Geometry.Stl

set_option autoImplicit false

open InstrumentBench.Theory
open InstrumentBench.Theory.Binary64
open InstrumentBench.Fibsem (PyError)

/-- An `StlError`, with one of its messages. -/
def IsStlError (e : PyError) : Prop := ∃ message : String, e = .other (txt "StlError") (txt message)

theorem meets_stlError {α : Type} (P : α → Prop) (message : String) :
    Meets IsStlError P (stlError message) := ⟨message, rfl⟩

/-! ## Reading -/

/-- The limit of a coordinate, and the sizes it brings. -/
theorem low_limit : Low (-33) (1000000.0 : Float) := by decide

theorem meets_validatedCoordinate {value : Option Float}
    (finite : ∀ x, value = some x → x.isFinite = true) :
    Meets IsStlError (Low (-33)) (validatedCoordinate StlLimits.default value) := by
  cases value with
  | none => exact meets_stlError _ _
  | some x =>
      refine Meets.ite (fun _ => meets_stlError _ _) fun within => ?_
      have known := finite x rfl
      show Low (-33) x
      have size : ¬(1000000.0 : Float) < abs x := within
      unfold abs at size
      split at size
      case isTrue negative => exact low_of_between_neg known low_limit (by decide) negative size
      case isFalse above => exact low_of_between known low_limit (by decide) above size

/-- A vertex whose coordinates are within the limit. -/
def LowVertex (B : Int) (vertex : Vec Float) : Prop := ∀ axis, Low B (vertex axis)

def LowTriangle (B : Int) (triangle : Triple (Vec Float)) : Prop :=
  ∀ vertex ∈ triangle.toList, LowVertex B vertex

theorem meets_axesM {E : PyError → Prop} {β : Type} {P : β → Prop} {f : Fin 3 → Except PyError β}
    (each : ∀ axis, Meets E P (f axis)) : Meets E (fun v => ∀ axis, P (v axis)) (axesM f) := by
  refine (each 0).bind fun x _ first => ?_
  refine (each 1).bind fun y _ second => ?_
  refine (each 2).bind fun z _ third => ?_
  intro axis
  fin_cases axis
  · exact first
  · exact second
  · exact third

theorem float32_isFinite {word : UInt32} {x : Float} (read : stlDoubles.float32 word = some x) :
    x.isFinite = true := by
  have made : (if (Float32.ofBits word).toFloat.isFinite then
      some (Float32.ofBits word).toFloat else none) = some x := read
  split at made
  case isTrue finite =>
      cases made
      exact finite
  case isFalse => cases made

theorem float_isFinite {text : Text} {x : Float} (read : stlDoubles.float text = some (some x)) :
    x.isFinite = true := by
  have made : ((PyText.float? text).map fun y => if y.isFinite then some y else none) =
      some (some x) := read
  obtain ⟨y, -, checked⟩ := Option.map_eq_some_iff.1 made
  split at checked
  case isTrue finite =>
      cases checked
      exact finite
  case isFalse => cases checked

theorem meets_binaryRecords {n : Nat} {payload : Bytes} (enough : n * 50 ≤ payload.length) :
    Meets IsStlError (fun triangles => ∀ triangle ∈ triangles, LowTriangle (-33) triangle)
      (binaryRecords stlDoubles StlLimits.default n payload) := by
  induction n generalizing payload with
  | zero =>
      intro triangle listed
      cases listed
  | succ n ih =>
      have record : Meets IsStlError (LowTriangle (-33))
          (binaryRecord stlDoubles StlLimits.default payload) := by
        unfold binaryRecord
        rw [if_neg (by omega)]
        refine Meets.tripleMapM fun vertex _ => meets_axesM fun axis => ?_
        exact meets_validatedCoordinate fun x read => float32_isFinite read
      refine record.bind fun triangle _ here => ?_
      have rest : n * 50 ≤ (payload.drop 50).length := by
        rw [List.length_drop]
        omega
      refine (ih rest).bind fun triangles _ later => ?_
      intro other listed
      rcases List.mem_cons.1 listed with rfl | listed
      · exact here
      · exact later other listed

theorem meets_parseBinary {payload : Bytes} (binary : isBinary payload = true) :
    Meets IsStlError (fun triangles => ∀ triangle ∈ triangles, LowTriangle (-33) triangle)
      (parseBinary stlDoubles StlLimits.default payload) := by
  obtain ⟨-, declared⟩ := Bool.and_eq_true_iff.1 binary
  have length := of_decide_eq_true declared
  refine Meets.ite (fun _ => meets_stlError _ _) fun _ => ?_
  refine Meets.ite (fun _ => meets_stlError _ _) fun _ => meets_binaryRecords ?_
  rw [List.length_drop]
  omega

theorem meets_asciiNumber (text : Text) :
    Meets IsStlError (fun value => ∀ x, value = some x → x.isFinite = true)
      (asciiNumber stlDoubles text) := by
  unfold asciiNumber
  cases read : stlDoubles.float text with
  | none => exact meets_stlError _ _
  | some value =>
      intro x here
      rw [here] at read
      exact float_isFinite read

theorem meets_finiteNormal (text : Text) :
    Meets IsStlError (fun _ => True) (finiteNormal stlDoubles text) := by
  refine (meets_asciiNumber text).bind fun value _ _ => ?_
  cases value with
  | none => exact meets_stlError _ _
  | some x => trivial

theorem meets_facetLine (line : Text) :
    Meets IsStlError (fun _ => True) (facetLine stlDoubles line) := by
  unfold facetLine
  split
  · refine Meets.ite (fun _ => ?_) fun _ => meets_stlError _ _
    refine (meets_finiteNormal _).bind fun _ _ _ => ?_
    refine (meets_finiteNormal _).bind fun _ _ _ => ?_
    exact meets_finiteNormal _
  · exact meets_stlError _ _

theorem meets_fixedLine (expected message : String) (lines : List Text) :
    Meets IsStlError (fun _ => True) (fixedLine expected message lines) := by
  unfold fixedLine
  split
  · exact meets_stlError _ _
  · exact Meets.ite (fun _ => trivial) fun _ => meets_stlError _ _

theorem meets_vertexLine (lines : List Text) :
    Meets IsStlError (fun read => LowVertex (-33) read.1)
      (vertexLine stlDoubles StlLimits.default lines) := by
  unfold vertexLine
  split
  · exact meets_stlError _ _
  split
  · refine Meets.ite (fun _ => ?_) fun _ => meets_stlError _ _
    refine Meets.bind (P := LowVertex (-33)) (meets_axesM fun axis => ?_) fun point _ low => low
    exact (meets_asciiNumber _).bind fun value _ finite => meets_validatedCoordinate finite
  · exact meets_stlError _ _

theorem meets_asciiFacet (line : Text) (lines : List Text) :
    Meets IsStlError (fun read => LowTriangle (-33) read.1)
      (asciiFacet stlDoubles StlLimits.default line lines) := by
  refine (meets_facetLine line).bind fun _ _ _ => ?_
  refine (meets_fixedLine _ _ _).bind fun lines _ _ => ?_
  refine (meets_vertexLine lines).bind fun ⟨first, lines⟩ _ here => ?_
  refine (meets_vertexLine lines).bind fun ⟨second, lines⟩ _ next => ?_
  refine (meets_vertexLine lines).bind fun ⟨third, lines⟩ _ last => ?_
  refine (meets_fixedLine _ _ _).bind fun lines _ _ => ?_
  refine (meets_fixedLine _ _ _).bind fun lines _ _ => ?_
  intro vertex listed
  rcases Triple.mem_toList.1 listed with rfl | rfl | rfl
  · exact here
  · exact next
  · exact last

theorem meets_asciiFacets (fuel done : Nat) (lines : List Text) :
    Meets IsStlError (fun triangles => ∀ triangle ∈ triangles, LowTriangle (-33) triangle)
      (asciiFacets stlDoubles StlLimits.default fuel done lines) := by
  induction fuel generalizing done lines with
  | zero => exact fun triangle listed => nomatch listed
  | succ fuel ih =>
      cases lines with
      | nil => exact fun triangle listed => nomatch listed
      | cons line lines =>
          refine (meets_asciiFacet line lines).bind fun ⟨triangle, lines⟩ _ here => ?_
          refine Meets.ite (fun _ => meets_stlError _ _) fun _ => ?_
          refine Meets.ite (fun _ => meets_stlError _ _) fun _ => ?_
          refine (ih (done + 1) lines).bind fun triangles _ later => ?_
          intro other listed
          rcases List.mem_cons.1 listed with rfl | listed
          · exact here
          · exact later other listed

theorem meets_parseAscii (payload : Bytes) :
    Meets IsStlError (fun triangles => ∀ triangle ∈ triangles, LowTriangle (-33) triangle)
      (parseAscii stlDoubles StlLimits.default payload) := by
  unfold parseAscii
  split
  · exact meets_stlError _ _
  refine Meets.ite (fun _ => meets_stlError _ _) fun _ => ?_
  refine Meets.ite (fun _ => meets_stlError _ _) fun _ => ?_
  refine (meets_asciiFacets _ _ _).bind fun triangles _ low => ?_
  exact Meets.ite (fun _ => meets_stlError _ _) fun _ => low

/-- **Reading raises an `StlError` or gives coordinates within the limit.** -/
theorem meets_readTriangles (payload : Bytes) :
    Meets IsStlError (fun triangles => ∀ triangle ∈ triangles, LowTriangle (-33) triangle)
      (readTriangles stlDoubles StlLimits.default payload) :=
  Meets.ite (fun binary => meets_parseBinary binary) fun _ => meets_parseAscii payload

/-! ## Welding -/

/-- An index of a lattice point. -/
def SmallIndex (i : Int) : Prop := i.natAbs < 2 ^ 95

theorem smallIndex_zero : SmallIndex 0 := Nat.two_pow_pos 95

theorem smallIndex_scaled {m : Nat} {e : Int} {n : Int} (same : n.natAbs = m) (small : m < 2 ^ 53)
    (low : e ≤ 42) (k : Nat) : SmallIndex (n * 2 ^ e.toNat / 2 ^ k) := by
  unfold SmallIndex
  have power : (2 : Nat) ^ e.toNat ≤ 2 ^ 42 := Nat.pow_le_pow_right (by decide) (by omega)
  calc (n * 2 ^ e.toNat / 2 ^ k).natAbs ≤ (n * 2 ^ e.toNat).natAbs :=
        Int.natAbs_ediv_le_natAbs _ _
    _ = m * 2 ^ e.toNat := by rw [Int.natAbs_mul, same, Int.natAbs_pow]; rfl
    _ < 2 ^ 53 * 2 ^ 42 := Nat.mul_lt_mul_of_lt_of_le small power (by positivity)
    _ = 2 ^ 95 := by norm_num

theorem natAbs_signed (s : Float.Model.UnpackedFloat.Sign) (m : Nat) :
    (if signBit s then -(m : Int) else m).natAbs = m := by
  cases s <;> simp [signBit]

theorem meets_floatFloor {x : Float} (low : Low 42 x) :
    Meets IsStlError SmallIndex (floatFloor x) := by
  have good := unpacked_read x
  unfold floatFloor
  unfold Low Binary64.read at low
  unfold Binary64.read at good
  cases found : x.toModel.unpack with
  | finite s m e h =>
      rw [found] at low good
      exact smallIndex_scaled (natAbs_signed s m) (Canonical.mantissa good) low _
  | zero s =>
      exact smallIndex_zero
  | _ =>
      rw [found] at low
      exact low.elim

theorem meets_floatCeil {x : Float} (low : Low 42 x) :
    Meets IsStlError SmallIndex (floatCeil x) := by
  have good := unpacked_read x
  unfold floatCeil
  unfold Low Binary64.read at low
  unfold Binary64.read at good
  cases found : x.toModel.unpack with
  | finite s m e h =>
      rw [found] at low good
      show SmallIndex (-(-((if signBit s then -(m : Int) else m) * 2 ^ e.toNat) / 2 ^ (-e).toNat))
      have negated : (-(if signBit s then -(m : Int) else m)).natAbs = m := by
        rw [Int.natAbs_neg]
        exact natAbs_signed s m
      have small := smallIndex_scaled negated (Canonical.mantissa good) low (-e).toNat
      unfold SmallIndex at small ⊢
      rw [Int.natAbs_neg, ← Int.neg_mul]
      exact small
  | zero s =>
      exact smallIndex_zero
  | _ =>
      rw [found] at low
      exact low.elim

theorem meets_weldIndex {value : Float} (low : Low (-33) value) :
    Meets IsStlError SmallIndex (weldIndex stlDoubles value 1e-6) := by
  have grid : High (-72) (1e-6 : Float) := by decide
  have half : Low (-53) (0.5 : Float) := by decide
  have scaled : Low 40 (value / 1e-6) := low_div low grid (by decide) (by decide) (by decide)
  refine Meets.ite (fun _ => meets_floatFloor ?_) fun _ => meets_floatCeil ?_
  · exact low_add scaled half (by decide) (by decide) (by decide) (by decide)
  · exact low_sub scaled half (by decide) (by decide) (by decide) (by decide)

theorem meets_weldKey {vertex : Vec Float} (low : LowVertex (-33) vertex) :
    Meets IsStlError (fun key => SmallIndex key.first ∧ SmallIndex key.second ∧ SmallIndex key.third)
      (weldKey stlDoubles 1e-6 vertex) := by
  refine (meets_weldIndex (low 0)).bind fun x _ first => ?_
  refine (meets_weldIndex (low 1)).bind fun y _ second => ?_
  refine (meets_weldIndex (low 2)).bind fun z _ third => ?_
  exact ⟨first, second, third⟩

theorem meets_latticeCoordinate {index : Int} (small : SmallIndex index) :
    Meets IsStlError (Low 25) (latticeCoordinate stlDoubles 1e-6 index) := by
  have grid : Low (-72) (1e-6 : Float) := by decide
  have zero : Low 25 (0.0 : Float) := by decide
  have whole : Low 43 (Float.ofInt index) :=
    low_ofInt (k := 94) small (by decide) (by decide) (by decide)
  refine Meets.ite (fun _ => zero) fun _ => ?_
  refine Meets.bind (P := Low 43) ?_ fun x _ low => low_mul low grid (by decide) (by decide) (by decide)
  show Meets IsStlError (Low 43) (Fibsem.floatOfInt index)
  unfold Fibsem.floatOfInt
  simp only [whole.isFinite, if_true]
  exact whole

theorem meets_latticePoint {key : WeldKey}
    (small : SmallIndex key.first ∧ SmallIndex key.second ∧ SmallIndex key.third) :
    Meets IsStlError (LowVertex 25) (latticePoint stlDoubles 1e-6 key) := by
  obtain ⟨first, second, third⟩ := small
  refine (meets_latticeCoordinate first).bind fun x _ first => ?_
  refine (meets_latticeCoordinate second).bind fun y _ second => ?_
  refine (meets_latticeCoordinate third).bind fun z _ third => ?_
  intro axis
  fin_cases axis
  · exact first
  · exact second
  · exact third

/-- **A coordinate within the limit stays finite through welding.** -/
theorem meets_weldVertex {vertex : Vec Float} (low : LowVertex (-33) vertex) :
    Meets IsStlError (fun entry => LowVertex 25 entry.2) (weldVertex stlDoubles 1e-6 vertex) := by
  refine (meets_weldKey low).bind fun key _ small => ?_
  exact (meets_latticePoint small).bind fun coordinate _ low => low

theorem meets_crossLength (points : Triple (Vec Float)) :
    Meets IsStlError (fun _ => True) (crossLength stlDoubles points) := by
  let product := cross (points.second - points.first) (points.third - points.first)
  have zero : Nonneg (0.0 : Float) := by
    unfold Nonneg
    rw [rank_zero]
  have nonneg : Nonneg (sum [product 0 * product 0, product 1 * product 1,
      product 2 * product 2]) :=
    nonneg_add (nonneg_add (nonneg_add zero (nonneg_mul_self _)) (nonneg_mul_self _))
      (nonneg_mul_self _)
  exact Meets.ite (fun negative => absurd negative nonneg.not_lt_zero) fun _ => trivial

/-! ## Facets -/

/-- The coordinate of a welded key. -/
theorem meets_coordinateOf {coordinates : List (WeldKey × Vec Float)}
    (low : ∀ entry ∈ coordinates, LowVertex 25 entry.2) {key : WeldKey}
    (listed : key ∈ coordinates.map Prod.fst) :
    Meets IsStlError (LowVertex 25) (coordinateOf coordinates key) := by
  obtain ⟨point, found⟩ := Option.isSome_iff_exists.1
    ((PyDict.lookup_isSome_iff key coordinates).2 (List.mem_map.1 listed))
  unfold coordinateOf
  rw [found]
  exact low (key, point) (PyDict.mem_of_lookup found)

/-- A facet of welded keys is judged, and is as it was. -/
theorem meets_judge {coordinates : List (WeldKey × Vec Float)}
    (low : ∀ entry ∈ coordinates, LowVertex 25 entry.2) {keys : Triple WeldKey}
    (listed : ∀ key ∈ keys.toList, key ∈ coordinates.map Prod.fst) :
    Meets IsStlError (fun facet => (facet.2 = false → facet.1.Proper) ∧
        ∀ key ∈ facet.1.toList, key ∈ coordinates.map Prod.fst)
      (judge stlDoubles 1e-6 coordinates keys) := by
  refine Meets.mono (P := fun facet => ∀ key ∈ facet.1.toList, key ∈ coordinates.map Prod.fst) ?_
    fun facet judged known => ⟨judge_ok judged, known⟩
  refine Meets.bind (P := fun _ => True) ?_ fun points _ _ => ?_
  · exact (Meets.tripleMapM fun key inside => meets_coordinateOf low (listed key inside)).mono
      fun _ _ _ => trivial
  · exact Meets.ite (fun _ => (meets_crossLength points).bind fun _ _ _ => listed) fun _ => listed

/-- What facets are welded to. -/
theorem weldedCoordinates_low {welded : List (Triple (WeldKey × Vec Float))}
    (low : ∀ facet ∈ welded, ∀ entry ∈ facet.toList, LowVertex 25 entry.2) :
    (∀ entry ∈ weldedCoordinates welded, LowVertex 25 entry.2) ∧
      ∀ facet ∈ welded, ∀ key ∈ (facet.map Prod.fst).toList,
        key ∈ (weldedCoordinates welded).map Prod.fst := by
  obtain ⟨-, keys, members⟩ := PyDict.setdefaults_spec (welded.flatMap Triple.toList)
  constructor
  · intro entry listed
    obtain ⟨facet, member, inside⟩ := List.mem_flatMap.1 (members entry listed)
    exact low facet member entry inside
  · intro facet member key inside
    obtain ⟨entry, here, rfl⟩ := List.mem_map.1 (Triple.toList_map Prod.fst facet ▸ inside)
    exact (keys entry.1).2 (List.mem_map_of_mem (List.mem_flatMap.2 ⟨facet, member, here⟩))

/-! ## The mesh -/

/-- **A mesh of proper facets is not refused.** -/
theorem meets_newMesh {valid : List (Triple WeldKey)} (some : valid ≠ [])
    (proper : ∀ keys ∈ valid, keys.Proper) {vertices : List (Vec Float)}
    (size : vertices.length = (usedKeys valid).length)
    (low : ∀ vertex ∈ vertices, LowVertex 25 vertex) :
    Meets IsStlError (fun mesh => ∀ i, LowVertex 25 (mesh.vertices i))
      (newMesh stlDoubles vertices (canonicalFaces (usedKeys valid) valid)) := by
  have finite : ∀ vertex ∈ vertices, ∀ axis, stlDoubles.isFinite (vertex axis) = true :=
    fun vertex listed axis => (low vertex listed axis).isFinite
  obtain ⟨keys, listed⟩ := List.exists_mem_of_ne_nil valid some
  have three := three_le_usedKeys listed (proper keys listed)
  have filled : canonicalFaces (usedKeys valid) valid ≠ [] := by
    intro empty
    have length := length_canonicalFaces (usedKeys valid) valid
    rw [empty] at length
    exact some (List.length_eq_zero_iff.1 length.symm)
  have fine : (canonicalFaces (usedKeys valid) valid).findSome? (faceError vertices.length) =
      none := by
    rw [List.findSome?_eq_none_iff, size]
    exact fun face member => faceError_canonicalFaces proper member
  unfold newMesh
  rw [if_neg (not_not.2 finite), dif_neg (not_or.2 ⟨by omega, filled⟩)]
  split
  case h_1 wrong =>
      rw [fine] at wrong
      cases wrong
  case h_2 => exact fun i => low _ (List.get_mem vertices i)

/-! ## Bounds -/

theorem isNumber_pyMin {a b : Float} (first : IsNumber a) (second : IsNumber b) :
    IsNumber (pyMin a b) ∧ rank (Binary64.read (pyMin a b)) ≤ rank (Binary64.read a) := by
  unfold pyMin
  split
  case isTrue less => exact ⟨second, ((lt_iff second first).1 less).le⟩
  case isFalse => exact ⟨first, le_rfl⟩

theorem isNumber_pyMax {a b : Float} (first : IsNumber a) (second : IsNumber b) :
    IsNumber (pyMax a b) ∧ rank (Binary64.read a) ≤ rank (Binary64.read (pyMax a b)) := by
  unfold pyMax
  split
  case isTrue less => exact ⟨second, ((lt_iff first second).1 less).le⟩
  case isFalse => exact ⟨first, le_rfl⟩

theorem rank_least {first : Float} {rest : List Float} (number : IsNumber first)
    (numbers : ∀ x ∈ rest, IsNumber x) :
    IsNumber (least first rest) ∧
      rank (Binary64.read (least first rest)) ≤ rank (Binary64.read first) := by
  induction rest generalizing first with
  | nil => exact ⟨number, le_rfl⟩
  | cons value rest ih =>
      obtain ⟨here, below⟩ := isNumber_pyMin number (numbers value List.mem_cons_self)
      obtain ⟨later, least⟩ := ih here fun x listed => numbers x (List.mem_cons_of_mem _ listed)
      exact ⟨later, least.trans below⟩

theorem rank_greatest {first : Float} {rest : List Float} (number : IsNumber first)
    (numbers : ∀ x ∈ rest, IsNumber x) :
    IsNumber (greatest first rest) ∧
      rank (Binary64.read first) ≤ rank (Binary64.read (greatest first rest)) := by
  induction rest generalizing first with
  | nil => exact ⟨number, le_rfl⟩
  | cons value rest ih =>
      obtain ⟨here, above⟩ := isNumber_pyMax number (numbers value List.mem_cons_self)
      obtain ⟨later, greatest⟩ := ih here fun x listed => numbers x (List.mem_cons_of_mem _ listed)
      exact ⟨later, above.trans greatest⟩

/-- The bounds of finite vertices are in order. -/
theorem meets_bounds {mesh : TriangleMesh Float} (low : ∀ i, LowVertex 25 (mesh.vertices i)) :
    Meets IsStlError (fun _ => True) mesh.bounds := by
  have number (i : Fin mesh.size) (axis : Fin 3) : IsNumber (mesh.vertices i axis) :=
    number_of_finite (low i axis).isFinite
  have numbers (axis : Fin 3) : ∀ x ∈ (mesh.coordinates axis).tail, IsNumber x := by
    intro x listed
    have inside : x ∈ mesh.coordinates axis := List.mem_of_mem_tail listed
    unfold TriangleMesh.coordinates at inside
    obtain ⟨i, rfl⟩ := List.mem_ofFn.1 inside
    exact number i axis
  unfold TriangleMesh.bounds Bounds.new
  rw [dif_pos]
  · trivial
  · intro axis
    obtain ⟨first, below⟩ := rank_least (number mesh.first axis) (numbers axis)
    obtain ⟨last, above⟩ := rank_greatest (number mesh.first axis) (numbers axis)
    rw [lt_iff last first]
    omega

/-! ## Parsing -/

theorem meets_canonicalise {sha : Text} {triangles : List (Triple (Vec Float))}
    (low : ∀ triangle ∈ triangles, LowTriangle (-33) triangle) :
    Meets IsStlError (fun _ => True)
      (canonicalise stlDoubles StlLimits.default 1e-6 sha triangles) := by
  refine Meets.bind (P := fun welded => ∀ facet ∈ welded, ∀ entry ∈ facet.toList,
    LowVertex 25 entry.2) ?_ fun welded _ low => ?_
  · exact Meets.mapM fun triangle listed => Meets.tripleMapM fun vertex inside =>
      meets_weldVertex (low triangle listed vertex inside)
  obtain ⟨coordinates, keyed⟩ := weldedCoordinates_low low
  refine Meets.ite (fun _ => meets_stlError _ _) fun _ => ?_
  refine Meets.bind (P := fun judged => ∀ facet ∈ judged, (facet.2 = false → facet.1.Proper) ∧
      ∀ key ∈ facet.1.toList, key ∈ (weldedCoordinates welded).map Prod.fst)
    (Meets.mapM fun keys listed => ?_) fun judged _ known => ?_
  · obtain ⟨facet, member, rfl⟩ := List.mem_map.1 listed
    exact meets_judge coordinates (keyed facet member)
  have valid : ∀ keys ∈ (judged.filter fun facet => !facet.2).map Prod.fst, keys.Proper ∧
      ∀ key ∈ keys.toList, key ∈ (weldedCoordinates welded).map Prod.fst := by
    intro keys listed
    obtain ⟨facet, member, rfl⟩ := List.mem_map.1 listed
    obtain ⟨member, kept⟩ := List.mem_filter.1 member
    obtain ⟨proper, inside⟩ := known facet member
    exact ⟨proper (by simpa using kept), inside⟩
  refine Meets.ite (fun _ => meets_stlError _ _) fun some => ?_
  refine Meets.bind (P := fun vertices => ∀ vertex ∈ vertices, LowVertex 25 vertex)
    (Meets.mapM fun key listed => ?_) fun vertices placed low => ?_
  · obtain ⟨keys, member, inside⟩ := mem_usedKeys.1 listed
    exact meets_coordinateOf coordinates ((valid keys member).2 key inside)
  have size := (mapM_ok_iff.1 placed).length_eq.symm
  have filled : (judged.filter fun facet => !facet.2).map Prod.fst ≠ [] := by
    intro empty
    exact some (List.isEmpty_iff.2 empty)
  refine (meets_newMesh filled (fun keys listed => (valid keys listed).1) size low).bind
    fun mesh _ low => ?_
  refine Meets.bind (P := fun lengths => ∀ length ∈ lengths, True)
    (Meets.mapM fun points _ => meets_crossLength points) fun lengths _ _ => ?_
  exact (meets_bounds low).bind fun bounds _ _ => trivial

/-- **Every payload is refused with an `StlError` or gives a mesh whose evidence is in
order.** -/
theorem parseStl_total (payload : Bytes) :
    Meets IsStlError (Evidenced payload)
      (parseStl stlDoubles StlLimits.default 1e-6 payload) := by
  refine Meets.bind (P := fun _ => True) ?_ fun _ _ _ => ?_
  · exact Meets.ite (fun _ => meets_stlError _ _) fun _ =>
      Meets.ite (fun _ => meets_stlError _ _) fun _ => trivial
  have positive : ¬(stlDoubles.isFinite 1e-6 = false ∨ (1e-6 : Float) ≤ 0.0) := by decide
  rw [if_neg positive]
  refine (meets_readTriangles payload).bind fun triangles read low => ?_
  exact (meets_canonicalise low).mono fun m made _ => evidenced_of_canonicalise read made

end InstrumentBench.Geometry.Stl
