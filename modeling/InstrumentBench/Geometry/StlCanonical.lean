/-
# Geometry.StlCanonical -- the canonical mesh does not depend on how a file lists its facets

In exact arithmetic two files that hold the same facets, in any order and each with its
vertices cyclically rotated in any way, have the same canonical mesh and the same
evidence apart from the digest of the file itself (`canonicalise_turned`).  The keys and
the coordinates are of single vertices, degeneracy does not see a rotation
(`crossLength_rotate`), the vertices are numbered by their sorted keys and the faces
rotated to their least form and sorted.
-/
import InstrumentBench.Geometry.Stl
import InstrumentBench.Theory.Matched

namespace InstrumentBench.Geometry.Stl

set_option autoImplicit false
set_option linter.unusedSectionVars false

open InstrumentBench.Theory
open InstrumentBench.Fibsem (PyError)

/-! ## Rotations -/

/-- The triple begun at any of its entries. -/
inductive Turned {α : Type} : Triple α → Triple α → Prop where
  | none (t : Triple α) : Turned t t
  | once (t : Triple α) : Turned t t.rotate
  | twice (t : Triple α) : Turned t t.rotate.rotate

namespace Turned

variable {α β : Type} {t u : Triple α}

theorem map (f : α → β) (turned : Turned t u) : Turned (t.map f) (u.map f) := by
  cases turned with
  | none => exact .none _
  | once => exact .once _
  | twice => exact .twice _

theorem mem_toList_iff (turned : Turned t u) (a : α) : a ∈ u.toList ↔ a ∈ t.toList := by
  cases turned with
  | none => rfl
  | once => exact Triple.mem_toList_rotate
  | twice => rw [Triple.mem_toList_rotate, Triple.mem_toList_rotate]

theorem proper_iff (turned : Turned t u) : u.Proper ↔ t.Proper := by
  cases turned with
  | none => rfl
  | once => exact Triple.proper_rotate
  | twice => rw [Triple.proper_rotate, Triple.proper_rotate]

/-- A function of the entries is as defined on a rotation. -/
theorem mapM {ε : Type} {f : α → Except ε β} {v : Triple β} (turned : Turned t u)
    (made : t.mapM f = .ok v) : ∃ w, u.mapM f = .ok w ∧ Turned v w := by
  obtain ⟨first, second, third⟩ := Triple.mapM_ok_iff.1 made
  cases turned with
  | none => exact ⟨v, made, .none v⟩
  | once => exact ⟨v.rotate, Triple.mapM_ok_iff.2 ⟨second, third, first⟩, .once v⟩
  | twice => exact ⟨v.rotate.rotate, Triple.mapM_ok_iff.2 ⟨third, first, second⟩, .twice v⟩

end Turned

theorem canonicalCycle_rotate (face : Face) : canonicalCycle face.rotate = canonicalCycle face := by
  have around : face.rotate.rotate.rotate = face := rfl
  unfold canonicalCycle
  rw [around, min_comm, min_assoc]

theorem Turned.canonicalCycle {face other : Face} (turned : Turned face other) :
    canonicalCycle other = canonicalCycle face := by
  cases turned with
  | none => rfl
  | once => exact canonicalCycle_rotate face
  | twice => rw [canonicalCycle_rotate, canonicalCycle_rotate]

/-! ## Welded coordinates -/

section

variable {K : Type} [Field K] [LinearOrder K] {N : StlNumbers K} {limits : StlLimits K}
  {epsilon : K}

/-- Every key comes with the coordinate of the lattice. -/
def OnLattice (N : StlNumbers K) (epsilon : K) (entries : List (WeldKey × Vec K)) : Prop :=
  ∀ entry ∈ entries, latticePoint N epsilon entry.1 = .ok entry.2

theorem weldVertex_ok {vertex : Vec K} {entry : WeldKey × Vec K}
    (welded : weldVertex N epsilon vertex = .ok entry) :
    latticePoint N epsilon entry.1 = .ok entry.2 := by
  obtain ⟨key, -, rest⟩ := bind_ok_iff.1 welded
  obtain ⟨coordinate, placed, made⟩ := bind_ok_iff.1 rest
  cases made
  exact placed

theorem onLattice_welded {triangles : List (Triple (Vec K))}
    {welded : List (Triple (WeldKey × Vec K))}
    (ran : triangles.mapM (Triple.mapM (weldVertex N epsilon)) = .ok welded) :
    OnLattice N epsilon (welded.flatMap Triple.toList) := by
  intro entry member
  obtain ⟨facet, listed, inside⟩ := List.mem_flatMap.1 member
  obtain ⟨i, hi, rfl⟩ := List.mem_iff_getElem.1 listed
  have loop := mapM_ok_iff.1 ran
  have step := loop.get (by rw [loop.length_eq]; exact hi) hi
  obtain ⟨first, second, third⟩ := Triple.mapM_ok_iff.1 step
  rcases Triple.mem_toList.1 inside with rfl | rfl | rfl
  · exact weldVertex_ok first
  · exact weldVertex_ok second
  · exact weldVertex_ok third

theorem coordinateOf_of_mem {coordinates : List (WeldKey × Vec K)}
    (lattice : OnLattice N epsilon coordinates) {key : WeldKey}
    (listed : key ∈ coordinates.map Prod.fst) :
    coordinateOf coordinates key = latticePoint N epsilon key := by
  obtain ⟨point, found⟩ := Option.isSome_iff_exists.1
    ((PyDict.lookup_isSome_iff key coordinates).2 (List.mem_map.1 listed))
  unfold coordinateOf
  rw [found]
  exact (lattice (key, point) (PyDict.mem_of_lookup found)).symm

theorem coordinateOf_of_notMem {coordinates : List (WeldKey × Vec K)} {key : WeldKey}
    (missing : key ∉ coordinates.map Prod.fst) :
    coordinateOf coordinates key = .error (.keyError []) := by
  have none : coordinates.lookup key = none := by
    rw [← Option.not_isSome_iff_eq_none, PyDict.lookup_isSome_iff]
    exact fun listed => missing (List.mem_map.2 listed)
  unfold coordinateOf
  rw [none]

/-- Dictionaries of the same keys hold the same coordinates. -/
theorem coordinateOf_congr {c c' : List (WeldKey × Vec K)} (lattice : OnLattice N epsilon c)
    (lattice' : OnLattice N epsilon c')
    (same : ∀ key, key ∈ c.map Prod.fst ↔ key ∈ c'.map Prod.fst) :
    coordinateOf c = coordinateOf c' := by
  funext key
  by_cases listed : key ∈ c.map Prod.fst
  · rw [coordinateOf_of_mem lattice listed, coordinateOf_of_mem lattice' ((same key).1 listed)]
  · have missing : key ∉ c'.map Prod.fst := fun other => listed ((same key).2 other)
    rw [coordinateOf_of_notMem listed, coordinateOf_of_notMem missing]

theorem mem_toList_of_matched {α : Type} {l l' : List (Triple α)} (matched : Matched Turned l l')
    (a : α) : a ∈ l.flatMap Triple.toList ↔ a ∈ l'.flatMap Triple.toList := by
  rw [List.mem_flatMap, List.mem_flatMap]
  constructor
  · rintro ⟨t, listed, inside⟩
    obtain ⟨u, listed', turned⟩ := matched.left listed
    exact ⟨u, listed', (turned.mem_toList_iff a).2 inside⟩
  · rintro ⟨u, listed, inside⟩
    obtain ⟨t, listed', turned⟩ := matched.right listed
    exact ⟨t, listed', (turned.mem_toList_iff a).1 inside⟩

/-- What facets in another order and rotation are welded to. -/
theorem weldedCoordinates_turned {triangles triangles' : List (Triple (Vec K))}
    {welded welded' : List (Triple (WeldKey × Vec K))}
    (ran : triangles.mapM (Triple.mapM (weldVertex N epsilon)) = .ok welded)
    (ran' : triangles'.mapM (Triple.mapM (weldVertex N epsilon)) = .ok welded')
    (matched : Matched Turned welded welded') :
    coordinateOf (weldedCoordinates welded) = coordinateOf (weldedCoordinates welded') ∧
      (weldedCoordinates welded).length = (weldedCoordinates welded').length := by
  obtain ⟨apart, keys, members⟩ := PyDict.setdefaults_spec (welded.flatMap Triple.toList)
  obtain ⟨apart', keys', members'⟩ := PyDict.setdefaults_spec (welded'.flatMap Triple.toList)
  have entries := mem_toList_of_matched matched
  have same : ∀ key, key ∈ (weldedCoordinates welded).map Prod.fst ↔
      key ∈ (weldedCoordinates welded').map Prod.fst := by
    intro key
    rw [weldedCoordinates, weldedCoordinates, keys, keys', List.mem_map, List.mem_map]
    simp only [entries]
  constructor
  · exact coordinateOf_congr
      (fun entry member => onLattice_welded ran entry (members entry member))
      (fun entry member => onLattice_welded ran' entry (members' entry member)) same
  · have order : ((weldedCoordinates welded).map Prod.fst).Perm
        ((weldedCoordinates welded').map Prod.fst) :=
      (List.perm_ext_iff_of_nodup apart apart').2 same
    have lengths := order.length_eq
    rwa [List.length_map, List.length_map] at lengths

/-! ## Degenerate facets -/

/-- The cross product of two sides is that of the next two. -/
theorem crossLength_rotate (points : Triple (Vec K)) :
    crossLength N points.rotate = crossLength N points := by
  have sides (a b c : Vec K) : cross (c - b) (a - b) = cross (b - a) (c - a) := by
    funext axis
    fin_cases axis
    · show (c 1 - b 1) * (a 2 - b 2) - (c 2 - b 2) * (a 1 - b 1) =
        (b 1 - a 1) * (c 2 - a 2) - (b 2 - a 2) * (c 1 - a 1)
      ring
    · show (c 2 - b 2) * (a 0 - b 0) - (c 0 - b 0) * (a 2 - b 2) =
        (b 2 - a 2) * (c 0 - a 0) - (b 0 - a 0) * (c 2 - a 2)
      ring
    · show (c 0 - b 0) * (a 1 - b 1) - (c 1 - b 1) * (a 0 - b 0) =
        (b 0 - a 0) * (c 1 - a 1) - (b 1 - a 1) * (c 0 - a 0)
      ring
  unfold crossLength
  simp only [Triple.rotate_first, Triple.rotate_second, Triple.rotate_third, sides]

theorem Turned.crossLength {points other : Triple (Vec K)} (turned : Turned points other) :
    crossLength N other = crossLength N points := by
  cases turned with
  | none => rfl
  | once => exact crossLength_rotate points
  | twice => rw [crossLength_rotate, crossLength_rotate]

theorem judge_turned {c c' : List (WeldKey × Vec K)} (same : coordinateOf c = coordinateOf c')
    {keys keys' : Triple WeldKey} (turned : Turned keys keys') {facet : Triple WeldKey × Bool}
    (judged : judge N epsilon c keys = .ok facet) :
    judge N epsilon c' keys' = .ok (keys', facet.2) ∧ facet.1 = keys := by
  obtain ⟨points, found, rest⟩ := bind_ok_iff.1 judged
  obtain ⟨points', found', both⟩ := turned.mapM found
  unfold judge
  rw [← same, found']
  dsimp only [bind, Except.bind]
  by_cases proper : keys.Proper
  · rw [if_pos proper] at rest
    rw [if_pos (turned.proper_iff.2 proper), both.crossLength]
    obtain ⟨length, measured, made⟩ := bind_ok_iff.1 rest
    cases made
    rw [measured]
    exact ⟨rfl, rfl⟩
  · rw [if_neg proper] at rest
    rw [if_neg fun proper' => proper (turned.proper_iff.1 proper')]
    cases rest
    exact ⟨rfl, rfl⟩

/-! ## The canonical mesh -/

theorem usedKeys_turned {faces faces' : List (Triple WeldKey)}
    (matched : Matched Turned faces faces') : usedKeys faces = usedKeys faces' := by
  apply insertionSort_eq_of_nodup (List.nodup_dedup _) (List.nodup_dedup _)
  intro key
  rw [List.mem_dedup, List.mem_dedup, mem_toList_of_matched matched]

theorem canonicalFaces_turned (used : List WeldKey) {faces faces' : List (Triple WeldKey)}
    (matched : Matched Turned faces faces') :
    canonicalFaces used faces = canonicalFaces used faces' := by
  apply insertionSort_eq
  apply Matched.perm
  exact matched.map fun face face' turned => (turned.map used.idxOf).canonicalCycle.symm

theorem canonicalMesh_sha {sha : Text} {degenerate : Nat} {vertices : List (Vec K)}
    {faces : List Face} {m : CanonicalMesh K}
    (made : canonicalMesh N sha degenerate vertices faces = .ok m) (sha' : Text) :
    canonicalMesh N sha' degenerate vertices faces =
      .ok { m with evidence := { m.evidence with fileSha256 := sha' } } := by
  obtain ⟨mesh, built, rest⟩ := bind_ok_iff.1 made
  obtain ⟨lengths, measured, rest⟩ := bind_ok_iff.1 rest
  obtain ⟨bounds, boxed, rest⟩ := bind_ok_iff.1 rest
  cases rest
  unfold canonicalMesh
  simp only [built, measured, boxed, bind, Except.bind]

/-- **Order and rotation of the facets do not reach the canonical mesh.** -/
theorem canonicalise_turned {triangles triangles' : List (Triple (Vec K))}
    (matched : Matched Turned triangles triangles') {sha : Text} {m : CanonicalMesh K}
    (made : canonicalise N limits epsilon sha triangles = .ok m) (sha' : Text) :
    canonicalise N limits epsilon sha' triangles' =
      .ok { m with evidence := { m.evidence with fileSha256 := sha' } } := by
  obtain ⟨welded, ran, rest⟩ := bind_ok_iff.1 made
  obtain ⟨welded', ran', weldedMatched⟩ :=
    matched.mapM ran fun t _ t' turned u made => turned.mapM made
  obtain ⟨coordinates, sizes⟩ := weldedCoordinates_turned ran ran' weldedMatched
  dsimp only at rest
  unfold canonicalise
  rw [ran']
  dsimp only [bind, Except.bind]
  by_cases many : limits.maximumWeldedVertices < (weldedCoordinates welded).length
  · rw [if_pos many] at rest
    cases rest
  rw [if_neg many] at rest
  rw [← sizes, if_neg many]
  obtain ⟨judged, loop, rest⟩ := bind_ok_iff.1 rest
  have keyed : Matched Turned (welded.map (Triple.map Prod.fst))
      (welded'.map (Triple.map Prod.fst)) :=
    weldedMatched.map fun t t' turned => turned.map Prod.fst
  -- Every facet is judged as it was, whichever way it is turned.
  have step : ∀ keys ∈ welded.map (Triple.map Prod.fst), ∀ keys', Turned keys keys' →
      ∀ facet, judge N epsilon (weldedCoordinates welded) keys = .ok facet →
      ∃ facet', judge N epsilon (weldedCoordinates welded') keys' = .ok facet' ∧
        (Turned facet.1 facet'.1 ∧ facet.2 = facet'.2) := by
    intro keys _ keys' turned facet found
    obtain ⟨found', same⟩ := judge_turned coordinates turned found
    exact ⟨(keys', facet.2), found', by rw [same]; exact turned, rfl⟩
  obtain ⟨judged', loop', judgedMatched⟩ := keyed.mapM loop step
  rw [loop']
  dsimp only
  have valid : Matched Turned ((judged.filter fun facet => !facet.2).map Prod.fst)
      ((judged'.filter fun facet => !facet.2).map Prod.fst) :=
    (judgedMatched.filter fun a b related => by rw [related.2]).map fun a b related => related.1
  have degenerate : judged.countP (fun facet => facet.2) = judged'.countP fun facet => facet.2 :=
    judgedMatched.countP_eq fun a b related => related.2
  have emptiness := valid.length_eq
  by_cases none : ((judged.filter fun facet => !facet.2).map Prod.fst).isEmpty = true
  · rw [if_pos none] at rest
    cases rest
  have none' : ¬((judged'.filter fun facet => !facet.2).map Prod.fst).isEmpty = true := by
    intro empty
    rw [List.isEmpty_iff_length_eq_zero] at none empty
    exact none (by rw [emptiness, empty])
  rw [if_neg none] at rest
  rw [if_neg none', ← usedKeys_turned valid, ← canonicalFaces_turned _ valid, ← coordinates,
    ← degenerate]
  obtain ⟨vertices, placed, rest⟩ := bind_ok_iff.1 rest
  rw [placed]
  exact canonicalMesh_sha rest sha'

/-- **Two files of the same facets have one canonical mesh.** -/
theorem canonical_mesh_of_facets {p q : Bytes} {triangles triangles' : List (Triple (Vec K))}
    {m : CanonicalMesh K} (accepted : parseStl N limits epsilon p = .ok m)
    (read : readTriangles N limits p = .ok triangles) (fits : checkSize limits q = .ok ())
    (read' : readTriangles N limits q = .ok triangles')
    (same : Matched Turned triangles triangles') :
    ∃ m', parseStl N limits epsilon q = .ok m' ∧ m'.mesh = m.mesh ∧
      m'.evidence.canonicalGeometrySha256 = m.evidence.canonicalGeometrySha256 := by
  obtain ⟨⟨⟩, -, rest⟩ := bind_ok_iff.1 accepted
  split at rest
  case isTrue => cases rest
  case isFalse positive =>
      rw [read] at rest
      have made : canonicalise N limits epsilon (hexdigest p) triangles = .ok m := rest
      have made' := canonicalise_turned same made (hexdigest q)
      refine ⟨{ m with evidence := { m.evidence with fileSha256 := hexdigest q } }, ?_, rfl, rfl⟩
      unfold parseStl
      rw [fits]
      dsimp only [bind, Except.bind]
      rw [if_neg positive, read']
      exact made'

end

/-- What an attempt raised. -/
def refusal {α : Type} : Except PyError α → Option PyError
  | .ok _ => none
  | .error e => some e

/-! ## Exact numbers -/

/-- The number of a numeral, exactly. -/
def exactNumeral (l : NumberLiteral) : ℚ :=
  let size : ℚ := l.mantissa * (10 : ℚ) ^ l.scale
  if l.negative then -size else size

/-- `float(text)` without rounding. -/
def exactFloat (t : Text) : Option (Option ℚ) :=
  match PyText.dropUnderscores false (PyText.strip t) with
  | none => none
  | some t =>
      let (negative, body) := PyText.signed t
      if PyText.upper body ∈ [txt "INF", txt "INFINITY", txt "NAN"] then some none
      else (PyText.decimalLiteral negative body).map fun l => some (exactNumeral l)

/-- The number of a `<f` word. -/
def exactFloat32 (word : UInt32) : Option ℚ :=
  let exponent : Nat := word.toNat / 2 ^ 23 % 256
  let fraction : Nat := word.toNat % 2 ^ 23
  let size : ℚ :=
    if exponent = 0 then fraction / 2 ^ 149
    else ((2 ^ 23 + fraction : Nat) : ℚ) * 2 ^ ((exponent : Int) - 150)
  if exponent = 255 then none
  else some (if 2 ^ 31 ≤ word.toNat then -size else size)

/-- The root of the square of a whole number. -/
def rootOfSquare (x : ℚ) : Except PyError ℚ :=
  if x < 0 then PyError.value "math domain error"
  else .ok (((List.range (x.num.toNat + 1)).findRev? fun k => k * k ≤ x.num.toNat).getD 0 : Nat)

/-- Exact numbers, whose roots are only needed of squares. -/
def stlRationals : StlNumbers ℚ where
  float32 := exactFloat32
  float := exactFloat
  isFinite _ := true
  floor x := .ok ⌊x⌋
  ceil x := .ok ⌈x⌉
  sqrt := rootOfSquare
  ofInt i := .ok i
  packed x := littleEndian 8 (Float.ofInt x.num / Float.ofNat x.den).toBits.toNat

/-- One facet in ASCII, with a normal. -/
def asciiTriangle (normal : String) : Bytes :=
  ascii ("solid t\nfacet normal " ++ normal ++ "\nouter loop\nvertex 0 0 0\nvertex 1 0 0\n" ++
    "vertex 0 1 0\nendloop\nendfacet\nendsolid t\n")

/-- The same facet in binary, begun at its second vertex. -/
def binaryTriangle : Bytes :=
  List.replicate 80 0 ++ littleEndian 4 1 ++ List.replicate 12 0 ++
    littleEndian 4 0x3F800000 ++ List.replicate 8 0 ++
    List.replicate 4 0 ++ littleEndian 4 0x3F800000 ++ List.replicate 4 0 ++
    List.replicate 12 0 ++ [0, 0]

theorem read_asciiTriangle :
    readTriangles stlRationals StlLimits.default (asciiTriangle "0 0 1") =
      .ok [⟨![0, 0, 0], ![1, 0, 0], ![0, 1, 0]⟩] :=
  ok_of_toOption (by decide +kernel)

theorem read_binaryTriangle :
    readTriangles stlRationals StlLimits.default binaryTriangle =
      .ok [⟨![1, 0, 0], ![0, 1, 0], ![0, 0, 0]⟩] :=
  ok_of_toOption (by decide +kernel)

/-- The facet re-encoded and turned. -/
theorem canonical_mesh_of_reencoded :
    ∃ m m', parseStl stlRationals StlLimits.default 1e-6 (asciiTriangle "0 0 1") = .ok m ∧
      parseStl stlRationals StlLimits.default 1e-6 binaryTriangle = .ok m' ∧
      m'.mesh = m.mesh ∧
      m'.evidence.canonicalGeometrySha256 = m.evidence.canonicalGeometrySha256 := by
  have accepted : (parseStl stlRationals StlLimits.default 1e-6
      (asciiTriangle "0 0 1")).toOption.isSome = true := by decide +kernel
  obtain ⟨m, made⟩ := Option.isSome_iff_exists.1 accepted
  obtain ⟨m', made', same⟩ := canonical_mesh_of_facets (ok_of_toOption made) read_asciiTriangle
    (ok_of_toOption (by decide +kernel)) read_binaryTriangle
    ⟨_, .refl _, .cons (.once _) .nil⟩
  exact ⟨m, m', ok_of_toOption made, made', same⟩

theorem length_asciiTriangle (normal : String) : normal.length ≤ (asciiTriangle normal).length := by
  simp only [asciiTriangle, ascii, String.toList_append, List.map_append, List.length_append,
    List.length_map, String.length_toList]
  omega

/-- **Another normal can be refused.**  One that is no finite number is, and so is one that
makes the file too long. -/
theorem normal_refused :
    (parseStl stlRationals StlLimits.default 1e-6 (asciiTriangle "0 0 1")).toOption.isSome = true ∧
      refusal (parseStl stlRationals StlLimits.default 1e-6 (asciiTriangle "0 0 nan")) =
        some (.other (txt "StlError") (txt "ASCII STL normals must be finite")) ∧
      ∃ normal, parseStl stlRationals StlLimits.default 1e-6 (asciiTriangle ("0 0 " ++ normal)) =
          stlError "STL file size exceeds the resource limit" ∧
        ∀ c ∈ normal.toList, c = '0' := by
  refine ⟨by decide +kernel, by decide +kernel, String.ofList (List.replicate (2 ^ 26) '0'), ?_, ?_⟩
  · generalize zeros : "0 0 " ++ String.ofList (List.replicate (2 ^ 26) '0') = normal
    have long : 2 ^ 26 < (asciiTriangle normal).length := by
      refine Nat.lt_of_lt_of_le ?_ (length_asciiTriangle normal)
      have many : (String.ofList (List.replicate (2 ^ 26) '0')).length = 2 ^ 26 := by
        rw [String.length_ofList, List.length_replicate]
      rw [← zeros, String.length_append, many]
      exact Nat.lt_add_of_pos_left (by decide)
    have some : asciiTriangle normal ≠ [] := by
      intro empty
      rw [empty] at long
      exact Nat.not_lt_zero _ long
    have beyond : (StlLimits.default : StlLimits ℚ).maximumFileBytes <
        (asciiTriangle normal).length := long
    unfold parseStl checkSize
    rw [if_neg some, if_pos beyond]
    rfl
  · intro c member
    rw [String.toList_ofList] at member
    exact List.eq_of_mem_replicate member

end InstrumentBench.Geometry.Stl
