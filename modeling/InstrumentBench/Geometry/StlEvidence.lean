/-
# Geometry.StlEvidence -- the canonical mesh and what is reported of it

What a payload that is accepted gives is in order, over any numbers.  Its faces have three
different vertices each and use every vertex; the components are those of the graph in which
the vertices of a common face are adjacent (`componentCount_eq`), watertight means that
every side belongs to two faces (`watertight_iff`), and every facet of the file is counted as
a triangle or as degenerate (`length_readTriangles`).  `Evidenced` is this of a mesh;
`evidenced_of_canonicalise` is its proof.
-/
import InstrumentBench.Geometry.StlCanonical
import Mathlib.SetTheory.Cardinal.Finite

namespace InstrumentBench.Geometry.Stl

set_option autoImplicit false
set_option linter.unusedSectionVars false

open InstrumentBench.Theory
open InstrumentBench.Fibsem (PyError)

/-! ## Components -/

/-- The vertices of a common face are adjacent. -/
def meshGraph {n : Nat} (faces : List (Triple (Fin n))) : SimpleGraph (Fin n) where
  Adj u v := u ≠ v ∧ ∃ face ∈ faces, u ∈ face.toList ∧ v ∈ face.toList
  symm := ⟨fun _ _ ⟨apart, face, listed, first, second⟩ =>
    ⟨apart.symm, face, listed, second, first⟩⟩
  loopless := ⟨fun _ ⟨apart, _⟩ => apart rfl⟩

/-- The joined edges: the first two sides of every face. -/
def joined {n : Nat} (faces : List (Triple (Fin n))) : List (Fin n × Fin n) :=
  faces.flatMap fun face => [(face.first, face.second), (face.second, face.third)]

variable {n : Nat} {faces : List (Triple (Fin n))}

theorem mem_joined {edge : Fin n × Fin n} : edge ∈ joined faces ↔
    ∃ face ∈ faces, edge = (face.first, face.second) ∨ edge = (face.second, face.third) := by
  simp only [joined, List.mem_flatMap, List.mem_cons, List.not_mem_nil, or_false]

/-- Two sides of a face link its vertices. -/
theorem spans_joined (proper : ∀ face ∈ faces, face.Proper) :
    UnionFind.Spans (meshGraph faces) (joined faces) := by
  constructor
  · rintro edge listed
    obtain ⟨face, member, side⟩ := mem_joined.1 listed
    obtain ⟨first, -, last⟩ := Triple.proper_iff.1 (proper face member)
    rcases side with rfl | rfl
    · exact SimpleGraph.Adj.reachable ⟨first, face, member, by simp, by simp⟩
    · exact SimpleGraph.Adj.reachable ⟨last, face, member, by simp, by simp⟩
  · rintro u v ⟨-, face, member, left, right⟩
    have first : Relation.EqvGen (fun a b => (a, b) ∈ joined faces) face.first face.second :=
      .rel _ _ (mem_joined.2 ⟨face, member, Or.inl rfl⟩)
    have last : Relation.EqvGen (fun a b => (a, b) ∈ joined faces) face.second face.third :=
      .rel _ _ (mem_joined.2 ⟨face, member, Or.inr rfl⟩)
    -- every vertex of the face is linked to its second
    have center : ∀ w ∈ face.toList,
        Relation.EqvGen (fun a b => (a, b) ∈ joined faces) w face.second := by
      intro w inside
      rcases Triple.mem_toList.1 inside with rfl | rfl | rfl
      · exact first
      · exact .refl _
      · exact .symm _ _ last
    exact .trans _ _ _ (center u left) (.symm _ _ (center v right))

open scoped Classical in
/-- **The component count** is the number of connected components. -/
theorem componentCount_eq (proper : ∀ face ∈ faces, face.Proper) :
    componentCount n faces = Nat.card (meshGraph faces).ConnectedComponent := by
  have all : ∀ v, v ∈ List.finRange n := List.mem_finRange
  rw [Nat.card_eq_fintype_card, ← UnionFind.card_roots (spans_joined proper) all]
  unfold componentCount joined
  congr

/-! ## Sides -/

/-- The undirected edges of a face. -/
def sides (face : Triple (Fin n)) : List (Sym2 (Fin n)) :=
  [s(face.first, face.second), s(face.second, face.third), s(face.third, face.first)]

theorem sides_nodup {face : Triple (Fin n)} (proper : face.Proper) : (sides face).Nodup := by
  obtain ⟨first, across, last⟩ := Triple.proper_iff.1 proper
  simp only [sides, List.nodup_cons, List.mem_cons, List.not_mem_nil, or_false, not_or,
    not_false_eq_true, List.nodup_nil, and_true, Sym2.eq_iff]
  refine ⟨⟨?_, ?_⟩, ?_⟩
  · exact ⟨fun both => first both.1, across⟩
  · exact ⟨fun both => across both.1, fun both => last both.2⟩
  · exact ⟨fun both => last both.1, fun same => first same.symm⟩

theorem edge_comm (a b : Nat) : edge a b = edge b a := by
  unfold edge
  rcases lt_trichotomy a b with less | rfl | more
  · rw [if_neg (Nat.not_lt.2 less.le), if_pos less]
  · rfl
  · rw [if_pos more, if_neg (Nat.not_lt.2 more.le)]

/-- An undirected edge as `edge_counts` keys it. -/
def edgeOf : Sym2 (Fin n) → Nat × Nat :=
  Sym2.lift ⟨fun a b => edge a.val b.val, fun a b => edge_comm a.val b.val⟩

theorem edgeOf_injective : Function.Injective (edgeOf : Sym2 (Fin n) → Nat × Nat) := by
  intro e e'
  induction e using Sym2.ind with
  | _ a b =>
    induction e' using Sym2.ind with
    | _ c d =>
      intro same
      have same : edge a.val b.val = edge c.val d.val := same
      rw [Sym2.eq_iff, Fin.ext_iff, Fin.ext_iff, Fin.ext_iff, Fin.ext_iff]
      unfold edge at same
      split at same <;> split at same <;> cases Prod.mk.inj same <;> omega

theorem meshEdges_eq (faces : List (Triple (Fin n))) :
    meshEdges (faces.map (Triple.map Fin.val)) = (faces.flatMap sides).map edgeOf := by
  unfold meshEdges
  rw [List.flatMap_map, List.map_flatMap]
  rfl

/-- What appears at most once in each list appears as often as lists have it. -/
theorem count_flatMap_of_nodup {α β : Type} [DecidableEq β] {f : α → List β} {l : List α}
    (nodup : ∀ a ∈ l, (f a).Nodup) (b : β) :
    (l.flatMap f).count b = l.countP fun a => b ∈ f a := by
  induction l with
  | nil => rfl
  | cons a l ih =>
      rw [List.flatMap_cons, List.count_append, (nodup a List.mem_cons_self).count,
        ih fun a' listed => nodup a' (List.mem_cons_of_mem _ listed), List.countP_cons, Nat.add_comm]
      simp only [decide_eq_true_eq]

/-- **Watertight** means that every side belongs to exactly two faces. -/
theorem watertight_iff (proper : ∀ face ∈ faces, face.Proper) (some : faces ≠ []) :
    watertight (faces.map (Triple.map Fin.val)) = true ↔
      ∀ e, (∃ face ∈ faces, e ∈ sides face) → faces.countP (fun face => e ∈ sides face) = 2 := by
  have filled : ((faces.flatMap sides).map edgeOf).isEmpty = false := by
    cases faces with
    | nil => exact absurd rfl some
    | cons face rest => rfl
  unfold watertight
  rw [meshEdges_eq, filled, Bool.not_false, Bool.true_and, List.all_eq_true]
  constructor
  · intro twice e belongs
    have counted := twice (edgeOf e)
      (List.mem_map_of_mem (List.mem_flatMap.2 belongs))
    rw [decide_eq_true_eq, List.count_map_of_injective _ _ edgeOf_injective,
      count_flatMap_of_nodup fun face listed => sides_nodup (proper face listed)] at counted
    exact counted
  · intro twice e listed
    obtain ⟨e, member, rfl⟩ := List.mem_map.1 listed
    rw [decide_eq_true_eq, List.count_map_of_injective _ _ edgeOf_injective,
      count_flatMap_of_nodup fun face listed => sides_nodup (proper face listed)]
    exact twice e (List.mem_flatMap.1 member)

/-! ## Faces -/

theorem mem_usedKeys {valid : List (Triple WeldKey)} {key : WeldKey} :
    key ∈ usedKeys valid ↔ ∃ face ∈ valid, key ∈ face.toList := by
  unfold usedKeys
  rw [List.mem_insertionSort, List.mem_dedup, List.mem_flatMap]

/-- A proper face has three keys. -/
theorem three_le_usedKeys {valid : List (Triple WeldKey)} {face : Triple WeldKey}
    (listed : face ∈ valid) (proper : face.Proper) : 3 ≤ (usedKeys valid).length :=
  (List.Nodup.subperm proper fun _ inside => mem_usedKeys.2 ⟨face, listed, inside⟩).length_le

theorem turned_canonicalCycle (face : Face) : Turned face (canonicalCycle face) := by
  unfold canonicalCycle
  rcases min_choice (min face face.rotate) face.rotate.rotate with least | least
  · rw [least]
    rcases min_choice face face.rotate with first | second
    · rw [first]
      exact .none face
    · rw [second]
      exact .once face
  · rw [least]
    exact .twice face

theorem mem_canonicalFaces {used : List WeldKey} {valid : List (Triple WeldKey)} {face : Face} :
    face ∈ canonicalFaces used valid ↔
      ∃ keys ∈ valid, canonicalCycle (keys.map used.idxOf) = face := by
  unfold canonicalFaces
  rw [List.mem_insertionSort, List.mem_map]

theorem length_canonicalFaces (used : List WeldKey) (valid : List (Triple WeldKey)) :
    (canonicalFaces used valid).length = valid.length := by
  unfold canonicalFaces
  rw [List.length_insertionSort, List.length_map]

/-- A canonical face has the places of its keys, in some rotation. -/
theorem mem_toList_canonicalCycle (used : List WeldKey) (keys : Triple WeldKey) (index : Nat) :
    index ∈ (canonicalCycle (keys.map used.idxOf)).toList ↔
      ∃ key ∈ keys.toList, used.idxOf key = index := by
  rw [(turned_canonicalCycle _).mem_toList_iff, Triple.toList_map, List.mem_map]

/-- **The mesh is not refused for a canonical face** of proper facets. -/
theorem faceError_canonicalFaces {valid : List (Triple WeldKey)}
    (proper : ∀ keys ∈ valid, keys.Proper) {face : Face}
    (listed : face ∈ canonicalFaces (usedKeys valid) valid) :
    faceError (usedKeys valid).length face = none := by
  obtain ⟨keys, member, rfl⟩ := mem_canonicalFaces.1 listed
  have known : ∀ key ∈ keys.toList, key ∈ usedKeys valid := fun key inside =>
    mem_usedKeys.2 ⟨keys, member, inside⟩
  have within : ¬∃ index ∈ (canonicalCycle (keys.map (usedKeys valid).idxOf)).toList,
      (usedKeys valid).length ≤ index := by
    rintro ⟨index, inside, beyond⟩
    obtain ⟨key, of, rfl⟩ := (mem_toList_canonicalCycle _ _ _).1 inside
    exact absurd (List.idxOf_lt_length_of_mem (known key of)) (Nat.not_lt.2 beyond)
  have apart : (keys.map (usedKeys valid).idxOf).Proper := by
    rw [Triple.Proper, Triple.toList_map]
    refine List.Nodup.map_on ?_ (proper keys member)
    intro a inside b inside' same
    exact (List.idxOf_inj (known a inside)).1 same
  have cycle : (canonicalCycle (keys.map (usedKeys valid).idxOf)).Proper :=
    (turned_canonicalCycle _).proper_iff.2 apart
  unfold faceError
  rw [if_neg within, if_neg (not_not.2 cycle)]

/-- **Every key has a face at its place.** -/
theorem exists_canonicalFace {valid : List (Triple WeldKey)} {index : Nat}
    (small : index < (usedKeys valid).length) :
    ∃ face ∈ canonicalFaces (usedKeys valid) valid, index ∈ face.toList := by
  obtain ⟨keys, member, inside⟩ := mem_usedKeys.1 (List.getElem_mem small)
  refine ⟨_, mem_canonicalFaces.2 ⟨keys, member, rfl⟩, ?_⟩
  refine (mem_toList_canonicalCycle _ _ _).2 ⟨_, inside, ?_⟩
  have distinct : (usedKeys valid).Nodup := by
    unfold usedKeys
    exact (List.perm_insertionSort _ _).nodup_iff.2 (List.nodup_dedup _)
  exact distinct.idxOf_getElem index small

/-! ## Facets of a file -/

/-- `line.lower() == "endfacet"` -/
def isEndfacet (line : Text) : Bool := PyText.lower line = txt "endfacet"

/-- The number of facets in a file: the one a binary file declares, and in an ASCII file that
of the lines that end a facet. -/
def facetCount (payload : Bytes) : Nat :=
  if isBinary payload then (wordAt payload 80).toNat
  else ((decodeAscii payload).elim [] fun text => bodyLines (stlLines text)).countP isEndfacet

theorem isSpace_of_lt {c : CodePoint} (printed : 32 < c.val) : PyText.isSpace c = false := by
  have first : ¬c.val ≤ 13 := by omega
  have last : ¬c.val ≤ 32 := by omega
  unfold PyText.isSpace
  rw [decide_eq_false first, decide_eq_false last, Bool.and_false, Bool.and_false, Bool.or_false]

theorem isSpace_lowerChar (c : CodePoint) : PyText.isSpace (PyText.lowerChar c) = PyText.isSpace c := by
  unfold PyText.lowerChar
  split
  case isTrue upper =>
      rw [isSpace_of_lt (c := c) (by omega), isSpace_of_lt (by simp only; omega)]
  case isFalse => rfl

/-- A line that ends a facet is one word. -/
theorem not_isEndfacet {line : Text} (more : 1 < (words line).length) : isEndfacet line = false := by
  by_contra is
  have lowered : PyText.lower line = txt "endfacet" := by
    simpa [isEndfacet] using is
  have solid : ∀ c ∈ line, PyText.isSpace c = false := by
    intro c inside
    rw [← isSpace_lowerChar]
    have listed : PyText.lowerChar c ∈ txt "endfacet" := lowered ▸ List.mem_map_of_mem inside
    have none : (txt "endfacet").all (fun c => !PyText.isSpace c) = true := by decide
    simpa using List.all_eq_true.1 none _ listed
  unfold words at more
  rw [List.splitOnP_eq_singleton solid] at more
  have short := List.length_filter_le (fun word : Text => decide (word ≠ [])) [line]
  rw [List.length_singleton] at short
  omega

section

variable {K : Type} [Add K] [Sub K] [Neg K] [Mul K] [Div K] [LT K] [DecidableLT K] [LE K]
  [DecidableLE K] [OfScientific K] {N : StlNumbers K} {limits : StlLimits K}

theorem length_binaryRecords {n : Nat} {payload : Bytes} {triangles : List (Triple (Vec K))}
    (read : binaryRecords N limits n payload = .ok triangles) : triangles.length = n := by
  induction n generalizing payload triangles with
  | zero =>
      cases read
      rfl
  | succ n ih =>
      obtain ⟨triangle, -, rest⟩ := bind_ok_iff.1 read
      obtain ⟨others, later, made⟩ := bind_ok_iff.1 rest
      cases made
      rw [List.length_cons, ih later]

theorem facetLine_ok {line : Text} (read : facetLine N line = .ok ()) : isEndfacet line = false := by
  apply not_isEndfacet
  unfold facetLine at read
  split at read
  case h_1 found =>
      rw [found]
      simp
  case h_2 => cases read

theorem fixedLine_ok {expected message : String} {lines rest : List Text}
    (read : fixedLine expected message lines = .ok rest) :
    ∃ line, lines = line :: rest ∧ PyText.lower line = txt expected := by
  unfold fixedLine at read
  split at read
  · cases read
  · split at read
    case isTrue same =>
        cases read
        exact ⟨_, rfl, same⟩
    case isFalse => cases read

theorem vertexLine_ok {lines rest : List Text} {point : Vec K}
    (read : vertexLine N limits lines = .ok (point, rest)) :
    ∃ line, lines = line :: rest ∧ isEndfacet line = false := by
  unfold vertexLine at read
  split at read
  · cases read
  rename_i line others
  split at read
  case h_2 => cases read
  case h_1 found =>
      split at read
      case isFalse => cases read
      case isTrue =>
          obtain ⟨point', -, made⟩ := bind_ok_iff.1 read
          cases made
          refine ⟨line, rfl, not_isEndfacet ?_⟩
          rw [found]
          simp

/-- A facet ends once. -/
theorem asciiFacet_ok {line : Text} {lines rest : List Text} {triangle : Triple (Vec K)}
    (read : asciiFacet N limits line lines = .ok (triangle, rest)) :
    (line :: lines).countP isEndfacet = 1 + rest.countP isEndfacet ∧
      rest.length < (line :: lines).length := by
  obtain ⟨⟨⟩, facet, read⟩ := bind_ok_iff.1 read
  obtain ⟨lines₁, opens, read⟩ := bind_ok_iff.1 read
  obtain ⟨⟨first, lines₂⟩, vertex, read⟩ := bind_ok_iff.1 read
  obtain ⟨⟨second, lines₃⟩, vertex', read⟩ := bind_ok_iff.1 read
  obtain ⟨⟨third, lines₄⟩, vertex'', read⟩ := bind_ok_iff.1 read
  obtain ⟨lines₅, closes, read⟩ := bind_ok_iff.1 read
  obtain ⟨lines₆, ends, made⟩ := bind_ok_iff.1 read
  cases made
  obtain ⟨line₁, rfl, outer⟩ := fixedLine_ok opens
  obtain ⟨line₂, rfl, plain₂⟩ := vertexLine_ok vertex
  obtain ⟨line₃, rfl, plain₃⟩ := vertexLine_ok vertex'
  obtain ⟨line₄, rfl, plain₄⟩ := vertexLine_ok vertex''
  obtain ⟨line₅, rfl, loop⟩ := fixedLine_ok closes
  obtain ⟨line₆, rfl, last⟩ := fixedLine_ok ends
  have plain₁ : isEndfacet line₁ = false := by
    unfold isEndfacet
    rw [outer]
    decide
  have plain₅ : isEndfacet line₅ = false := by
    unfold isEndfacet
    rw [loop]
    decide
  have final : isEndfacet line₆ = true := by
    unfold isEndfacet
    rw [last]
    decide
  constructor
  · simp only [List.countP_cons, facetLine_ok facet, plain₁, plain₂, plain₃, plain₄, plain₅, final,
      Bool.false_eq_true, if_false, if_true]
    omega
  · simp only [List.length_cons]
    omega

theorem length_asciiFacets {fuel done : Nat} {lines : List Text} {triangles : List (Triple (Vec K))}
    (enough : lines.length ≤ fuel) (read : asciiFacets N limits fuel done lines = .ok triangles) :
    triangles.length = lines.countP isEndfacet := by
  induction fuel generalizing done lines triangles with
  | zero =>
      obtain rfl : lines = [] := List.length_eq_zero_iff.1 (Nat.le_zero.1 enough)
      cases read
      rfl
  | succ fuel ih =>
      cases lines with
      | nil =>
          cases read
          rfl
      | cons line lines =>
          obtain ⟨⟨triangle, rest⟩, facet, read⟩ := bind_ok_iff.1 read
          dsimp only at read
          split at read
          · cases read
          split at read
          · cases read
          obtain ⟨others, later, made⟩ := bind_ok_iff.1 read
          cases made
          obtain ⟨counted, shorter⟩ := asciiFacet_ok facet
          rw [counted, List.length_cons, ih (by omega) later, Nat.add_comm]

/-- **Every facet of a file is read.** -/
theorem length_readTriangles {payload : Bytes} {triangles : List (Triple (Vec K))}
    (read : readTriangles N limits payload = .ok triangles) :
    triangles.length = facetCount payload := by
  unfold readTriangles at read
  unfold facetCount
  split at read
  case isTrue binary =>
      rw [if_pos binary]
      unfold parseBinary at read
      dsimp only at read
      split at read
      · cases read
      split at read
      · cases read
      exact length_binaryRecords read
  case isFalse ascii =>
      rw [if_neg ascii]
      unfold parseAscii at read
      cases decoded : decodeAscii payload with
      | none =>
          rw [decoded] at read
          cases read
      | some text =>
          rw [decoded] at read
          dsimp only at read
          split at read
          · cases read
          split at read
          · cases read
          obtain ⟨found, facets, read⟩ := bind_ok_iff.1 read
          split at read
          · cases read
          cases read
          exact length_asciiFacets le_rfl facets

/-! ## The canonical mesh -/

/-- **What holds of an accepted file's mesh and its evidence.** -/
structure Evidenced (payload : Bytes) (m : CanonicalMesh K) : Prop where
  proper : ∀ face ∈ m.mesh.faces, face.Proper
  used : ∀ vertex, ∃ face ∈ m.mesh.faces, vertex ∈ face.toList
  components : m.evidence.connectedComponentCount =
    Nat.card (meshGraph m.mesh.faces).ConnectedComponent
  triangles : m.evidence.triangleCount = m.mesh.faces.length
  facets : m.evidence.triangleCount + m.evidence.degenerateTriangleCount = facetCount payload
  watertight : m.evidence.watertight = true ↔ ∀ e, (∃ face ∈ m.mesh.faces, e ∈ sides face) →
    m.mesh.faces.countP (fun face => e ∈ sides face) = 2

theorem newMesh_ok {vertices : List (Vec K)} {faces : List Face} {mesh : TriangleMesh K}
    (made : newMesh N vertices faces = .ok mesh) :
    mesh.size = vertices.length ∧ mesh.faces.map (Triple.map Fin.val) = faces := by
  unfold newMesh PyError.value at made
  split at made
  · cases made
  split at made
  · cases made
  split at made
  · cases made
  cases made
  refine ⟨rfl, ?_⟩
  rw [List.map_pmap]
  simp only [inRange_val]
  exact List.pmap_eq_self.2 fun _ _ => rfl

theorem judge_ok {epsilon : K} {coordinates : List (WeldKey × Vec K)} {keys : Triple WeldKey}
    {facet : Triple WeldKey × Bool} (judged : judge N epsilon coordinates keys = .ok facet) :
    facet.2 = false → facet.1.Proper := by
  obtain ⟨points, -, rest⟩ := bind_ok_iff.1 judged
  intro sound
  split at rest
  case isTrue proper =>
      obtain ⟨length, -, made⟩ := bind_ok_iff.1 rest
      cases made
      exact proper
  case isFalse =>
      cases rest
      cases sound

/-- The facets that are kept and the degenerate ones are all. -/
theorem kept_add_degenerate (judged : List (Triple WeldKey × Bool)) :
    ((judged.filter fun facet => !facet.2).map Prod.fst).length +
      judged.countP (fun facet => facet.2) = judged.length := by
  rw [List.length_map, ← List.countP_eq_length_filter,
    List.length_eq_countP_add_countP (fun facet => facet.2) (l := judged), Nat.add_comm]
  simp

theorem evidenced_of_canonicalMesh {sha : Text} {degenerate : Nat} {vertices : List (Vec K)}
    {valid : List (Triple WeldKey)} {m : CanonicalMesh K} {payload : Bytes}
    (size : vertices.length = (usedKeys valid).length)
    (counted : valid.length + degenerate = facetCount payload)
    (made : canonicalMesh N sha degenerate vertices (canonicalFaces (usedKeys valid) valid) =
      .ok m) : Evidenced payload m := by
  obtain ⟨mesh, built, rest⟩ := bind_ok_iff.1 made
  obtain ⟨lengths, -, rest⟩ := bind_ok_iff.1 rest
  obtain ⟨bounds, -, rest⟩ := bind_ok_iff.1 rest
  cases rest
  obtain ⟨sized, faces⟩ := newMesh_ok built
  have same : (canonicalFaces (usedKeys valid) valid).length = mesh.faces.length := by
    rw [← faces, List.length_map]
  refine ⟨mesh.proper, ?_, componentCount_eq mesh.proper, same, ?_, ?_⟩
  · intro (vertex : Fin mesh.size)
    have small : vertex.val < (usedKeys valid).length := by
      have := vertex.isLt
      omega
    obtain ⟨face, listed, inside⟩ := exists_canonicalFace small
    rw [← faces, List.mem_map] at listed
    obtain ⟨face, member, rfl⟩ := listed
    rw [Triple.toList_map, List.mem_map] at inside
    obtain ⟨vertex', here, value⟩ := inside
    exact ⟨face, member, Fin.val_injective value ▸ here⟩
  · show (canonicalFaces (usedKeys valid) valid).length + degenerate = facetCount payload
    rw [length_canonicalFaces, counted]
  · show watertight (canonicalFaces (usedKeys valid) valid) = true ↔ _
    rw [← faces]
    exact watertight_iff mesh.proper mesh.nonempty

/-- **The evidence of an accepted file is in order.** -/
theorem evidenced_of_canonicalise {epsilon : K} {sha : Text} {payload : Bytes}
    {triangles : List (Triple (Vec K))} {m : CanonicalMesh K}
    (read : readTriangles N limits payload = .ok triangles)
    (made : canonicalise N limits epsilon sha triangles = .ok m) : Evidenced payload m := by
  obtain ⟨welded, ran, rest⟩ := bind_ok_iff.1 made
  dsimp only at rest
  split at rest
  · cases rest
  obtain ⟨judged, loop, rest⟩ := bind_ok_iff.1 rest
  split at rest
  · cases rest
  obtain ⟨vertices, placed, rest⟩ := bind_ok_iff.1 rest
  refine evidenced_of_canonicalMesh (mapM_ok_iff.1 placed).length_eq.symm ?_ rest
  rw [kept_add_degenerate, ← (mapM_ok_iff.1 loop).length_eq, List.length_map,
    ← (mapM_ok_iff.1 ran).length_eq, length_readTriangles read]

end

end InstrumentBench.Geometry.Stl
