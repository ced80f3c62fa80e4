/-
# Geometry.StlReading -- which files are read as the same facets

A binary record is a normal, three corners and an attribute, of which only the corners
are read; the facet of an ASCII file is seven lines, of which the three corners are read
and the normal has only to be finite.

* `read_rewritten`: files of either format whose corners are the same, in any order and begun
  anywhere, under any headers, normals and attributes, are read as the same facets.
-/
import InstrumentBench.Geometry.StlCanonical

namespace InstrumentBench.Geometry.Stl

set_option autoImplicit false
set_option linter.unusedSectionVars false

open InstrumentBench.Theory
open InstrumentBench.Fibsem (PyError)

/-! ## Words -/

theorem wordAt_append (before bytes : Bytes) (offset : Nat) :
    wordAt (before ++ bytes) (before.length + offset) = wordAt bytes offset := by
  rw [wordAt, wordAt, List.drop_length_add_append]

theorem wordAt_inside {bytes : Bytes} {offset : Nat} (inside : offset + 4 ≤ bytes.length)
    (after : Bytes) : wordAt (bytes ++ after) offset = wordAt bytes offset := by
  have kept : ∀ k < 4, ((bytes ++ after).drop offset).getD k 0 = (bytes.drop offset).getD k 0 := by
    intro k small
    rw [List.drop_append_of_le_length (by omega)]
    rw [List.getD_eq_getElem?_getD, List.getD_eq_getElem?_getD, List.getElem?_append_left]
    rw [List.length_drop]
    omega
  simp only [wordAt, kept 0 (by decide), kept 1 (by decide), kept 2 (by decide),
    kept 3 (by decide)]

/-! ## Records -/

/-- A record of a binary file. -/
structure BinaryFacet where
  normal : Bytes
  corners : Triple Bytes
  spare : Bytes
  normalSize : normal.length = 12
  cornerSize : ∀ corner ∈ corners.toList, corner.length = 12
  spareSize : spare.length = 2

def BinaryFacet.record (f : BinaryFacet) : Bytes :=
  f.normal ++ (f.corners.first ++ (f.corners.second ++ (f.corners.third ++ f.spare)))

/-- A header that counts the records, and the records. -/
structure BinaryFile where
  header : Bytes
  facets : List BinaryFacet
  headerSize : header.length = 84
  counted : (wordAt header 80).toNat = facets.length

def BinaryFile.payload (file : BinaryFile) : Bytes :=
  file.header ++ file.facets.flatMap BinaryFacet.record

theorem BinaryFacet.length_record (f : BinaryFacet) : f.record.length = 50 := by
  have first := f.cornerSize f.corners.first (by simp)
  have second := f.cornerSize f.corners.second (by simp)
  have third := f.cornerSize f.corners.third (by simp)
  simp only [record, List.length_append, first, second, third, f.normalSize, f.spareSize]

theorem length_records (facets : List BinaryFacet) :
    (facets.flatMap BinaryFacet.record).length = facets.length * 50 := by
  induction facets with
  | nil => rfl
  | cons f facets ih =>
      rw [List.flatMap_cons, List.length_append, f.length_record, ih, List.length_cons]
      omega

theorem BinaryFile.count_payload (file : BinaryFile) :
    wordAt file.payload 80 = wordAt file.header 80 :=
  wordAt_inside (by rw [file.headerSize]) _

theorem BinaryFile.isBinary_payload (file : BinaryFile) : isBinary file.payload = true := by
  have size : file.payload.length = 84 + file.facets.length * 50 := by
    rw [payload, List.length_append, file.headerSize, length_records]
  rw [isBinary, count_payload, file.counted, size]
  simp

section

variable {K : Type} [Add K] [Sub K] [Neg K] [Mul K] [Div K] [LT K] [DecidableLT K] [LE K]
  [DecidableLE K] [OfScientific K]
variable (N : StlNumbers K) (limits : StlLimits K)

/-- The vertex in the twelve bytes of a corner. -/
def binaryCorner (corner : Bytes) : Except PyError (Vec K) :=
  axesM fun axis => validatedCoordinate limits (N.float32 (wordAt corner (4 * axis.val)))

/-- Only the corners of a record are read. -/
theorem binaryRecord_record (f : BinaryFacet) (after : Bytes) :
    binaryRecord N limits (f.record ++ after) = f.corners.mapM (binaryCorner N limits) := by
  have corner : ∀ (before corner rest : Bytes) (offset : Nat), corner.length = 12 →
      before.length = offset →
      (axesM fun axis => validatedCoordinate limits
        (N.float32 (wordAt (before ++ (corner ++ rest)) (offset + 4 * axis.val)))) =
      binaryCorner N limits corner := by
    rintro before corner rest offset size rfl
    unfold binaryCorner
    congr 1
    funext axis
    rw [wordAt_append, wordAt_inside (by omega)]
  have first := f.cornerSize f.corners.first (by simp)
  have second := f.cornerSize f.corners.second (by simp)
  have third := f.cornerSize f.corners.third (by simp)
  have long : ¬(f.record ++ after).length < 50 := by
    rw [List.length_append, f.length_record]
    omega
  have one := corner f.normal f.corners.first
    (f.corners.second ++ (f.corners.third ++ (f.spare ++ after))) 12 first f.normalSize
  have two := corner (f.normal ++ f.corners.first) f.corners.second
    (f.corners.third ++ (f.spare ++ after)) 24 second (by
      rw [List.length_append, f.normalSize, first])
  have three := corner (f.normal ++ (f.corners.first ++ f.corners.second)) f.corners.third
    (f.spare ++ after) 36 third (by
      rw [List.length_append, List.length_append, f.normalSize, first, second])
  rw [binaryRecord, if_neg long]
  simp only [BinaryFacet.record, Triple.mapM, List.append_assoc] at one two three ⊢
  rw [one, two, three]

theorem binaryRecords_records (facets : List BinaryFacet) :
    binaryRecords N limits facets.length (facets.flatMap BinaryFacet.record) =
      facets.mapM fun f => f.corners.mapM (binaryCorner N limits) := by
  induction facets with
  | nil => rfl
  | cons f facets ih =>
      have rest : (f.record ++ facets.flatMap BinaryFacet.record).drop 50 =
          facets.flatMap BinaryFacet.record := by
        rw [← f.length_record, List.drop_left]
      rw [List.length_cons, binaryRecords, List.flatMap_cons, binaryRecord_record, rest, ih,
        List.mapM_cons]
      rfl

/-- **A binary file is read record by record.** -/
theorem readTriangles_payload (file : BinaryFile) : readTriangles N limits file.payload =
    if limits.maximumTriangles < file.facets.length then
      stlError "STL triangle count exceeds the resource limit"
    else if limits.maximumInputVertices < file.facets.length * 3 then
      stlError "STL input vertex count exceeds the resource limit"
    else file.facets.mapM fun f => f.corners.mapM (binaryCorner N limits) := by
  have records : file.payload.drop 84 = file.facets.flatMap BinaryFacet.record := by
    rw [BinaryFile.payload, ← file.headerSize, List.drop_left]
  rw [readTriangles, if_pos file.isBinary_payload, parseBinary, file.count_payload, file.counted, records,
    binaryRecords_records]

/-! ## Lines -/

/-- The vertex on a line. -/
def asciiCorner (line : Text) : Except PyError (Vec K) :=
  (vertexLine N limits [line]).map Prod.fst

theorem vertexLine_cons (line : Text) (rest : List Text) : vertexLine N limits (line :: rest) =
    (asciiCorner N limits line).map fun point => (point, rest) := by
  simp only [asciiCorner, vertexLine]
  split
  · split
    · rename_i x y z _ _
      cases axesM fun axis => do
        validatedCoordinate limits (← asciiNumber N (![x, y, z] axis)) <;> rfl
    · rfl
  · rfl

/-- The seven lines of a facet, of which the corners are not read yet. -/
structure AsciiFacet where
  facet : Text
  outer : Text
  corners : Triple Text
  endloop : Text
  endfacet : Text
  normal : facetLine N facet = .ok ()
  opens : PyText.lower outer = txt "outer loop"
  closes : PyText.lower endloop = txt "endloop"
  ends : PyText.lower endfacet = txt "endfacet"

variable {N}

def AsciiFacet.loop (f : AsciiFacet N) : List Text :=
  [f.outer, f.corners.first, f.corners.second, f.corners.third, f.endloop, f.endfacet]

def AsciiFacet.lines (f : AsciiFacet N) : List Text := f.facet :: f.loop

theorem asciiFacet_lines (f : AsciiFacet N) (rest : List Text) :
    asciiFacet N limits f.facet (f.loop ++ rest) =
      (f.corners.mapM (asciiCorner N limits)).map fun triangle => (triangle, rest) := by
  simp only [asciiFacet, AsciiFacet.loop, f.normal, List.cons_append, List.nil_append, fixedLine,
    f.opens, if_true, bind, Except.bind, vertexLine_cons, Triple.mapM]
  cases asciiCorner N limits f.corners.first with
  | error e => rfl
  | ok first =>
      simp only [Except.map, vertexLine_cons]
      cases asciiCorner N limits f.corners.second with
      | error e => rfl
      | ok second =>
          simp only [Except.map, vertexLine_cons]
          cases asciiCorner N limits f.corners.third with
          | error e => rfl
          | ok third => simp only [f.closes, f.ends, if_true]

/-- There is room for this many facets. -/
def Room (limits : StlLimits K) (count : Nat) : Prop :=
  count ≤ limits.maximumTriangles ∧ count * 3 ≤ limits.maximumInputVertices

theorem Room.anti {count more : Nat} (room : Room limits more) (le : count ≤ more) :
    Room limits count :=
  ⟨le.trans room.1, (Nat.mul_le_mul_right 3 le).trans room.2⟩

theorem asciiFacets_lines (facets : List (AsciiFacet N)) (fuel done : Nat)
    (enough : facets.length ≤ fuel) (triangles : List (Triple (Vec K))) :
    asciiFacets N limits fuel done (facets.flatMap AsciiFacet.lines) = .ok triangles ↔
      (facets.mapM fun f => f.corners.mapM (asciiCorner N limits)) = .ok triangles ∧
        (facets = [] ∨ Room limits (done + facets.length)) := by
  induction facets generalizing fuel done triangles with
  | nil => cases fuel <;> simp [asciiFacets, pure, Except.pure]
  | cons f facets ih =>
      obtain _ | fuel := fuel
      · cases enough
      have later := ih fuel (done + 1) (Nat.le_of_succ_le_succ enough)
      rw [List.flatMap_cons, AsciiFacet.lines, List.cons_append, asciiFacets, asciiFacet_lines,
        List.mapM_cons]
      cases f.corners.mapM (asciiCorner N limits) with
      | error e => simp [bind, Except.bind, Except.map]
      | ok triangle =>
          change (if limits.maximumTriangles < done + 1 then
              stlError "ASCII STL triangle count exceeds the resource limit"
            else if limits.maximumInputVertices < (done + 1) * 3 then
              stlError "ASCII STL input vertex count exceeds the resource limit"
            else asciiFacets N limits fuel (done + 1) (facets.flatMap AsciiFacet.lines) >>=
              fun rest => .ok (triangle :: rest)) = _ ↔
            ((facets.mapM fun f => f.corners.mapM (asciiCorner N limits)) >>=
              fun rest => .ok (triangle :: rest)) = _ ∧ _
          have grown : done + 1 + facets.length = done + (f :: facets).length := by
            rw [List.length_cons]
            omega
          by_cases here : Room limits (done + 1)
          · rw [if_neg (Nat.not_lt.2 here.1), if_neg (Nat.not_lt.2 here.2), bind_ok_iff, bind_ok_iff]
            constructor
            · rintro ⟨rest, ran, made⟩
              obtain ⟨read, room⟩ := (later rest).1 ran
              refine ⟨⟨rest, read, made⟩, .inr ?_⟩
              obtain rfl | room := room
              · exact here
              · exact grown ▸ room
            · rintro ⟨⟨rest, read, made⟩, room⟩
              have room := room.resolve_left (List.cons_ne_nil _ _)
              exact ⟨rest, (later rest).2 ⟨read, .inr (grown ▸ room)⟩, made⟩
          · refine iff_of_false ?_ fun both => here ?_
            · split
              · intro ran
                cases ran
              split
              · intro ran
                cases ran
              rename_i few room
              exact absurd ⟨Nat.not_lt.1 few, Nat.not_lt.1 room⟩ here
            · exact (both.2.resolve_left (List.cons_ne_nil _ _)).anti limits (by
                rw [← grown]
                exact Nat.le_add_right _ _)

/-! ## Files of lines -/

variable (N) in
/-- A file of lines: the lines of the facets between one of `solid` and one of `endsolid`. -/
structure AsciiFile where
  payload : Bytes
  text : Text
  header : Text
  facets : List (AsciiFacet N)
  footer : Text
  plain : isBinary payload = false
  decoded : decodeAscii payload = some text
  listed : stlLines text = header :: (facets.flatMap AsciiFacet.lines ++ [footer])
  solid : txt "solid" <+: PyText.lower header
  endsolid : txt "endsolid" <+: PyText.lower footer

theorem length_le_lines (facets : List (AsciiFacet N)) :
    facets.length ≤ (facets.flatMap AsciiFacet.lines).length := by
  induction facets with
  | nil => exact Nat.le_refl 0
  | cons f facets ih =>
      rw [List.flatMap_cons, List.length_append, AsciiFacet.lines, List.length_cons, List.length_cons]
      omega

/-- **A file of lines is read facet by facet.** -/
theorem readTriangles_lines (file : AsciiFile N) (triangles : List (Triple (Vec K))) :
    readTriangles N limits file.payload = .ok triangles ↔
      (file.facets.mapM fun f => f.corners.mapM (asciiCorner N limits)) = .ok triangles ∧
        file.facets ≠ [] ∧ Room limits file.facets.length := by
  have body : bodyLines (stlLines file.text) = file.facets.flatMap AsciiFacet.lines := by
    rw [file.listed]
    exact List.dropLast_concat
  have opened : ¬((stlLines file.text).length < 2 ∨
      ¬txt "solid" <+: PyText.lower ((stlLines file.text).headD [])) := by
    rw [file.listed, List.headD_cons, not_or, not_not]
    exact ⟨by simp, file.solid⟩
  have closed : ¬¬txt "endsolid" <+: PyText.lower ((stlLines file.text).getLastD []) := by
    rw [file.listed, List.getLastD_cons, List.getLastD_concat]
    exact not_not.2 file.endsolid
  have enough := length_le_lines file.facets
  rw [readTriangles, if_neg (by simp [file.plain]), parseAscii, file.decoded]
  simp only
  rw [if_neg opened, if_neg closed, body, bind_ok_iff]
  constructor
  · rintro ⟨made, ran, some⟩
    obtain ⟨read, room⟩ := (asciiFacets_lines limits file.facets _ 0 enough made).1 ran
    split at some
    · cases some
    rename_i listed
    cases some
    have nonempty : file.facets ≠ [] := by
      intro none
      rw [none] at read
      cases read
      exact listed rfl
    refine ⟨read, nonempty, ?_⟩
    rw [← Nat.zero_add file.facets.length]
    exact room.resolve_left nonempty
  · rintro ⟨read, nonempty, room⟩
    rw [← Nat.zero_add file.facets.length] at room
    refine ⟨triangles, (asciiFacets_lines limits file.facets _ 0 enough _).2 ⟨read, .inr room⟩, ?_⟩
    rw [if_neg]
    intro none
    have size := (mapM_ok_iff.1 read).length_eq
    rw [List.isEmpty_iff.1 none] at size
    exact nonempty (List.length_eq_zero_iff.1 size)

/-! ## Files of the same facets -/

/-- The vertices of the corners of a file, facet by facet. -/
inductive Lists (N : StlNumbers K) (limits : StlLimits K) :
    Bytes → List (Triple (Except PyError (Vec K))) → Prop where
  | binary (file : BinaryFile) : Lists N limits file.payload
      (file.facets.map fun f => f.corners.map (binaryCorner N limits))
  | ascii (file : AsciiFile N) : Lists N limits file.payload
      (file.facets.map fun f => f.corners.map (asciiCorner N limits))

theorem mapM_corners {α β : Type} (f : α → Except PyError (Vec K)) (corners : β → Triple α)
    (facets : List β) : (facets.map fun b => (corners b).map f).mapM (Triple.mapM id) =
      facets.mapM fun b => (corners b).mapM f := by
  rw [List.mapM_map]
  rfl

/-- A file with facets is read where there is room for them and each of its corners is read. -/
theorem read_iff {payload : Bytes} {facets : List (Triple (Except PyError (Vec K)))}
    (listed : Lists N limits payload facets) (some : facets ≠ []) (triangles : List (Triple (Vec K))) :
    readTriangles N limits payload = .ok triangles ↔
      facets.mapM (Triple.mapM id) = .ok triangles ∧ Room limits facets.length := by
  cases listed with
  | binary file =>
      rw [mapM_corners, List.length_map, readTriangles_payload]
      split
      case isTrue many =>
        exact iff_of_false (fun h => by cases h) fun both => many.not_ge both.2.1
      case isFalse few =>
        split
        case isTrue many =>
          exact iff_of_false (fun h => by cases h) fun both => many.not_ge both.2.2
        case isFalse room => exact (and_iff_left ⟨Nat.not_lt.1 few, Nat.not_lt.1 room⟩).symm
  | ascii file =>
      rw [mapM_corners, List.length_map, readTriangles_lines]
      exact and_congr_right fun _ => and_iff_right fun none => some (by rw [none, List.map_nil])

/-- **Files of the same corners are read as the same facets**: of either format, listed in any
order, begun anywhere and under any normals. -/
theorem read_rewritten {p q : Bytes} {facets facets' : List (Triple (Except PyError (Vec K)))}
    {triangles : List (Triple (Vec K))} (listed : Lists N limits p facets)
    (listed' : Lists N limits q facets') (some : facets ≠ [])
    (same : Matched Turned facets facets') (read : readTriangles N limits p = .ok triangles) :
    ∃ triangles', readTriangles N limits q = .ok triangles' ∧ Matched Turned triangles triangles' := by
  obtain ⟨corners, room⟩ := (read_iff limits listed some triangles).1 read
  obtain ⟨triangles', made, turned⟩ := same.mapM corners fun f _ g turned t made => turned.mapM made
  have some' : facets' ≠ [] := by
    intro none
    rw [none] at same
    exact some (List.length_eq_zero_iff.1 same.length_eq)
  exact ⟨triangles', (read_iff limits listed' some' triangles').2 ⟨made, same.length_eq ▸ room⟩, turned⟩

end

/-! ## One facet in both formats -/

def triangleLines : AsciiFacet stlRationals where
  facet := txt "facet normal 0 0 1"
  outer := txt "outer loop"
  corners := ⟨txt "vertex 0 0 0", txt "vertex 1 0 0", txt "vertex 0 1 0"⟩
  endloop := txt "endloop"
  endfacet := txt "endfacet"
  normal := ok_of_toOption (by decide +kernel)
  opens := by decide +kernel
  closes := by decide +kernel
  ends := by decide +kernel

def triangleText : AsciiFile stlRationals where
  payload := asciiTriangle "0 0 1"
  text := (decodeAscii (asciiTriangle "0 0 1")).getD []
  header := txt "solid t"
  facets := [triangleLines]
  footer := txt "endsolid t"
  plain := by decide +kernel
  decoded := by decide +kernel
  listed := by decide +kernel
  solid := by decide +kernel
  endsolid := by decide +kernel

def triangleRecord : BinaryFacet where
  normal := List.replicate 12 0
  corners := ⟨littleEndian 4 0x3F800000 ++ List.replicate 8 0,
    List.replicate 4 0 ++ littleEndian 4 0x3F800000 ++ List.replicate 4 0, List.replicate 12 0⟩
  spare := [0, 0]
  normalSize := by decide +kernel
  cornerSize := by decide +kernel
  spareSize := by decide +kernel

def triangleFile : BinaryFile where
  header := List.replicate 80 0 ++ littleEndian 4 1
  facets := [triangleRecord]
  headerSize := by decide +kernel
  counted := by decide +kernel

/-- The binary file begins the facet of the lines at its second vertex. -/
example : ∃ triangles,
    readTriangles stlRationals StlLimits.default triangleFile.payload = .ok triangles ∧
      Matched Turned [⟨![0, 0, 0], ![1, 0, 0], ![0, 1, 0]⟩] triangles := by
  have turned : triangleRecord.corners.map (binaryCorner stlRationals StlLimits.default) =
      (triangleLines.corners.map (asciiCorner stlRationals StlLimits.default)).rotate := by
    decide +kernel
  refine read_rewritten StlLimits.default (.ascii triangleText) (.binary triangleFile)
    (List.cons_ne_nil _ _) ⟨_, .refl _, .cons ?_ .nil⟩ read_asciiTriangle
  dsimp only
  rw [turned]
  exact .once _

end InstrumentBench.Geometry.Stl
