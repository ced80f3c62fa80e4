/-
# Artifacts.Png -- the images of a checkpoint, written and read

The exporter writes a grayscale picture with one kind of scanline; the scorer reads any:
each scanline names one of five predictors and holds the differences from its predictions.
The scanlines are compressed, cut into chunks and checksummed.  Compression is a parameter,
a pair of functions of which one undoes the other, and so is the checksum.

* `unfilter_eq`, `scanlines_eq`: the scorer's loops restore predicted rows;
* `readChunks_of_chunks`: the chunks of a file are read back;
* `png_inverse`: what is read is the picture, whatever its filters and its chunks.
-/
import InstrumentBench.Theory.BigEndian
import InstrumentBench.Theory.Prediction
import InstrumentBench.Theory.Stateful
import InstrumentBench.Fibsem.Scenario
import Mathlib.Data.List.MinMax
import Mathlib.Data.UInt

namespace InstrumentBench.Artifacts

set_option autoImplicit false

open InstrumentBench.Theory InstrumentBench.Fibsem

/-- `zlib.compress` and `zlib.decompress`; the latter raises `zlib.error` where it gives
nothing. -/
structure Zlib where
  compress : Bytes → Bytes
  decompress : Bytes → Option Bytes
  lossless : ∀ b, decompress (compress b) = some b

def artifactError {α : Type} (message : String) (name : Text) : Except PyError α :=
  .error (.other (txt "ArtifactError") (txt message ++ name))

def structError {α : Type} : Except PyError α :=
  .error (.other (txt "struct.error") (txt "argument out of range"))

/-- `b"\x89PNG\r\n\x1a\n"` -/
def signature : Bytes := [137, 80, 78, 71, 13, 10, 26, 10]

def IHDR : Bytes := ascii "IHDR"
def IDAT : Bytes := ascii "IDAT"
def IEND : Bytes := ascii "IEND"

variable (zlib : Zlib) (crc32 : Bytes → Nat) (name : Text)

/-- `binascii.crc32(kind + data) & 0xFFFFFFFF` -/
def checksum (kind data : Bytes) : Nat := crc32 (kind ++ data) &&& 0xFFFFFFFF

/-! ## Writing -/

/-- `_png_chunk` -/
def pngChunk (kind payload : Bytes) : Except PyError Bytes :=
  if 2 ^ 32 ≤ payload.length then structError
  else .ok (bigEndian 4 payload.length ++ kind ++ payload ++
    bigEndian 4 (checksum crc32 kind payload))

/-- `struct.pack(">IIBBBBB", width, height, 8, 0, 0, 0, 0)` -/
def pngHeader (width height : Nat) : Except PyError Bytes :=
  if 2 ^ 32 ≤ width ∨ 2 ^ 32 ≤ height then structError
  else .ok (bigEndian 4 width ++ bigEndian 4 height ++ [8, 0, 0, 0, 0])

/-- `pixels[row * width : (row + 1) * width]` for each row. -/
def pixelRows (width height : Nat) (pixels : Bytes) : List Bytes :=
  (List.range height).map fun row => (pixels.drop (row * width)).take width

/-- `_png` of integers and bytes. -/
def png (width height : Nat) (pixels : Bytes) : Except PyError Bytes :=
  if width < 1 ∨ height < 1 ∨ 8192 < width ∨ 8192 < height ∨ pixels.length ≠ width * height then
    PyError.value "checkpoint image dimensions or bytes are invalid"
  else do
    let raw := ((pixelRows width height pixels).map fun row => 0 :: row).flatten
    let header ← pngHeader width height
    let ihdr ← pngChunk crc32 IHDR header
    let idat ← pngChunk crc32 IDAT (zlib.compress raw)
    let iend ← pngChunk crc32 IEND []
    .ok (signature ++ ihdr ++ idat ++ iend)

/-! ## Reading -/

/-- `_paeth` -/
def paeth (left above upperLeft : Nat) : Nat :=
  let prediction : Int := left + above - upperLeft
  let leftDistance := (prediction - left).natAbs
  let aboveDistance := (prediction - above).natAbs
  let diagonalDistance := (prediction - upperLeft).natAbs
  if leftDistance ≤ aboveDistance ∧ leftDistance ≤ diagonalDistance then left
  else if aboveDistance ≤ diagonalDistance then above else upperLeft

/-- The predictor of a filter. -/
def predictor (filterKind left above upperLeft : Nat) : Option Nat :=
  if filterKind = 0 then some 0
  else if filterKind = 1 then some left
  else if filterKind = 2 then some above
  else if filterKind = 3 then some ((left + above) / 2)
  else if filterKind = 4 then some (paeth left above upperLeft)
  else none

/-- The bytes of a scanline one after the other, with the left and the upper left
neighbour of the first of them. -/
def unfilter (filterKind : Nat) : Nat → Nat → List Nat → Bytes → Except PyError (List Nat)
  | left, upperLeft, above :: previous, byte :: encoded =>
      match predictor filterKind left above upperLeft with
      | none => artifactError "PNG filter is invalid: " name
      | some prediction =>
          let value := (byte.toNat + prediction) &&& 0xFF
          (unfilter filterKind value above previous encoded).map fun row => value :: row
  | _, _, _, _ => .ok []

/-- The scanlines one after the other, from the row before the first of them.  There is a
filter byte, as the size was checked. -/
def scanlines (width : Nat) : Nat → List Nat → Bytes → Except PyError (List (List Nat))
  | 0, _, _ => .ok []
  | height + 1, previous, raw => do
      let row ← unfilter name (raw.headD 0).toNat 0 0 previous ((raw.drop 1).take width)
      let rows ← scanlines width height row (raw.drop (width + 1))
      .ok (row :: rows)

/-- The chunks of a file after its signature. -/
def readChunks (payload : Bytes) : Except PyError (List (Bytes × Bytes)) :=
  if payload = [] then .ok []
  else if payload.length < 12 then artifactError "truncated PNG chunk: " name
  else
    let length := ofBigEndian (payload.take 4)
    let kind := (payload.drop 4).take 4
    if payload.length < 12 + length then artifactError "truncated PNG data: " name
    else
      let data := (payload.drop 8).take length
      let expectedCrc := ofBigEndian ((payload.drop (8 + length)).take 4)
      if checksum crc32 kind data ≠ expectedCrc then artifactError "PNG CRC mismatch: " name
      else if kind = IEND then .ok [(kind, data)]
      else (readChunks (payload.drop (12 + length))).map fun chunks => (kind, data) :: chunks
termination_by payload.length
decreasing_by
  rw [List.length_drop]
  omega

/-- The pixels of the image data. -/
def imagePixels (width height : Nat) (compressed : Bytes) :
    Except PyError (Nat × Nat × List Nat) :=
  match zlib.decompress compressed with
  | none => artifactError "PNG image data is invalid: " name
  | some raw =>
      if raw.length ≠ height * (width + 1) then artifactError "PNG scanline size is invalid: " name
      else
        (scanlines name width height (List.replicate width 0) raw).map fun rows =>
          (width, height, rows.flatten)

/-- `_png_pixels` of the bytes of a file. -/
def pngPixels (payload : Bytes) : Except PyError (Nat × Nat × List Nat) :=
  if payload.take 8 ≠ signature then artifactError "invalid PNG signature: " name
  else do
    let chunks ← readChunks crc32 name (payload.drop 8)
    match chunks.head?, chunks.getLast? with
    | some (first, ihdr), some (last, _) =>
        if first ≠ IHDR ∨ last ≠ IEND then artifactError "PNG chunk order is invalid: " name
        else if ihdr.length ≠ 13 then artifactError "PNG IHDR is invalid: " name
        else if ihdr.drop 8 ≠ [8, 0, 0, 0, 0] then
          artifactError "PNG must be 8-bit non-interlaced grayscale: " name
        else
          imagePixels zlib name (ofBigEndian (ihdr.take 4)) (ofBigEndian ((ihdr.drop 4).take 4))
            ((chunks.filter fun chunk => chunk.1 = IDAT).map Prod.snd).flatten
    | _, _ => artifactError "PNG chunk order is invalid: " name

/-! ## Pictures and their encodings -/

/-- A grayscale picture. -/
structure Picture where
  width : Nat
  height : Nat
  pixels : Bytes
  wide : 1 ≤ width
  high : 1 ≤ height
  filled : pixels.length = width * height

/-- The filter of a scanline. -/
inductive Filter where
  | none
  | sub
  | up
  | average
  | paeth
deriving DecidableEq

namespace Filter

/-- The byte before a scanline. -/
def number : Filter → UInt8
  | .none => 0
  | .sub => 1
  | .up => 2
  | .average => 3
  | .paeth => 4

/-- How far a neighbour is from the plane through the three. -/
def planeDistance (left above upperLeft x : UInt8) : Nat :=
  ((left.toNat : Int) + above.toNat - upperLeft.toNat - x.toNat).natAbs

/-- What a filter predicts: under `paeth`, the neighbour nearest to the plane, the first
of them where several are. -/
def predict : Filter → Predictor UInt8
  | .none => fun _ _ _ => 0
  | .sub => fun left _ _ => left
  | .up => fun _ above _ => above
  | .average => fun left above _ => UInt8.ofNat ((left.toNat + above.toNat) / 2)
  | .paeth => fun left above upperLeft =>
      ([left, above, upperLeft].argmin (planeDistance left above upperLeft)).getD 0

end Filter

/-- A scanline: its filter and its differences. -/
def lineBytes (line : Filter × Bytes) : Bytes := line.1.number :: line.2

namespace Picture

variable (P : Picture)

def rows : List Bytes := pixelRows P.width P.height P.pixels

/-- The filters and the differences of the rows. -/
def lines (filters : List Filter) : List (Filter × Bytes) :=
  filters.zip (Predictor.residualRows (List.replicate P.width 0)
    ((filters.map Filter.predict).zip P.rows))

/-- The scanlines of a picture under some filters. -/
def scanlines (filters : List Filter) : Bytes := ((P.lines filters).map lineBytes).flatten

end Picture

/-- A picture with a filter for each scanline and a cut of its compressed scanlines. -/
structure Encoding extends Picture where
  filters : List Filter
  everyRow : filters.length = height
  parts : List Bytes
  cut : parts.flatten = zlib.compress (toPicture.scanlines filters)

/-- The file of an encoding. -/
def Encoding.file (E : Encoding zlib) : Except PyError Bytes := do
  let header ← pngHeader E.width E.height
  let ihdr ← pngChunk crc32 IHDR header
  let idat ← E.parts.mapM (pngChunk crc32 IDAT)
  let iend ← pngChunk crc32 IEND []
  .ok (signature ++ ihdr ++ idat.flatten ++ iend)

/-! ## Predictions -/

/-- The smallest of three, the first of them where several are. -/
theorem argmin_three {f : UInt8 → Nat} (a b c : UInt8) :
    ([a, b, c].argmin f).getD 0 =
      if f a ≤ f b ∧ f a ≤ f c then a else if f b ≤ f c then b else c := by
  have later : [b, c].argmin f = if f c < f b then some c else some b := by
    rw [List.argmin_cons, List.argmin_singleton]
  rw [List.argmin_cons, later]
  by_cases first : f c < f b
  · rw [if_pos first]
    show (if f c < f a then some c else some a).getD 0 = _
    split_ifs <;> first | rfl | (exfalso; omega)
  · rw [if_neg first]
    show (if f b < f a then some b else some a).getD 0 = _
    split_ifs <;> first | rfl | (exfalso; omega)

/-- **The scorer's predictor is the filter's.** -/
theorem predictor_number (filter : Filter) (left above upperLeft : UInt8) :
    predictor filter.number.toNat left.toNat above.toNat upperLeft.toNat =
      some (filter.predict left above upperLeft).toNat := by
  cases filter with
  | none => rfl
  | sub => rfl
  | up => rfl
  | average =>
      show some _ = some _
      have := left.toNat_lt
      have := above.toNat_lt
      rw [Filter.predict, UInt8.toNat_ofNat']
      congr 1
      omega
  | paeth =>
      show some (paeth _ _ _) = some _
      simp only [Filter.predict]
      rw [argmin_three]
      unfold paeth Filter.planeDistance
      dsimp only
      split_ifs <;> rfl

/-! ## Scanlines -/

/-- One byte of a scanline. -/
theorem value_eq (byte prediction : UInt8) :
    (byte.toNat + prediction.toNat) &&& 0xFF = (byte + prediction).toNat := by
  rw [UInt8.toNat_add]
  exact Nat.and_two_pow_sub_one_eq_mod _ 8

/-- **A scanline is restored.** -/
theorem unfilter_eq (filter : Filter) (left upperLeft : UInt8) (previous encoded : Bytes) :
    unfilter name filter.number.toNat left.toNat upperLeft.toNat (previous.map UInt8.toNat) encoded =
      .ok ((filter.predict.restore left upperLeft previous encoded).map UInt8.toNat) := by
  induction encoded generalizing left upperLeft previous with
  | nil => cases previous <;> rfl
  | cons byte encoded ih =>
      cases previous with
      | nil => rfl
      | cons above previous =>
          simp only [List.map_cons, unfilter, predictor_number, value_eq]
          rw [ih]
          rfl

/-- **The scorer's loop over scanlines restores the rows.** -/
theorem scanlines_eq (width : Nat) (lines : List (Filter × Bytes)) (previous : Bytes)
    (first : previous.length = width) (wide : ∀ line ∈ lines, line.2.length = width) :
    scanlines name width lines.length (previous.map UInt8.toNat) (lines.map lineBytes).flatten =
      .ok ((Predictor.restoreRows previous
        (lines.map fun line => (line.1.predict, line.2))).map (List.map UInt8.toNat)) := by
  induction lines generalizing previous with
  | nil => rfl
  | cons line rest ih =>
      obtain ⟨filter, coded⟩ := line
      have here : coded.length = width := wide (filter, coded) List.mem_cons_self
      have bytes : ((((filter, coded) :: rest).map lineBytes).flatten) =
          filter.number :: (coded ++ (rest.map lineBytes).flatten) := rfl
      rw [bytes, List.length_cons, scanlines]
      have taken : ((filter.number :: (coded ++ (rest.map lineBytes).flatten)).drop 1).take width =
          coded := by
        rw [List.drop_one, List.tail_cons, ← here, List.take_left]
      have left : (filter.number :: (coded ++ (rest.map lineBytes).flatten)).drop (width + 1) =
          (rest.map lineBytes).flatten := by
        rw [List.drop_succ_cons, ← here, List.drop_left]
      rw [taken, left, List.headD_cons]
      have row := unfilter_eq name filter 0 0 previous coded
      rw [show (0 : UInt8).toNat = 0 from rfl] at row
      rw [row]
      have next : (filter.predict.restore 0 0 previous coded).length = width := by
        rw [Predictor.restore_length _ (by omega), here]
      have rows := ih (filter.predict.restore 0 0 previous coded) next
        fun other listed => wide other (List.mem_cons_of_mem _ listed)
      simp only [bind, Except.bind, rows]
      rfl

/-! ## Chunks -/

theorem pngChunk_ok {kind payload bytes : Bytes} (made : pngChunk crc32 kind payload = .ok bytes) :
    payload.length < 2 ^ 32 ∧ bytes = bigEndian 4 payload.length ++ kind ++ payload ++
      bigEndian 4 (checksum crc32 kind payload) := by
  unfold pngChunk structError at made
  split_ifs at made with long
  cases made
  exact ⟨by omega, rfl⟩

theorem checksum_lt (kind data : Bytes) : checksum crc32 kind data < 256 ^ 4 := by
  unfold checksum
  have := Nat.and_le_right (n := crc32 (kind ++ data)) (m := 0xFFFFFFFF)
  omega

/-- **A chunk is read back**, and the reader goes on behind it. -/
theorem readChunks_chunk {kind data bytes : Bytes} (made : pngChunk crc32 kind data = .ok bytes)
    (named : kind.length = 4) (rest : Bytes) :
    readChunks crc32 name (bytes ++ rest) =
      if kind = IEND then .ok [(kind, data)]
      else (readChunks crc32 name rest).map fun chunks => (kind, data) :: chunks := by
  obtain ⟨short, rfl⟩ := pngChunk_ok crc32 made
  have fits : data.length < 256 ^ 4 := short
  have sum := checksum_lt crc32 kind data
  generalize head_eq : bigEndian 4 data.length = head
  generalize tail_eq : bigEndian 4 (checksum crc32 kind data) = tail
  have headLength : head.length = 4 := by rw [← head_eq, bigEndian_length]
  have tailLength : tail.length = 4 := by rw [← tail_eq, bigEndian_length]
  have length : ofBigEndian head = data.length := by rw [← head_eq, ofBigEndian_bigEndian fits]
  have crc : ofBigEndian tail = checksum crc32 kind data := by
    rw [← tail_eq, ofBigEndian_bigEndian sum]
  generalize whole : head ++ kind ++ data ++ tail ++ rest = payload
  have total : payload.length = 12 + data.length + rest.length := by
    rw [← whole]
    simp only [List.length_append]
    omega
  -- The five pieces of the payload.
  have first : payload.take 4 = head := by
    rw [← whole, List.append_assoc, List.append_assoc, List.append_assoc]
    exact List.take_left' headLength
  have second : (payload.drop 4).take 4 = kind := by
    rw [← whole, List.append_assoc, List.append_assoc, List.append_assoc, List.drop_left' headLength]
    exact List.take_left' named
  have third : (payload.drop 8).take data.length = data := by
    rw [← whole, List.append_assoc, List.append_assoc,
      List.drop_left' (by rw [List.length_append]; omega)]
    exact List.take_left' rfl
  have fourth : (payload.drop (8 + data.length)).take 4 = tail := by
    rw [← whole, List.append_assoc, List.drop_left' (by simp only [List.length_append]; omega)]
    exact List.take_left' tailLength
  have last : payload.drop (12 + data.length) = rest := by
    rw [← whole]
    exact List.drop_left' (by simp only [List.length_append]; omega)
  have some : payload ≠ [] := by
    intro empty
    rw [empty, List.length_nil] at total
    omega
  rw [readChunks, if_neg some, if_neg (by omega)]
  simp only [first, length, second, third, fourth, last, crc]
  rw [if_neg (by omega), if_neg (not_not.2 rfl)]

/-- **The chunks of a file are read back.** -/
theorem readChunks_of_chunks {data iend : Bytes} {parts idat : List Bytes} {first : Bytes}
    (ihdr : pngChunk crc32 IHDR data = .ok first)
    (middle : parts.mapM (pngChunk crc32 IDAT) = .ok idat)
    (last : pngChunk crc32 IEND [] = .ok iend) :
    readChunks crc32 name (first ++ (idat.flatten ++ iend)) =
      .ok ((IHDR, data) :: (parts.map fun part => (IDAT, part)) ++ [(IEND, [])]) := by
  have tail : readChunks crc32 name (idat.flatten ++ iend) =
      .ok ((parts.map fun part => (IDAT, part)) ++ [(IEND, [])]) := by
    have written := mapM_ok_iff.1 middle
    clear middle ihdr
    induction written with
    | nil =>
        have read := readChunks_chunk crc32 name last rfl []
        rw [List.append_nil, if_pos rfl] at read
        exact read
    | @cons part bytes parts idat here rest ih =>
        rw [List.flatten_cons, List.append_assoc, readChunks_chunk crc32 name here rfl,
          if_neg (by decide), ih]
        rfl
  rw [readChunks_chunk crc32 name ihdr rfl, if_neg (by decide), tail]
  rfl

/-! ## The image -/

theorem pixelRows_length (width height : Nat) (pixels : Bytes) :
    (pixelRows width height pixels).length = height := by
  simp [pixelRows]

theorem pixelRows_flatten (width height : Nat) (pixels : Bytes) :
    (pixelRows width height pixels).flatten = pixels.take (height * width) := by
  induction height with
  | zero => simp [pixelRows]
  | succ height ih =>
      unfold pixelRows at ih ⊢
      rw [List.range_succ, List.map_append, List.flatten_append, ih, Nat.succ_mul, List.take_add]
      simp

theorem pixelRows_wide {width height : Nat} {pixels : Bytes}
    (filled : pixels.length = width * height) : ∀ row ∈ pixelRows width height pixels,
      row.length = width := by
  intro row listed
  obtain ⟨i, inside, rfl⟩ := List.mem_map.1 listed
  have below : (i + 1) * width ≤ height * width :=
    Nat.mul_le_mul_right _ (List.mem_range.1 inside)
  rw [List.length_take, List.length_drop, filled]
  rw [Nat.succ_mul] at below
  rw [Nat.mul_comm width height]
  omega

theorem lineBytes_flatten_length {width : Nat} {lines : List (Filter × Bytes)}
    (wide : ∀ line ∈ lines, line.2.length = width) :
    (lines.map lineBytes).flatten.length = lines.length * (width + 1) := by
  induction lines with
  | nil => simp
  | cons line rest ih =>
      have here := wide line List.mem_cons_self
      have later := ih fun other listed => wide other (List.mem_cons_of_mem _ listed)
      rw [List.map_cons, List.flatten_cons, List.length_append, later, lineBytes, List.length_cons,
        here, List.length_cons, Nat.succ_mul, Nat.add_comm]

/-- **The scanlines of a picture are read back**, whatever their filters. -/
theorem Picture.imagePixels_scanlines (P : Picture) {filters : List Filter} {compressed : Bytes}
    (everyRow : filters.length = P.height)
    (held : zlib.decompress compressed = some (P.scanlines filters)) :
    imagePixels zlib name P.width P.height compressed =
      .ok (P.width, P.height, P.pixels.map UInt8.toNat) := by
  have rows : P.rows.length = P.height := pixelRows_length _ _ _
  have first : (List.replicate P.width (0 : UInt8)).length = P.width := List.length_replicate
  have coded : ((filters.map Filter.predict).zip P.rows).length = P.height := by
    rw [List.length_zip, List.length_map, rows, everyRow, Nat.min_self]
  have count : (P.lines filters).length = P.height := by
    rw [lines, List.length_zip, Predictor.residualRows_length, coded, everyRow, Nat.min_self]
  have wideRows : ∀ row ∈ (filters.map Filter.predict).zip P.rows, row.2.length = P.width := by
    intro row listed
    exact pixelRows_wide P.filled row.2 (List.of_mem_zip listed).2
  have wide : ∀ line ∈ P.lines filters, line.2.length = P.width := by
    intro line listed
    exact Predictor.residualRows_wide first wideRows line.2
      (List.of_mem_zip listed).2
  have size : (P.scanlines filters).length = P.height * (P.width + 1) := by
    rw [Picture.scanlines, lineBytes_flatten_length wide, count]
  have restored : Predictor.restoreRows (List.replicate P.width 0)
      ((P.lines filters).map fun line => (line.1.predict, line.2)) = P.rows := by
    have named : ((filters.map Filter.predict).zip P.rows).map Prod.fst =
        filters.map Filter.predict :=
      List.map_fst_zip (by rw [List.length_map, rows, everyRow])
    have back := Predictor.restoreRows_residualRows UInt8.sub_add_cancel first wideRows
    rw [named, List.map_snd_zip (by rw [List.length_map, rows, everyRow]), List.zip_map_left] at back
    exact back
  have zeros : (List.replicate P.width (0 : UInt8)).map UInt8.toNat = List.replicate P.width 0 := by
    rw [List.map_replicate]
    rfl
  have read := scanlines_eq name P.width (P.lines filters) _ first wide
  rw [restored, count, zeros] at read
  have whole : (P.rows.map (List.map UInt8.toNat)).flatten = P.pixels.map UInt8.toNat := by
    rw [← List.map_flatten, Picture.rows, pixelRows_flatten, List.take_of_length_le]
    rw [P.filled, Nat.mul_comm]
  unfold imagePixels
  rw [held]
  dsimp only
  rw [if_neg (not_not.2 size), Picture.scanlines, read]
  simp only [Except.map]
  rw [whole]

theorem residuals_none {left upperLeft : UInt8} {previous row : Bytes}
    (wide : row.length ≤ previous.length) :
    Filter.none.predict.residuals left upperLeft previous row = row := by
  induction row generalizing left upperLeft previous with
  | nil => cases previous <;> rfl
  | cons x row ih =>
      cases previous with
      | nil => simp at wide
      | cons above previous =>
          simp only [List.length_cons, Nat.add_le_add_iff_right] at wide
          rw [Predictor.residuals, ih wide]
          congr 1
          exact UInt8.sub_zero x

/-- The scanlines the exporter writes are those without a filter. -/
theorem Picture.scanlines_unfiltered (P : Picture) :
    P.scanlines (List.replicate P.height .none) =
      ((pixelRows P.width P.height P.pixels).map fun row => 0 :: row).flatten := by
  have rows : P.rows.length = P.height := pixelRows_length _ _ _
  have wide : ∀ row ∈ P.rows, row.length = P.width := pixelRows_wide P.filled
  have first : (List.replicate P.width (0 : UInt8)).length = P.width := List.length_replicate
  rw [Picture.scanlines, Picture.lines]
  show _ = (P.rows.map fun row => 0 :: row).flatten
  rw [← rows]
  congr 1
  clear rows
  generalize List.replicate P.width (0 : UInt8) = previous at first
  generalize P.rows = lines at wide
  induction lines generalizing previous with
  | nil => rfl
  | cons row rest ih =>
      have here : row.length = P.width := wide row List.mem_cons_self
      have later := ih row here fun other listed => wide other (List.mem_cons_of_mem _ listed)
      simp only [List.length_cons, List.replicate_succ, List.map_cons, List.zip_cons_cons,
        Predictor.residualRows, residuals_none (show row.length ≤ previous.length by omega)]
      rw [later]
      rfl

/-- The file of a picture, under some filters and a cut of its data, is read back. -/
theorem pngPixels_file {P : Picture} {filters : List Filter} {parts idat : List Bytes}
    {header ihdr iend : Bytes} (everyRow : filters.length = P.height)
    (cut : zlib.decompress parts.flatten = some (P.scanlines filters))
    (dimensions : pngHeader P.width P.height = .ok header)
    (first : pngChunk crc32 IHDR header = .ok ihdr)
    (middle : parts.mapM (pngChunk crc32 IDAT) = .ok idat)
    (last : pngChunk crc32 IEND [] = .ok iend) :
    pngPixels zlib crc32 name (signature ++ ihdr ++ idat.flatten ++ iend) =
      .ok (P.width, P.height, P.pixels.map UInt8.toNat) := by
  have bytes : signature ++ ihdr ++ idat.flatten ++ iend =
      signature ++ (ihdr ++ (idat.flatten ++ iend)) := by
    simp only [List.append_assoc]
  obtain ⟨narrow, low, rfl⟩ : P.width < 256 ^ 4 ∧ P.height < 256 ^ 4 ∧
      header = bigEndian 4 P.width ++ bigEndian 4 P.height ++ [8, 0, 0, 0, 0] := by
    unfold pngHeader structError at dimensions
    split_ifs at dimensions with large
    cases dimensions
    push Not at large
    exact ⟨large.1, large.2, rfl⟩
  have chunks := readChunks_of_chunks crc32 name first middle last
  generalize ihdr ++ (idat.flatten ++ iend) = rest at bytes chunks
  have head : (signature ++ rest).take 8 = signature := List.take_left' rfl
  have tail : (signature ++ rest).drop 8 = rest := List.drop_left' rfl
  generalize data_eq : bigEndian 4 P.width ++ bigEndian 4 P.height ++ [8, 0, 0, 0, 0] = data at chunks
  have length : data.length = 13 := by
    rw [← data_eq]
    simp
  have width : ofBigEndian (data.take 4) = P.width := by
    rw [← data_eq, List.append_assoc, List.take_left' (bigEndian_length _ _),
      ofBigEndian_bigEndian narrow]
  have height : ofBigEndian ((data.drop 4).take 4) = P.height := by
    rw [← data_eq, List.append_assoc, List.drop_left' (bigEndian_length _ _),
      List.take_left' (bigEndian_length _ _), ofBigEndian_bigEndian low]
  have kinds : data.drop 8 = [8, 0, 0, 0, 0] := by
    rw [← data_eq]
    exact List.drop_left' (by simp)
  have image : ((((IHDR, data) :: (parts.map fun part => (IDAT, part)) ++ [(IEND, [])]).filter
      fun (chunk : Bytes × Bytes) => chunk.1 = IDAT).map Prod.snd).flatten = parts.flatten := by
    have ours : (parts.map fun part => (IDAT, part)).filter
        (fun (chunk : Bytes × Bytes) => chunk.1 = IDAT) = parts.map fun part => (IDAT, part) := by
      rw [List.filter_eq_self]
      intro chunk listed
      obtain ⟨part, -, rfl⟩ := List.mem_map.1 listed
      exact decide_eq_true rfl
    have other : ((IHDR, data) : Bytes × Bytes).1 ≠ IDAT := show IHDR ≠ IDAT by decide
    rw [List.cons_append, List.filter_cons_of_neg (by simpa using other), List.filter_append, ours]
    rw [show [((IEND, []) : Bytes × Bytes)].filter (fun chunk => chunk.1 = IDAT) = [] from rfl,
      List.append_nil, List.map_map]
    exact congrArg List.flatten (List.map_id parts)
  have final : ((IHDR, data) :: (parts.map fun part => (IDAT, part)) ++ [(IEND, [])]).getLast? =
      some (IEND, []) := by
    rw [List.getLast?_append]
    rfl
  unfold pngPixels
  rw [bytes, head, tail, if_neg (not_not.2 rfl), chunks]
  simp only [bind, Except.bind, final]
  simp only [List.cons_append, List.head?_cons]
  rw [List.cons_append] at image
  rw [if_neg (by simp), if_neg (not_not.2 length), if_neg (not_not.2 kinds), width, height, image]
  exact P.imagePixels_scanlines zlib name everyRow cut

/-- An encoding whose lengths fit their fields has a file. -/
theorem Encoding.file_made (E : Encoding zlib) (narrow : E.width < 2 ^ 32) (low : E.height < 2 ^ 32)
    (short : ∀ part ∈ E.parts, part.length < 2 ^ 32) : ∃ file, E.file zlib crc32 = .ok file := by
  have chunk : ∀ kind payload : Bytes, payload.length < 2 ^ 32 →
      ∃ bytes, pngChunk crc32 kind payload = .ok bytes :=
    fun kind payload fits => ⟨_, if_neg (by omega)⟩
  have header : pngHeader E.width E.height =
      .ok (bigEndian 4 E.width ++ bigEndian 4 E.height ++ [8, 0, 0, 0, 0]) := if_neg (by omega)
  obtain ⟨ihdr, first⟩ := chunk IHDR (bigEndian 4 E.width ++ bigEndian 4 E.height ++ [8, 0, 0, 0, 0])
    (by simp)
  obtain ⟨iend, last⟩ := chunk IEND [] (by simp)
  obtain ⟨idat, middle⟩ : ∃ idat, E.parts.mapM (pngChunk crc32 IDAT) = .ok idat := by
    generalize E.parts = parts at short
    induction parts with
    | nil => exact ⟨[], rfl⟩
    | cons part rest ih =>
        obtain ⟨bytes, here⟩ := chunk IDAT part (short part List.mem_cons_self)
        obtain ⟨later, made⟩ := ih fun other listed => short other (List.mem_cons_of_mem _ listed)
        refine ⟨bytes :: later, ?_⟩
        rw [List.mapM_cons, here, made]
        rfl
  refine ⟨signature ++ ihdr ++ idat.flatten ++ iend, ?_⟩
  simp only [Encoding.file, header, first, middle, last, bind, Except.bind]

/-- **Reading inverts writing.**  A picture under any filters, its data cut in any way, is
what its file is read as; the exporter's file is read as the picture it was made of. -/
theorem png_inverse :
    (∀ (E : Encoding zlib) (file : Bytes), E.file zlib crc32 = .ok file →
      pngPixels zlib crc32 name file = .ok (E.width, E.height, E.pixels.map UInt8.toNat)) ∧
    ∀ (width height : Nat) (pixels file : Bytes), png zlib crc32 width height pixels = .ok file →
      pngPixels zlib crc32 name file = .ok (width, height, pixels.map UInt8.toNat) := by
  constructor
  · intro E file made
    obtain ⟨header, dimensions, made⟩ := bind_ok_iff.1 made
    obtain ⟨ihdr, first, made⟩ := bind_ok_iff.1 made
    obtain ⟨idat, middle, made⟩ := bind_ok_iff.1 made
    obtain ⟨iend, last, made⟩ := bind_ok_iff.1 made
    cases made
    apply pngPixels_file zlib crc32 name E.everyRow _ dimensions first middle last
    rw [E.cut]
    exact zlib.lossless _
  · intro width height pixels file made
    unfold png at made
    split_ifs at made with invalid
    · cases made
    push Not at invalid
    obtain ⟨wide, high, -, -, filled⟩ := invalid
    obtain ⟨header, dimensions, made⟩ := bind_ok_iff.1 made
    obtain ⟨ihdr, first, made⟩ := bind_ok_iff.1 made
    obtain ⟨idat, middle, made⟩ := bind_ok_iff.1 made
    obtain ⟨iend, last, made⟩ := bind_ok_iff.1 made
    cases made
    have parts : [zlib.compress ((pixelRows width height pixels).map fun row => 0 :: row).flatten].mapM
        (pngChunk crc32 IDAT) = .ok [idat] := by
      rw [mapM_ok_iff]
      exact .cons middle .nil
    let P : Picture := ⟨width, height, pixels, wide, high, filled⟩
    have held : zlib.decompress [zlib.compress
        ((pixelRows width height pixels).map fun row => 0 :: row).flatten].flatten =
        some (P.scanlines (List.replicate height .none)) := by
      rw [List.flatten_singleton, zlib.lossless, P.scanlines_unfiltered]
    have read := pngPixels_file zlib crc32 name List.length_replicate held dimensions first parts last
    rw [List.flatten_singleton] at read
    exact read

/-- A codec that compresses nothing. -/
def stored : Zlib := ⟨id, some, fun _ => rfl⟩

/-- Two rows of two pixels, the second told from its neighbours, in three parts of data. -/
def mixed : Encoding stored where
  width := 2
  height := 2
  pixels := [10, 20, 30, 25]
  wide := by decide
  high := by decide
  filled := rfl
  filters := [.sub, .paeth]
  everyRow := rfl
  parts := [[1, 10], [], [10, 4, 20, 251]]
  cut := by decide

/-- The picture is read back from its file. -/
theorem png_inverse_mixed : ∃ file,
    mixed.file stored (fun data => (data.map UInt8.toNat).sum) = .ok file ∧
      pngPixels stored (fun data => (data.map UInt8.toNat).sum) (txt "mixed.png") file =
        .ok (2, 2, [10, 20, 30, 25]) := by
  obtain ⟨file, made⟩ := mixed.file_made stored (fun data => (data.map UInt8.toNat).sum)
    (by decide) (by decide) (by decide)
  exact ⟨file, made, (png_inverse stored _ (txt "mixed.png")).1 mixed file made⟩

end InstrumentBench.Artifacts
