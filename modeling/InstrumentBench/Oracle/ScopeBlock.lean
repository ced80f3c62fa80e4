/-
# Oracle.ScopeBlock -- the block of a curve, packed twice and decoded once

Both benches answer `CURVE?` with a definite-length block: `#`, one digit that counts the
digits of the length, the length with leading zeros, and a signed byte for each sample.  The
oracle decodes it.

* `decode_header`, `decode_cut`, `decode_extended`: the decoder takes a block and
  nothing shorter or longer.
* `curveCode_code`: the two benches round a finite sample to the same code.
* `curve_roundTrips_iff`: a curve comes back as its codes exactly when every sample is small
  enough to be scaled; the clamp that is to catch the others stands behind the rounding.
-/
import InstrumentBench.Oracle.Reconstruct
import InstrumentBench.Theory.Binary64Quotient
import InstrumentBench.Theory.Stateful
import InstrumentBench.Theory.ZeroPadded
import InstrumentBench.Visa.Bench

namespace InstrumentBench.Oracle

set_option autoImplicit false

open InstrumentBench.Theory InstrumentBench.Theory.PyText

/-! ## Blocks -/

/-- `b"#" + str(digits).encode() + str(len(payload)).zfill(digits).encode() + payload`, with
as many digits as are requested or more. -/
def definiteBlock (requested : Nat) (payload : Bytes) : Bytes :=
  let length := natText payload.length
  let digits := max requested length.length
  ascii "#" ++ encodeUtf8 (natText digits) ++ encodeUtf8 (zfill digits length) ++ payload

theorem visa_curveBlock (spec : Visa.WorldSpec) (payload : Bytes) :
    Visa.curveBlock spec payload = definiteBlock spec.binaryLengthDigits payload := rfl

theorem gateway_curveBlock (spec : Gateway.WorldSpec) (payload : Bytes) :
    Gateway.ScopeModel.curveBlock spec payload = definiteBlock spec.binaryLengthDigits payload :=
  rfl

/-! ## Headers -/

def digitBytes (ds : List Digit) : Bytes := ds.map fun d => UInt8.ofNat (48 + d.val)

theorem encodeUtf8_digitText (ds : List Digit) : encodeUtf8 (digitText ds) = digitBytes ds := by
  induction ds with
  | nil => rfl
  | cons d ds ih =>
      have one : utf8Char d.point = [UInt8.ofNat (48 + d.val)] := by
        revert d
        decide
      show utf8Char d.point ++ encodeUtf8 (digitText ds) = _
      rw [one, ih]
      rfl

theorem toNat_digitByte (d : Digit) : (UInt8.ofNat (48 + d.val)).toNat = 48 + d.val := by
  revert d
  decide

theorem decodeAscii_digitBytes (ds : List Digit) :
    decodeAscii (digitBytes ds) = some (digitText ds) := by
  have plain : ∀ b ∈ digitBytes ds, b.toNat < 0x80 := by
    intro b member
    obtain ⟨d, -, rfl⟩ := List.mem_map.1 member
    have := d.isLt
    rw [toNat_digitByte]
    omega
  have points : (digitBytes ds).map CodePoint.ofByte = digitText ds := by
    rw [digitBytes, digitText, List.map_map]
    have each : ∀ d : Digit, CodePoint.ofByte (UInt8.ofNat (48 + d.val)) = d.point := by decide
    exact List.map_congr_left fun d _ => each d
  unfold decodeAscii
  rw [if_pos (by simpa using plain), points]

/-- The header's length is read back. -/
theorem intOfBytes?_field (width n : Nat) :
    intOfBytes? (encodeUtf8 (zfill width (natText n))) = some (n : Int) := by
  have field := int?_zfill width n
  rw [zfill_natText] at field ⊢
  rw [encodeUtf8_digitText]
  have none_blank : (digitBytes (paddedDigits width n)).any
      (fun b => 28 ≤ b.toNat && b.toNat ≤ 31) = false := by
    rw [List.any_eq_false]
    intro b member
    obtain ⟨d, -, rfl⟩ := List.mem_map.1 member
    rw [toNat_digitByte]
    simp
    omega
  unfold intOfBytes?
  rw [none_blank, if_neg (by simp), decodeAscii_digitBytes]
  exact field

/-- A header of one digit for the count and so many digits for the length. -/
def header (digits n : Nat) : Bytes :=
  [35, UInt8.ofNat (48 + digits)] ++ encodeUtf8 (zfill digits (natText n))

theorem length_field {digits n : Nat} (fits : (decimalDigits n).length ≤ digits) :
    (encodeUtf8 (zfill digits (natText n))).length = digits := by
  rw [zfill_natText, encodeUtf8_digitText, digitBytes, List.length_map, length_paddedDigits fits]

/-- Under ten digits the count is one digit, and the block starts with its header. -/
theorem definiteBlock_eq {requested : Nat} {payload : Bytes} (most : requested ≤ 9)
    (few : payload.length < 10 ^ 9) :
    ∃ digits, 1 ≤ digits ∧ digits ≤ 9 ∧ (decimalDigits payload.length).length ≤ digits ∧
      definiteBlock requested payload = header digits payload.length ++ payload := by
  have length : (natText payload.length).length = (decimalDigits payload.length).length := by
    rw [natText, digitText, List.length_map]
  have positive := List.length_pos_of_ne_nil (decimalDigits_ne_nil payload.length)
  have nine := (length_decimalDigits_le_iff (k := 9) (by decide) payload.length).2 few
  refine ⟨max requested (natText payload.length).length, by omega, by omega, by omega, ?_⟩
  have count : ∀ digits : Nat, digits ≤ 9 →
      encodeUtf8 (natText digits) = [UInt8.ofNat (48 + digits)] := by
    decide
  unfold definiteBlock header
  dsimp only
  rw [count _ (by omega)]
  rfl

/-! ## The decoder -/

/-- The decoder refuses, with an `OracleError`. -/
def Refused (block : Bytes) : Prop :=
  ∃ message, decodeIeeeSignedBytes block = .error (.oracle message)

section Decoding

variable {digits n : Nat} (counted : 1 ≤ digits) (few : digits ≤ 9)
  (fits : (decimalDigits n).length ≤ digits)

include counted few

/-- What the decoder does after the first two bytes. -/
theorem decode_counted (rest : Bytes) (given : rest ≠ []) :
    decodeIeeeSignedBytes (35 :: UInt8.ofNat (48 + digits) :: rest) =
      if rest.length < digits then oracleError "scope block header is truncated"
      else
        match intOfBytes? (rest.take digits) with
        | none => oracleError "scope block payload length is malformed"
        | some declared =>
            if declared ≠ (rest.drop digits).length then
              oracleError "scope block payload length does not match header"
            else .ok ((rest.drop digits).map signedByte) := by
  have count : (UInt8.ofNat (48 + digits)).toNat = 48 + digits := toNat_ofNat (by omega)
  have same : 48 + digits - 48 = digits := by omega
  unfold decodeIeeeSignedBytes
  dsimp only
  rw [if_neg (by simp [given]), count, if_neg (by omega)]
  generalize 48 + digits - 48 = counted at same ⊢
  subst same
  rfl

include fits

/-- **A payload behind a header** is decoded if it has the declared length and refused
otherwise. -/
theorem decode_header (payload : Bytes) :
    (payload.length = n →
      decodeIeeeSignedBytes (header digits n ++ payload) = .ok (payload.map signedByte)) ∧
    (payload.length ≠ n → Refused (header digits n ++ payload)) := by
  have width := length_field fits
  have given : encodeUtf8 (zfill digits (natText n)) ++ payload ≠ [] := by
    intro none
    have length := congrArg List.length none
    rw [List.length_append, width] at length
    simp at length
    omega
  have long : ¬ (encodeUtf8 (zfill digits (natText n)) ++ payload).length < digits := by
    rw [List.length_append, width]
    omega
  have block : header digits n ++ payload =
      35 :: UInt8.ofNat (48 + digits) :: (encodeUtf8 (zfill digits (natText n)) ++ payload) := rfl
  have field : (encodeUtf8 (zfill digits (natText n)) ++ payload).take digits =
      encodeUtf8 (zfill digits (natText n)) := List.take_left' width
  have body : (encodeUtf8 (zfill digits (natText n)) ++ payload).drop digits = payload :=
    List.drop_left' width
  unfold Refused
  rw [block, decode_counted counted few _ given, if_neg long, field, body, intOfBytes?_field]
  dsimp only
  constructor
  · intro declared
    rw [if_neg (by simp [declared])]
  · intro other
    rw [if_pos (by simpa using Ne.symm other)]
    exact ⟨_, rfl⟩

/-- A block that is cut short is refused, wherever the cut is. -/
theorem decode_cut {payload cut : Bytes} (declared : payload.length = n)
    (front : cut <+: header digits n ++ payload) (proper : cut ≠ header digits n ++ payload) :
    Refused cut := by
  have width := length_field fits
  match cut with
  | [] => exact ⟨_, rfl⟩
  | [b] => exact ⟨_, rfl⟩
  | b :: c :: rest =>
      obtain ⟨tail, whole⟩ := front
      have block : header digits n ++ payload =
        35 :: UInt8.ofNat (48 + digits) :: (encodeUtf8 (zfill digits (natText n)) ++ payload) := rfl
      rw [block, List.cons_append, List.cons_append, List.cons.injEq, List.cons.injEq] at whole
      obtain ⟨rfl, rfl, whole⟩ := whole
      have shorter : 0 < tail.length := by
        apply List.length_pos_of_ne_nil
        rintro rfl
        apply proper
        rw [block, ← whole, List.append_nil]
      by_cases none : rest = []
      · refine ⟨txt "scope response is not an IEEE definite-length block", ?_⟩
        unfold decodeIeeeSignedBytes
        dsimp only
        rw [if_pos (.inl none)]
        rfl
      by_cases short : rest.length < digits
      · refine ⟨txt "scope block header is truncated", ?_⟩
        rw [decode_counted counted few rest none, if_pos short]
        rfl
      · -- the cut is in the payload
        have split : rest = encodeUtf8 (zfill digits (natText n)) ++ rest.drop digits := by
          have first := congrArg (List.take digits) whole
          rw [List.take_left' width, List.take_append_of_le_length (by omega)] at first
          rw [← first, List.take_append_drop]
        rw [split, List.append_assoc] at whole
        have body := List.append_cancel_left whole
        have fewer : (rest.drop digits).length ≠ n := by
          have lengths := congrArg List.length body
          rw [List.length_append] at lengths
          omega
        have refused := (decode_header counted few fits (rest.drop digits)).2 fewer
        have same : header digits n ++ rest.drop digits =
            35 :: UInt8.ofNat (48 + digits) :: rest :=
          congrArg (fun t => 35 :: UInt8.ofNat (48 + digits) :: t) split.symm
        rwa [same] at refused

theorem decode_extended {payload more : Bytes} (declared : payload.length = n) (given : more ≠ []) :
    Refused (header digits n ++ payload ++ more) := by
  rw [List.append_assoc]
  apply (decode_header counted few fits (payload ++ more)).2
  have positive := List.length_pos_of_ne_nil given
  rw [List.length_append]
  omega

end Decoding

/-! ## Codes -/

/-- A sample is rounded to the scope's step and clamped to a signed byte; `none` is one whose
quotient has no nearest integer. -/
def clampedCode (value : Float) : Option Int :=
  (round? (value / 0.02)).map fun code => max (-128) (min 127 code)

def packedByte (code : Int) : UInt8 := UInt8.ofNat ((code + 256) % 256).toNat

theorem signedByte_packedByte {code : Int} (low : -128 ≤ code) (high : code ≤ 127) :
    signedByte (packedByte code) = code := by
  have value : (packedByte code).toNat = ((code + 256) % 256).toNat := toNat_ofNat (by omega)
  unfold signedByte
  rw [value]
  split
  · omega
  · omega

theorem clampedCode_bounds {value : Float} {code : Int} (made : clampedCode value = some code) :
    -128 ≤ code ∧ code ≤ 127 := by
  obtain ⟨rounded, -, rfl⟩ := Option.map_eq_some_iff.1 made
  omega

theorem round?_isSome_iff (x : Float) : (round? x).isSome = true ↔ x.isFinite = true := by
  show _ ↔ (Binary64.read x).isFinite = true
  unfold round? Binary64.read
  cases x.toModel.unpack with
  | finite s m e h => exact iff_of_true rfl rfl
  | zero s => exact iff_of_true rfl rfl
  | infinity s => simp [Float.Model.UnpackedFloat.isFinite]
  | notANumber => simp [Float.Model.UnpackedFloat.isFinite]

theorem curvePoint_code (value : Float) :
    (Visa.curvePoint value).toOption = (clampedCode value).map packedByte := by
  unfold Visa.curvePoint clampedCode
  dsimp only
  cases round? (value / 0.02) with
  | some code => rfl
  | none =>
      dsimp only
      split <;> rfl

/-- A number and the same number with a zero added round alike. -/
theorem round?_add_zero (x : Float) : round? (x + 0.0) = round? x := by
  have zero : Binary64.read 0.0 = .zero .positive := Binary64.read_zero (by decide)
  have sum := Binary64.read_add_zero zero x
  unfold Binary64.read at sum
  unfold round?
  rw [sum]
  cases x.toModel.unpack with
  | _ => rfl

theorem read_sub_yzero {value : Float} (finite : value.isFinite = true) :
    Binary64.read ((value - Gateway.ScopeModel.yzero) / Gateway.ScopeModel.ymult) =
      Binary64.read (value / 0.02) := by
  have zero : Binary64.read Gateway.ScopeModel.yzero = .zero .positive :=
    Binary64.read_zero (by decide)
  rw [Binary64.read_div, Binary64.read_div, Binary64.read_sub_zero zero finite]
  rfl

/-- **The gateway's scope rounds a finite sample as the other bench does**: its zero and its
offset are no volts. -/
theorem curveCode_code {value : Float} (finite : value.isFinite = true) :
    (Gateway.ScopeModel.curveCode value).toOption = (clampedCode value).map packedByte := by
  have same : round? ((value - Gateway.ScopeModel.yzero) / Gateway.ScopeModel.ymult +
      Gateway.ScopeModel.yoff) = round? (value / 0.02) := by
    have offset : Gateway.ScopeModel.yoff = 0.0 := rfl
    have scaled := read_sub_yzero finite
    unfold Binary64.read at scaled
    rw [offset, round?_add_zero]
    unfold round?
    rw [scaled]
  unfold Gateway.ScopeModel.curveCode clampedCode
  dsimp only
  rw [same]
  cases round? (value / 0.02) with
  | some code => rfl
  | none =>
      dsimp only
      split <;> rfl

/-! ## Curves -/

/-- What a packing of samples leaves, one byte each. -/
def Packs {ε : Type} (values : List Float) (payload : Except ε Bytes) : Prop :=
  payload.toOption = (values.mapM clampedCode).map fun codes => codes.map packedByte

theorem Packs.nil {ε : Type} : Packs [] (.ok [] : Except ε Bytes) := rfl

/-- One sample more. -/
theorem Packs.cons {ε : Type} {value : Float} {rest : List Float} {first : Except ε UInt8}
    {others : Except ε Bytes} (code : first.toOption = (clampedCode value).map packedByte)
    (packs : Packs rest others) {payload : Except ε Bytes}
    (joined : payload.toOption = first.toOption.bind fun x => others.toOption.map (x :: ·)) :
    Packs (value :: rest) payload := by
  unfold Packs at packs ⊢
  rw [joined, code, packs, List.mapM_cons]
  cases clampedCode value with
  | none => rfl
  | some here =>
      cases rest.mapM clampedCode with
      | none => rfl
      | some codes => rfl

theorem packs_curvePoints (values : List Float) : Packs values (Visa.curvePoints values) := by
  induction values with
  | nil => exact Packs.nil
  | cons value rest ih =>
      apply Packs.cons (curvePoint_code value) ih
      rw [Visa.curvePoints]
      cases Visa.curvePoint value with
      | error e => rfl
      | ok x => cases Visa.curvePoints rest <;> rfl

theorem packs_curveCode {values : List Float} (finite : ∀ value ∈ values, value.isFinite = true) :
    Packs values (values.mapM Gateway.ScopeModel.curveCode) := by
  induction values with
  | nil => exact Packs.nil
  | cons value rest ih =>
      obtain ⟨first, others⟩ := List.forall_mem_cons.1 finite
      apply Packs.cons (curveCode_code first) (ih others)
      rw [List.mapM_cons]
      cases Gateway.ScopeModel.curveCode value with
      | error e => rfl
      | ok x => cases rest.mapM Gateway.ScopeModel.curveCode <;> rfl

/-- What a packed curve is for: it is decoded to the rounded and clamped samples, and
anything cut off it or put behind it is refused. -/
def RoundTrips {ε : Type} (values : List Float) (packed : Except ε Bytes) : Prop :=
  ∃ block codes, packed = .ok block ∧ values.mapM clampedCode = some codes ∧
    decodeIeeeSignedBytes block = .ok codes ∧
    (∀ cut, cut <+: block → cut ≠ block → Refused cut) ∧
    ∀ more, more ≠ [] → Refused (block ++ more)

theorem mapM_clampedCode {values : List Float} {codes : List Int}
    (made : values.mapM clampedCode = some codes) :
    codes.length = values.length ∧ (codes.map packedByte).map signedByte = codes := by
  induction values generalizing codes with
  | nil =>
      cases made
      exact ⟨rfl, rfl⟩
  | cons value rest ih =>
      rw [List.mapM_cons] at made
      obtain ⟨here, first, made⟩ := Option.bind_eq_some_iff.1 made
      obtain ⟨others, later, made⟩ := Option.bind_eq_some_iff.1 made
      cases made
      obtain ⟨length, back⟩ := ih later
      obtain ⟨low, high⟩ := clampedCode_bounds first
      refine ⟨by rw [List.length_cons, List.length_cons, length], ?_⟩
      rw [List.map_cons, List.map_cons, back, signedByte_packedByte low high]

theorem mapM_isSome_iff (values : List Float) :
    (values.mapM clampedCode).isSome = true ↔
      ∀ value ∈ values, (clampedCode value).isSome = true := by
  induction values with
  | nil => simp
  | cons value rest ih =>
      rw [List.forall_mem_cons, ← ih, List.mapM_cons]
      cases clampedCode value with
      | none => simp
      | some code => cases rest.mapM clampedCode <;> simp

/-- **A curve round-trips exactly when all its samples have codes.** -/
theorem roundTrips_iff {ε : Type} {requested : Nat} {values : List Float}
    {payload : Except ε Bytes} (packs : Packs values payload) (most : requested ≤ 9)
    (few : values.length < 10 ^ 9) :
    RoundTrips values (payload.map (definiteBlock requested)) ↔
      ∀ value ∈ values, (clampedCode value).isSome = true := by
  rw [← mapM_isSome_iff]
  unfold Packs at packs
  constructor
  · rintro ⟨block, codes, -, made, -⟩
    rw [made]
    rfl
  · intro coded
    obtain ⟨codes, made⟩ := Option.isSome_iff_exists.1 coded
    rw [made] at packs
    have packed : payload = .ok (codes.map packedByte) := ok_of_toOption packs
    obtain ⟨length, back⟩ := mapM_clampedCode made
    have short : (codes.map packedByte).length < 10 ^ 9 := by
      rw [List.length_map, length]
      exact few
    obtain ⟨digits, counted, nine, fits, block⟩ := definiteBlock_eq most short
    rw [packed]
    refine ⟨definiteBlock requested (codes.map packedByte), codes, rfl, made, ?_, ?_, ?_⟩
    · rw [block, (decode_header counted nine fits _).1 rfl, back]
    · rw [block]
      intro cut front proper
      exact decode_cut counted nine fits rfl front proper
    · rw [block]
      intro more given
      exact decode_extended counted nine fits rfl given

/-! ## What can be scaled -/

/-- `0.02 * 2 ** 1024`: the first float whose quotient by the scope's step overflows. -/
def scaleLimit : Float := 3.595386269724632e306

theorem clampedCode_isSome_iff {value : Float} (finite : value.isFinite = true) :
    (clampedCode value).isSome = true ↔ -scaleLimit < value ∧ value < scaleLimit := by
  have step : Binary64.read 0.02 = .finite .positive 5764607523034235 (-58) (by decide) :=
    Binary64.read_finite (by decide) (by decide)
  have limit : Binary64.read scaleLimit =
      .finite .positive 5764607523034235 (-58 + 1024) (by decide) :=
    Binary64.read_finite (by decide) (by decide +kernel)
  rw [← Binary64.isFinite_div_iff_between finite step (by decide) limit, ← round?_isSome_iff]
  unfold clampedCode
  rw [Option.isSome_map]

/-- **A curve comes back as its codes exactly when every sample is below `scaleLimit`**, on
either bench and with any number of digits requested. -/
theorem curve_roundTrips_iff (values : List Float) (finite : ∀ value ∈ values, value.isFinite = true)
    (few : values.length < 10 ^ 9) :
    (∀ spec : Visa.WorldSpec, 1 ≤ spec.binaryLengthDigits → spec.binaryLengthDigits ≤ 9 →
      (RoundTrips values ((Visa.curvePoints values).map (Visa.curveBlock spec)) ↔
        ∀ value ∈ values, -scaleLimit < value ∧ value < scaleLimit)) ∧
    ∀ spec : Gateway.WorldSpec, 1 ≤ spec.binaryLengthDigits → spec.binaryLengthDigits ≤ 9 →
      (RoundTrips values ((values.mapM Gateway.ScopeModel.curveCode).map
          (Gateway.ScopeModel.curveBlock spec)) ↔
        ∀ value ∈ values, -scaleLimit < value ∧ value < scaleLimit) := by
  have scaled : (∀ value ∈ values, (clampedCode value).isSome = true) ↔
      ∀ value ∈ values, -scaleLimit < value ∧ value < scaleLimit := by
    refine forall₂_congr ?_
    intro value member
    exact clampedCode_isSome_iff (finite value member)
  constructor
  · intro spec _ most
    rw [← scaled]
    exact roundTrips_iff (packs_curvePoints values) most few
  · intro spec _ most
    rw [← scaled]
    exact roundTrips_iff (packs_curveCode finite) most few

/-- A curve of three samples, one past the clamp. -/
theorem small_curve_roundTrips :
    RoundTrips [0.02, -0.05, 1e9]
      ((Visa.curvePoints [0.02, -0.05, 1e9]).map (Visa.curveBlock (.nominal 0))) :=
  ((curve_roundTrips_iff [0.02, -0.05, 1e9] (by decide) (by decide)).1 (.nominal 0)
    (by decide) (by decide)).2 (by decide +kernel)

/-- **The clamp comes too late**: a finite sample far out of range is not clamped, it raises
an `OverflowError` on both benches. -/
theorem huge_sample_unpacked :
    (1e308 : Float).isFinite = true ∧ (Visa.curvePoints [1e308]).toOption = none ∧
      ([1e308].mapM Gateway.ScopeModel.curveCode).toOption = none ∧
      ¬ RoundTrips [1e308] ((Visa.curvePoints [1e308]).map (Visa.curveBlock (.nominal 0))) ∧
      ¬ RoundTrips [1e308] (([1e308].mapM Gateway.ScopeModel.curveCode).map
        (Gateway.ScopeModel.curveBlock (.nominal 0))) := by
  have uncoded : [1e308].mapM clampedCode = none := by decide +kernel
  refine ⟨by decide +kernel, by decide +kernel, by decide +kernel, ?_, ?_⟩
  · rintro ⟨block, codes, -, made, -⟩
    rw [uncoded] at made
    cases made
  · rintro ⟨block, codes, -, made, -⟩
    rw [uncoded] at made
    cases made

end InstrumentBench.Oracle
