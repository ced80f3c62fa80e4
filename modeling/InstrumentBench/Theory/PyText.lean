/-
# Theory.PyText -- the string and number formatting methods of Python

ASCII `str` methods (`strip`, `upper`, `split`), the text that `float` and `int`
accept, and the three format specifications instruments answer with.  The
methods are the ASCII ones: their callers have decoded ASCII already.  At the
end, the two encodings a text or a byte string is recorded by, and the strict base64
decoder.
-/
import InstrumentBench.Theory.Number

namespace InstrumentBench.Theory.PyText

set_option autoImplicit false

/-! ## Splitting and folding -/

/-- `str.isspace` of an ASCII character. -/
def isSpace (c : CodePoint) : Bool := (9 ≤ c.val && c.val ≤ 13) || (28 ≤ c.val && c.val ≤ 32)

/-- `str.strip()` -/
def strip (t : Text) : Text := ((t.dropWhile isSpace).reverse.dropWhile isSpace).reverse

def upperChar (c : CodePoint) : CodePoint :=
  if h : 97 ≤ c.val ∧ c.val ≤ 122 then ⟨c.val - 32, by omega⟩ else c

/-- `str.upper()` -/
def upper (t : Text) : Text := t.map upperChar

def lowerChar (c : CodePoint) : CodePoint :=
  if h : 65 ≤ c.val ∧ c.val ≤ 90 then ⟨c.val + 32, by omega⟩ else c

/-- `str.lower()` -/
def lower (t : Text) : Text := t.map lowerChar

/-- `t.split(None, 1)[1]`; `none` is the `IndexError`. -/
def secondWord (t : Text) : Option Text :=
  match ((t.dropWhile isSpace).dropWhile fun c => !isSpace c).dropWhile isSpace with
  | [] => none
  | rest => some rest

/-- `head, tail = t.split(sep, 1)`; `none` is the `ValueError`. -/
def splitOnce (sep : CodePoint) : Text → Option (Text × Text)
  | [] => none
  | c :: t =>
      if c = sep then some ([], t)
      else (splitOnce sep t).map fun p => (c :: p.1, p.2)

/-- `sep.join(items)` -/
def join (sep : Text) : List Text → Text
  | [] => []
  | [t] => t
  | t :: ts => t ++ sep ++ join sep ts

/-- `sorted(items)` of texts: by code points. -/
def sorted (items : List Text) : List Text := items.insertionSort (· ≤ ·)

/-! ## What `float` and `int` accept -/

/-- Underscores are dropped where they stand between two digits, and nowhere
else accepted. -/
def dropUnderscores : Bool → Text → Option Text
  | _, [] => some []
  | afterDigit, c :: t =>
      if c = CodePoint.ofChar '_' then
        match afterDigit, t.head?.bind digitOf? with
        | true, some _ => dropUnderscores false t
        | _, _ => none
      else (dropUnderscores (digitOf? c).isSome t).map (c :: ·)

/-- A leading sign. -/
def signed : Text → Bool × Text
  | [] => (false, [])
  | c :: t =>
      if c = CodePoint.ofChar '-' then (true, t)
      else if c = CodePoint.ofChar '+' then (false, t) else (false, c :: t)

/-- `[eE][+-]?digits`, to the end of the text. -/
def exponentPart : Text → Option (Option (Bool × Digits))
  | [] => some none
  | c :: t =>
      if upperChar c = CodePoint.ofChar 'E' then
        match spanDigits (signed t).2 with
        | (ds, []) => (Digits.ofList? ds).map fun e => some ((signed t).1, e)
        | _ => none
      else none

/-- `digits[.digits]` or `.digits`, then the exponent. -/
def decimalLiteral (negative : Bool) (t : Text) : Option NumberLiteral :=
  let (whole, rest) := spanDigits t
  let (fraction, rest) :=
    match rest with
    | c :: rest' => if c = CodePoint.ofChar '.' then spanDigits rest' else ([], rest)
    | [] => ([], [])
  if whole.isEmpty && fraction.isEmpty then none
  else (exponentPart rest).map fun e => ⟨negative, ofDigits whole, Digits.ofList? fraction, e⟩

/-- `float(text)`; `none` is the `ValueError`. -/
def float? (t : Text) : Option Float :=
  match dropUnderscores false (strip t) with
  | none => none
  | some t =>
      let (negative, body) := signed t
      let sign (x : Float) := if negative then -x else x
      if upper body = txt "INF" ∨ upper body = txt "INFINITY" then some (sign (1.0 / 0.0))
      else if upper body = txt "NAN" then some (0.0 / 0.0)
      else (decimalLiteral negative body).map NumberLiteral.toFloat

/-- `int(text)`; `none` is the `ValueError`. -/
def int? (t : Text) : Option Int :=
  match dropUnderscores false (strip t) with
  | none => none
  | some t =>
      match spanDigits (signed t).2 with
      | (d :: ds, []) =>
          let n : Int := ofDigits (d :: ds)
          some (if (signed t).1 then -n else n)
      | _ => none

/-! ## Formatting -/

/-- `str(n)` -/
def natText (n : Nat) : Text := digitText (decimalDigits n)

/-- `str(i)` -/
def intText (i : Int) : Text :=
  if i < 0 then txt "-" ++ natText i.natAbs else natText i.natAbs

/-- `t.zfill(width)` of a text of digits. -/
def zfill (width : Nat) (t : Text) : Text :=
  List.replicate (width - t.length) (CodePoint.ofChar '0') ++ t

/-- The integer nearest `num / den`, the even one on a tie. -/
def roundHalfEven (num den : Nat) : Nat := (nearestFirst (num / den) (num % den) den).headD 0

/-- `round(x)` of a finite float; `none` for an infinite one or a NaN. -/
def round? (x : Float) : Option Int :=
  match x.toModel.unpack with
  | .finite s m e _ =>
      let n : Int := roundHalfEven (m * 2 ^ e.toNat) (2 ^ (-e).toNat)
      some (if signBit s then -n else n)
  | .zero _ => some 0
  | _ => none

def signText (plus negative : Bool) : Text :=
  if negative then txt "-" else if plus then txt "+" else []

/-- A number that is not finite, as every format writes it. -/
def specialText (plus : Bool) (x : Float) : Text :=
  if x.isNaN then signText plus false ++ txt "nan" else signText plus (x < 0.0) ++ txt "inf"

def fixedDigits (places n : Nat) : Text :=
  natText (n / 10 ^ places) ++ txt "." ++ zfill places (natText (n % 10 ^ places))

/-- `"{:.<places>f}".format(x)`, with `plus` for `"{:+.<places>f}"`. -/
def fixed (plus : Bool) (places : Nat) (x : Float) : Text :=
  match x.toModel.unpack with
  | .finite s m e _ =>
      signText plus (signBit s) ++
        fixedDigits places (roundHalfEven (m * 2 ^ e.toNat * 10 ^ places) (2 ^ (-e).toNat))
  | .zero s => signText plus (signBit s) ++ fixedDigits places 0
  | _ => specialText plus x

/-- `d.dddE+xx` for `digits` of `places + 1` figures. -/
def scientificDigits (places digits : Nat) (exponent : Int) : Text :=
  fixedDigits places digits ++ txt "E" ++ signText true (exponent < 0) ++
    zfill 2 (natText exponent.natAbs)

/-- `"{:+.<places>E}".format(x)` -/
def scientific (places : Nat) (x : Float) : Text :=
  match x.toModel.unpack with
  | .finite s m e _ =>
      let num := m * 2 ^ e.toNat
      let den := 2 ^ (-e).toNat
      let point := decimalPoint num den
      let k := point - 1 - places
      let digits :=
        if 0 ≤ k then roundHalfEven num (den * 10 ^ k.toNat)
        else roundHalfEven (num * 10 ^ (-k).toNat) den
      signText true (signBit s) ++
        if digits = 10 ^ (places + 1) then scientificDigits places (10 ^ places) point
        else scientificDigits places digits (point - 1)
  | .zero s => signText true (signBit s) ++ scientificDigits places 0 0
  | _ => upper (specialText true x)

/-! ## UTF-8 and base64 -/

/-- The bytes of one code point that is no surrogate. -/
def utf8Char (c : CodePoint) : Bytes :=
  let n := c.val
  let tail (k : Nat) : UInt8 := UInt8.ofNat (0x80 + n / 64 ^ k % 64)
  if n < 0x80 then [UInt8.ofNat n]
  else if n < 0x800 then [UInt8.ofNat (0xC0 + n / 64), tail 0]
  else if n < 0x10000 then [UInt8.ofNat (0xE0 + n / 4096), tail 1, tail 0]
  else [UInt8.ofNat (0xF0 + n / 262144), tail 2, tail 1, tail 0]

/-- `t.encode("utf-8")` of a text the wire protocol let through. -/
def encodeUtf8 (t : Text) : Bytes := t.flatMap utf8Char

def base64Char (n : Nat) : CodePoint :=
  (txt "ABCDEFGHIJKLMNOPQRSTUVWXYZabcdefghijklmnopqrstuvwxyz0123456789+/").getD (n % 64)
    (CodePoint.ofChar '=')

/-- `base64.b64encode(b).decode("ascii")` -/
def base64 : Bytes → Text
  | [] => []
  | [x] =>
      let n := x.toNat * 65536
      [base64Char (n / 262144), base64Char (n / 4096)] ++ txt "=="
  | [x, y] =>
      let n := x.toNat * 65536 + y.toNat * 256
      [base64Char (n / 262144), base64Char (n / 4096), base64Char (n / 64)] ++ txt "="
  | x :: y :: z :: rest =>
      let n := x.toNat * 65536 + y.toNat * 256 + z.toNat
      [base64Char (n / 262144), base64Char (n / 4096), base64Char (n / 64), base64Char n] ++
        base64 rest

/-- The six bits of a character of the base64 alphabet. -/
def base64Value? (c : CodePoint) : Option Nat :=
  let n := c.val
  if 65 ≤ n ∧ n ≤ 90 then some (n - 65)
  else if 97 ≤ n ∧ n ≤ 122 then some (n - 71)
  else if 48 ≤ n ∧ n ≤ 57 then some (n + 4)
  else if c = CodePoint.ofChar '+' then some 62
  else if c = CodePoint.ofChar '/' then some 63
  else none

/-- `base64.b64decode(t, validate=True)`: quads, the last of them padded; `none` is
the `ValueError`. -/
def base64Decode : Text → Option Bytes
  | [] => some []
  | a :: b :: c :: d :: rest => do
      let first ← base64Value? a
      let second ← base64Value? b
      let head := UInt8.ofNat (first * 4 + second / 16)
      if c = CodePoint.ofChar '=' then
        if d = CodePoint.ofChar '=' ∧ rest.isEmpty then some [head] else none
      else
        let third ← base64Value? c
        let middle := UInt8.ofNat (second % 16 * 16 + third / 4)
        if d = CodePoint.ofChar '=' then
          if rest.isEmpty then some [head, middle] else none
        else
          let fourth ← base64Value? d
          let last := UInt8.ofNat (third % 4 * 64 + fourth)
          (base64Decode rest).map fun tail => head :: middle :: last :: tail
  | _ => none

/-! ## Encodings that decode -/

/-- The code point is no half of a surrogate pair. -/
def Scalar (c : CodePoint) : Prop := ¬ (0xD800 ≤ c.val ∧ c.val ≤ 0xDFFF)

instance (c : CodePoint) : Decidable (Scalar c) := by
  unfold Scalar
  infer_instance

def ScalarText (t : Text) : Prop := ∀ c ∈ t, Scalar c

instance (t : Text) : Decidable (ScalarText t) :=
  decidable_of_iff ((t.all fun c => decide (Scalar c)) = true) (by simp [ScalarText])

theorem scalarText_nil : ScalarText [] := by
  intro c member
  cases member

@[simp] theorem scalarText_cons {c : CodePoint} {t : Text} :
    ScalarText (c :: t) ↔ Scalar c ∧ ScalarText t := by
  simp [ScalarText]

@[simp] theorem scalarText_append {s t : Text} :
    ScalarText (s ++ t) ↔ ScalarText s ∧ ScalarText t := by
  simp [ScalarText, or_imp, forall_and]

theorem scalarText_of_graphic {t : Text} (graphic : Graphic t) : ScalarText t := by
  rintro c member ⟨low, -⟩
  have := (graphic c member).2
  omega

/-- `t.encode("utf-8")`; `none` is the `UnicodeEncodeError` of a surrogate. -/
def encodeUtf8? (t : Text) : Option Bytes :=
  if ScalarText t then some (encodeUtf8 t) else none

theorem toNat_ofNat {n : Nat} (small : n < 256) : (UInt8.ofNat n).toNat = n := by
  simp only [UInt8.toNat_ofNat']
  omega

theorem continuation_ofNat (n : Nat) :
    continuation (UInt8.ofNat (0x80 + n % 64)) = some (n % 64) := by
  have byte : (UInt8.ofNat (0x80 + n % 64)).toNat = 0x80 + n % 64 := toNat_ofNat (by omega)
  unfold continuation
  rw [byte, if_pos (by omega), Nat.add_sub_cancel_left]

theorem ofNat?_val (c : CodePoint) : CodePoint.ofNat? c.val = some c := by
  simp [CodePoint.ofNat?]

theorem utf8Scalar_val {c : CodePoint} (scalar : Scalar c) {least : Nat} (large : least ≤ c.val) :
    utf8Scalar false least c.val = some c := by
  unfold utf8Scalar
  rw [if_neg (by omega), if_neg fun surrogate => scalar ⟨surrogate.1, surrogate.2.1⟩]
  exact ofNat?_val c

/-- A written code point is read back. -/
theorem decodeUtf8_utf8Char {c : CodePoint} (scalar : Scalar c) (rest : Bytes) :
    decodeUtf8 false (utf8Char c ++ rest) = (decodeUtf8 false rest).map (c :: ·) := by
  have bound := c.isLt
  unfold utf8Char
  dsimp only
  split
  case isTrue small =>
    rw [List.singleton_append, decodeUtf8.eq_def]
    dsimp only
    rw [if_pos (by rw [toNat_ofNat (by omega)]; exact small), ofByte_ofNat small]
  case isFalse =>
  split
  case isTrue small =>
    have byte : (UInt8.ofNat (0xC0 + c.val / 64)).toNat = 0xC0 + c.val / 64 :=
      toNat_ofNat (by omega)
    have value : (0xC0 + c.val / 64 - 0xC0) * 64 + c.val / 64 ^ 0 % 64 = c.val := by omega
    simp only [List.cons_append, List.nil_append]
    rw [decodeUtf8.eq_def]
    simp only [byte, continuation_ofNat]
    rw [if_neg (by omega), if_neg (by omega), if_pos (by omega)]
    simp only [Option.bind_eq_bind, Option.bind_some, value,
      utf8Scalar_val scalar (show 0x80 ≤ c.val by omega)]
  case isFalse =>
  split
  case isTrue small =>
    have byte : (UInt8.ofNat (0xE0 + c.val / 4096)).toNat = 0xE0 + c.val / 4096 :=
      toNat_ofNat (by omega)
    have value : ((0xE0 + c.val / 4096 - 0xE0) * 64 + c.val / 64 ^ 1 % 64) * 64 +
        c.val / 64 ^ 0 % 64 = c.val := by omega
    simp only [List.cons_append, List.nil_append]
    rw [decodeUtf8.eq_def]
    simp only [byte, continuation_ofNat]
    rw [if_neg (by omega), if_neg (by omega), if_neg (by omega), if_pos (by omega)]
    simp only [Option.bind_eq_bind, Option.bind_some, value,
      utf8Scalar_val scalar (show 0x800 ≤ c.val by omega)]
  case isFalse =>
    have byte : (UInt8.ofNat (0xF0 + c.val / 262144)).toNat = 0xF0 + c.val / 262144 :=
      toNat_ofNat (by omega)
    have value : (((0xF0 + c.val / 262144 - 0xF0) * 64 + c.val / 64 ^ 2 % 64) * 64 +
        c.val / 64 ^ 1 % 64) * 64 + c.val / 64 ^ 0 % 64 = c.val := by omega
    simp only [List.cons_append, List.nil_append]
    rw [decodeUtf8.eq_def]
    simp only [byte, continuation_ofNat]
    rw [if_neg (by omega), if_neg (by omega), if_neg (by omega), if_neg (by omega),
      if_pos (by omega)]
    simp only [Option.bind_eq_bind, Option.bind_some, value,
      utf8Scalar_val scalar (show 0x10000 ≤ c.val by omega)]

/-- **UTF-8 round trip.** -/
theorem decodeUtf8_encodeUtf8 {t : Text} (scalar : ScalarText t) :
    decodeUtf8 false (encodeUtf8 t) = some t := by
  induction t with
  | nil => rfl
  | cons c t ih =>
      obtain ⟨first, others⟩ := scalarText_cons.1 scalar
      show decodeUtf8 false (utf8Char c ++ encodeUtf8 t) = _
      rw [decodeUtf8_utf8Char first, ih others]
      rfl

theorem decodeUtf8_of_encodeUtf8? {t : Text} {b : Bytes} (encoded : encodeUtf8? t = some b) :
    decodeUtf8 false b = some t := by
  unfold encodeUtf8? at encoded
  split at encoded
  · rename_i scalar
    cases encoded
    exact decodeUtf8_encodeUtf8 scalar
  · cases encoded

theorem base64Char_mod (n : Nat) : base64Char (n % 64) = base64Char n := by
  unfold base64Char
  rw [Nat.mod_mod]

theorem base64Value?_base64Char (n : Nat) : base64Value? (base64Char n) = some (n % 64) := by
  have every : ∀ i : Fin 64, base64Value? (base64Char i.val) = some i.val := by decide +kernel
  have := every ⟨n % 64, by omega⟩
  rwa [base64Char_mod] at this

theorem base64Char_ne_pad (n : Nat) : base64Char n ≠ CodePoint.ofChar '=' := by
  have every : ∀ i : Fin 64, base64Char i.val ≠ CodePoint.ofChar '=' := by decide +kernel
  have := every ⟨n % 64, by omega⟩
  rwa [base64Char_mod] at this

theorem ofNat_eq {n : Nat} {x : UInt8} (value : n = x.toNat) : UInt8.ofNat n = x := by
  rw [value]
  exact UInt8.ofNat_toNat

/-- **Base64 round trip.** -/
theorem base64Decode_base64 (b : Bytes) : base64Decode (base64 b) = some b := by
  induction b using base64.induct with
  | case1 => rfl
  | case2 x =>
      have bound := x.toNat_lt
      have pad : txt "==" = [CodePoint.ofChar '=', CodePoint.ofChar '='] := rfl
      rw [base64, pad]
      generalize whole : x.toNat * 65536 = n
      have head : n / 262144 % 64 * 4 + n / 4096 % 64 / 16 = x.toNat := by omega
      simp only [List.cons_append, List.nil_append, base64Decode, base64Value?_base64Char]
      simp only [Option.bind_eq_bind, Option.bind_some, List.isEmpty_nil, and_self, if_true]
      rw [ofNat_eq head]
  | case3 x y =>
      have bx := x.toNat_lt
      have bound := y.toNat_lt
      have pad : txt "=" = [CodePoint.ofChar '='] := rfl
      rw [base64, pad]
      generalize whole : x.toNat * 65536 + y.toNat * 256 = n
      have head : n / 262144 % 64 * 4 + n / 4096 % 64 / 16 = x.toNat := by omega
      have middle : n / 4096 % 64 % 16 * 16 + n / 64 % 64 / 4 = y.toNat := by omega
      simp only [List.cons_append, List.nil_append, base64Decode, base64Value?_base64Char]
      simp only [Option.bind_eq_bind, Option.bind_some, List.isEmpty_nil, if_true,
        base64Char_ne_pad, if_false]
      rw [ofNat_eq head, ofNat_eq middle]
  | case4 x y z rest ih =>
      have bx := x.toNat_lt
      have bound := y.toNat_lt
      have bz := z.toNat_lt
      rw [base64]
      generalize whole : x.toNat * 65536 + y.toNat * 256 + z.toNat = n
      have head : n / 262144 % 64 * 4 + n / 4096 % 64 / 16 = x.toNat := by omega
      have middle : n / 4096 % 64 % 16 * 16 + n / 64 % 64 / 4 = y.toNat := by omega
      have last : n / 64 % 64 % 4 * 64 + n % 64 = z.toNat := by omega
      simp only [List.cons_append, List.nil_append, base64Decode, base64Value?_base64Char]
      simp only [Option.bind_eq_bind, Option.bind_some, base64Char_ne_pad, if_false, ih,
        Option.map_some]
      rw [ofNat_eq head, ofNat_eq middle, ofNat_eq last]

end InstrumentBench.Theory.PyText
