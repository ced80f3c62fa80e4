/-
# Theory.Number -- number literals, and the shortest decimal of a float

`NumberLiteral` is a parsed JSON number.  It can only be built well formed: a
whole part without leading zeros (it is a `Nat`), and a fraction and an exponent
that are absent or have at least one digit.  `scanNumber` reads one from text as
the regular expression `(-?(?:0|[1-9]\d*))(\.\d+)?([eE][-+]?\d+)?` does, and
`render` writes one.

`NumberLiteral.toFloat` is `float(text)`: the correctly rounded value.
`reprLiteral` is `float.__repr__`: the shortest literal that reads back as the
number, the nearest one among those, laid out as Python lays it out.  The search
tries one to seventeen digits; the exact expansion stands behind it so that
`reprLiteral_toFloat` needs no digit-counting theorem.

* `reprLiteral_toFloat`: a finite float is read back from its own repr;
* `scanNumber_render`: scanning a rendered literal yields it, and leaves what
  follows.
-/
import InstrumentBench.Theory.Binary64
import InstrumentBench.Theory.Text

namespace InstrumentBench.Theory

set_option autoImplicit false

/-! ## Decimal digits -/

abbrev Digit := Fin 10

/-- A nonempty run of digits. -/
structure Digits where
  list : List Digit
  nonempty : list ≠ []
deriving DecidableEq

def Digits.ofList? (ds : List Digit) : Option Digits :=
  if h : ds ≠ [] then some ⟨ds, h⟩ else none

/-- The number a run of digits spells, most significant digit first. -/
def ofDigits (ds : List Digit) : Nat :=
  ds.foldl (fun n d => 10 * n + d.val) 0

/-- The digits of a number, most significant first and without leading zeros. -/
def decimalDigits (n : Nat) : List Digit :=
  if n = 0 then [0] else ((Nat.digits 10 n).map (Fin.ofNat 10)).reverse

theorem decimalDigits_ne_nil (n : Nat) : decimalDigits n ≠ [] := by
  unfold decimalDigits
  split
  · simp
  · simpa [Nat.digits_eq_nil_iff_eq_zero]

theorem foldl_digits (ds : List Digit) (n : Nat) :
    ds.foldl (fun n d => 10 * n + d.val) n = n * 10 ^ ds.length + ofDigits ds := by
  induction ds generalizing n with
  | nil => simp [ofDigits]
  | cons d ds ih =>
      simp only [List.foldl_cons, List.length_cons, ofDigits]
      rw [ih, ih (10 * 0 + d.val)]
      ring

theorem ofDigits_reverse_map {ds : List Nat} (small : ∀ d ∈ ds, d < 10) :
    ofDigits ((ds.map (Fin.ofNat 10)).reverse) = Nat.ofDigits 10 ds := by
  induction ds with
  | nil => rfl
  | cons d ds ih =>
      have hd := small d (by simp)
      have rest := ih fun x hx => small x (by simp [hx])
      simp only [List.map_cons, List.reverse_cons, Nat.ofDigits_cons]
      unfold ofDigits at rest ⊢
      rw [List.foldl_append, rest]
      simp only [List.foldl_cons, List.foldl_nil, Fin.val_ofNat, Nat.mod_eq_of_lt hd]
      omega

@[simp] theorem ofDigits_decimalDigits (n : Nat) : ofDigits (decimalDigits n) = n := by
  unfold decimalDigits
  split
  · rename_i zero
    subst zero
    rfl
  · rw [ofDigits_reverse_map fun d hd => Nat.digits_lt_base (by norm_num) hd,
      Nat.ofDigits_digits]

theorem length_decimalDigits_le_iff {k : Nat} (positive : 0 < k) (n : Nat) :
    (decimalDigits n).length ≤ k ↔ n < 10 ^ k := by
  unfold decimalDigits
  split
  · rename_i zero
    subst zero
    exact iff_of_true positive (Nat.pow_pos (by omega))
  · rw [List.length_reverse, List.length_map]
    exact Nat.digits_length_le_iff (by omega) n

/-- Counting two further takes at most one more digit. -/
theorem length_decimalDigits_add_two (n : Nat) :
    (decimalDigits (n + 2)).length ≤ (decimalDigits n).length + 1 := by
  have positive := List.length_pos_of_ne_nil (decimalDigits_ne_nil n)
  have fits := (length_decimalDigits_le_iff positive n).1 le_rfl
  rw [length_decimalDigits_le_iff (by omega), Nat.pow_succ]
  omega

/-- The first digit of a number other than zero is not zero. -/
theorem decimalDigits_head {n : Nat} (positive : n ≠ 0) :
    ∃ d ds, decimalDigits n = d :: ds ∧ d ≠ 0 := by
  have nonempty : Nat.digits 10 n ≠ [] := by simpa [Nat.digits_eq_nil_iff_eq_zero]
  have last := Nat.getLast_digit_ne_zero 10 positive
  have small := Nat.digits_lt_base (by norm_num) (List.getLast_mem nonempty)
  have split := List.dropLast_append_getLast nonempty
  have reversed := congrArg (fun ds => (ds.map (Fin.ofNat 10)).reverse) split
  simp only [List.map_append, List.map_cons, List.map_nil, List.reverse_append,
    List.reverse_cons, List.reverse_nil, List.nil_append, List.singleton_append] at reversed
  refine ⟨_, _, by rw [decimalDigits, if_neg positive, ← reversed], ?_⟩
  intro zero
  have value := congrArg Fin.val zero
  simp only [Fin.val_ofNat, Nat.mod_eq_of_lt small] at value
  exact last value

/-! ## Literals -/

/-- A JSON number, parsed: sign, whole part, digits after the point, and the
signed digits of the exponent. -/
structure NumberLiteral where
  negative : Bool
  whole : Nat
  fraction : Option Digits
  exponent : Option (Bool × Digits)
deriving DecidableEq

namespace NumberLiteral

/-- A literal with a point or an exponent is read by `float`, one without by
`int`. -/
def isFloat (l : NumberLiteral) : Bool := l.fraction.isSome || l.exponent.isSome

def fractionDigits (l : NumberLiteral) : List Digit :=
  match l.fraction with
  | some ds => ds.list
  | none => []

/-- The signed exponent after `e`. -/
def exponentValue (l : NumberLiteral) : Int :=
  match l.exponent with
  | some (true, ds) => -(ofDigits ds.list : Int)
  | some (false, ds) => ofDigits ds.list
  | none => 0

/-- All digits of the literal read as one number. -/
def mantissa (l : NumberLiteral) : Nat :=
  l.whole * 10 ^ l.fractionDigits.length + ofDigits l.fractionDigits

/-- The power of ten that scales `mantissa`. -/
def scale (l : NumberLiteral) : Int := l.exponentValue - l.fractionDigits.length

/-- `int(text)`. -/
def toInt (l : NumberLiteral) : Int := if l.negative then -(l.whole : Int) else l.whole

/-- `float(text)`: the correctly rounded value, infinite past the range. -/
def toFloat (l : NumberLiteral) : Float :=
  let magnitude := Float.Model.UnpackedFloat.ofScientific Float.Model.Format.binary64
    l.mantissa l.scale
  Float.ofModel (Float.Model.pack (if l.negative then magnitude.neg else magnitude))

end NumberLiteral

/-- The correctly rounded quotient `num / den` of two integers. -/
def intDivide (num den : Nat) : Float :=
  if num = 0 then 0
  else
    let (m, e, accuracy) := Float.Model.UnpackedFloat.divCore .binary64 num 0 den 0
    Float.ofModel (Float.Model.pack
      (Float.Model.UnpackedFloat.roundWithAccuracy .binary64 .positive m e accuracy))

/-! ## The shortest literal of a float -/

/-- `float.__repr__` style: positional between `1e-04` and `1e+16`, otherwise
scientific with at least two exponent digits.  The value is
`digits * 10 ^ scale`. -/
def layout (negative : Bool) (digits : Nat) (scale : Int) : NumberLiteral :=
  let ds := decimalDigits digits
  let point := ds.length + scale
  if -4 < point ∧ point ≤ 16 then
    if point ≤ 0 then
      ⟨negative, 0, Digits.ofList? (List.replicate (-point).toNat 0 ++ ds), none⟩
    else if 0 ≤ scale then
      ⟨negative, digits * 10 ^ scale.toNat, Digits.ofList? [0], none⟩
    else
      ⟨negative, ofDigits (ds.take point.toNat), Digits.ofList? (ds.drop point.toNat), none⟩
  else
    let power := decimalDigits (point - 1).natAbs
    let padded := if power.length < 2 then 0 :: power else power
    ⟨negative, ofDigits (ds.take 1), Digits.ofList? (ds.drop 1),
      (Digits.ofList? padded).map fun e => (decide (point - 1 < 0), e)⟩

/-- Drop trailing zeros, counting them into the scale. -/
def stripZeros : Nat → Nat → Int → Nat × Int
  | 0, digits, scale => (digits, scale)
  | fuel + 1, digits, scale =>
      if digits ≠ 0 ∧ digits % 10 = 0 then stripZeros fuel (digits / 10) (scale + 1)
      else (digits, scale)

/-- The position of the decimal point of `num / den`: the number lies between
`10 ^ (p - 1)` and `10 ^ p`. -/
def decimalPoint (num den : Nat) : Int :=
  if den ≤ num then ((Nat.digits 10 (num / den)).length : Int)
  else 1 - ((Nat.digits 10 ((den - 1) / num)).length : Int)

/-- The integers `low` and `low + 1` around `low + rem / unit`, the nearer one
first and the even one first on a tie. -/
def nearestFirst (low rem unit : Nat) : List Nat :=
  if 2 * rem < unit ∨ (2 * rem = unit ∧ low % 2 = 0) then [low, low + 1] else [low + 1, low]

/-- The two `n`-digit decimals around `num / den`, the nearer one first. -/
def neighbours (negative : Bool) (num den n : Nat) : List NumberLiteral :=
  let k := decimalPoint num den - n
  let scaled := if 0 ≤ k then num else num * 10 ^ (-k).toNat
  let unit := if 0 ≤ k then den * 10 ^ k.toNat else den
  (nearestFirst (scaled / unit) (scaled % unit) unit).map fun digits =>
    let stripped := stripZeros 17 digits k
    layout negative stripped.1 stripped.2

/-- The exact expansion of `m * 2 ^ e`. -/
def exactLiteral (negative : Bool) (m : Nat) (e : Int) : NumberLiteral :=
  if 0 ≤ e then
    ⟨negative, m * 2 ^ e.toNat, none, some (false, ⟨[0, 0], by simp⟩)⟩
  else
    ⟨negative, m * 5 ^ (-e).toNat, none,
      some (true, ⟨decimalDigits (-e).toNat, decimalDigits_ne_nil _⟩)⟩

def signBit : Float.Model.UnpackedFloat.Sign → Bool
  | .negative => true
  | .positive => false

/-- `float.__repr__` of a finite float.  A number that is not finite has no
literal; the callers refuse it first. -/
def reprLiteral (x : Float) : NumberLiteral :=
  match x.toModel.unpack with
  | .finite s m e _ =>
      let tried := (List.range 17).flatMap fun i =>
        neighbours (signBit s) (m * 2 ^ e.toNat) (2 ^ (-e).toNat) (i + 1)
      match tried.find? fun l => l.toFloat = x with
      | some l => l
      | none => exactLiteral (signBit s) m e
  | .zero s => ⟨signBit s, 0, some ⟨[0], by simp⟩, none⟩
  | _ => ⟨false, 0, none, none⟩

theorem layout_isFloat (negative : Bool) (digits : Nat) (scale : Int) :
    (layout negative digits scale).isFloat = true := by
  have nonempty := decimalDigits_ne_nil digits
  have some_of_ne : ∀ {ds : List Digit}, ds ≠ [] → (Digits.ofList? ds).isSome = true := by
    intro ds h
    simp [Digits.ofList?, h]
  simp only [layout]
  split
  · split
    · simp only [NumberLiteral.isFloat, Bool.or_eq_true]
      exact Or.inl (some_of_ne (by simp [nonempty]))
    · split
      · simp only [NumberLiteral.isFloat, Bool.or_eq_true]
        exact Or.inl (some_of_ne (by simp))
      · rename_i positive negativeScale
        simp only [NumberLiteral.isFloat, Bool.or_eq_true]
        refine Or.inl (some_of_ne ?_)
        simp only [ne_eq, List.drop_eq_nil_iff]
        omega
  · simp only [NumberLiteral.isFloat, Bool.or_eq_true, Option.isSome_map]
    refine Or.inr (some_of_ne ?_)
    split
    · simp
    · exact decimalDigits_ne_nil _

theorem neighbours_isFloat {negative : Bool} {num den n : Nat} {l : NumberLiteral}
    (member : l ∈ neighbours negative num den n) : l.isFloat = true := by
  obtain ⟨digits, -, rfl⟩ := List.mem_map.1 member
  exact layout_isFloat _ _ _

theorem exactLiteral_mantissa_scale (negative : Bool) (m : Nat) (e : Int) :
    (exactLiteral negative m e).negative = negative ∧
      (0 ≤ e → (exactLiteral negative m e).mantissa = m * 2 ^ e.toNat ∧
        (exactLiteral negative m e).scale = 0) ∧
      (e < 0 → (exactLiteral negative m e).mantissa = m * 5 ^ (-e).toNat ∧
        (exactLiteral negative m e).scale = e) := by
  unfold exactLiteral
  refine ⟨by split <;> rfl, fun nonneg => ?_, fun below => ?_⟩
  · rw [if_pos nonneg]
    simp [NumberLiteral.mantissa, NumberLiteral.scale, NumberLiteral.fractionDigits,
      NumberLiteral.exponentValue, ofDigits]
  · rw [if_neg (by omega)]
    simp only [NumberLiteral.mantissa, NumberLiteral.scale, NumberLiteral.fractionDigits,
      NumberLiteral.exponentValue, ofDigits_decimalDigits]
    refine ⟨by simp [ofDigits], ?_⟩
    simp only [List.length_nil]
    omega

/-- The exact expansion of a finite float reads back as that float. -/
theorem exactLiteral_toFloat {x : Float} {s : Float.Model.UnpackedFloat.Sign} {m : Nat} {e : Int}
    {h : 0 < m} (unpacked : x.toModel.unpack = .finite s m e h) :
    (exactLiteral (signBit s) m e).toFloat = x := by
  have good := Binary64.unpack_canonical unpacked
  have packed := Binary64.pack_unpack unpacked
  obtain ⟨negative, integral, fractional⟩ := exactLiteral_mantissa_scale (signBit s) m e
  have magnitude : Float.Model.UnpackedFloat.ofScientific Float.Model.Format.binary64
      (exactLiteral (signBit s) m e).mantissa (exactLiteral (signBit s) m e).scale =
      .finite .positive m e good.positive := by
    rcases lt_or_ge e 0 with below | nonneg
    · rw [(fractional below).1, (fractional below).2]
      exact Binary64.ofScientific_exact_neg good below
    · rw [(integral nonneg).1, (integral nonneg).2]
      exact Binary64.ofScientific_exact_nonneg good nonneg
  have signed : (if signBit s then
      (Float.Model.UnpackedFloat.finite .positive m e good.positive).neg else
      .finite .positive m e good.positive) = .finite s m e h := by
    cases s <;> rfl
  unfold NumberLiteral.toFloat
  dsimp only
  rw [magnitude, negative, signed, Binary64.model_of_packed packed]

theorem zeroLiteral_toFloat {x : Float} {s : Float.Model.UnpackedFloat.Sign}
    (unpacked : x.toModel.unpack = .zero s) :
    NumberLiteral.toFloat ⟨signBit s, 0, some ⟨[0], by simp⟩, none⟩ = x := by
  have packed := Binary64.unpack_zero unpacked
  have zero : NumberLiteral.toFloat ⟨signBit s, 0, some ⟨[0], by simp⟩, none⟩ =
      Float.ofModel (Float.Model.pack (.zero s)) := by
    cases s <;> rfl
  rw [zero, Binary64.model_of_packed packed]

/-- A finite float is read back from its own repr. -/
theorem reprLiteral_toFloat {x : Float} (finite : x.isFinite = true) :
    (reprLiteral x).toFloat = x := by
  have unpackedFinite : x.toModel.unpack.isFinite = true := finite
  unfold reprLiteral
  cases unpacked : x.toModel.unpack with
  | finite s m e h =>
      dsimp only
      split
      · rename_i l found
        simpa using List.find?_some found
      · exact exactLiteral_toFloat unpacked
  | zero s => exact zeroLiteral_toFloat unpacked
  | infinity s =>
      rw [unpacked] at unpackedFinite
      cases unpackedFinite
  | notANumber =>
      rw [unpacked] at unpackedFinite
      cases unpackedFinite

theorem reprLiteral_isFloat {x : Float} (finite : x.isFinite = true) :
    (reprLiteral x).isFloat = true := by
  have unpackedFinite : x.toModel.unpack.isFinite = true := finite
  unfold reprLiteral
  cases unpacked : x.toModel.unpack with
  | finite s m e h =>
      dsimp only
      split
      · rename_i l found
        obtain ⟨i, -, member⟩ := List.mem_flatMap.1 (List.mem_of_find?_eq_some found)
        exact neighbours_isFloat member
      · unfold exactLiteral
        split <;> rfl
  | zero s => rfl
  | infinity s =>
      rw [unpacked] at unpackedFinite
      cases unpackedFinite
  | notANumber =>
      rw [unpacked] at unpackedFinite
      cases unpackedFinite

/-! ## Text -/

def Digit.point (d : Digit) : CodePoint := ⟨48 + d.val, by have := d.isLt; omega⟩

def digitOf? (c : CodePoint) : Option Digit :=
  if h : 48 ≤ c.val ∧ c.val ≤ 57 then some ⟨c.val - 48, by omega⟩ else none

@[simp] theorem digitOf?_point (d : Digit) : digitOf? d.point = some d := by
  have := d.isLt
  unfold digitOf?
  rw [dif_pos (by simp only [Digit.point]; omega)]
  simp [Digit.point]

def digitText (ds : List Digit) : Text := ds.map Digit.point

namespace NumberLiteral

def fractionText (l : NumberLiteral) : Text :=
  match l.fraction with
  | some ds => CodePoint.ofChar '.' :: digitText ds.list
  | none => []

def exponentText (l : NumberLiteral) : Text :=
  match l.exponent with
  | some (negative, ds) =>
      CodePoint.ofChar 'e' :: (if negative then CodePoint.ofChar '-' else CodePoint.ofChar '+') ::
        digitText ds.list
  | none => []

def signText (l : NumberLiteral) : Text :=
  if l.negative then [CodePoint.ofChar '-'] else []

def render (l : NumberLiteral) : Text :=
  l.signText ++ (digitText (decimalDigits l.whole) ++ (l.fractionText ++ l.exponentText))

end NumberLiteral

/-- The longest run of digits at the front. -/
def spanDigits : Text → List Digit × Text
  | [] => ([], [])
  | c :: rest =>
      match digitOf? c with
      | some d => (d :: (spanDigits rest).1, (spanDigits rest).2)
      | none => ([], c :: rest)

/-- `-?` -/
def scanSign : Text → Bool × Text
  | [] => (false, [])
  | c :: rest => if c = CodePoint.ofChar '-' then (true, rest) else (false, c :: rest)

/-- `0|[1-9]\d*` -/
def scanWhole : Text → Option (Nat × Text)
  | [] => none
  | c :: rest =>
      match digitOf? c with
      | none => none
      | some d =>
          if d = 0 then some (0, rest)
          else some (ofDigits (d :: (spanDigits rest).1), (spanDigits rest).2)

/-- `(\.\d+)?` -/
def scanFraction : Text → Option Digits × Text
  | [] => (none, [])
  | c :: rest =>
      if c = CodePoint.ofChar '.' then
        match Digits.ofList? (spanDigits rest).1 with
        | some ds => (some ds, (spanDigits rest).2)
        | none => (none, c :: rest)
      else (none, c :: rest)

/-- `[-+]?` -/
def scanExponentSign : Text → Bool × Text
  | [] => (false, [])
  | c :: rest =>
      if c = CodePoint.ofChar '-' then (true, rest)
      else if c = CodePoint.ofChar '+' then (false, rest)
      else (false, c :: rest)

/-- `([eE][-+]?\d+)?` -/
def scanExponent : Text → Option (Bool × Digits) × Text
  | [] => (none, [])
  | c :: rest =>
      if c = CodePoint.ofChar 'e' ∨ c = CodePoint.ofChar 'E' then
        let signed := scanExponentSign rest
        match Digits.ofList? (spanDigits signed.2).1 with
        | some ds => (some (signed.1, ds), (spanDigits signed.2).2)
        | none => (none, c :: rest)
      else (none, c :: rest)

/-- The number at the front of a text, if there is one. -/
def scanNumber (t : Text) : Option (NumberLiteral × Text) :=
  let sign := scanSign t
  match scanWhole sign.2 with
  | none => none
  | some (whole, rest) =>
      let fraction := scanFraction rest
      let exponent := scanExponent fraction.2
      some (⟨sign.1, whole, fraction.1, exponent.1⟩, exponent.2)

/-! ## Scanning a rendered literal -/

/-- What follows does not continue a number. -/
def NumberEnd (rest : Text) : Prop :=
  ∀ c ∈ rest.head?, digitOf? c = none ∧ c ≠ CodePoint.ofChar '.' ∧
    c ≠ CodePoint.ofChar 'e' ∧ c ≠ CodePoint.ofChar 'E'

/-- What follows does not continue a run of digits. -/
def DigitEnd (rest : Text) : Prop := ∀ c ∈ rest.head?, digitOf? c = none

theorem NumberEnd.digitEnd {rest : Text} (ends : NumberEnd rest) : DigitEnd rest :=
  fun c hc => (ends c hc).1

theorem spanDigits_append (ds : List Digit) {rest : Text} (ends : DigitEnd rest) :
    spanDigits (digitText ds ++ rest) = (ds, rest) := by
  induction ds with
  | nil =>
      cases rest with
      | nil => rfl
      | cons c rest => simp [digitText, spanDigits, ends c (by simp)]
  | cons d ds ih =>
      simp only [digitText, List.map_cons, List.cons_append, spanDigits, digitOf?_point] at ih ⊢
      rw [ih]

theorem scanWhole_append (n : Nat) {rest : Text} (ends : DigitEnd rest) :
    scanWhole (digitText (decimalDigits n) ++ rest) = some (n, rest) := by
  rcases Nat.eq_zero_or_pos n with rfl | positive
  · rfl
  · obtain ⟨d, ds, digits, nonzero⟩ := decimalDigits_head positive.ne'
    have span := spanDigits_append ds ends
    simp only [digits, digitText, List.map_cons, List.cons_append, scanWhole, digitOf?_point] at span ⊢
    rw [if_neg nonzero, span, ← digits, ofDigits_decimalDigits]

theorem scanExponent_append (l : NumberLiteral) {rest : Text} (ends : NumberEnd rest) :
    scanExponent (l.exponentText ++ rest) = (l.exponent, rest) := by
  unfold NumberLiteral.exponentText
  split
  · rename_i negative ds exponent
    have span := spanDigits_append ds.list ends.digitEnd
    have sign : scanExponentSign ((if negative then CodePoint.ofChar '-' else CodePoint.ofChar '+') ::
        digitText ds.list ++ rest) = (negative, digitText ds.list ++ rest) := by
      cases negative <;> rfl
    simp only [List.cons_append] at sign
    simp [scanExponent, sign, span, Digits.ofList?, ds.nonempty, exponent]
  · rename_i absent
    cases rest with
    | nil => simp [scanExponent, absent]
    | cons c rest =>
        have h := ends c (by simp)
        simp [scanExponent, h.2.2.1, h.2.2.2, absent]

theorem exponentText_digitEnd (l : NumberLiteral) {rest : Text} (ends : NumberEnd rest) :
    DigitEnd (l.exponentText ++ rest) := by
  unfold NumberLiteral.exponentText
  split
  · intro c hc
    simp only [List.cons_append, List.head?_cons, Option.mem_def, Option.some.injEq] at hc
    subst hc
    rfl
  · exact ends.digitEnd

theorem scanFraction_append (l : NumberLiteral) {rest : Text} (ends : NumberEnd rest) :
    scanFraction (l.fractionText ++ (l.exponentText ++ rest)) =
      (l.fraction, l.exponentText ++ rest) := by
  have after := exponentText_digitEnd l ends
  unfold NumberLiteral.fractionText
  split
  · rename_i ds fraction
    have span := spanDigits_append ds.list after
    simp [scanFraction, span, Digits.ofList?, ds.nonempty, fraction]
  · rename_i absent
    have noPoint : ∀ c ∈ (l.exponentText ++ rest).head?, c ≠ CodePoint.ofChar '.' := by
      unfold NumberLiteral.exponentText
      split
      · intro c hc
        simp only [List.cons_append, List.head?_cons, Option.mem_def, Option.some.injEq] at hc
        subst hc
        decide
      · exact fun c hc => (ends c hc).2.1
    rw [List.nil_append, absent]
    generalize l.exponentText ++ rest = tail at noPoint
    cases tail with
    | nil => rfl
    | cons c tail => simp [scanFraction, noPoint c (by simp)]

theorem fractionText_digitEnd (l : NumberLiteral) {rest : Text} (ends : NumberEnd rest) :
    DigitEnd (l.fractionText ++ (l.exponentText ++ rest)) := by
  unfold NumberLiteral.fractionText
  split
  · intro c hc
    simp only [List.cons_append, List.head?_cons, Option.mem_def, Option.some.injEq] at hc
    subst hc
    rfl
  · exact exponentText_digitEnd l ends

theorem point_ne_minus : ∀ d : Digit, d.point ≠ CodePoint.ofChar '-' := by decide

/-- Scanning a rendered literal yields it and leaves what follows. -/
theorem scanNumber_render (l : NumberLiteral) {rest : Text} (ends : NumberEnd rest) :
    scanNumber (l.render ++ rest) = some (l, rest) := by
  have whole := scanWhole_append l.whole (fractionText_digitEnd l ends)
  have sign : scanSign (l.render ++ rest) = (l.negative, digitText (decimalDigits l.whole) ++
      (l.fractionText ++ (l.exponentText ++ rest))) := by
    unfold NumberLiteral.render NumberLiteral.signText
    cases l.negative with
    | true => simp [scanSign]
    | false =>
        obtain ⟨d, ds, digits⟩ := List.exists_cons_of_ne_nil (decimalDigits_ne_nil l.whole)
        simp [digits, digitText, scanSign, point_ne_minus]
  simp only [scanNumber, sign, whole, scanFraction_append l ends, scanExponent_append l ends]

/-- A rendered literal starts with a digit or a minus sign. -/
theorem render_head (l : NumberLiteral) :
    ∃ c rest, l.render = c :: rest ∧ (c = CodePoint.ofChar '-' ∨ ∃ d : Digit, c = d.point) := by
  unfold NumberLiteral.render NumberLiteral.signText
  cases l.negative with
  | true => exact ⟨_, _, rfl, Or.inl rfl⟩
  | false =>
      obtain ⟨d, ds, digits⟩ := List.exists_cons_of_ne_nil (decimalDigits_ne_nil l.whole)
      exact ⟨d.point, _, by simp [digits, digitText]; rfl, Or.inr ⟨d, rfl⟩⟩

theorem graphic_digitText (ds : List Digit) : Graphic (digitText ds) := by
  intro c hc
  obtain ⟨d, -, rfl⟩ := List.mem_map.1 hc
  have := d.isLt
  simp only [Digit.point]
  omega

theorem graphic_render (l : NumberLiteral) : Graphic l.render := by
  unfold NumberLiteral.render NumberLiteral.signText NumberLiteral.fractionText
    NumberLiteral.exponentText
  simp only [graphic_append]
  refine ⟨?_, graphic_digitText _, ?_, ?_⟩
  · split
    · exact graphic_cons.2 ⟨by decide, graphic_nil⟩
    · exact graphic_nil
  · split
    · exact graphic_cons.2 ⟨by decide, graphic_digitText _⟩
    · exact graphic_nil
  · split
    · refine graphic_cons.2 ⟨by decide, graphic_cons.2 ⟨?_, graphic_digitText _⟩⟩
      split <;> decide
    · exact graphic_nil

example : (reprLiteral 1e22).render = txt "1e+22" := by decide +kernel

example : (reprLiteral (Float.ofBits 0x3D30000000000000)).render =
    txt "5.684341886080802e-14" := by decide +kernel

end InstrumentBench.Theory
