/-
# Theory.Binary64Quotient -- when a quotient overflows

The quotient of two doubles is finite exactly when the dividend is far enough below the
range's end (`isFinite_div_iff`).  The bound is sharp for every divisor whose mantissa is
no power of two: dividing two normal mantissas leaves 53 or 54 bits, and rounding them off
never carries into a bit more.

Adding a zero, or taking one away, leaves a number as it is read (`read_sub_zero`,
`read_add_zero`).
-/
import InstrumentBench.Theory.Binary64Bounds

namespace InstrumentBench.Theory.Binary64

set_option autoImplicit false

open Float.Model
open Float.Model.UnpackedFloat

/-! ## Closed floats -/

/-- Sign, mantissa and exponent, to be computed. -/
def components : UnpackedFloat → Option (Bool × Nat × Int)
  | .finite s m e _ => some (s == .negative, m, e)
  | .zero s => some (s == .negative, 0, 0)
  | _ => none

theorem read_zero {x : Float} (computed : components (read x) = some (false, 0, 0)) :
    read x = .zero .positive := by
  cases found : read x with
  | zero s =>
      rw [found] at computed
      cases s with
      | positive => rfl
      | negative => cases computed
  | finite s m e h =>
      rw [found] at computed
      simp only [components, Option.some.injEq, Prod.mk.injEq] at computed
      omega
  | _ =>
      rw [found] at computed
      cases computed

theorem read_finite {x : Float} {m : Nat} {e : Int} (h : 0 < m)
    (computed : components (read x) = some (false, m, e)) :
    read x = .finite .positive m e h := by
  cases found : read x with
  | zero s =>
      rw [found] at computed
      simp only [components, Option.some.injEq, Prod.mk.injEq] at computed
      omega
  | finite s m' e' h' =>
      rw [found] at computed
      cases s with
      | positive =>
          cases computed
          rfl
      | negative => cases computed
  | _ =>
      rw [found] at computed
      cases computed

/-! ## Exponents after rounding -/

variable {m n : Nat} {e f : Int}

theorem roundedMantissa_ge (extended : ExtendedMantissa) :
    extended.mantissa ≤ extended.roundedMantissa := by
  obtain ⟨m, round, sticky⟩ := extended
  unfold ExtendedMantissa.roundedMantissa
  cases round <;> cases sticky <;>
    simp only [ExtendedMantissa.accuracy, Accuracy.roundToNearestEven] <;> omega

theorem le_log2 {k : Nat} (large : 2 ^ k ≤ m) : k ≤ m.log2 :=
  (Nat.le_log2 (Nat.pos_iff_ne_zero.1 (lt_of_lt_of_le (by positivity) large))).2 large

/-- The mantissa that is left after a shift to the target. -/
theorem shiftToTargetExponent_mantissa (m : Nat) (e : Int) (accuracy : Accuracy) :
    (shiftToTargetExponent Format.binary64 m e accuracy).1.mantissa =
      m / 2 ^ (max ((m.log2 : Int) + e - 52) (-1074) - e).toNat := by
  simp only [shiftToTargetExponent, shiftToExponent, totalExponent, binary64_targetExponent,
    shiftRight_mantissa, ofMantissaAndAccuracy_mantissa]
  congr 3
  omega

/-- **Rounding 54 bits, or 53, moves the exponent by one, or not at all.** -/
theorem roundWithAccuracy_exponent (s : Sign) (accuracy : Accuracy) (low : -1074 ≤ e)
    (wide : 2 ^ 52 ≤ m) (narrow : m + 2 < 2 ^ 54) (step : m < 2 ^ 53 → m + 1 < 2 ^ 53) :
    ∃ m' h, roundWithAccuracy Format.binary64 s m e accuracy =
      .finite s m' (if m < 2 ^ 53 then e else e + 1) h := by
  have most : m.log2 ≤ 53 := log2_le_of_lt (by omega)
  have least : 52 ≤ m.log2 := le_log2 wide
  obtain ⟨-, exponent⟩ := shiftToTargetExponent_bounds m e accuracy
  have mantissa := shiftToTargetExponent_mantissa m e accuracy
  have rounded := roundedMantissa_le (shiftToTargetExponent Format.binary64 m e accuracy).1
  have kept := roundedMantissa_ge (shiftToTargetExponent Format.binary64 m e accuracy).1
  simp only [roundWithAccuracy]
  generalize shiftToTargetExponent Format.binary64 m e accuracy = shifted at *
  obtain ⟨extended, e₁⟩ := shifted
  dsimp only at *
  -- the first shift leaves 53 bits, with room for one more
  have first : e₁ = (if m < 2 ^ 53 then e else e + 1) ∧ 2 ^ 52 ≤ extended.mantissa ∧
      extended.mantissa + 1 < 2 ^ 53 := by
    by_cases short : m < 2 ^ 53
    · have bits : m.log2 = 52 := le_antisymm (log2_le_of_lt short) least
      have still : (max ((m.log2 : Int) + e - 52) (-1074) - e).toNat = 0 := by omega
      rw [still, pow_zero, Nat.div_one] at mantissa
      rw [if_pos short, mantissa]
      refine ⟨by omega, wide, step short⟩
    · have bits : m.log2 = 53 := le_antisymm most (le_log2 (by omega))
      have by_one : (max ((m.log2 : Int) + e - 52) (-1074) - e).toNat = 1 := by omega
      rw [by_one] at mantissa
      rw [if_neg short]
      refine ⟨by omega, by omega, by omega⟩
  obtain ⟨at_, wide₁, room⟩ := first
  have bits : extended.roundedMantissa.log2 = 52 :=
    le_antisymm (log2_le_of_lt (by omega)) (le_log2 (by omega))
  have last := shiftToTargetExponent_mantissa extended.roundedMantissa e₁ .exact
  obtain ⟨-, exponent₁⟩ := shiftToTargetExponent_bounds extended.roundedMantissa e₁ .exact
  have low₁ : -1074 ≤ e₁ := by
    rw [at_]
    split <;> omega
  have still : (max ((extended.roundedMantissa.log2 : Int) + e₁ - 52) (-1074) - e₁).toNat = 0 := by
    omega
  rw [still, pow_zero, Nat.div_one] at last
  have stays : (shiftToTargetExponent Format.binary64 extended.roundedMantissa e₁ .exact).2 =
      if m < 2 ^ 53 then e else e + 1 := by
    rw [exponent₁, ← at_]
    omega
  have nonzero : (shiftToTargetExponent Format.binary64 extended.roundedMantissa e₁
      .exact).1.mantissa ≠ 0 := by omega
  rw [dif_neg nonzero]
  refine ⟨_, Nat.pos_of_ne_zero nonzero, ?_⟩
  rw [stays]

/-! ## The quotient of two normal numbers -/

theorem normal_log2 (good : Canonical m e) (normal : 2 ^ 52 ≤ m) : m.log2 = 52 :=
  le_antisymm good.log2_le (le_log2 normal)

theorem divCore_normal (good : Canonical m e) (normal : 2 ^ 52 ≤ m) (good' : Canonical n f)
    (normal' : 2 ^ 52 ≤ n) (above : -1074 ≤ e - f - 53) :
    ∃ accuracy, divCore Format.binary64 m e n f = (m * 2 ^ 53 / n, e - f - 53, accuracy) := by
  have bits := normal_log2 good normal
  have bits' := normal_log2 good' normal'
  have target : min (e - f) (Format.binary64.targetExponent
      (totalExponent m e - totalExponent n f)) = e - f - 53 := by
    rw [binary64_targetExponent]
    simp only [totalExponent, bits, bits']
    omega
  have shift : (e - f - (e - f - 53)).toNat = 53 := by omega
  refine ⟨accuracyOfFraction (m * 2 ^ 53 % n) n, ?_⟩
  simp only [divCore, target, shift, Nat.shiftLeft_eq]

/-- **A quotient of normal numbers does not carry**, unless the divisor is a power of two. -/
theorem quotient_bits (small : m < 2 ^ 53) (normal : 2 ^ 52 ≤ m) (large : 2 ^ 52 < n)
    (small' : n < 2 ^ 53) :
    2 ^ 52 ≤ m * 2 ^ 53 / n ∧ m * 2 ^ 53 / n + 2 < 2 ^ 54 ∧
      (m * 2 ^ 53 / n < 2 ^ 53 ↔ m < n) ∧
      (m * 2 ^ 53 / n < 2 ^ 53 → m * 2 ^ 53 / n + 1 < 2 ^ 53) := by
  have positive : 0 < n := by omega
  have less : m * 2 ^ 53 / n < 2 ^ 53 ↔ m < n := by
    rw [Nat.div_lt_iff_lt_mul positive]
    omega
  refine ⟨?_, ?_, less, ?_⟩
  · rw [Nat.le_div_iff_mul_le positive]
    omega
  · have : m * 2 ^ 53 / n < 2 ^ 54 - 2 := by
      rw [Nat.div_lt_iff_lt_mul positive]
      omega
    omega
  · intro short
    have below := less.1 short
    have : m * 2 ^ 53 / n < 2 ^ 53 - 1 := by
      rw [Nat.div_lt_iff_lt_mul positive]
      omega
    omega

/-! ## Overflow -/

/-- Past the last exponent a number is packed as an infinity. -/
theorem unpack_pack_beyond (s : Sign) (m : Nat) {e : Int} (h : 0 < m) (beyond : 971 < e) :
    UnpackedFloat.unpack Format.binary64 (UnpackedFloat.pack Format.binary64 (.finite s m e h)) =
      .infinity s := by
  have bias : ((Format.binary64.exponentBias : Nat) : Int) = 1023 := rfl
  have bits : Format.binary64.exponentBits = 11 := rfl
  have mantissa : ((Format.binary64.mantissaBitsWithoutImplicit : Nat) : Int) = 52 := rfl
  delta UnpackedFloat.pack
  simp only [bias, mantissa]
  rw [if_pos (by omega)]
  cases s <;> rfl

variable {x y : Float}

theorem read_div (x y : Float) :
    read (x / y) = UnpackedFloat.unpack Format.binary64
      (UnpackedFloat.pack Format.binary64 (UnpackedFloat.div Format.binary64 (read x) (read y))) :=
  rfl

/-- **When a quotient is finite**: its dividend is below the divisor times `2 ^ 1024`. -/
theorem isFinite_div_iff {s t : Sign} {h : 0 < m} {h' : 0 < n} (dividend : read x = .finite s m e h)
    (divisor : read y = .finite t n f h') (large : 2 ^ 52 < n) :
    (x / y).isFinite = true ↔ e < f + 1024 ∨ e = f + 1024 ∧ m < n := by
  have good : Canonical m e := by
    have canonical := unpacked_read x
    rwa [dividend] at canonical
  have good' : Canonical n f := by
    have canonical := unpacked_read y
    rwa [divisor] at canonical
  by_cases near : e - f < 971
  · have low : Low e x := by
      show LowExponent e (read x)
      rw [dividend]
      exact le_refl e
    have high : High f y := by
      show HighExponent f (read y)
      rw [divisor]
      exact le_refl f
    refine iff_of_true ?_ (.inl (by omega))
    by_cases tiny : e - f < -1074
    · exact (low_div low high (by omega) (by omega : -1073 ≤ -1073) (by omega)).isFinite
    · exact (low_div low high (by omega) (by omega : -1073 ≤ e - f + 1) (by omega)).isFinite
  · have normal : 2 ^ 52 ≤ m := good.normal.resolve_right (by have := good'.low; omega)
    obtain ⟨accuracy, core⟩ := divCore_normal good normal good' large.le (by omega)
    obtain ⟨wide, narrow, less, step⟩ := quotient_bits good.mantissa normal large good'.mantissa
    obtain ⟨m', positive, rounded⟩ :=
      roundWithAccuracy_exponent (s / t) accuracy (by omega : -1074 ≤ e - f - 53) wide narrow step
    have quotient : UnpackedFloat.div Format.binary64 (read x) (read y) =
        .finite (s / t) m' (if m * 2 ^ 53 / n < 2 ^ 53 then e - f - 53 else e - f - 53 + 1)
          positive := by
      rw [dividend, divisor]
      simp only [UnpackedFloat.div, core]
      exact rounded
    show (read (x / y)).isFinite = true ↔ _
    rw [read_div, quotient]
    generalize exponent : (if m * 2 ^ 53 / n < 2 ^ 53 then e - f - 53 else e - f - 53 + 1) = g
    have bound : g ≤ 971 ↔ e < f + 1024 ∨ e = f + 1024 ∧ m < n := by
      rw [← exponent]
      split
      · have := less.1 ‹_›
        omega
      · have : ¬ m < n := fun below => ‹¬ _› (less.2 below)
        omega
    by_cases fits : g ≤ 971
    · have low := low_unpack_pack (f := .finite (s / t) m' g positive) (B := 971) fits
        (by omega) le_rfl
      refine iff_of_true ?_ (bound.1 fits)
      cases found : UnpackedFloat.unpack Format.binary64 (UnpackedFloat.pack Format.binary64
          (.finite (s / t) m' g positive)) with
      | zero u => rfl
      | finite u k i p => rfl
      | _ =>
          rw [found] at low
          exact low.elim
    · rw [unpack_pack_beyond _ _ _ (by omega)]
      exact iff_of_false (by simp [UnpackedFloat.isFinite]) (fun holds => fits (bound.2 holds))

/-- The same bound as an order of floats: `limit` is the divisor, its exponent up by 1024. -/
theorem isFinite_div_iff_between {limit : Float} {h' : 0 < n} (finite : x.isFinite = true)
    (divisor : read y = .finite .positive n f h') (large : 2 ^ 52 < n)
    (top : read limit = .finite .positive n (f + 1024) h') :
    (x / y).isFinite = true ↔ -limit < x ∧ x < limit := by
  have number : IsNumber limit := by
    unfold IsNumber
    rw [top]
    nofun
  have number' : IsNumber (-limit) := by
    unfold IsNumber
    rw [read_neg, top]
    nofun
  rw [lt_iff number' (number_of_finite finite), lt_iff (number_of_finite finite) number, read_neg,
    rank_neg, top]
  have good : Canonical n (f + 1024) := by
    have canonical := unpacked_read limit
    rwa [top] at canonical
  have positive := (rank_finite_pos good).1
  have small := good.mantissa
  rcases isFinite_iff.1 finite with ⟨s, found⟩ | ⟨s, m, e, h, found⟩
  · have quotient : (x / y).isFinite = true := by
      show (read (x / y)).isFinite = true
      rw [read_div, found, divisor]
      simp only [UnpackedFloat.div]
      cases s <;> rfl
    rw [found]
    refine iff_of_true quotient ?_
    simp only [rank, Sign.apply]
    omega
  · have good' : Canonical m e := by
      have canonical := unpacked_read x
      rwa [found] at canonical
    have small' := good'.mantissa
    have positive' := (rank_finite_pos good').1
    rw [isFinite_div_iff found divisor large, found]
    cases s <;> simp only [rank, Sign.apply] <;> omega

/-! ## Zeros -/

theorem unpack_pack_read (x : Float) (finite : x.isFinite = true) :
    UnpackedFloat.unpack Format.binary64 (UnpackedFloat.pack Format.binary64 (read x)) = read x := by
  rcases isFinite_iff.1 finite with ⟨s, found⟩ | ⟨s, m, e, h, found⟩
  · rw [found]
    cases s <;> rfl
  · have good : Canonical m e := by
      have canonical := unpacked_read x
      rwa [found] at canonical
    rw [found]
    exact unpack_pack good

/-- Taking away a zero leaves a number as it is. -/
theorem read_sub_zero {z : Float} (zero : read z = .zero .positive) (finite : x.isFinite = true) :
    read (x - z) = read x := by
  show UnpackedFloat.unpack Format.binary64 (UnpackedFloat.pack Format.binary64
    (UnpackedFloat.sub Format.binary64 (read x) (read z))) = read x
  have same : UnpackedFloat.sub Format.binary64 (read x) (read z) = read x := by
    rcases isFinite_iff.1 finite with ⟨s, found⟩ | ⟨s, m, e, h, found⟩
    · rw [found, zero]
      cases s <;> rfl
    · rw [found, zero]
      rfl
  rw [same, unpack_pack_read x finite]

/-- Adding a zero changes no number but the sign of a zero. -/
theorem read_add_zero {z : Float} (zero : read z = .zero .positive) (x : Float) :
    read (x + z) = match read x with | .zero _ => .zero .positive | other => other := by
  show UnpackedFloat.unpack Format.binary64 (UnpackedFloat.pack Format.binary64
    (UnpackedFloat.add Format.binary64 (read x) (read z))) = _
  rw [zero]
  cases found : read x with
  | zero s => cases s <;> rfl
  | finite s m e h =>
      have good : Canonical m e := by
        have canonical := unpacked_read x
        rwa [found] at canonical
      exact unpack_pack good
  | infinity s => cases s <;> rfl
  | notANumber => rfl

end InstrumentBench.Theory.Binary64
