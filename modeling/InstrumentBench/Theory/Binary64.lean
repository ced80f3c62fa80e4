/-
# Theory.Binary64 -- finite binary64 numbers and their decimal expansions

Python's `float` is IEEE binary64, and Lean's `Float` carries the same model:
`Float.Model.unpack` reads a bit pattern as sign, mantissa and exponent, and
`Float.Model.ofScientific` is the correctly rounded value of a decimal.  This
module adds what a printer needs from them:

* `Canonical`: the mantissa and exponent of an unpacked finite number are the
  ones the format prescribes (`unpack_canonical`);
* `pack_unpack`: packing an unpacked finite number gives its bits back;
* `ofScientific_exact_nonneg`, `ofScientific_exact_neg`: the exact decimal
  expansion of a canonical number rounds to that number.
-/
import Mathlib.Tactic

namespace InstrumentBench.Theory.Binary64

set_option autoImplicit false

open Float.Model
open Float.Model.UnpackedFloat

/-! ## Packing an unpacked number -/

theorem toBitVec_ofBitVec (s : BitVec 1) : (Sign.ofBitVec s).toBitVec = s := by
  revert s
  decide

/-- The three fields of a word reassemble it. -/
theorem packComponents_fields (b : BitVec Format.binary64.numBits) :
    packComponents Format.binary64 (Sign.ofBitVec (unpackSign b)) (unpackExponent b)
      (unpackMantissa b) = b := by
  unfold packComponents
  rw [toBitVec_ofBitVec]
  delta unpackSign
  simp only [unpackExponent, unpackMantissa, BitVec.extractLsb]
  ext i hi
  grind

/-- The mantissa and exponent of a finite binary64 number, as the format
prescribes them: subnormal numbers sit at the least exponent. -/
structure Canonical (m : Nat) (e : Int) : Prop where
  positive : 0 < m
  mantissa : m < 2 ^ 53
  low : -1074 ≤ e
  high : e ≤ 971
  normal : 2 ^ 52 ≤ m ∨ e = -1074

theorem Canonical.log2_le {m : Nat} {e : Int} (good : Canonical m e) : m.log2 ≤ 52 := by
  have := (Nat.log2_lt good.positive.ne').2 good.mantissa
  omega

/-- A canonical exponent is the one the format computes. -/
theorem Canonical.targetExponent {m : Nat} {e : Int} (good : Canonical m e) :
    Format.binary64.targetExponent (totalExponent m e) = e := by
  have upper := good.log2_le
  have low := good.low
  have min : Format.binary64.minExponent = -1074 := by decide
  have bits : Format.binary64.mantissaBits = 53 := by decide
  simp only [Format.targetExponent, totalExponent, min, bits]
  rcases good.normal with h | h
  · have := (Nat.le_log2 good.positive.ne').2 h
    omega
  · omega

/-- The packed fields of a canonical number. -/
theorem pack_finite {s : Sign} {m : Nat} {e : Int} {h : 0 < m} (good : Canonical m e) :
    UnpackedFloat.pack Format.binary64 (.finite s m e h) =
      packComponents Format.binary64 s
        (BitVec.ofNat 11 (if 2 ^ 52 ≤ m then (e + 1075).toNat else 0)) (BitVec.ofNat 52 m) := by
  have bias : ((Format.binary64.exponentBias : Nat) : Int) = 1023 := rfl
  have bits : Format.binary64.mantissaBits = 53 := by decide
  have low := good.low
  have high := good.high
  delta UnpackedFloat.pack
  simp only [bias, bits]
  have biased : (e + 1023 + ((52 : Nat) : Int)).toNat = (e + 1075).toNat := by omega
  rw [biased, if_neg (by omega)]
  by_cases normal : 2 ^ 52 ≤ m
  · have lower := (Nat.le_log2 good.positive.ne').2 normal
    have upper := good.log2_le
    rw [if_pos (by omega), if_pos normal]
  · have upper := (Nat.log2_lt good.positive.ne').2 (Nat.lt_of_not_le normal)
    rw [if_neg (by omega), if_neg normal]

theorem one_append_toNat (f : BitVec 52) : (1#1 ++ f).toNat = 2 ^ 52 + f.toNat := by
  rw [BitVec.toNat_append, ← Nat.shiftLeft_add_eq_or_of_lt f.isLt]
  simp [Nat.shiftLeft_eq]

/-- The last exponent is that of the infinities and of the NaN. -/
theorem unpack_last {b : BitVec Format.binary64.numBits} (last : unpackExponent b = -1#11) :
    UnpackedFloat.unpack Format.binary64 b =
      if unpackMantissa b = 0#52 then .infinity (Sign.ofBitVec (unpackSign b)) else .notANumber := by
  delta UnpackedFloat.unpack
  dsimp only
  rw [if_pos last]

theorem unpack_empty {b : BitVec Format.binary64.numBits} (zero : unpackExponent b = 0#11)
    (empty : unpackMantissa b = 0#52) :
    UnpackedFloat.unpack Format.binary64 b = .zero (Sign.ofBitVec (unpackSign b)) := by
  delta UnpackedFloat.unpack
  dsimp only
  rw [if_neg (by rw [zero]; decide), if_pos zero, dif_pos empty]

/-- A number with the least exponent is read as its fraction. -/
theorem unpack_subnormal {b : BitVec Format.binary64.numBits} (zero : unpackExponent b = 0#11)
    (some : unpackMantissa b ≠ 0#52) :
    ∃ h, UnpackedFloat.unpack Format.binary64 b =
      .finite (Sign.ofBitVec (unpackSign b)) (unpackMantissa b).toNat (-1074) h := by
  have bias : ((Format.binary64.exponentBias : Nat) : Int) = 1023 := rfl
  have positive : 0 < (unpackMantissa b).toNat := by
    rw [Nat.pos_iff_ne_zero]
    intro empty
    exact some (BitVec.eq_of_toNat_eq (by rw [empty]; rfl))
  delta UnpackedFloat.unpack
  dsimp only
  rw [if_neg (by rw [zero]; decide), if_pos zero, dif_neg some, bias]
  refine ⟨positive, ?_⟩
  congr 1
  rw [zero]
  rfl

/-- Any other number has the implicit bit before its fraction. -/
theorem unpack_normal {b : BitVec Format.binary64.numBits} (last : unpackExponent b ≠ -1#11)
    (first : unpackExponent b ≠ 0#11) :
    ∃ h, UnpackedFloat.unpack Format.binary64 b =
      .finite (Sign.ofBitVec (unpackSign b)) (2 ^ 52 + (unpackMantissa b).toNat)
        ((unpackExponent b).toNat - 1075) h := by
  have bias : ((Format.binary64.exponentBias : Nat) : Int) = 1023 := rfl
  delta UnpackedFloat.unpack
  dsimp only
  rw [if_neg last, if_neg first, bias]
  refine ⟨by omega, ?_⟩
  congr 1
  exact one_append_toNat _

/-- What is read where the exponent is not the last one. -/
theorem unpack_below {b : BitVec Format.binary64.numBits} (below : unpackExponent b ≠ -1#11) :
    UnpackedFloat.unpack Format.binary64 b = .zero (Sign.ofBitVec (unpackSign b)) ∨
      ∃ m e h, UnpackedFloat.unpack Format.binary64 b =
          .finite (Sign.ofBitVec (unpackSign b)) m e h ∧
        e = max (((unpackExponent b).toNat : Int) - 1075) (-1074) := by
  by_cases zero : unpackExponent b = 0#11
  · have none : (unpackExponent b).toNat = 0 := by rw [zero]; rfl
    by_cases empty : unpackMantissa b = 0#52
    · exact Or.inl (unpack_empty zero empty)
    · obtain ⟨positive, found⟩ := unpack_subnormal zero empty
      refine Or.inr ⟨_, _, positive, found, ?_⟩
      rw [none]
      rfl
  · have some : (unpackExponent b).toNat ≠ 0 := fun none =>
      zero (BitVec.eq_of_toNat_eq (by rw [none]; rfl))
    obtain ⟨positive, found⟩ := unpack_normal below zero
    refine Or.inr ⟨_, _, positive, found, ?_⟩
    omega

/-- What unpacking a finite number reads from its fields. -/
theorem unpack_finite {b : BitVec Format.binary64.numBits} {s : Sign} {m : Nat} {e : Int}
    {h : 0 < m} (unpacked : UnpackedFloat.unpack Format.binary64 b = .finite s m e h) :
    Canonical m e ∧ s = Sign.ofBitVec (unpackSign b) ∧
      BitVec.ofNat 11 (if 2 ^ 52 ≤ m then (e + 1075).toNat else 0) = unpackExponent b ∧
      BitVec.ofNat 52 m = unpackMantissa b := by
  have fraction : (unpackMantissa b).toNat < 2 ^ 52 := (unpackMantissa b).isLt
  have field : (unpackExponent b).toNat < 2 ^ 11 := (unpackExponent b).isLt
  by_cases last : unpackExponent b = -1#11
  · rw [unpack_last last] at unpacked
    by_cases empty : unpackMantissa b = 0#52
    · rw [if_pos empty] at unpacked
      cases unpacked
    · rw [if_neg empty] at unpacked
      cases unpacked
  by_cases first : unpackExponent b = 0#11
  · by_cases empty : unpackMantissa b = 0#52
    · rw [unpack_empty first empty] at unpacked
      cases unpacked
    · obtain ⟨positive, found⟩ := unpack_subnormal first empty
      rw [found] at unpacked
      injection unpacked with hs hm he
      subst hs hm he
      refine ⟨⟨h, by omega, by omega, by omega, by omega⟩, rfl, ?_, ?_⟩
      · rw [if_neg (by omega), first]
      · rw [BitVec.ofNat_toNat, BitVec.setWidth_eq]
  · obtain ⟨positive, found⟩ := unpack_normal last first
    rw [found] at unpacked
    injection unpacked with hs hm he
    subst hs hm he
    have notLast : (unpackExponent b).toNat ≠ 2047 := fun all =>
      last (BitVec.eq_of_toNat_eq (by rw [all]; rfl))
    have notFirst : (unpackExponent b).toNat ≠ 0 := fun none =>
      first (BitVec.eq_of_toNat_eq (by rw [none]; rfl))
    refine ⟨⟨h, by omega, by omega, by omega, by omega⟩, rfl, ?_, ?_⟩
    · rw [if_pos (by omega)]
      apply BitVec.eq_of_toNat_eq
      rw [BitVec.toNat_ofNat]
      omega
    · apply BitVec.eq_of_toNat_eq
      rw [BitVec.toNat_ofNat]
      omega

theorem unpack_canonical {b : BitVec Format.binary64.numBits} {s : Sign} {m : Nat} {e : Int}
    {h : 0 < m} (unpacked : UnpackedFloat.unpack Format.binary64 b = .finite s m e h) : Canonical m e :=
  (unpack_finite unpacked).1

/-- Packing an unpacked finite number gives its bits back. -/
theorem pack_unpack {b : BitVec Format.binary64.numBits} {s : Sign} {m : Nat} {e : Int}
    {h : 0 < m} (unpacked : UnpackedFloat.unpack Format.binary64 b = .finite s m e h) :
    UnpackedFloat.pack Format.binary64 (.finite s m e h) = b := by
  obtain ⟨good, hs, he, hm⟩ := unpack_finite unpacked
  rw [pack_finite good, hs, he, hm, packComponents_fields]

theorem unpack_zero {b : BitVec Format.binary64.numBits} {s : Sign}
    (unpacked : UnpackedFloat.unpack Format.binary64 b = .zero s) :
    UnpackedFloat.pack Format.binary64 (.zero s) = b := by
  by_cases last : unpackExponent b = -1#11
  · rw [unpack_last last] at unpacked
    by_cases empty : unpackMantissa b = 0#52
    · rw [if_pos empty] at unpacked
      cases unpacked
    · rw [if_neg empty] at unpacked
      cases unpacked
  by_cases first : unpackExponent b = 0#11
  · by_cases empty : unpackMantissa b = 0#52
    · rw [unpack_empty first empty] at unpacked
      cases unpacked
      have fields := packComponents_fields b
      rw [first, empty] at fields
      exact fields
    · obtain ⟨positive, found⟩ := unpack_subnormal first empty
      rw [found] at unpacked
      cases unpacked
  · obtain ⟨positive, found⟩ := unpack_normal last first
    rw [found] at unpacked
    cases unpacked

/-- A float is the model whose bits it packs. -/
theorem model_of_packed {f : UnpackedFloat} {x : Float.Model}
    (packed : UnpackedFloat.pack Format.binary64 f = x.toBits.toBitVec) :
    Float.Model.pack f = x := by
  cases x with
  | mk bits valid =>
      have same : UInt64.ofBitVec (UnpackedFloat.pack Format.binary64 f) = bits := by
        rw [packed]
      subst same
      rfl

/-! ## Rounding an exact value -/

theorem repeat_shiftRightOne (m k : Nat) :
    Nat.repeat ExtendedMantissa.shiftRightOne k (ExtendedMantissa.mk (m * 2 ^ k) false false) =
      ExtendedMantissa.mk m false false := by
  induction k generalizing m with
  | zero => simp [Nat.repeat]
  | succ k ih =>
      have split : m * 2 ^ (k + 1) = (m * 2) * 2 ^ k := by ring
      rw [split, Nat.repeat, ih]
      simp [ExtendedMantissa.shiftRightOne]

theorem log2_mul_two_pow {m : Nat} (positive : 0 < m) (k : Nat) :
    (m * 2 ^ k).log2 = m.log2 + k := by
  induction k with
  | zero => simp
  | succ k ih =>
      have split : m * 2 ^ (k + 1) = 2 * (m * 2 ^ k) := by ring
      rw [split, Nat.log2_two_mul (by positivity), ih]
      omega

/-- Shifting an exact multiple of a power of two loses nothing. -/
theorem shiftToTargetExponent_exact {m : Nat} {e : Int} (good : Canonical m e) (k : Nat) :
    shiftToTargetExponent Format.binary64 (m * 2 ^ k) (e - k) .exact =
      (ExtendedMantissa.mk m false false, e) := by
  have total : totalExponent (m * 2 ^ k) (e - k) = totalExponent m e := by
    simp only [totalExponent, log2_mul_two_pow good.positive]
    omega
  have amount : (e - (e - (k : Int))).toNat = k := by omega
  simp only [shiftToTargetExponent, total, good.targetExponent, shiftToExponent, amount]
  refine Prod.ext ?_ (by simp)
  exact repeat_shiftRightOne m k

theorem roundWithAccuracy_exact (s : Sign) {m : Nat} {e : Int} (good : Canonical m e) (k : Nat) :
    roundWithAccuracy Format.binary64 s (m * 2 ^ k) (e - k) .exact =
      .finite s m e good.positive := by
  have first := shiftToTargetExponent_exact good k
  have second := shiftToTargetExponent_exact good 0
  simp only [Nat.pow_zero, Nat.mul_one, Nat.cast_zero, Int.sub_zero] at second
  have rounded : (ExtendedMantissa.mk m false false).roundedMantissa = m := by
    simp only [ExtendedMantissa.roundedMantissa, ExtendedMantissa.accuracy,
      Accuracy.roundToNearestEven]
  unfold roundWithAccuracy
  rw [first]
  dsimp only
  rw [rounded, second]
  exact dif_neg good.positive.ne'

theorem mul_finite (f : Format) (m n : Nat) (d e : Int) (positive : 0 < m) (positive' : 0 < n) :
    UnpackedFloat.mul f (.finite .positive m d positive) (.finite .positive n e positive') =
      roundWithAccuracy f .positive (m * n) (d + e) .exact := rfl

theorem div_finite (f : Format) (m n : Nat) (d e : Int) (positive : 0 < m) (positive' : 0 < n) :
    UnpackedFloat.div f (.finite .positive m d positive) (.finite .positive n e positive') =
      roundWithAccuracy f .positive (divCore f m d n e).1 (divCore f m d n e).2.1
        (divCore f m d n e).2.2 := rfl

/-- A canonical number with a nonnegative exponent is an integer, and that
integer rounds to it. -/
theorem ofScientific_exact_nonneg {m : Nat} {e : Int} (good : Canonical m e) (nonneg : 0 ≤ e) :
    UnpackedFloat.ofScientific Format.binary64 (m * 2 ^ e.toNat) 0 =
      .finite .positive m e good.positive := by
  have positive := good.positive
  have nonzero : m * 2 ^ e.toNat ≠ 0 := by positivity
  have bits : Format.binary64.mantissaBits = 53 := by decide
  have exponents : (2 : Int) ^ Format.binary64.exponentBits = 2048 := by decide
  unfold UnpackedFloat.ofScientific
  rw [dif_neg nonzero, exponents, if_neg (by norm_num), if_neg (by omega), if_pos (le_refl _),
    mul_finite, bits]
  have mantissa : (m * 2 ^ e.toNat) <<< 53 * 10 ^ (0 : Int).toNat = m * 2 ^ (e.toNat + 53) := by
    simp [Nat.shiftLeft_eq, pow_add, Nat.mul_assoc]
  have exponent : -((53 : Nat) : Int) + 0 = e - ((e.toNat + 53 : Nat) : Int) := by omega
  rw [mantissa, exponent]
  exact roundWithAccuracy_exact _ good _

/-- The exponent the division aims at is low enough for `k` decimal places. -/
theorem division_target_le {m k : Nat} (good : Canonical m (-(k : Int))) :
    Format.binary64.targetExponent (totalExponent (m * 5 ^ k) 0 - totalExponent (10 ^ k) 0) ≤
      -(k : Int) := by
  have bits : Format.binary64.mantissaBits = 53 := by decide
  have min : Format.binary64.minExponent = -1074 := by decide
  have positive := good.positive
  have low := good.low
  have ten : (10 ^ k).log2 = (5 ^ k).log2 + k := by
    rw [show (10 : Nat) = 5 * 2 by rfl, Nat.mul_pow]
    exact log2_mul_two_pow (by positivity) k
  have bound : m * 5 ^ k < 2 ^ (54 + (5 ^ k).log2) :=
    calc m * 5 ^ k < 2 ^ 53 * 2 ^ ((5 ^ k).log2 + 1) :=
          Nat.mul_lt_mul_of_lt_of_lt good.mantissa Nat.lt_log2_self
      _ = 2 ^ (54 + (5 ^ k).log2) := by rw [← pow_add]; congr 1; omega
  have product := (Nat.log2_lt (by positivity)).2 bound
  simp only [Format.targetExponent, totalExponent, min, bits, ten]
  omega

/-- Dividing by the power of ten leaves no remainder. -/
theorem divCore_exact {m k : Nat} (good : Canonical m (-(k : Int))) :
    ∃ j : Nat, divCore Format.binary64 (m * 5 ^ k) 0 (10 ^ k) 0 =
      (m * 2 ^ j, -(k : Int) - j, .exact) := by
  have target := division_target_le good
  generalize aimed : Format.binary64.targetExponent
    (totalExponent (m * 5 ^ k) 0 - totalExponent (10 ^ k) 0) = t at target
  obtain ⟨j, rfl⟩ : ∃ j : Nat, t = -(k : Int) - j := ⟨(-k - t).toNat, by omega⟩
  have least : min ((0 : Int) - 0) (-(k : Int) - j) = -(k : Int) - j := by omega
  have amount : ((0 : Int) - 0 - (-(k : Int) - j)).toNat = k + j := by omega
  have shifted : (m * 5 ^ k) <<< (k + j) = (m * 2 ^ j) * 10 ^ k := by
    rw [Nat.shiftLeft_eq, show (10 : Nat) = 5 * 2 by rfl, Nat.mul_pow, pow_add]
    ring
  have ten : 0 < 10 ^ k := by positivity
  refine ⟨j, ?_⟩
  simp only [divCore, aimed, least, amount, shifted, Nat.mul_div_cancel _ ten, Nat.mul_mod_left,
    accuracyOfFraction, if_true]

/-- A canonical number with a negative exponent `-k` has an exact expansion of
`k` decimal places, and that decimal rounds to it. -/
theorem ofScientific_exact_neg {m : Nat} {e : Int} (good : Canonical m e) (negative : e < 0) :
    UnpackedFloat.ofScientific Format.binary64 (m * 5 ^ (-e).toNat) e =
      .finite .positive m e good.positive := by
  obtain ⟨k, rfl⟩ : ∃ k : Nat, e = -(k : Int) := ⟨(-e).toNat, by omega⟩
  have positive := good.positive
  have kpos : 0 < k := by omega
  have nonzero : m * 5 ^ k ≠ 0 := by positivity
  have low := good.low
  have toNat : (-(-(k : Int))).toNat = k := by omega
  rw [toNat]
  have exponents : (2 : Int) ^ Format.binary64.exponentBits = 2048 := by decide
  unfold UnpackedFloat.ofScientific
  rw [dif_neg nonzero, exponents, if_neg (by omega), if_neg (by omega), if_neg (by omega),
    div_finite, toNat]
  obtain ⟨j, divided⟩ := divCore_exact good
  rw [divided]
  exact roundWithAccuracy_exact _ good _

end InstrumentBench.Theory.Binary64
