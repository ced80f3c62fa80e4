/-
# Theory.Binary64Bounds -- operations that stay finite, and sums of squares

An operation on doubles overflows only where the exponents are near the top.  `Low B x` says
that `x` is finite with an exponent of at most `B`; every operation keeps that with a
little more for `B` (`low_add`, `low_sub`, `low_mul`, `low_div`, `low_ofInt`), so that a
chain of operations on numbers of moderate size stays finite by adding up exponents.  The
bounds are not sharp.

A square is not below zero and neither is a sum or a product of such numbers, also where
they are infinite or no numbers (`nonneg_mul_self`, `nonneg_add`, `nonneg_mul`), nor the
double of a natural number (`nonneg_ofInt`).
-/
import InstrumentBench.Theory.Binary64Order

namespace InstrumentBench.Theory.Binary64

set_option autoImplicit false

open Float.Model
open Float.Model.UnpackedFloat

/-! ## Rounding -/

theorem binary64_targetExponent (total : Int) :
    Format.binary64.targetExponent total = max (total - 53) (-1074) := by
  have min : Format.binary64.minExponent = -1074 := by decide
  have bits : Format.binary64.mantissaBits = 53 := by decide
  simp only [Format.targetExponent, min, bits, Nat.cast_ofNat]

theorem shiftRight_mantissa (extended : ExtendedMantissa) (k : Nat) :
    (extended >>> k).mantissa = extended.mantissa / 2 ^ k := by
  induction k with
  | zero => simp [HShiftRight.hShiftRight, Nat.repeat]
  | succ k ih =>
      show (extended >>> k).mantissa / 2 = _
      rw [ih, Nat.div_div_eq_div_mul, Nat.pow_succ]

theorem ofMantissaAndAccuracy_mantissa (m : Nat) (accuracy : Accuracy) :
    (ExtendedMantissa.ofMantissaAndAccuracy m accuracy).mantissa = m := by
  cases accuracy with
  | exact => rfl
  | inexact o => cases o <;> rfl

theorem roundedMantissa_le (extended : ExtendedMantissa) :
    extended.roundedMantissa ≤ extended.mantissa + 1 := by
  obtain ⟨m, round, sticky⟩ := extended
  unfold ExtendedMantissa.roundedMantissa
  cases round <;> cases sticky <;>
    simp only [ExtendedMantissa.accuracy, Accuracy.roundToNearestEven] <;> omega

theorem log2_le_of_lt {m k : Nat} (small : m < 2 ^ (k + 1)) : m.log2 ≤ k := by
  by_cases zero : m = 0
  · rw [zero, Nat.log2_zero]
    exact Nat.zero_le k
  · exact Nat.lt_succ_iff.1 ((Nat.log2_lt zero).2 small)

theorem log2_le_log2 {m n : Nat} (less : m ≤ n) : m.log2 ≤ n.log2 :=
  log2_le_of_lt (lt_of_le_of_lt less Nat.lt_log2_self)

theorem shifted_lt {m k : Nat} (enough : m.log2 ≤ 52 + k) : m / 2 ^ k < 2 ^ 53 := by
  rw [Nat.div_lt_iff_lt_mul (by positivity), ← pow_add]
  exact lt_of_lt_of_le Nat.lt_log2_self (Nat.pow_le_pow_right (by decide) (by omega))

/-- A shift to the target leaves at most 53 bits, at an exponent that is the larger one. -/
theorem shiftToTargetExponent_bounds (m : Nat) (e : Int) (accuracy : Accuracy) :
    (shiftToTargetExponent Format.binary64 m e accuracy).1.mantissa < 2 ^ 53 ∧
      (shiftToTargetExponent Format.binary64 m e accuracy).2 =
        max e (max ((m.log2 : Int) + e - 52) (-1074)) := by
  simp only [shiftToTargetExponent, shiftToExponent, totalExponent, binary64_targetExponent,
    shiftRight_mantissa, ofMantissaAndAccuracy_mantissa]
  constructor
  · exact shifted_lt (by omega)
  · omega

/-- A zero, or a finite number whose exponent is at most `B`. -/
def LowExponent (B : Int) : UnpackedFloat → Prop
  | .zero _ => True
  | .finite _ _ e _ => e ≤ B
  | _ => False

instance (B : Int) : (f : UnpackedFloat) → Decidable (LowExponent B f)
  | .zero _ => isTrue trivial
  | .finite _ _ e _ => inferInstanceAs (Decidable (e ≤ B))
  | .infinity _ => isFalse id
  | .notANumber => isFalse id

/-- **What rounding does to the exponent.** -/
theorem roundWithAccuracy_low (s : Sign) {m : Nat} {e T : Int} (accuracy : Accuracy)
    (below : e ≤ T) (size : (m.log2 : Int) + e ≤ T + 52) (least : -1074 ≤ T) :
    LowExponent (T + 1) (roundWithAccuracy Format.binary64 s m e accuracy) := by
  obtain ⟨first, exponent⟩ := shiftToTargetExponent_bounds m e accuracy
  have rounded := roundedMantissa_le (shiftToTargetExponent Format.binary64 m e accuracy).1
  simp only [roundWithAccuracy]
  generalize shiftToTargetExponent Format.binary64 m e accuracy = shifted at *
  obtain ⟨extended, e₁⟩ := shifted
  dsimp only at *
  have bits : extended.roundedMantissa.log2 ≤ 53 :=
    log2_le_of_lt (lt_of_le_of_lt rounded (by omega))
  obtain ⟨-, last⟩ := shiftToTargetExponent_bounds extended.roundedMantissa e₁ .exact
  split
  · trivial
  · show (shiftToTargetExponent Format.binary64 extended.roundedMantissa e₁ .exact).2 ≤ T + 1
    rw [last]
    omega

theorem round_low (s : Sign) {m : Nat} {e T : Int} (below : e ≤ T)
    (size : (m.log2 : Int) + e ≤ T + 52) (least : -1074 ≤ T) :
    LowExponent (T + 1) (UnpackedFloat.round Format.binary64 s m e) := by
  simp only [UnpackedFloat.round, decreaseExponent]
  apply roundWithAccuracy_low s .exact _ _ least
  · omega
  · rw [Nat.shiftLeft_eq]
    rcases Nat.eq_zero_or_pos m with rfl | positive
    · rw [Nat.zero_mul, Nat.log2_zero]
      omega
    · rw [log2_mul_two_pow positive]
      omega

theorem normalize_low {n e T : Int} {k : Nat} (s : Sign) (below : e ≤ T)
    (bounded : n.natAbs < 2 ^ (k + 1)) (size : (k : Int) + e ≤ T + 52) (least : -1074 ≤ T) :
    LowExponent (T + 1) (UnpackedFloat.normalize Format.binary64 n e s) := by
  have bits := log2_le_of_lt bounded
  unfold UnpackedFloat.normalize
  split
  case h_1 negative =>
      have value : (-n).toNat = n.natAbs := by
        have : n < 0 := compare_lt_iff_lt.1 negative
        omega
      rw [value]
      exact round_low _ below (by omega) least
  case h_2 => trivial
  case h_3 positive =>
      have value : n.toNat = n.natAbs := by
        have : 0 < n := compare_gt_iff_gt.1 positive
        omega
      rw [value]
      exact round_low _ below (by omega) least

/-! ## Operations that stay finite -/

/-- A finite double whose exponent is at most `B`. -/
def Low (B : Int) (x : Float) : Prop := LowExponent B (read x)

instance (B : Int) (x : Float) : Decidable (Low B x) :=
  inferInstanceAs (Decidable (LowExponent B (read x)))

variable {x y : Float} {A B C : Int}

theorem LowExponent.mono {f : UnpackedFloat} (low : LowExponent A f) (more : A ≤ B) :
    LowExponent B f := by
  cases f with
  | finite s m e h => exact le_trans low more
  | zero s => trivial
  | _ => exact low

theorem Low.mono (low : Low A x) (more : A ≤ B) : Low B x := LowExponent.mono low more

theorem Low.isFinite (low : Low B x) : x.isFinite = true := by
  rw [isFinite_iff]
  unfold Low at low
  cases found : read x with
  | zero s => exact Or.inl ⟨s, rfl⟩
  | finite s m e h => exact Or.inr ⟨s, m, e, h, rfl⟩
  | _ =>
      rw [found] at low
      exact low.elim

/-- A low result is packed and read again as a low one. -/
theorem low_unpack_pack {f : UnpackedFloat} (low : LowExponent B f) (least : -1074 ≤ B)
    (most : B ≤ 971) :
    LowExponent B (UnpackedFloat.unpack Format.binary64 (UnpackedFloat.pack Format.binary64 f)) := by
  cases f with
  | zero s =>
      have back : UnpackedFloat.unpack Format.binary64
          (UnpackedFloat.pack Format.binary64 (.zero s)) = .zero s := by cases s <;> rfl
      rw [back]
      trivial
  | finite s m e h =>
      have small : e ≤ B := low
      rcases unpack_pack_finite s m e h with ⟨-, beyond⟩ | found | ⟨m', e', h', found, kept⟩
      · omega
      · rw [found]
        trivial
      · rw [found]
        show e' ≤ B
        omega
  | _ => exact low.elim

/-- A mantissa moved down from its exponent. -/
theorem decreased_lt {m : Nat} {e f M : Int} (small : m < 2 ^ 53) (below : f ≤ e) (top : e ≤ M) :
    m <<< (e - f).toNat < 2 ^ (53 + (M - f).toNat) := by
  rw [Nat.shiftLeft_eq, pow_add]
  calc m * 2 ^ (e - f).toNat < 2 ^ 53 * 2 ^ (e - f).toNat := by
        exact Nat.mul_lt_mul_of_pos_right small (by positivity)
    _ ≤ 2 ^ 53 * 2 ^ (M - f).toNat :=
        Nat.mul_le_mul_left _ (Nat.pow_le_pow_right (by decide) (by omega))

theorem natAbs_apply (s : Sign) (m : Nat) : (s.apply (m : Int)).natAbs = m := by
  cases s <;> simp [Sign.apply]

/-- The sum of two mantissas at one exponent, of either sign. -/
theorem normalize_sum_low {m n : Nat} {e f T : Int} {a b : Int} (s : Sign)
    (good : Canonical m e) (good' : Canonical n f)
    (first : a.natAbs = m <<< (e - min e f).toNat) (second : b.natAbs = n <<< (f - min e f).toNat)
    (below : e < T) (below' : f < T) :
    LowExponent (T + 1) (UnpackedFloat.normalize Format.binary64 (a + b) (min e f) s) := by
  have low := good.low
  have left : m <<< (e - min e f).toNat < 2 ^ (53 + (T - 1 - min e f).toNat) :=
    decreased_lt good.mantissa (min_le_left e f) (by omega)
  have right : n <<< (f - min e f).toNat < 2 ^ (53 + (T - 1 - min e f).toNat) :=
    decreased_lt good'.mantissa (min_le_right e f) (by omega)
  have bounded : (a + b).natAbs < 2 ^ (53 + (T - 1 - min e f).toNat + 1) := by
    rw [pow_succ]
    omega
  exact normalize_low s (by omega) bounded (by omega) (by omega)

theorem add_low {f g : UnpackedFloat} (good : Unpacked f) (good' : Unpacked g)
    (low : LowExponent A f) (low' : LowExponent B g) (above : A + 2 ≤ C) (above' : B + 2 ≤ C) :
    LowExponent C (UnpackedFloat.add Format.binary64 f g) := by
  cases f with
  | zero s =>
      cases g with
      | zero t =>
          simp only [UnpackedFloat.add]
          split <;> trivial
      | finite t n e' h => exact low'.mono (by omega)
      | _ => exact low'.elim
  | finite s m e h =>
      cases g with
      | zero t => exact low.mono (by omega)
      | finite t n e' h' =>
          have small : e ≤ A := low
          have small' : e' ≤ B := low'
          have sum := normalize_sum_low (T := C - 1) .positive good good' (natAbs_apply s _)
            (natAbs_apply t _) (by omega) (by omega)
          exact LowExponent.mono sum (by omega)
      | _ => exact low'.elim
  | _ => exact low.elim

theorem sub_eq_add_neg (f g : UnpackedFloat) :
    UnpackedFloat.sub Format.binary64 f g = UnpackedFloat.add Format.binary64 f g.neg := by
  cases f with
  | finite s m e h =>
      cases g with
      | finite t n e' h' =>
          simp only [UnpackedFloat.sub, UnpackedFloat.add, UnpackedFloat.neg]
          congr 1
          cases t <;> simp [Sign.apply, Int.sub_eq_add_neg]
      | _ => rfl
  | _ => cases g <;> rfl

theorem unpacked_neg {f : UnpackedFloat} (good : Unpacked f) : Unpacked f.neg := by
  cases f with
  | finite s m e h => exact good
  | _ => trivial

theorem LowExponent.neg {f : UnpackedFloat} (low : LowExponent A f) : LowExponent A f.neg := by
  cases f with
  | finite s m e h => exact low
  | _ => exact low

theorem low_add (low : Low A x) (low' : Low B y) (above : A + 2 ≤ C) (above' : B + 2 ≤ C)
    (least : -1074 ≤ C) (most : C ≤ 971) : Low C (x + y) := by
  refine low_unpack_pack (f := UnpackedFloat.add _ (read x) (read y)) ?_ least most
  exact add_low (unpacked_read x) (unpacked_read y) low low' above above'

theorem low_sub (low : Low A x) (low' : Low B y) (above : A + 2 ≤ C) (above' : B + 2 ≤ C)
    (least : -1074 ≤ C) (most : C ≤ 971) : Low C (x - y) := by
  refine low_unpack_pack (f := UnpackedFloat.sub _ (read x) (read y)) ?_ least most
  rw [sub_eq_add_neg]
  exact add_low (unpacked_read x) (unpacked_neg (unpacked_read y)) low low'.neg above above'

theorem low_neg (low : Low A x) (least : -1074 ≤ A) (most : A ≤ 971) : Low A (-x) :=
  low_unpack_pack (f := (read x).neg) (LowExponent.neg low) least most

/-- The product of two mantissas. -/
theorem log2_mul_le {m n : Nat} (small : m < 2 ^ 53) (small' : n < 2 ^ 53) :
    (m * n).log2 ≤ 105 := by
  refine log2_le_of_lt ?_
  rcases Nat.eq_zero_or_pos n with rfl | positive
  · rw [Nat.mul_zero]
    positivity
  · calc m * n < 2 ^ 53 * 2 ^ 53 := Nat.mul_lt_mul_of_lt_of_lt small small'
      _ = 2 ^ 106 := by norm_num

theorem low_mul (low : Low A x) (low' : Low B y) (above : A + B + 54 ≤ C) (least : -1073 ≤ C)
    (most : C ≤ 971) : Low C (x * y) := by
  refine low_unpack_pack (f := UnpackedFloat.mul _ (read x) (read y)) ?_ (by omega) most
  have good := unpacked_read x
  have good' := unpacked_read y
  unfold Low at low low'
  cases found : read x with
  | zero s =>
      rw [found] at low
      cases found' : read y with
      | zero t => trivial
      | finite t n e' h => trivial
      | _ =>
          rw [found'] at low'
          exact low'.elim
  | finite s m e h =>
      rw [found] at low good
      cases found' : read y with
      | zero t => trivial
      | finite t n e' h' =>
          rw [found'] at low' good'
          have small : e ≤ A := low
          have small' : e' ≤ B := low'
          have bits := log2_mul_le good.mantissa good'.mantissa
          exact (roundWithAccuracy_low (T := C - 1) _ .exact (by omega) (by omega)
            (by omega)).mono (by omega)
      | _ =>
          rw [found'] at low'
          exact low'.elim
  | _ =>
      rw [found] at low
      exact low.elim

/-- A finite number, and none of the zeros, whose exponent is at least `B`. -/
def HighExponent (B : Int) : UnpackedFloat → Prop
  | .finite _ _ e _ => B ≤ e
  | _ => False

instance (B : Int) : (f : UnpackedFloat) → Decidable (HighExponent B f)
  | .finite _ _ e _ => inferInstanceAs (Decidable (B ≤ e))
  | .zero _ => isFalse id
  | .infinity _ => isFalse id
  | .notANumber => isFalse id

/-- A finite double that is not zero, whose exponent is at least `B`. -/
def High (B : Int) (x : Float) : Prop := HighExponent B (read x)

instance (B : Int) (x : Float) : Decidable (High B x) :=
  inferInstanceAs (Decidable (HighExponent B (read x)))

theorem low_div (low : Low A x) (high : High B y) (above : A - B < C) (least : -1073 ≤ C)
    (most : C ≤ 971) : Low C (x / y) := by
  refine low_unpack_pack (f := UnpackedFloat.div _ (read x) (read y)) ?_ (by omega) most
  have good := unpacked_read x
  unfold Low at low
  unfold High at high
  cases found' : read y with
  | finite t n e' h' =>
      rw [found'] at high
      have large : B ≤ e' := high
      cases found : read x with
      | zero s => trivial
      | finite s m e h =>
          rw [found] at low good
          have small : e ≤ A := low
          have bits : m.log2 ≤ 52 := log2_le_of_lt good.mantissa
          simp only [UnpackedFloat.div, divCore]
          generalize Format.binary64.targetExponent _ = target
          have quotient : (m <<< (e - e' - min (e - e') target).toNat / n).log2 ≤
              m.log2 + (e - e' - min (e - e') target).toNat := by
            rw [Nat.shiftLeft_eq, ← log2_mul_two_pow h]
            exact log2_le_log2 (Nat.div_le_self _ _)
          exact (roundWithAccuracy_low (T := C - 1) _ _ (by omega) (by omega)
            (by omega)).mono (by omega)
      | _ =>
          rw [found] at low
          exact low.elim
  | _ =>
      rw [found'] at high
      exact high.elim

/-- **A whole number of `k + 1` bits is read as a finite double.** -/
theorem low_ofNat {n k : Nat} (small : n < 2 ^ (k + 1)) (bits : (k : Int) + 1 ≤ C + 52)
    (least : 3 ≤ C) (most : C ≤ 971) : Low C (Float.ofNat n) := by
  have log := log2_le_of_lt small
  show Low C (Float.ofScientific n false 0)
  unfold Float.ofScientific
  split
  case isTrue fast =>
      have word : n.toUInt64.toNat = n := by
        simp only [Nat.toUInt64, UInt64.toNat_ofNat']
        omega
      have converted : Low 1 n.toUInt64.toFloat := by
        refine low_unpack_pack (f := UnpackedFloat.normalize _ (n.toUInt64.toNat : Int) 0 .positive)
          ?_ (by omega) (by omega)
        rw [word]
        exact normalize_low (T := 0) (k := 52) _ le_rfl (by simpa using fast.1) (by omega)
          (by omega)
      have one : Low (-52) Float.exactlyRepresentablePowersOfTen[0] := by decide
      exact low_mul converted one (by omega) (by omega) most
  case isFalse =>
      refine low_unpack_pack (f := UnpackedFloat.ofScientific _ n 0) ?_ (by omega) most
      have width : Format.binary64.mantissaBits = 53 := by decide
      simp only [UnpackedFloat.ofScientific, width]
      split
      case isTrue => trivial
      case isFalse positive =>
          rw [if_neg (by norm_num), if_neg (by omega), if_pos le_rfl]
          simp only [UnpackedFloat.mul, Int.toNat_zero, pow_zero, Nat.mul_one, Nat.shiftLeft_eq]
          refine LowExponent.mono (roundWithAccuracy_low (T := C - 1) _ .exact ?_ ?_ ?_) (by omega)
          · omega
          · rw [log2_mul_two_pow (by omega)]
            omega
          · omega

theorem low_ofInt {i : Int} {k : Nat} (small : i.natAbs < 2 ^ (k + 1))
    (bits : (k : Int) + 1 ≤ C + 52) (least : 3 ≤ C) (most : C ≤ 971) : Low C (Float.ofInt i) := by
  cases i with
  | ofNat n => exact low_ofNat small bits least most
  | negSucc n => exact low_neg (low_ofNat small bits least most) (by omega) most

/-! ## Numbers between bounds -/

/-- **A canonical number is packed without loss.** -/
theorem unpack_pack {s : Sign} {m : Nat} {e : Int} {h : 0 < m} (good : Canonical m e) :
    UnpackedFloat.unpack Format.binary64 (UnpackedFloat.pack Format.binary64 (.finite s m e h)) =
      .finite s m e h := by
  have low := good.low
  have high := good.high
  have bound := good.mantissa
  rw [pack_finite good]
  by_cases normal : 2 ^ 52 ≤ m
  · rw [if_pos normal]
    have field : (BitVec.ofNat 11 (e + 1075).toNat).toNat = (e + 1075).toNat := by
      rw [BitVec.toNat_ofNat]
      omega
    have last : BitVec.ofNat 11 (e + 1075).toNat ≠ -1#11 := by
      intro same
      have := congrArg BitVec.toNat same
      rw [field] at this
      have ones : (-1#11).toNat = 2047 := rfl
      omega
    have first : BitVec.ofNat 11 (e + 1075).toNat ≠ 0#11 := by
      intro same
      have := congrArg BitVec.toNat same
      rw [field] at this
      have zeros : (0#11).toNat = 0 := rfl
      omega
    obtain ⟨positive, found⟩ := unpack_normal (b := packComponents Format.binary64 s
      (BitVec.ofNat 11 (e + 1075).toNat) (BitVec.ofNat 52 m))
      (by rwa [unpackExponent_packComponents]) (by rwa [unpackExponent_packComponents])
    rw [found]
    congr 1
    · exact unpackSign_packComponents _ _ _
    · have fraction : (BitVec.ofNat 52 m).toNat = m - 2 ^ 52 := by
        rw [BitVec.toNat_ofNat]
        omega
      rw [unpackMantissa_packComponents]
      refine (congrArg (2 ^ 52 + ·) fraction).trans ?_
      omega
    · rw [unpackExponent_packComponents, field]
      omega
  · rw [if_neg normal]
    have subnormal : e = -1074 := good.normal.resolve_left normal
    have value : (BitVec.ofNat 52 m).toNat = m := by
      rw [BitVec.toNat_ofNat, Nat.mod_eq_of_lt (by omega)]
    have some : BitVec.ofNat 52 m ≠ 0#52 := by
      intro same
      have := congrArg BitVec.toNat same
      rw [value] at this
      have zeros : (0#52).toNat = 0 := rfl
      omega
    obtain ⟨positive, found⟩ := unpack_subnormal (b := packComponents Format.binary64 s
      (BitVec.ofNat 11 0) (BitVec.ofNat 52 m))
      unpackExponent_packComponents (by rwa [unpackMantissa_packComponents])
    rw [found]
    congr 1
    · exact unpackSign_packComponents _ _ _
    · rw [unpackMantissa_packComponents, value]
    · exact subnormal.symm

theorem read_neg (x : Float) : read (-x) = (read x).neg := by
  show UnpackedFloat.unpack _ (UnpackedFloat.pack _ (read x).neg) = _
  have good := unpacked_read x
  cases found : read x with
  | finite s m e h =>
      rw [found] at good
      exact unpack_pack good
  | infinity s => cases s <;> rfl
  | zero s => cases s <;> rfl
  | notANumber => rfl

theorem low_neg_iff : Low B (-x) ↔ Low B x := by
  unfold Low
  rw [read_neg]
  cases read x <;> rfl

theorem rank_neg (f : UnpackedFloat) : rank f.neg = -rank f := by
  have twice (s : Sign) (n : Int) : (-s).apply n = -s.apply n := by
    cases s with
    | negative => exact (Int.neg_neg n).symm
    | positive => rfl
  cases f with
  | infinity s => exact twice s _
  | finite s m e h => exact twice s _
  | _ => rfl

theorem isFinite_neg (finite : x.isFinite = true) : (-x).isFinite = true := by
  rw [isFinite_iff, read_neg]
  rcases isFinite_iff.1 finite with ⟨s, found⟩ | ⟨s, m, e, h, found⟩
  · rw [found]
    exact Or.inl ⟨_, rfl⟩
  · rw [found]
    exact Or.inr ⟨_, _, _, _, rfl⟩

/-- The exponent of a finite number can be read off its rank. -/
theorem rank_lt_of_low {f : UnpackedFloat} (good : Unpacked f) (low : LowExponent B f)
    (least : -1074 ≤ B) : rank f < (B + 1076) * 2 ^ 53 := by
  cases f with
  | zero s =>
      simp only [rank]
      omega
  | finite s m e h =>
      have small : e ≤ B := low
      have mantissa := Canonical.mantissa good
      have exponent := Canonical.low good
      cases s <;> simp only [rank, Sign.apply] <;> omega
  | _ => exact low.elim

theorem rank_zero : rank (read 0.0) = 0 := by decide

theorem number_zero : IsNumber 0.0 := number_of_finite (by decide)

/-- **A number between zero and a low one is low.** -/
theorem low_of_between (finite : x.isFinite = true) (low : Low B y) (least : -1074 ≤ B)
    (above : ¬x < 0.0) (below : ¬y < x) : Low B x := by
  have number := number_of_finite finite
  rw [lt_iff number number_zero, rank_zero, Int.not_lt] at above
  rw [lt_iff (number_of_finite low.isFinite) number, Int.not_lt] at below
  have bound := lt_of_le_of_lt below (rank_lt_of_low (unpacked_read y) low least)
  have good := unpacked_read x
  unfold Low
  rcases isFinite_iff.1 finite with ⟨s, found⟩ | ⟨s, m, e, h, found⟩
  · rw [found]
    trivial
  · rw [found] at good above bound
    rw [found]
    have positive := Canonical.positive good
    have exponent := Canonical.low good
    show e ≤ B
    cases s with
    | negative =>
        simp only [rank, Sign.apply] at above
        omega
    | positive =>
        simp only [rank, Sign.apply] at bound
        omega

theorem low_of_between_neg (finite : x.isFinite = true) (low : Low B y) (least : -1074 ≤ B)
    (below : x < 0.0) (above : ¬y < -x) : Low B x := by
  rw [lt_iff (number_of_finite finite) number_zero, rank_zero] at below
  rw [← low_neg_iff]
  refine low_of_between (isFinite_neg finite) low least ?_ above
  rw [lt_iff (number_of_finite (isFinite_neg finite)) number_zero, rank_zero, read_neg, rank_neg]
  omega

/-! ## Sums of squares -/

/-- No number, or one that is not negative. -/
def Nonneg (x : Float) : Prop := 0 ≤ rank (read x)

theorem Nonneg.not_lt_zero (nonneg : Nonneg x) : ¬x < 0.0 := by
  intro less
  by_cases number : IsNumber x
  · rw [lt_iff number number_zero, rank_zero] at less
    unfold Nonneg at nonneg
    omega
  · unfold IsNumber at number
    rw [not_not] at number
    have compared : (read x).lt (read 0.0) = true := by
      have holds : decide ((read x).lt (read 0.0) = true) = true := less
      exact of_decide_eq_true holds
    rw [number] at compared
    cases compared

/-- The signs of infinities and finite numbers that are not negative. -/
def NotNegative : UnpackedFloat → Prop
  | .infinity s => s = .positive
  | .finite s _ _ _ => s = .positive
  | _ => True

theorem rank_nonneg_iff {f : UnpackedFloat} (good : Unpacked f) : 0 ≤ rank f ↔ NotNegative f := by
  cases f with
  | infinity s => cases s <;> simp [rank, NotNegative, Sign.apply]
  | finite s m e h =>
      obtain ⟨positive, -⟩ := rank_finite_pos good
      cases s with
      | negative =>
          simp only [rank, NotNegative, Sign.apply, reduceCtorEq, iff_false]
          omega
      | positive =>
          simp only [rank, NotNegative, Sign.apply, iff_true]
          omega
  | _ => simp [rank, NotNegative]

theorem notNegative_unpack_pack {f : UnpackedFloat} (sign : NotNegative f) :
    NotNegative (UnpackedFloat.unpack Format.binary64 (UnpackedFloat.pack Format.binary64 f)) := by
  cases f with
  | finite s m e h =>
      rcases unpack_pack_finite s m e h with ⟨found, -⟩ | found | ⟨m', e', h', found, -⟩
      · rw [found]
        exact sign
      · rw [found]
        trivial
      · rw [found]
        exact sign
  | infinity s =>
      cases show s = .positive from sign
      exact rfl
  | zero s => cases s <;> trivial
  | notANumber => trivial

theorem notNegative_round (m : Nat) (e : Int) (accuracy : Accuracy) :
    NotNegative (roundWithAccuracy Format.binary64 .positive m e accuracy) := by
  simp only [roundWithAccuracy]
  split
  · trivial
  · rfl

/-- **A square is not negative.** -/
theorem nonneg_mul_self (x : Float) : Nonneg (x * x) := by
  refine (rank_nonneg_iff (unpacked_read _)).2 ?_
  refine notNegative_unpack_pack (f := UnpackedFloat.mul _ (read x) (read x)) ?_
  cases read x with
  | infinity s => cases s <;> rfl
  | finite s m e h =>
      have square : s * s = .positive := by cases s <;> rfl
      simp only [UnpackedFloat.mul, square]
      exact notNegative_round _ _ _
  | _ => trivial

/-- **Neither is a sum** of numbers that are not. -/
theorem nonneg_add (nonneg : Nonneg x) (nonneg' : Nonneg y) : Nonneg (x + y) := by
  have left := (rank_nonneg_iff (unpacked_read x)).1 nonneg
  have right := (rank_nonneg_iff (unpacked_read y)).1 nonneg'
  refine (rank_nonneg_iff (unpacked_read _)).2 ?_
  refine notNegative_unpack_pack (f := UnpackedFloat.add _ (read x) (read y)) ?_
  cases found : read x with
  | notANumber => trivial
  | infinity s =>
      rw [found] at left
      cases show s = .positive from left
      cases found' : read y with
      | infinity t =>
          rw [found'] at right
          cases show t = .positive from right
          rfl
      | notANumber => trivial
      | _ => rfl
  | zero s =>
      cases found' : read y with
      | zero t =>
          simp only [UnpackedFloat.add]
          split <;> trivial
      | notANumber => trivial
      | _ =>
          rw [found'] at right
          exact right
  | finite s m e h =>
      rw [found] at left
      cases show s = .positive from left
      cases found' : read y with
      | infinity t =>
          rw [found'] at right
          exact right
      | finite t n e' h' =>
          rw [found'] at right
          cases show t = .positive from right
          simp only [UnpackedFloat.add, Sign.apply, UnpackedFloat.normalize]
          split
          case h_1 negative =>
              have := compare_lt_iff_lt.1 negative
              omega
          case h_2 => trivial
          case h_3 => exact notNegative_round _ _ _
      | notANumber => trivial
      | zero t => rfl

/-- **Neither is a product.** -/
theorem nonneg_mul (nonneg : Nonneg x) (nonneg' : Nonneg y) : Nonneg (x * y) := by
  have left := (rank_nonneg_iff (unpacked_read x)).1 nonneg
  have right := (rank_nonneg_iff (unpacked_read y)).1 nonneg'
  refine (rank_nonneg_iff (unpacked_read _)).2 ?_
  refine notNegative_unpack_pack (f := UnpackedFloat.mul _ (read x) (read y)) ?_
  cases found : read x with
  | infinity s =>
      rw [found] at left
      cases show s = .positive from left
      cases found' : read y with
      | infinity t =>
          rw [found'] at right
          cases show t = .positive from right
          rfl
      | finite t n e' h' =>
          rw [found'] at right
          cases show t = .positive from right
          rfl
      | _ => trivial
  | finite s m e h =>
      rw [found] at left
      cases show s = .positive from left
      cases found' : read y with
      | infinity t =>
          rw [found'] at right
          cases show t = .positive from right
          rfl
      | finite t n e' h' =>
          rw [found'] at right
          cases show t = .positive from right
          exact notNegative_round _ _ _
      | _ => trivial
  | zero s => cases read y <;> trivial
  | notANumber => cases read y <;> trivial

theorem nonneg_ofNat (n : Nat) : Nonneg (Float.ofNat n) := by
  show Nonneg (Float.ofScientific n false 0)
  unfold Float.ofScientific
  split
  case isTrue =>
      have converted : Nonneg n.toUInt64.toFloat := by
        refine (rank_nonneg_iff (unpacked_read _)).2 ?_
        refine notNegative_unpack_pack
          (f := UnpackedFloat.normalize _ (n.toUInt64.toNat : Int) 0 .positive) ?_
        unfold UnpackedFloat.normalize
        split
        case h_1 negative =>
            have := compare_lt_iff_lt.1 negative
            omega
        case h_2 => trivial
        case h_3 => exact notNegative_round _ _ _
      have one : 0 ≤ rank (read Float.exactlyRepresentablePowersOfTen[0]) := by decide
      exact nonneg_mul converted one
  case isFalse =>
      refine (rank_nonneg_iff (unpacked_read _)).2 ?_
      refine notNegative_unpack_pack (f := UnpackedFloat.ofScientific _ n 0) ?_
      have width : Format.binary64.mantissaBits = 53 := by decide
      simp only [UnpackedFloat.ofScientific, width]
      split
      case isTrue => trivial
      case isFalse =>
          rw [if_neg (by norm_num), if_neg (by omega), if_pos le_rfl]
          simp only [UnpackedFloat.mul]
          exact notNegative_round _ _ _

theorem nonneg_ofInt {i : Int} (nonneg : 0 ≤ i) : Nonneg (Float.ofInt i) := by
  obtain ⟨n, rfl⟩ := Int.eq_ofNat_of_zero_le nonneg
  exact nonneg_ofNat n

end InstrumentBench.Theory.Binary64
