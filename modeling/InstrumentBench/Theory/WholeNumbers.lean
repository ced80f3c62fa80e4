/-
# Theory.WholeNumbers -- the naturals a double holds exactly

* `eq_of_beq_ofNat`: a double equal to two naturals below `2 ^ 53` makes them one natural.
-/
import Mathlib
import InstrumentBench.Theory.Binary64Bounds

namespace InstrumentBench.Theory.Binary64

set_option autoImplicit false

open Float.Model Float.Model.UnpackedFloat

/-- The mantissa of a natural below `2 ^ 53`, its first bit in place. -/
theorem canonical_whole {n : Nat} (positive : 0 < n) (small : n < 2 ^ 53) :
    Canonical (n * 2 ^ (52 - n.log2)) (-((52 - n.log2 : Nat) : Int)) := by
  have bits : n.log2 ≤ 52 := log2_le_of_lt small
  have first : 2 ^ n.log2 ≤ n := Nat.log2_self_le positive.ne'
  have last : n < 2 ^ (n.log2 + 1) := Nat.lt_log2_self
  have low : 2 ^ 52 ≤ n * 2 ^ (52 - n.log2) :=
    calc 2 ^ 52 = 2 ^ n.log2 * 2 ^ (52 - n.log2) := by rw [← pow_add]; congr 1; omega
      _ ≤ n * 2 ^ (52 - n.log2) := Nat.mul_le_mul_right _ first
  have high : n * 2 ^ (52 - n.log2) < 2 ^ 53 :=
    calc n * 2 ^ (52 - n.log2) < 2 ^ (n.log2 + 1) * 2 ^ (52 - n.log2) :=
          Nat.mul_lt_mul_of_pos_right last (by positivity)
      _ = 2 ^ 53 := by rw [← pow_add]; congr 1; omega
  exact
    { positive := by omega
      mantissa := high
      low := by omega
      high := by omega
      normal := Or.inl low }

theorem round_whole {n : Nat} (positive : 0 < n) (small : n < 2 ^ 53) :
    UnpackedFloat.round Format.binary64 .positive n 0 =
      .finite .positive (n * 2 ^ (52 - n.log2)) (-((52 - n.log2 : Nat) : Int))
        (canonical_whole positive small).positive := by
  have good := canonical_whole positive small
  have total : totalExponent n 0 =
      totalExponent (n * 2 ^ (52 - n.log2)) (-((52 - n.log2 : Nat) : Int)) := by
    simp only [totalExponent, log2_mul_two_pow positive]
    omega
  have amount : (0 - -((52 - n.log2 : Nat) : Int)).toNat = 52 - n.log2 := by omega
  simp only [UnpackedFloat.round, decreaseExponent, total, good.targetExponent, amount,
    Nat.shiftLeft_eq]
  have exact := roundWithAccuracy_exact .positive good 0
  simpa using exact

theorem read_whole {n : Nat} (positive : 0 < n) (small : n < 2 ^ 53) :
    read (Float.ofNat n) =
      .finite .positive (n * 2 ^ (52 - n.log2)) (-((52 - n.log2 : Nat) : Int))
        (canonical_whole positive small).positive := by
  have good := canonical_whole positive small
  have word : n.toUInt64.toNat = n := by
    simp only [Nat.toUInt64, UInt64.toNat_ofNat']
    omega
  have normal : UnpackedFloat.normalize Format.binary64 (n.toUInt64.toNat : Int) 0 .positive =
      .finite .positive (n * 2 ^ (52 - n.log2)) (-((52 - n.log2 : Nat) : Int)) good.positive := by
    rw [word]
    have more : compare (n : Int) 0 = .gt := compare_gt_iff_gt.2 (by omega)
    unfold UnpackedFloat.normalize
    rw [more]
    exact round_whole positive small
  have converted : read n.toUInt64.toFloat =
      .finite .positive (n * 2 ^ (52 - n.log2)) (-((52 - n.log2 : Nat) : Int)) good.positive := by
    show UnpackedFloat.unpack Format.binary64 (UnpackedFloat.pack Format.binary64
      (UnpackedFloat.normalize Format.binary64 (n.toUInt64.toNat : Int) 0 .positive)) = _
    rw [normal]
    exact unpack_pack good
  have one : read Float.exactlyRepresentablePowersOfTen[0] =
      .finite .positive (2 ^ 52) (-52) (by decide) := by rfl
  have product := roundWithAccuracy_exact .positive good 52
  show read (Float.ofScientific n false 0) = _
  unfold Float.ofScientific
  rw [dif_pos ⟨small, by omega⟩]
  show UnpackedFloat.unpack Format.binary64 (UnpackedFloat.pack Format.binary64
    (UnpackedFloat.mul Format.binary64 (read n.toUInt64.toFloat)
      (read Float.exactlyRepresentablePowersOfTen[0]))) = _
  rw [converted, one, mul_finite]
  have same : -((52 - n.log2 : Nat) : Int) + -52 = -((52 - n.log2 : Nat) : Int) - (52 : Nat) := by
    omega
  rw [same, product]
  exact unpack_pack good

theorem rank_of_beq {x y : Float} (equal : (x == y) = true) (number : IsNumber y) :
    rank (read x) = rank (read y) := by
  have compared : (read x).beq (read y) = true := equal
  unfold UnpackedFloat.beq at compared
  by_cases other : IsNumber x
  · rw [compare_eq_rank (unpacked_read x) (unpacked_read y) other number, compare_int] at compared
    split at compared
    · cases compared
    · split at compared
      · assumption
      · cases compared
  · have nan : read x = .notANumber := not_not.1 other
    rw [nan] at compared
    cases compared

/-- **A double equal to two naturals below `2 ^ 53` makes them one natural.** -/
theorem eq_of_beq_ofNat {x : Float} {n m : Nat} (positive : 0 < n) (positive' : 0 < m)
    (small : n < 2 ^ 53) (small' : m < 2 ^ 53) (equal : (x == Float.ofNat n) = true)
    (equal' : (x == Float.ofNat m) = true) : n = m := by
  have good := canonical_whole positive small
  have good' := canonical_whole positive' small'
  have number : ∀ {n : Nat}, 0 < n → n < 2 ^ 53 → IsNumber (Float.ofNat n) := by
    intro n positive small nan
    rw [read_whole positive small] at nan
    cases nan
  have ranks := (rank_of_beq equal (number positive small)).symm.trans
    (rank_of_beq equal' (number positive' small'))
  rw [read_whole positive small, read_whole positive' small'] at ranks
  simp only [rank, Sign.apply] at ranks
  have mantissa := good.mantissa
  have mantissa' := good'.mantissa
  have shift : 52 - n.log2 = 52 - m.log2 := by omega
  rw [shift] at ranks
  have scaled : n * 2 ^ (52 - m.log2) = m * 2 ^ (52 - m.log2) := by omega
  exact Nat.eq_of_mul_eq_mul_right (by positivity) scaled

end InstrumentBench.Theory.Binary64
