/-
# Theory.Binary64Order -- the order of the doubles

`Float` compares by its model: sign, exponent and mantissa in turn, and nothing compares
with a NaN.  `rank` puts the numbers into the integers in that order (`compare_eq_rank`), so
that the numbers are linearly preordered by `<` and `≤` (`lt_iff`, `le_iff`).

An operation on finite numbers gives a number, if perhaps an infinite one (`number_sub`,
`number_abs`).
-/
import InstrumentBench.Theory.Binary64
import Mathlib

namespace InstrumentBench.Theory.Binary64

set_option autoImplicit false

open Float.Model
open Float.Model.UnpackedFloat

/-! ## Reading a float -/

/-- Sign, mantissa and exponent of a float. -/
def read (x : Float) : UnpackedFloat := x.toModel.unpack

/-- Not a NaN. -/
def IsNumber (x : Float) : Prop := read x ≠ .notANumber

/-- What unpacking gives: the specials, and canonical mantissas and exponents. -/
def Unpacked : UnpackedFloat → Prop
  | .finite _ m e _ => Canonical m e
  | _ => True

theorem unpacked_read (x : Float) : Unpacked (read x) := by
  unfold read Float.Model.unpack
  cases found : UnpackedFloat.unpack Format.binary64 x.toModel.toBits.toBitVec with
  | finite s m e h => exact unpack_canonical found
  | _ => trivial

/-! ## Rank -/

/-- Where a number stands among the others. -/
def rank : UnpackedFloat → Int
  | .infinity s => s.apply (2 ^ 70)
  | .notANumber => 0
  | .zero _ => 0
  | .finite s m e _ => s.apply ((e + 1075) * 2 ^ 53 + m)

theorem rank_finite_pos {m : Nat} {e : Int} (good : Canonical m e) :
    0 < (e + 1075) * 2 ^ 53 + (m : Int) ∧ (e + 1075) * 2 ^ 53 + (m : Int) < 2 ^ 70 := by
  have low := good.low
  have high := good.high
  have small := good.mantissa
  have positive := good.positive
  constructor <;> omega

theorem compare_int {a b : Int} :
    compare a b = if a < b then .lt else if a = b then .eq else .gt := rfl

theorem compare_less {a b : Int} (less : a < b) : compare a b = .lt := by
  rw [compare_int, if_pos less]

theorem compare_more {a b : Int} (more : b < a) : compare a b = .gt := by
  rw [compare_int, if_neg (by omega), if_neg (by omega)]

theorem compare_same (a : Int) : compare a a = .eq := by
  rw [compare_int, if_neg (lt_irrefl a), if_pos rfl]

theorem compare_neg (a b : Int) : compare (-a) (-b) = (compare a b).swap := by
  rcases lt_trichotomy a b with less | rfl | more
  · rw [compare_less less, compare_more (by omega)]
    rfl
  · rw [compare_same, compare_same]
    rfl
  · rw [compare_more more, compare_less (by omega)]
    rfl

theorem compare_nat (m n : Nat) : compare m n = compare (m : Int) (n : Int) := by
  show (if m < n then Ordering.lt else if m = n then .eq else .gt) =
    if (m : Int) < n then .lt else if (m : Int) = n then .eq else .gt
  simp only [Nat.cast_lt, Nat.cast_inj]

/-- Exponents first, then mantissas. -/
theorem compare_finite {m n : Nat} {e f : Int} (good : Canonical m e) (good' : Canonical n f) :
    (compare e f).then (compare m n) =
      compare ((e + 1075) * 2 ^ 53 + (m : Int)) ((f + 1075) * 2 ^ 53 + (n : Int)) := by
  have small := good.mantissa
  have small' := good'.mantissa
  rw [compare_nat]
  rcases lt_trichotomy e f with less | rfl | more
  · have here : (e + 1075) * 2 ^ 53 + (m : Int) < (f + 1075) * 2 ^ 53 + (n : Int) := by omega
    rw [compare_less less, compare_less here]
    rfl
  · rw [compare_same]
    show compare (m : Int) (n : Int) = _
    rcases lt_trichotomy (m : Int) n with less | same | more
    · rw [compare_less less, compare_less (by omega)]
    · rw [same, compare_same, compare_same]
    · rw [compare_more more, compare_more (by omega)]
  · have here : (f + 1075) * 2 ^ 53 + (n : Int) < (e + 1075) * 2 ^ 53 + (m : Int) := by omega
    rw [compare_more more, compare_more here]
    rfl

/-- **Numbers compare by rank.** -/
theorem compare_eq_rank {x y : UnpackedFloat} (good : Unpacked x) (good' : Unpacked y)
    (number : x ≠ .notANumber) (number' : y ≠ .notANumber) :
    x.compare y = some (compare (rank x) (rank y)) := by
  cases x with
  | notANumber => exact absurd rfl number
  | infinity s =>
      cases y with
      | notANumber => exact absurd rfl number'
      | infinity t => cases s <;> cases t <;> rfl
      | zero t => cases s <;> rfl
      | finite t n f h =>
          obtain ⟨pos, bound⟩ := rank_finite_pos good'
          cases s <;> cases t <;> simp only [UnpackedFloat.compare, rank, Sign.apply] <;>
            first
            | rw [compare_less (by omega)]
            | rw [compare_more (by omega)]
  | zero s =>
      cases y with
      | notANumber => exact absurd rfl number'
      | infinity t => cases t <;> rfl
      | zero t => rfl
      | finite t n f h =>
          obtain ⟨pos, bound⟩ := rank_finite_pos good'
          cases t <;> simp only [UnpackedFloat.compare, rank, Sign.apply] <;>
            first
            | rw [compare_less (by omega)]
            | rw [compare_more (by omega)]
  | finite s m e h =>
      obtain ⟨pos, bound⟩ := rank_finite_pos good
      cases y with
      | notANumber => exact absurd rfl number'
      | infinity t =>
          cases s <;> cases t <;> simp only [UnpackedFloat.compare, rank, Sign.apply] <;>
            first
            | rw [compare_less (by omega)]
            | rw [compare_more (by omega)]
      | zero t =>
          cases s <;> simp only [UnpackedFloat.compare, rank, Sign.apply] <;>
            first
            | rw [compare_less (by omega)]
            | rw [compare_more (by omega)]
      | finite t n f h' =>
          obtain ⟨pos', bound'⟩ := rank_finite_pos good'
          cases s with
          | negative =>
              cases t with
              | negative =>
                  simp only [UnpackedFloat.compare, rank, Sign.apply]
                  rw [compare_finite good good', compare_neg]
              | positive =>
                  simp only [UnpackedFloat.compare, rank, Sign.apply]
                  rw [compare_less (by omega)]
          | positive =>
              cases t with
              | negative =>
                  simp only [UnpackedFloat.compare, rank, Sign.apply]
                  rw [compare_more (by omega)]
              | positive =>
                  simp only [UnpackedFloat.compare, rank, Sign.apply]
                  rw [compare_finite good good']

variable {x y z : Float}

theorem lt_iff (number : IsNumber x) (number' : IsNumber y) :
    x < y ↔ rank (read x) < rank (read y) := by
  have compared := compare_eq_rank (unpacked_read x) (unpacked_read y) number number'
  show (decide ((read x).lt (read y) = true)) = true ↔ _
  rw [decide_eq_true_iff]
  unfold UnpackedFloat.lt
  rw [compared, compare_int]
  split
  case isTrue less => simpa using less
  case isFalse less =>
      refine iff_of_false ?_ less
      split <;> decide

theorem le_iff (number : IsNumber x) (number' : IsNumber y) :
    x ≤ y ↔ rank (read x) ≤ rank (read y) := by
  have compared := compare_eq_rank (unpacked_read x) (unpacked_read y) number number'
  show (decide ((read x).le (read y) = true)) = true ↔ _
  rw [decide_eq_true_iff]
  unfold UnpackedFloat.le
  rw [compared, compare_int]
  split
  case isTrue less => simpa using less.le
  case isFalse less =>
      split
      case isTrue same => simpa using same.le
      case isFalse other =>
          refine iff_of_false (by decide) ?_
          omega

/-- **What is not more is at most.** -/
theorem le_of_not_lt (number : IsNumber x) (number' : IsNumber y) (not : ¬y < x) : x ≤ y := by
  rw [lt_iff number' number, not_lt] at not
  exact (le_iff number number').2 not

/-! ## Operations that give numbers -/

theorem unpackSign_packComponents (s : Sign) (e : BitVec 11) (m : BitVec 52) :
    Sign.ofBitVec (unpackSign (packComponents Format.binary64 s e m)) = s := by
  delta unpackSign
  simp only [packComponents, BitVec.extractLsb]
  rw [BitVec.extractLsb'_append_eq_of_le (by omega), BitVec.extractLsb'_append_eq_of_le (by omega)]
  cases s <;> rfl

/-- What packed fields are read as, where the exponent is not the last one. -/
theorem unpack_components {s : Sign} {e : BitVec 11} {m : BitVec 52} (below : e ≠ -1#11) :
    UnpackedFloat.unpack Format.binary64 (packComponents Format.binary64 s e m) = .zero s ∨
      ∃ m' e' h, UnpackedFloat.unpack Format.binary64 (packComponents Format.binary64 s e m) =
        .finite s m' e' h ∧ e' = max ((e.toNat : Int) - 1075) (-1074) := by
  have sign := unpackSign_packComponents s e m
  have exponent : unpackExponent (packComponents Format.binary64 s e m) = e :=
    unpackExponent_packComponents
  have found := unpack_below (b := packComponents Format.binary64 s e m) (by rwa [exponent])
  rwa [sign, exponent] at found

/-- **What a finite number is packed as**: itself up to rounding off, unless its exponent
overflows. -/
theorem unpack_pack_finite (s : Sign) (m : Nat) (e : Int) (h : 0 < m) :
    (UnpackedFloat.unpack Format.binary64 (UnpackedFloat.pack Format.binary64 (.finite s m e h)) =
        .infinity s ∧ 971 < e) ∨
      UnpackedFloat.unpack Format.binary64 (UnpackedFloat.pack Format.binary64 (.finite s m e h)) =
        .zero s ∨
      ∃ m' e' h', UnpackedFloat.unpack Format.binary64
        (UnpackedFloat.pack Format.binary64 (.finite s m e h)) = .finite s m' e' h' ∧
          e' ≤ max e (-1074) := by
  have bias : ((Format.binary64.exponentBias : Nat) : Int) = 1023 := rfl
  have bits : Format.binary64.exponentBits = 11 := rfl
  have mantissa : ((Format.binary64.mantissaBitsWithoutImplicit : Nat) : Int) = 52 := rfl
  delta UnpackedFloat.pack
  simp only [bias, mantissa]
  split
  case isTrue beyond =>
      refine Or.inl ⟨?_, by omega⟩
      cases s <;> rfl
  case isFalse fits =>
      right
      split
      case isTrue =>
          have small : (e + 1023 + 52).toNat < 2 ^ 11 - 1 := by omega
          have value : (BitVec.ofNat 11 (e + 1023 + 52).toNat).toNat = (e + 1023 + 52).toNat := by
            rw [BitVec.toNat_ofNat, Nat.mod_eq_of_lt (by omega)]
          have below : BitVec.ofNat 11 (e + 1023 + 52).toNat ≠ -1#11 := by
            intro last
            have := congrArg BitVec.toNat last
            rw [value] at this
            have ones : (-1#11).toNat = 2 ^ 11 - 1 := rfl
            omega
          refine (unpack_components below).imp_right ?_
          rintro ⟨m', e', h', found, rfl⟩
          refine ⟨m', _, h', found, ?_⟩
          rw [value]
          omega
      case isFalse =>
          refine (unpack_components (by decide)).imp_right ?_
          rintro ⟨m', e', h', found, rfl⟩
          refine ⟨m', _, h', found, ?_⟩
          exact max_le (le_max_of_le_right (by decide)) (le_max_right _ _)

theorem unpack_pack_ne_nan {f : UnpackedFloat} (number : f ≠ .notANumber) :
    UnpackedFloat.unpack Format.binary64 (UnpackedFloat.pack Format.binary64 f) ≠ .notANumber := by
  cases f with
  | notANumber => exact absurd rfl number
  | infinity s =>
      have back : UnpackedFloat.unpack Format.binary64
          (UnpackedFloat.pack Format.binary64 (.infinity s)) = .infinity s := by cases s <;> rfl
      rw [back]
      nofun
  | zero s =>
      have back : UnpackedFloat.unpack Format.binary64
          (UnpackedFloat.pack Format.binary64 (.zero s)) = .zero s := by cases s <;> rfl
      rw [back]
      nofun
  | finite s m e h =>
      rcases unpack_pack_finite s m e h with ⟨found, -⟩ | found | ⟨m', e', h', found, -⟩
      all_goals
        rw [found]
        nofun

theorem round_ne_nan (s : Sign) (m : Nat) (e : Int) (accuracy : Accuracy) :
    roundWithAccuracy Format.binary64 s m e accuracy ≠ .notANumber := by
  simp only [roundWithAccuracy]
  split
  · intro same
    cases same
  · intro same
    cases same

theorem normalize_ne_nan (m e : Int) (s : Sign) :
    UnpackedFloat.normalize Format.binary64 m e s ≠ .notANumber := by
  unfold UnpackedFloat.normalize
  split
  · exact round_ne_nan _ _ _ _
  · nofun
  · exact round_ne_nan _ _ _ _

/-- A finite float is a zero or has a mantissa and an exponent. -/
theorem isFinite_iff : x.isFinite = true ↔
    (∃ s, read x = .zero s) ∨ ∃ s m e h, read x = .finite s m e h := by
  show (read x).isFinite = true ↔ _
  cases read x with
  | finite s m e h => exact iff_of_true rfl (Or.inr ⟨s, m, e, h, rfl⟩)
  | zero s => exact iff_of_true rfl (Or.inl ⟨s, rfl⟩)
  | _ => simp [UnpackedFloat.isFinite]

theorem number_of_finite (finite : x.isFinite = true) : IsNumber x := by
  rcases isFinite_iff.1 finite with ⟨s, found⟩ | ⟨s, m, e, h, found⟩
  all_goals
    unfold IsNumber
    rw [found]
    nofun

/-- **The difference of two finite numbers is a number.** -/
theorem number_sub (finite : x.isFinite = true) (finite' : y.isFinite = true) :
    IsNumber (x - y) := by
  show UnpackedFloat.unpack _ (UnpackedFloat.pack _ (UnpackedFloat.sub _ (read x) (read y))) ≠ _
  apply unpack_pack_ne_nan
  rcases isFinite_iff.1 finite with ⟨s, found⟩ | ⟨s, m, e, h, found⟩ <;>
    rcases isFinite_iff.1 finite' with ⟨t, found'⟩ | ⟨t, n, f, h', found'⟩ <;>
      rw [found, found'] <;> simp only [UnpackedFloat.sub]
  · split <;> intro same <;> cases same
  · intro same
    cases same
  · intro same
    cases same
  · exact normalize_ne_nan _ _ _

theorem number_abs (number : IsNumber x) : IsNumber x.abs := by
  show UnpackedFloat.unpack _ (UnpackedFloat.pack _ (read x).abs) ≠ _
  apply unpack_pack_ne_nan
  unfold IsNumber at number
  cases found : read x with
  | notANumber => exact absurd found number
  | _ => nofun

end InstrumentBench.Theory.Binary64
