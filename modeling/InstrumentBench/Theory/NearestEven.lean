/-
# Theory.NearestEven -- rounding to the nearest integer, halves to the even one

`nearestEven` is monotone (`nearestEven_mono`), keeps integers (`nearestEven_intCast`) and
moves a number by at most a half (`le_nearestEven_add`, `nearestEven_sub_le`).  What reaches
an even integer is what is at most a half below it (`even_le_nearestEven`).
-/
import InstrumentBench.Theory.Numerals
import Mathlib.Algebra.Order.Floor.Ring
import Mathlib.Tactic

namespace InstrumentBench.Theory

set_option autoImplicit false

variable {K : Type} [Field K] [LinearOrder K] [IsStrictOrderedRing K] [FloorRing K]

/-- The nearest integer, of two equally near the even one. -/
def nearestEven (x : K) : ℤ :=
  if x - ⌊x⌋ < 1 / 2 then ⌊x⌋
  else if 1 / 2 < x - ⌊x⌋ then ⌊x⌋ + 1
  else if ⌊x⌋ % 2 = 0 then ⌊x⌋
  else ⌊x⌋ + 1

theorem floor_le_nearestEven (x : K) : ⌊x⌋ ≤ nearestEven x := by
  unfold nearestEven
  split_ifs <;> omega

theorem nearestEven_le_floor (x : K) : nearestEven x ≤ ⌊x⌋ + 1 := by
  unfold nearestEven
  split_ifs <;> omega

theorem nearestEven_intCast (n : ℤ) : nearestEven (n : K) = n := by
  have whole : (n : K) - n < 1 / 2 := by norm_num
  unfold nearestEven
  rw [Int.floor_intCast, if_pos whole]

theorem nearestEven_mono {x y : K} (le : x ≤ y) : nearestEven x ≤ nearestEven y := by
  rcases (Int.floor_mono le).lt_or_eq with apart | same
  · calc nearestEven x ≤ ⌊x⌋ + 1 := nearestEven_le_floor x
      _ ≤ ⌊y⌋ := apart
      _ ≤ nearestEven y := floor_le_nearestEven y
  · have parts : x - ⌊x⌋ ≤ y - ⌊x⌋ := by linarith
    unfold nearestEven
    rw [← same]
    split_ifs <;> first | omega | (exfalso; linarith)

theorem nearestEven_sub_le (x : K) : (nearestEven x : K) - 1 / 2 ≤ x := by
  have low := Int.floor_le x
  unfold nearestEven
  split_ifs <;> push_cast <;> linarith

theorem le_nearestEven_add (x : K) : x ≤ nearestEven x + 1 / 2 := by
  have high := Int.lt_floor_add_one x
  unfold nearestEven
  split_ifs <;> push_cast <;> linarith

/-- **What rounds up to an even integer.** -/
theorem even_le_nearestEven {x : K} {n : ℤ} (even : n % 2 = 0) :
    n ≤ nearestEven x ↔ (n : K) - 1 / 2 ≤ x := by
  constructor
  · intro reached
    have cast : (n : K) ≤ nearestEven x := Int.cast_le.2 reached
    have near := nearestEven_sub_le x
    linarith
  · intro near
    by_contra short
    have below : nearestEven x ≤ n - 1 := by omega
    -- Then `x` is half way from the odd integer below, and halves go to the even one.
    have cast : (nearestEven x : K) ≤ (n : K) - 1 := by
      have := Int.cast_le (R := K).2 below
      push_cast at this
      exact this
    have far := le_nearestEven_add x
    have half : x = (n : K) - 1 / 2 := by linarith
    have floor : ⌊x⌋ = n - 1 := by
      rw [Int.floor_eq_iff, half]
      push_cast
      constructor <;> linarith
    have up : nearestEven x = n := by
      unfold nearestEven
      rw [floor, half]
      push_cast
      rw [if_neg (by linarith), if_neg (by linarith), if_neg (by omega)]
      omega
    omega

end InstrumentBench.Theory
