/-
# Theory.BigEndian -- unsigned integers in a fixed number of bytes, the highest first

`ofBigEndian` reads what `bigEndian` wrote wherever the integer fits
(`ofBigEndian_bigEndian`).
-/
import InstrumentBench.Theory.Text
import Mathlib.Tactic

namespace InstrumentBench.Theory

set_option autoImplicit false

/-- The lowest `width` bytes of an integer, the highest of them first. -/
def bigEndian : Nat → Nat → Bytes
  | 0, _ => []
  | width + 1, n => bigEndian width (n / 256) ++ [UInt8.ofNat n]

/-- The integer in some bytes. -/
def ofBigEndian (b : Bytes) : Nat := b.foldl (fun n byte => n * 256 + byte.toNat) 0

@[simp] theorem bigEndian_length (width n : Nat) : (bigEndian width n).length = width := by
  induction width generalizing n with
  | zero => rfl
  | succ width ih => simp [bigEndian, ih]

/-- **What is written is read back.** -/
theorem ofBigEndian_bigEndian {width n : Nat} (fits : n < 256 ^ width) :
    ofBigEndian (bigEndian width n) = n := by
  induction width generalizing n with
  | zero =>
      have zero : n = 0 := by simpa using fits
      rw [zero]
      rfl
  | succ width ih =>
      have high : n / 256 < 256 ^ width := by
        rw [pow_succ] at fits
        omega
      have upper : List.foldl (fun n byte => n * 256 + byte.toNat) 0 (bigEndian width (n / 256)) =
          n / 256 := ih high
      rw [ofBigEndian, bigEndian, List.foldl_append, upper]
      simp only [List.foldl_cons, List.foldl_nil, UInt8.toNat_ofNat']
      omega

end InstrumentBench.Theory
