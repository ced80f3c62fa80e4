/-
# Theory.Numerals -- the facts that numerals rest on

A literal of `Fin n` needs `n` to be nonzero, and one of an ordered field needs it to be at
least two.  The sizes and bases that the programs use are named here once.
-/
import Mathlib.Data.Nat.Cast.Defs

namespace InstrumentBench.Theory

set_option autoImplicit false

/-- The three axes and the three corners of a triangle. -/
instance neZero_axes : @NeZero Nat Zero.ofOfNat0 3 := ⟨by decide⟩

/-- The decimal digits. -/
instance neZero_digits : @NeZero Nat Zero.ofOfNat0 10 := ⟨by decide⟩

/-- The code points of Unicode. -/
instance neZero_codePoints : @NeZero Nat Zero.ofOfNat0 0x110000 := ⟨by decide⟩

instance atLeastTwo_two : Nat.AtLeastTwo 2 := ⟨by decide⟩

instance atLeastTwo_ten : Nat.AtLeastTwo 10 := ⟨by decide⟩

end InstrumentBench.Theory
