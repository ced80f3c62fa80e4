/-
# Geometry.Extremes -- the least and the greatest of numbers that are ordered

Python's `min` and `max` keep the first of what compares alike, which a linear order cannot
tell (`pyMin_eq`, `pyMax_eq`).  The least of a list is one of it and below each
(`least_mem`, `least_le_of_mem`); the least of a vector is above what all its
coordinates are above (`lt_leastOf_iff`).
-/
import InstrumentBench.Geometry.Metrics
import Mathlib.Order.Lattice
import Mathlib.Tactic.FinCases

namespace InstrumentBench.Geometry

set_option autoImplicit false

section

variable {K : Type} [LinearOrder K]

theorem pyMin_eq (a b : K) : pyMin a b = min a b := by
  unfold pyMin
  split
  case isTrue less => rw [min_eq_right less.le]
  case isFalse less => rw [min_eq_left (not_lt.1 less)]

theorem pyMax_eq (a b : K) : pyMax a b = max a b := by
  unfold pyMax
  split
  case isTrue less => rw [max_eq_right less.le]
  case isFalse less => rw [max_eq_left (not_lt.1 less)]

/-! ## Lists -/

theorem least_le (first : K) (rest : List K) : least first rest ≤ first := by
  induction rest generalizing first with
  | nil => exact le_rfl
  | cons value rest ih =>
      refine (ih (pyMin first value)).trans ?_
      rw [pyMin_eq]
      exact min_le_left _ _

theorem le_greatest (first : K) (rest : List K) : first ≤ greatest first rest := by
  induction rest generalizing first with
  | nil => exact le_rfl
  | cons value rest ih =>
      refine le_trans ?_ (ih (pyMax first value))
      rw [pyMax_eq]
      exact le_max_left _ _

theorem least_mem (first : K) (rest : List K) : least first rest ∈ first :: rest := by
  induction rest generalizing first with
  | nil => exact List.mem_singleton_self _
  | cons value rest ih =>
      rcases List.mem_cons.1 (ih (pyMin first value)) with same | later
      · show least (pyMin first value) rest ∈ _
        rw [same, pyMin_eq]
        rcases min_choice first value with first' | value'
        · rw [first']
          exact List.mem_cons_self
        · rw [value']
          exact List.mem_cons_of_mem _ List.mem_cons_self
      · exact List.mem_cons_of_mem _ (List.mem_cons_of_mem _ later)

theorem least_le_of_mem {first : K} {rest : List K} {value : K} (listed : value ∈ first :: rest) :
    least first rest ≤ value := by
  induction rest generalizing first with
  | nil => exact (List.mem_singleton.1 listed).ge
  | cons next rest ih =>
      show least (pyMin first next) rest ≤ value
      rcases List.mem_cons.1 listed with rfl | later
      · refine (least_le _ _).trans ?_
        rw [pyMin_eq]
        exact min_le_left _ _
      rcases List.mem_cons.1 later with rfl | last
      · refine (least_le _ _).trans ?_
        rw [pyMin_eq]
        exact min_le_right _ _
      · exact ih (List.mem_cons_of_mem _ last)

/-! ## Vectors -/

theorem leastOf_eq (v : Vec K) : leastOf v = min (min (v 0) (v 1)) (v 2) := by
  show pyMin (pyMin (v 0) (v 1)) (v 2) = _
  rw [pyMin_eq, pyMin_eq]

theorem leastOf_le (v : Vec K) (axis : Fin 3) : leastOf v ≤ v axis := by
  rw [leastOf_eq]
  fin_cases axis
  · exact (min_le_left _ _).trans (min_le_left _ _)
  · exact (min_le_left _ _).trans (min_le_right _ _)
  · exact min_le_right _ _

theorem lt_leastOf_iff {bound : K} (v : Vec K) : bound < leastOf v ↔ ∀ axis, bound < v axis := by
  constructor
  · intro below axis
    exact below.trans_le (leastOf_le v axis)
  · intro below
    rw [leastOf_eq]
    exact lt_min (lt_min (below 0) (below 1)) (below 2)

end

end InstrumentBench.Geometry
