/-
# Theory.Separated -- values thinned out to a tolerance

A sorted list is thinned out by keeping a value where it is farther than a tolerance
from the one kept last.  `kept` are the values that stay and `lost` those that go:
together they are the list (`countP_kept_add_lost`), and what is kept depends on which
values occur and not on how often (`kept_congr`).
-/
import Mathlib.Algebra.Order.Group.Abs
import Mathlib.Data.List.Dedup
import Mathlib.Data.List.Sort

namespace InstrumentBench.Theory.Separated

set_option autoImplicit false

variable {K : Type} [AddCommGroup K] [LinearOrder K] [IsOrderedAddMonoid K] (tolerance : K)

/-- The value is within the tolerance of the one kept last. -/
def Near : Option K → K → Prop
  | none, _ => False
  | some last, value => |value - last| ≤ tolerance

instance (last : Option K) (value : K) : Decidable (Near tolerance last value) := by
  cases last with
  | none => exact instDecidableFalse
  | some last => exact inferInstanceAs (Decidable (|value - last| ≤ tolerance))

def keptFrom : Option K → List K → List K
  | _, [] => []
  | last, value :: rest =>
      if Near tolerance last value then keptFrom last rest else value :: keptFrom (some value) rest

def lostFrom : Option K → List K → List K
  | _, [] => []
  | last, value :: rest =>
      if Near tolerance last value then value :: lostFrom last rest else lostFrom (some value) rest

def kept (values : List K) : List K := keptFrom tolerance none values

def lost (values : List K) : List K := lostFrom tolerance none values

variable {tolerance}

theorem countP_keptFrom_add_lostFrom (p : K → Bool) (last : Option K) (values : List K) :
    (keptFrom tolerance last values).countP p + (lostFrom tolerance last values).countP p =
      values.countP p := by
  induction values generalizing last with
  | nil => rfl
  | cons value rest ih =>
      rw [keptFrom, lostFrom]
      split
      · have := ih last
        simp only [List.countP_cons]
        omega
      · have := ih (some value)
        simp only [List.countP_cons]
        omega

/-- Every value is kept or lost. -/
theorem countP_kept_add_lost (p : K → Bool) (values : List K) :
    (kept tolerance values).countP p + (lost tolerance values).countP p = values.countP p :=
  countP_keptFrom_add_lostFrom p none values

theorem keptFrom_subset (last : Option K) (values : List K) :
    ∀ value ∈ keptFrom tolerance last values, value ∈ values := by
  induction values generalizing last with
  | nil => exact fun _ h => h
  | cons first rest ih =>
      intro value listed
      rw [keptFrom] at listed
      split at listed
      · exact List.mem_cons_of_mem _ (ih last value listed)
      · rcases List.mem_cons.1 listed with rfl | later
        · exact List.mem_cons_self
        · exact List.mem_cons_of_mem _ (ih _ value later)

/-- A value twice is a value once. -/
theorem keptFrom_twice (nonneg : 0 ≤ tolerance) (last : Option K) (value : K) (rest : List K) :
    keptFrom tolerance last (value :: value :: rest) =
      keptFrom tolerance last (value :: rest) := by
  have same : Near tolerance (some value) value := by
    simpa [Near] using nonneg
  by_cases near : Near tolerance last value
  · simp only [keptFrom, if_pos near]
  · simp only [keptFrom, if_neg near, if_pos same]

theorem keptFrom_dedup (nonneg : 0 ≤ tolerance) (last : Option K) {values : List K}
    (sorted : values.Pairwise (· ≤ ·)) :
    keptFrom tolerance last values.dedup = keptFrom tolerance last values := by
  induction values generalizing last with
  | nil => rfl
  | cons value rest ih =>
      rw [List.pairwise_cons] at sorted
      by_cases again : value ∈ rest
      · rw [List.dedup_cons_of_mem again, ih last sorted.2]
        -- The next value is the same one, being between it and its copy.
        cases rest with
        | nil => cases again
        | cons next rest =>
            have same : next = value := by
              apply le_antisymm _ (sorted.1 next List.mem_cons_self)
              rcases List.mem_cons.1 again with rfl | later
              · exact le_rfl
              · exact (List.pairwise_cons.1 sorted.2).1 value later
            rw [same, keptFrom_twice nonneg]
      · rw [List.dedup_cons_of_notMem again]
        simp only [keptFrom]
        rw [ih last sorted.2, ih (some value) sorted.2]

/-- **What is kept depends on which values occur.** -/
theorem kept_congr (nonneg : 0 ≤ tolerance) {xs ys : List K} (sorted : xs.Pairwise (· ≤ ·))
    (sorted' : ys.Pairwise (· ≤ ·)) (same : ∀ x, x ∈ xs ↔ x ∈ ys) :
    kept tolerance xs = kept tolerance ys := by
  have perm : xs.dedup.Perm ys.dedup := by
    rw [List.perm_ext_iff_of_nodup (List.nodup_dedup xs) (List.nodup_dedup ys)]
    simpa using same
  have one : xs.dedup = ys.dedup :=
    perm.eq_of_pairwise (fun a b _ _ => le_antisymm) (sorted.sublist (List.dedup_sublist xs))
      (sorted'.sublist (List.dedup_sublist ys))
  rw [kept, kept, ← keptFrom_dedup nonneg none sorted, ← keptFrom_dedup nonneg none sorted', one]

/-- Nothing is lost of values that are farther apart. -/
theorem lost_eq_nil {values : List K} (apart : values.Pairwise fun a b => tolerance < b - a) :
    lost tolerance values = [] := by
  suffices from_last : ∀ last : Option K, (∀ w ∈ last, ∀ v ∈ values, tolerance < v - w) →
      lostFrom tolerance last values = [] from from_last none nofun
  induction values with
  | nil => exact fun _ _ => rfl
  | cons value rest ih =>
      intro last far
      rw [List.pairwise_cons] at apart
      have alone : ¬Near tolerance last value := by
        cases last with
        | none => exact id
        | some w => exact not_le.2 ((far w rfl value List.mem_cons_self).trans_le (le_abs_self _))
      rw [lostFrom, if_neg alone]
      refine ih apart.2 (some value) ?_
      rintro w same v listed
      cases same
      exact apart.1 v listed

end InstrumentBench.Theory.Separated
