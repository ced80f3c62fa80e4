/-
# Theory.ShellSearch -- the least cost, searched shell by shell

Candidates lie in shells, and a bound says how little anything past a shell can
cost.  `search` scans one shell after the other and stops as soon as the best cost
so far is within the bound.  `search_isLeast`: where every target lies in a shell that
is scanned and the bound holds of every target past its shell, what is found is the
least cost of all targets.
-/
import Mathlib.Order.Bounds.Basic
import Mathlib.Data.List.Basic
import Mathlib.Order.MinMax

namespace InstrumentBench.Theory.ShellSearch

set_option autoImplicit false

variable {α K : Type} [LinearOrder K]

/-- The smaller of the best cost so far and another; `none` is infinity. -/
def improve (best : Option K) (cost : K) : Option K :=
  match best with
  | none => some cost
  | some least => some (min least cost)

/-- The best cost after more candidates. -/
def scan (cost : α → K) (best : Option K) (candidates : List α) : Option K :=
  candidates.foldl (fun best candidate => improve best (cost candidate)) best

variable (cost : α → K) (shells : Nat → List α) (within : Nat → K → Prop)
  [∀ shell least, Decidable (within shell least)]

/-- Scan the shells from `shell` on, `fuel` of them, until the best cost is within the
bound of the shell scanned last. -/
def search : Nat → Nat → Option K → Option K
  | 0, _, best => best
  | fuel + 1, shell, best =>
      match scan cost best (shells shell) with
      | none => search fuel (shell + 1) none
      | some least =>
          if within shell least then some least else search fuel (shell + 1) (some least)

/-- What the search knows: every target in the set costs at least the best so far, which
is the cost of a target. -/
structure Knows (targets : Set α) (seen : Set α) (best : Option K) : Prop where
  lower : ∀ a ∈ seen, ∃ least, best = some least ∧ least ≤ cost a
  attained : ∀ least, best = some least → ∃ a ∈ targets, cost a = least

variable {cost} {targets seen : Set α} {best : Option K}

theorem Knows.improve (knows : Knows cost targets seen best) {a : α} (target : a ∈ targets) :
    Knows cost targets (insert a seen) (improve best (cost a)) where
  lower := by
    rintro b (rfl | inside)
    · cases best with
      | none => exact ⟨_, rfl, le_rfl⟩
      | some least => exact ⟨_, rfl, min_le_right _ _⟩
    · obtain ⟨least, rfl, le⟩ := knows.lower b inside
      exact ⟨_, rfl, (min_le_left _ _).trans le⟩
  attained := by
    intro least same
    cases best with
    | none =>
        cases same
        exact ⟨a, target, rfl⟩
    | some before =>
        cases same
        rcases min_choice before (cost a) with old | new
        · rw [old]
          exact knows.attained before rfl
        · exact ⟨a, target, new.symm⟩

theorem Knows.scan (knows : Knows cost targets seen best) {candidates : List α}
    (all : ∀ a ∈ candidates, a ∈ targets) :
    Knows cost targets (seen ∪ {a | a ∈ candidates}) (scan cost best candidates) := by
  induction candidates generalizing seen best with
  | nil => simpa [ShellSearch.scan] using knows
  | cons a rest ih =>
      rw [List.forall_mem_cons] at all
      have next := ih (knows.improve all.1) all.2
      have sets : insert a seen ∪ {b | b ∈ rest} = seen ∪ {b | b ∈ a :: rest} := by
        ext b
        simp only [Set.mem_union, Set.mem_insert_iff, Set.mem_ofPred_eq, List.mem_cons]
        tauto
      rw [← sets]
      exact next

/-- What is known of all targets is the least cost. -/
theorem Knows.isLeast (knows : Knows cost targets targets best) (some_target : targets.Nonempty) :
    ∃ least, best = some least ∧ IsLeast (cost '' targets) least := by
  obtain ⟨a, inside⟩ := some_target
  obtain ⟨least, rfl, -⟩ := knows.lower a inside
  obtain ⟨b, target, same⟩ := knows.attained least rfl
  refine ⟨least, rfl, ⟨b, target, same⟩, ?_⟩
  rintro _ ⟨c, target', rfl⟩
  obtain ⟨least', same', le⟩ := knows.lower c target'
  cases same'
  exact le

variable {shells within} {shellOf : α → Nat}

/-- The search from a shell on, where all targets before it are known. -/
theorem Knows.search
    (listed : ∀ a ∈ targets, a ∈ shells (shellOf a))
    (sound : ∀ shell, ∀ a ∈ shells shell, a ∈ targets)
    (bound : ∀ shell least, within shell least → ∀ a ∈ targets, shell < shellOf a → least ≤ cost a)
    {fuel shell : Nat} (last : ∀ a ∈ targets, shellOf a < shell + fuel)
    (knows : Knows cost targets {a ∈ targets | shellOf a < shell} best) :
    Knows cost targets targets (search cost shells within fuel shell best) := by
  induction fuel generalizing shell best with
  | zero =>
      have all : {a ∈ targets | shellOf a < shell} = targets := by
        ext a
        exact ⟨fun h => h.1, fun h => ⟨h, last a h⟩⟩
      rw [all] at knows
      exact knows
  | succ fuel ih =>
      have scanned := knows.scan (sound shell)
      have seen : {a ∈ targets | shellOf a < shell + 1} ⊆
          {a ∈ targets | shellOf a < shell} ∪ {a | a ∈ shells shell} := by
        rintro a ⟨target, before⟩
        rcases Nat.lt_succ_iff_lt_or_eq.1 before with earlier | here
        · exact Or.inl ⟨target, earlier⟩
        · exact Or.inr (here ▸ listed a target)
      have next : Knows cost targets {a ∈ targets | shellOf a < shell + 1}
          (ShellSearch.scan cost best (shells shell)) :=
        ⟨fun a inside => scanned.lower a (seen inside), scanned.attained⟩
      have later : ∀ a ∈ targets, shellOf a < shell + 1 + fuel := by
        intro a target
        have := last a target
        omega
      rw [ShellSearch.search]
      cases found : ShellSearch.scan cost best (shells shell) with
      | none =>
          rw [found] at next
          exact ih later next
      | some least =>
          rw [found] at next
          dsimp only
          split
          case isTrue enough =>
              refine ⟨?_, next.attained⟩
              intro a target
              rcases Nat.lt_or_ge shell (shellOf a) with past | before
              · exact ⟨least, rfl, bound shell least enough a target past⟩
              · exact next.lower a ⟨target, Nat.lt_succ_of_le before⟩
          case isFalse =>
              exact ih later next

/-- **The search finds the least cost of all targets.** -/
theorem search_isLeast (shellOf : α → Nat)
    (listed : ∀ a ∈ targets, a ∈ shells (shellOf a))
    (sound : ∀ shell, ∀ a ∈ shells shell, a ∈ targets)
    (bound : ∀ shell least, within shell least → ∀ a ∈ targets, shell < shellOf a → least ≤ cost a)
    {fuel : Nat} (last : ∀ a ∈ targets, shellOf a < fuel) (some_target : targets.Nonempty) :
    ∃ least, search cost shells within fuel 0 none = some least ∧
      IsLeast (cost '' targets) least := by
  refine Knows.isLeast (Knows.search listed sound bound ?_ ?_) some_target
  · simpa using last
  · exact ⟨fun a inside => absurd inside.2 (Nat.not_lt_zero _), nofun⟩

end InstrumentBench.Theory.ShellSearch
