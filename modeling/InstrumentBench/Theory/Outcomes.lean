/-
# Theory.Outcomes -- what a computation may raise and what it returns

`Meets E P x`: the computation `x` returns a value with `P` or raises an exception with
`E`.  The exceptions stay the same along a program while the values change, so the rules
carry `E` along: a sequence meets what its second half meets on the values of its first
(`Meets.bind`), and a loop meets at every element what its body does (`Meets.mapM`).
-/
import InstrumentBench.Theory.Triple

namespace InstrumentBench.Theory

set_option autoImplicit false

variable {ε α β : Type} {E : ε → Prop}

/-- It returns a value with `P` or raises an exception with `E`. -/
def Meets (E : ε → Prop) (P : α → Prop) : Except ε α → Prop
  | .ok a => P a
  | .error e => E e

namespace Meets

variable {P P' : α → Prop} {Q : β → Prop} {x : Except ε α} {f : α → Except ε β}

theorem mono (meets : Meets E P x) (weaker : ∀ a, x = .ok a → P a → P' a) : Meets E P' x := by
  cases x with
  | ok a => exact weaker a rfl meets
  | error e => exact meets

/-- **Sequence.** -/
theorem bind (first : Meets E P x) (rest : ∀ a, x = .ok a → P a → Meets E Q (f a)) :
    Meets E Q (x >>= f) := by
  cases x with
  | ok a => exact rest a rfl first
  | error e => exact first

theorem ite {c : Prop} [Decidable c] {y : Except ε α} (yes : c → Meets E P x)
    (no : ¬c → Meets E P y) : Meets E P (if c then x else y) := by
  split
  · exact yes ‹c›
  · exact no ‹¬c›

/-- **Loop.** -/
theorem mapM {xs : List α} (each : ∀ a ∈ xs, Meets E Q (f a)) :
    Meets E (fun ys => ∀ y ∈ ys, Q y) (xs.mapM f) := by
  induction xs with
  | nil =>
      intro y listed
      cases listed
  | cons a xs ih =>
      rw [List.mapM_cons]
      refine (each a List.mem_cons_self).bind fun y _ here => ?_
      refine (ih fun b listed => each b (List.mem_cons_of_mem _ listed)).bind fun ys _ later => ?_
      intro z listed
      rcases List.mem_cons.1 listed with rfl | other
      · exact here
      · exact later z other

theorem tripleMapM {t : Triple α} (each : ∀ a ∈ t.toList, Meets E Q (f a)) :
    Meets E (fun u => ∀ b ∈ u.toList, Q b) (t.mapM f) := by
  unfold Triple.mapM
  refine (each t.first (by simp)).bind fun first _ here => ?_
  refine (each t.second (by simp)).bind fun second _ next => ?_
  refine (each t.third (by simp)).bind fun third _ last => ?_
  intro b listed
  rcases Triple.mem_toList.1 listed with rfl | rfl | rfl
  · exact here
  · exact next
  · exact last

end Meets

end InstrumentBench.Theory
