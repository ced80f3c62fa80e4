/-
# Theory.Run -- runs of a state machine whose steps meet a condition

A machine is a step function; a run is the list of its actions.  `Along` says that
every action of a run meets a condition in the state it is taken in.  What such steps
keep, the whole run keeps (`Along.invariant`), and where no other step keeps it, the
condition is exact (`Along.always_iff`).
-/
import Mathlib.Data.List.Basic

namespace InstrumentBench.Theory

set_option autoImplicit false

variable {σ α : Type} (step : σ → α → σ)

/-- What every step counts up by one counts the steps. -/
theorem foldl_counts {step : σ → α → σ} (count : σ → Nat)
    (each : ∀ s a, count (step s a) = count s + 1) (run : List α) (s : σ) :
    count (run.foldl step s) = count s + run.length := by
  induction run generalizing s with
  | nil => rfl
  | cons a rest ih =>
      rw [List.foldl_cons, ih, each, List.length_cons]
      omega

/-- Every action of the run meets `ok` in the state it is taken in. -/
def Along (ok : σ → α → Prop) : σ → List α → Prop
  | _, [] => True
  | s, a :: rest => ok s a ∧ Along ok (step s a) rest

namespace Along

variable {step} {ok : σ → α → Prop} {s : σ}

/-- **What conforming steps keep, a conforming run keeps.** -/
theorem invariant {holds : σ → Prop}
    (kept : ∀ s a, holds s → ok s a → holds (step s a)) {run : List α}
    (along : Along step ok s run) (start : holds s) : holds (run.foldl step s) := by
  induction run generalizing s with
  | nil => exact start
  | cons a rest ih =>
      obtain ⟨here, later⟩ := along
      apply ih later
      exact kept s a start here

/-- Conformance to a weaker condition. -/
theorem imp {ok' : σ → α → Prop} (weaker : ∀ s a, ok s a → ok' s a) {run : List α}
    (along : Along step ok s run) : Along step ok' s run := by
  induction run generalizing s with
  | nil => trivial
  | cons a rest ih => exact ⟨weaker s a along.1, ih along.2⟩

/-- **Where conforming is exactly keeping, an invariant holds in every state of a run
exactly when the run conforms.** -/
theorem always_iff {holds : σ → Prop}
    (keeps : ∀ s a, holds s → (holds (step s a) ↔ ok s a)) {run : List α} (start : holds s) :
    (∀ done, done <+: run → holds (done.foldl step s)) ↔ Along step ok s run := by
  induction run generalizing s with
  | nil =>
      refine iff_of_true ?_ trivial
      intro done begins
      rw [List.prefix_nil.1 begins]
      exact start
  | cons a rest ih =>
      constructor
      · intro always
        have next : holds (step s a) := always [a] ⟨rest, rfl⟩
        refine ⟨(keeps s a start).1 next, (ih next).1 ?_⟩
        intro done begins
        exact always (a :: done) (List.prefix_cons_inj a |>.2 begins)
      · rintro ⟨here, later⟩ done begins
        cases done with
        | nil => exact start
        | cons b done =>
            obtain ⟨rfl, tail⟩ := List.cons_prefix_cons.1 begins
            exact (ih ((keeps s b start).2 here)).2 later done tail

/-- What conforming steps give where an invariant holds, a conforming run gives at each
of its steps. -/
theorem imp_of_invariant {holds : σ → Prop} {ok' : σ → α → Prop}
    (kept : ∀ s a, holds s → ok s a → holds (step s a))
    (gives : ∀ s a, holds s → ok s a → ok' s a) {run : List α} (along : Along step ok s run)
    (start : holds s) : Along step ok' s run := by
  induction run generalizing s with
  | nil => trivial
  | cons a rest ih =>
      obtain ⟨here, later⟩ := along
      exact ⟨gives s a start here, ih later (kept s a start here)⟩

/-- Two conditions that agree wherever an invariant of the machine holds. -/
theorem iff_of_invariant {holds : σ → Prop} {ok' : σ → α → Prop}
    (kept : ∀ s a, holds s → holds (step s a)) (same : ∀ s a, holds s → (ok s a ↔ ok' s a))
    {run : List α} (start : holds s) : Along step ok s run ↔ Along step ok' s run := by
  induction run generalizing s with
  | nil => rfl
  | cons a rest ih =>
      show _ ∧ _ ↔ _ ∧ _
      rw [same s a start, ih (kept s a start)]

/-- Conformance beside a condition on the actions alone. -/
theorem and {timely : α → Prop} {run : List α} (along : Along step ok s run)
    (all : ∀ a ∈ run, timely a) : Along step (fun s a => ok s a ∧ timely a) s run := by
  induction run generalizing s with
  | nil => trivial
  | cons a rest ih =>
      refine ⟨⟨along.1, all a List.mem_cons_self⟩, ?_⟩
      apply ih along.2
      intro a' listed
      exact all a' (List.mem_cons_of_mem _ listed)

end Along

end InstrumentBench.Theory
