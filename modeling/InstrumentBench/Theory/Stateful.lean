/-
# Theory.Stateful -- computations that raise and keep their state

A method of a Python object changes its fields one after the other and may raise
between two of them; what it changed so far stays.  `Stateful σ ε` is that
computation: its outcome, and the state after it in either case.

`Leads R m` says that whatever `m` does, it leads from a state to one related by
`R`.  `Leads.bind` composes two such facts: the first alone where it raises, both
where it does not.
-/
import Mathlib.Order.RelClasses
import Mathlib.Tactic

namespace InstrumentBench.Theory

set_option autoImplicit false

/-- A computation that may raise an `ε` and acts on a `σ`. -/
abbrev Stateful (σ ε α : Type) := ExceptT ε (StateM σ) α

namespace Stateful

variable {σ ε α β : Type}

/-- The outcome from a state, and the state after it. -/
def outcome (m : Stateful σ ε α) (s : σ) : Except ε α × σ := m.run.run s

/-- The state after it. -/
def after (m : Stateful σ ε α) (s : σ) : σ := (m.outcome s).2

/-- A value, or the exception it raises. -/
def lift (x : Except ε α) : Stateful σ ε α := fun s => (x, s)

/-- A call on a component of the state. -/
def on {τ : Type} (get : σ → τ) (set : τ → σ → σ) (m : τ → Except ε α × τ) :
    Stateful σ ε α := fun s => ((m (get s)).1, set (m (get s)).2 s)

@[simp] theorem outcome_pure (a : α) (s : σ) :
    outcome (pure a : Stateful σ ε α) s = (.ok a, s) := rfl

@[simp] theorem outcome_lift (x : Except ε α) (s : σ) :
    outcome (lift x : Stateful σ ε α) s = (x, s) := rfl

@[simp] theorem outcome_get (s : σ) : outcome (get : Stateful σ ε σ) s = (.ok s, s) := rfl

@[simp] theorem outcome_modify (f : σ → σ) (s : σ) :
    outcome (modify f : Stateful σ ε PUnit) s = (.ok ⟨⟩, f s) := rfl

theorem outcome_bind (m : Stateful σ ε α) (f : α → Stateful σ ε β) (s : σ) :
    outcome (m >>= f) s =
      match outcome m s with
      | (.ok a, t) => outcome (f a) t
      | (.error e, t) => (.error e, t) := by
  show outcome (ExceptT.bind m f) s = _
  simp only [outcome, ExceptT.bind, ExceptT.run, ExceptT.mk, StateT.run, bind, StateT.bind]
  rcases m s with ⟨result, t⟩
  cases result with
  | ok a => rfl
  | error e => rfl

/-- Whatever the computation does, it leads to a state related to the first. -/
def Leads (R : σ → σ → Prop) (m : Stateful σ ε α) : Prop := ∀ s, R s (m.after s)

section

variable {R S T : σ → σ → Prop} {m : Stateful σ ε α} {f : α → Stateful σ ε β}

/-- **Composition.**  Where the first computation raises, its own relation is all
there is. -/
theorem Leads.bind (first : Leads R m) (rest : ∀ a, Leads S (f a)) (stop : ∀ s t, R s t → T s t)
    (go : ∀ s t u, R s t → S t u → T s u) : Leads T (m >>= f) := by
  intro s
  have here := first s
  unfold after at here ⊢
  rw [outcome_bind]
  generalize outcome m s = ended at here ⊢
  rcases ended with ⟨result, t⟩
  cases result with
  | ok a => exact go s t _ here (rest a t)
  | error e => exact stop s t here

theorem Leads.imp (leads : Leads R m) (weaker : ∀ s t, R s t → T s t) : Leads T m :=
  fun s => weaker s _ (leads s)

/-- Two computations under one transitive relation. -/
theorem Leads.seq [IsTrans σ R] (first : Leads R m) (rest : ∀ a, Leads R (f a)) :
    Leads R (m >>= f) :=
  first.bind rest (fun _ _ h => h) fun _ _ _ h k => IsTrans.trans _ _ _ h k

/-- A state read first. -/
theorem leads_get_bind {g : σ → Stateful σ ε β} (rest : ∀ s, R s ((g s).after s)) :
    Leads R (get >>= g) := by
  intro s
  show R s (outcome (get >>= g) s).2
  rw [outcome_bind]
  exact rest s

/-- A value computed first. -/
theorem leads_lift_bind [Std.Refl R] {x : Except ε α} (rest : ∀ a, x = .ok a → Leads R (f a)) :
    Leads R (lift x >>= f) := by
  intro s
  show R s (outcome (lift x >>= f) s).2
  rw [outcome_bind]
  cases x with
  | ok a => exact rest a rfl s
  | error e => exact Std.Refl.refl s

theorem leads_ite {c : Prop} [Decidable c] {n : Stateful σ ε α} (yes : c → Leads R m)
    (no : ¬c → Leads R n) : Leads R (if c then m else n) := by
  split
  · exact yes ‹_›
  · exact no ‹_›

theorem leads_pure [Std.Refl R] (a : α) : Leads R (pure a : Stateful σ ε α) :=
  fun s => Std.Refl.refl s

theorem leads_lift [Std.Refl R] (x : Except ε α) : Leads R (lift x : Stateful σ ε α) :=
  fun s => Std.Refl.refl s

theorem leads_modify {g : σ → σ} (related : ∀ s, R s (g s)) :
    Leads R (modify g : Stateful σ ε PUnit) := related

end

end Stateful

/-! ## Values that may raise -/

/-- A sequence returned where both its parts did. -/
theorem bind_ok_iff {ε α β : Type} {x : Except ε α} {f : α → Except ε β} {b : β} :
    (x >>= f) = .ok b ↔ ∃ a, x = .ok a ∧ f a = .ok b := by
  cases x with
  | error e => simp [bind, Except.bind]
  | ok a => simp [bind, Except.bind]

/-- An exception neither part of a sequence raises. -/
theorem bind_ne_error {ε α β : Type} {x : Except ε α} {f : α → Except ε β} {e : ε}
    (first : x ≠ .error e) (rest : ∀ a, x = .ok a → f a ≠ .error e) : (x >>= f) ≠ .error e := by
  cases x with
  | error e' => exact fun same => first (by cases same; rfl)
  | ok a => exact rest a rfl

theorem ok_of_toOption {ε α : Type} {x : Except ε α} {a : α} (some : x.toOption = some a) :
    x = .ok a := by
  cases x with
  | error e => cases some
  | ok b =>
      cases some
      rfl

theorem map_ok_iff {ε α β : Type} {x : Except ε α} {f : α → β} {b : β} :
    x.map f = .ok b ↔ ∃ a, x = .ok a ∧ f a = b := by
  cases x with
  | error e => simp [Except.map]
  | ok a => simp [Except.map]

/-! ## Loops that may raise -/

/-- A loop that returned did so at every element. -/
theorem mapM_ok_iff {α β ε : Type} {f : α → Except ε β} {xs : List α} {ys : List β} :
    xs.mapM f = .ok ys ↔ List.Forall₂ (fun x y => f x = .ok y) xs ys := by
  induction xs generalizing ys with
  | nil => cases ys <;> simp [pure, Except.pure]
  | cons x xs ih =>
      rw [List.mapM_cons]
      cases value : f x with
      | error e =>
          refine iff_of_false (by simp [bind, Except.bind]) ?_
          rintro ⟨⟩
          simp_all
      | ok y =>
          cases rest : xs.mapM f with
          | error e =>
              refine iff_of_false (by simp [bind, Except.bind]) ?_
              intro all
              cases all with
              | cons _ later => simp [ih.2 later] at rest
          | ok zs =>
              have tail := ih.1 rest
              constructor
              · intro same
                cases same
                exact .cons value tail
              · intro all
                cases all with
                | cons here later =>
                    cases value.symm.trans here
                    cases rest.symm.trans (ih.2 later)
                    rfl

theorem mapM_ne_error {α β ε : Type} {f : α → Except ε β} {e : ε} (each : ∀ x, f x ≠ .error e)
    (xs : List α) : xs.mapM f ≠ .error e := by
  induction xs with
  | nil => nofun
  | cons x xs ih =>
      rw [List.mapM_cons]
      exact bind_ne_error (each x) fun _ _ => bind_ne_error ih fun _ _ => nofun

/-- What a loop made comes from something it ran over. -/
theorem exists_of_forall₂ {α β : Type} {f : α → β → Prop} {xs : List α} {ys : List β}
    (made : List.Forall₂ f xs ys) {y : β} (listed : y ∈ ys) : ∃ x ∈ xs, f x y := by
  induction made with
  | nil => simp at listed
  | cons here rest ih =>
      rcases List.mem_cons.1 listed with rfl | later
      · exact ⟨_, List.mem_cons_self, here⟩
      · obtain ⟨x, original, from_x⟩ := ih later
        exact ⟨x, List.mem_cons_of_mem _ original, from_x⟩

/-- Pairs related before a loop are related after it. -/
theorem pairwise_of_forall₂ {α β : Type} {f : α → β → Prop} {R : α → α → Prop} {S : β → β → Prop}
    (carry : ∀ a a' b b', R a a' → f a b → f a' b' → S b b') {xs : List α} {ys : List β}
    (made : List.Forall₂ f xs ys) (apart : xs.Pairwise R) : ys.Pairwise S := by
  induction made with
  | nil => exact .nil
  | @cons a b as bs here rest ih =>
      rw [List.pairwise_cons] at apart ⊢
      refine ⟨?_, ih apart.2⟩
      intro b' listed
      obtain ⟨a', original, from_a⟩ := exists_of_forall₂ rest listed
      exact carry a a' b b' (apart.1 a' original) here from_a

end InstrumentBench.Theory
