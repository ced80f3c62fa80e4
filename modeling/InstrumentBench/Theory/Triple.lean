/-
# Theory.Triple -- triples of one type, in lexicographic order

The faces of a mesh are triples of vertex indices, the keys of its vertices are
triples of integers, and Python compares both as tuples.  `Triple α` is that type
with its lexicographic order, and `Triple.Proper` says that its three entries
differ.
-/
import InstrumentBench.Theory.Numerals
import Mathlib.Data.Prod.Lex
import Mathlib.Data.List.Nodup
import Mathlib.Tactic

namespace InstrumentBench.Theory

set_option autoImplicit false

/-- `tuple[α, α, α]` -/
@[ext] structure Triple (α : Type) where
  first : α
  second : α
  third : α
deriving DecidableEq, Repr

namespace Triple

variable {α β γ : Type}

def map (f : α → β) (t : Triple α) : Triple β := ⟨f t.first, f t.second, f t.third⟩

def toList (t : Triple α) : List α := [t.first, t.second, t.third]

@[simp] theorem map_first (f : α → β) (t : Triple α) : (t.map f).first = f t.first := rfl

@[simp] theorem map_second (f : α → β) (t : Triple α) : (t.map f).second = f t.second := rfl

@[simp] theorem map_third (f : α → β) (t : Triple α) : (t.map f).third = f t.third := rfl

@[simp] theorem map_map (g : β → γ) (f : α → β) (t : Triple α) :
    (t.map f).map g = t.map (g ∘ f) := rfl

@[simp] theorem toList_map (f : α → β) (t : Triple α) : (t.map f).toList = t.toList.map f := rfl

@[simp] theorem mem_toList {a : α} {t : Triple α} :
    a ∈ t.toList ↔ a = t.first ∨ a = t.second ∨ a = t.third := by
  simp [toList]

/-- `len(set(t)) == 3` -/
def Proper (t : Triple α) : Prop := t.toList.Nodup

instance [DecidableEq α] (t : Triple α) : Decidable t.Proper :=
  inferInstanceAs (Decidable t.toList.Nodup)

theorem proper_iff {t : Triple α} :
    t.Proper ↔ t.first ≠ t.second ∧ t.first ≠ t.third ∧ t.second ≠ t.third := by
  simp [Proper, toList, and_assoc]

/-- The triple with its first entry last. -/
def rotate (t : Triple α) : Triple α := ⟨t.second, t.third, t.first⟩

@[simp] theorem rotate_first (t : Triple α) : t.rotate.first = t.second := rfl

@[simp] theorem rotate_second (t : Triple α) : t.rotate.second = t.third := rfl

@[simp] theorem rotate_third (t : Triple α) : t.rotate.third = t.first := rfl

@[simp] theorem mem_toList_rotate {a : α} {t : Triple α} :
    a ∈ t.rotate.toList ↔ a ∈ t.toList := by
  simp only [mem_toList, rotate_first, rotate_second, rotate_third]
  tauto

theorem proper_rotate {t : Triple α} : t.rotate.Proper ↔ t.Proper := by
  rw [proper_iff, proper_iff]
  simp only [rotate_first, rotate_second, rotate_third]
  constructor
  · rintro ⟨late, first, last⟩
    exact ⟨first.symm, last.symm, late⟩
  · rintro ⟨first, last, late⟩
    exact ⟨late, first.symm, last.symm⟩

/-- `tuple(f(value) for value in t)` of a function that may raise. -/
def mapM {ε : Type} (f : α → Except ε β) (t : Triple α) : Except ε (Triple β) := do
  let first ← f t.first
  let second ← f t.second
  let third ← f t.third
  .ok ⟨first, second, third⟩

theorem mapM_ok_iff {ε : Type} {f : α → Except ε β} {t : Triple α} {u : Triple β} :
    t.mapM f = .ok u ↔
      f t.first = .ok u.first ∧ f t.second = .ok u.second ∧ f t.third = .ok u.third := by
  unfold mapM
  cases f t.first with
  | error e => simp [bind, Except.bind]
  | ok first =>
      cases f t.second with
      | error e => simp [bind, Except.bind]
      | ok second =>
          cases f t.third with
          | error e => simp [bind, Except.bind]
          | ok third =>
              simp only [bind, Except.bind, Except.ok.injEq, Triple.ext_iff]

theorem Proper.map {f : α → β} (injective : Function.Injective f) {t : Triple α}
    (proper : t.Proper) : (t.map f).Proper := by
  rw [Proper, toList_map]
  exact List.Nodup.map injective proper

/-- The lexicographic order of tuples. -/
instance [LinearOrder α] : LinearOrder (Triple α) :=
  LinearOrder.lift' (fun t => toLex (t.first, toLex (t.second, t.third))) fun s t same => by
    have both := Prod.ext_iff.1 (toLex_inj.1 same)
    have rest := Prod.ext_iff.1 (toLex_inj.1 both.2)
    exact Triple.ext both.1 rest.1 rest.2

end Triple

end InstrumentBench.Theory
