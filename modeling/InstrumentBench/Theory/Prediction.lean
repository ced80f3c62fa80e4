/-
# Theory.Prediction -- rows coded as differences from a prediction

A value of a row is predicted from its left neighbour, from the value above it and from
the one above that neighbour; outside the picture all is zero.  Kept is the difference.
The reader has the same neighbours when it comes to a value, so that adding the prediction
gives the value back, whatever the predictor (`restore_residuals`), and row after row,
whatever the predictor of each row (`restoreRows_residualRows`).
-/
import Mathlib.Tactic

namespace InstrumentBench.Theory

set_option autoImplicit false

/-- A prediction from the left, the upper and the upper left neighbour. -/
abbrev Predictor (G : Type) := G → G → G → G

namespace Predictor

variable {G : Type} [Zero G] [Add G] [Sub G]

/-- The differences of a row, from the neighbours of its first value on. -/
def residuals (p : Predictor G) : G → G → List G → List G → List G
  | left, upperLeft, above :: previous, x :: row =>
      (x - p left above upperLeft) :: residuals p x above previous row
  | _, _, _, _ => []

/-- The row of some differences. -/
def restore (p : Predictor G) : G → G → List G → List G → List G
  | left, upperLeft, above :: previous, r :: coded =>
      (r + p left above upperLeft) :: restore p (r + p left above upperLeft) above previous coded
  | _, _, _, _ => []

theorem residuals_length (p : Predictor G) {left upperLeft : G} {previous row : List G}
    (wide : row.length ≤ previous.length) :
    (residuals p left upperLeft previous row).length = row.length := by
  induction row generalizing left upperLeft previous with
  | nil => cases previous <;> rfl
  | cons x row ih =>
      cases previous with
      | nil => simp at wide
      | cons above previous =>
          simp only [List.length_cons, Nat.add_le_add_iff_right] at wide
          simp [residuals, ih wide]

theorem restore_length (p : Predictor G) {left upperLeft : G} {previous coded : List G}
    (wide : coded.length ≤ previous.length) :
    (restore p left upperLeft previous coded).length = coded.length := by
  induction coded generalizing left upperLeft previous with
  | nil => cases previous <;> rfl
  | cons r coded ih =>
      cases previous with
      | nil => simp at wide
      | cons above previous =>
          simp only [List.length_cons, Nat.add_le_add_iff_right] at wide
          simp [restore, ih wide]

/-- **Restoring undoes prediction.** -/
theorem restore_residuals (cancel : ∀ a b : G, a - b + b = a) (p : Predictor G) {left upperLeft : G} {previous row : List G}
    (wide : row.length ≤ previous.length) :
    restore p left upperLeft previous (residuals p left upperLeft previous row) = row := by
  induction row generalizing left upperLeft previous with
  | nil => cases previous <;> rfl
  | cons x row ih =>
      cases previous with
      | nil => simp at wide
      | cons above previous =>
          simp only [List.length_cons, Nat.add_le_add_iff_right] at wide
          simp only [residuals, restore, cancel, ih wide]

/-! ## Rows -/

/-- The differences of rows, each under its own predictor. -/
def residualRows : List G → List (Predictor G × List G) → List (List G)
  | _, [] => []
  | previous, (p, row) :: rest => p.residuals 0 0 previous row :: residualRows row rest

def restoreRows : List G → List (Predictor G × List G) → List (List G)
  | _, [] => []
  | previous, (p, coded) :: rest =>
      p.restore 0 0 previous coded :: restoreRows (p.restore 0 0 previous coded) rest

theorem residualRows_length (previous : List G) (rows : List (Predictor G × List G)) :
    (residualRows previous rows).length = rows.length := by
  induction rows generalizing previous with
  | nil => rfl
  | cons head rest ih => simp [residualRows, ih]

/-- Coded rows are as long as the rows. -/
theorem residualRows_wide {width : Nat} {previous : List G} {rows : List (Predictor G × List G)}
    (first : previous.length = width) (wide : ∀ row ∈ rows, row.2.length = width) :
    ∀ coded ∈ residualRows previous rows, coded.length = width := by
  induction rows generalizing previous with
  | nil => nofun
  | cons head rest ih =>
      obtain ⟨p, row⟩ := head
      have here : row.length = width := wide (p, row) List.mem_cons_self
      intro coded listed
      rcases List.mem_cons.1 listed with rfl | later
      · rw [residuals_length p (by omega), here]
      · exact ih here (fun other listed => wide other (List.mem_cons_of_mem _ listed)) coded later

/-- **Restoring row after row**, where no row is longer than the one before it. -/
theorem restoreRows_residualRows (cancel : ∀ a b : G, a - b + b = a) {width : Nat} {previous : List G}
    {rows : List (Predictor G × List G)} (first : previous.length = width)
    (wide : ∀ row ∈ rows, row.2.length = width) :
    restoreRows previous ((rows.map Prod.fst).zip (residualRows previous rows)) =
      rows.map Prod.snd := by
  induction rows generalizing previous with
  | nil => rfl
  | cons head rest ih =>
      obtain ⟨p, row⟩ := head
      have here : row.length = width := wide (p, row) List.mem_cons_self
      have back : p.restore 0 0 previous (p.residuals 0 0 previous row) = row :=
        restore_residuals cancel p (by omega)
      simp only [residualRows, List.map_cons, List.zip_cons_cons, restoreRows, back]
      rw [ih here fun other listed => wide other (List.mem_cons_of_mem _ listed)]

end Predictor

end InstrumentBench.Theory
