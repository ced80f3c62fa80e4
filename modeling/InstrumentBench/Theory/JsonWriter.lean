/-
# Theory.JsonWriter -- `json.dumps` under a recursion limit

The encoder enters every array and object, sorts the members of an object before it
writes them, and raises `RecursionError` when no level is left for either.
`writeWithin` follows it and keeps only how it ends.  It ends well exactly when every
integer is within the digit limit and the value takes no more levels than are left
(`writeWithin_ok_iff`), and the order of the members takes no level (`levelsOf_canon`).
-/
import InstrumentBench.Theory.Json

namespace InstrumentBench.Theory

set_option autoImplicit false

/-- What the limited encoder raises. -/
inductive WriteError where
  | tooManyDigits
  | recursion
deriving DecidableEq

namespace Json

/-! ## The encoder -/

section

/- levels the comparison of two keys takes -/
variable (comparison : Nat)

mutual

/-- Writing a value with `levels` left. -/
def writeWithin : Json → Nat → Except WriteError Unit
  | .arr items, levels =>
      if levels = 0 then .error .recursion else writeItemsWithin items (levels - 1)
  | .obj fields, levels =>
      if levels = 0 then .error .recursion
      else if 2 ≤ fields.length ∧ levels - 1 < comparison then .error .recursion
      else writeFieldsWithin fields (levels - 1)
  | v, _ => if v.withinDigits then .ok () else .error .tooManyDigits

def writeItemsWithin : List Json → Nat → Except WriteError Unit
  | [], _ => .ok ()
  | v :: vs, levels =>
      match writeWithin v levels with
      | .error e => .error e
      | .ok () => writeItemsWithin vs levels

def writeFieldsWithin : List (Text × Json) → Nat → Except WriteError Unit
  | [], _ => .ok ()
  | (_, v) :: fs, levels =>
      match writeWithin v levels with
      | .error e => .error e
      | .ok () => writeFieldsWithin fs levels

end

/-- What sorting this many members takes. -/
def sortLevels (count : Nat) : Nat := if 2 ≤ count then comparison else 0

mutual

/-- The levels writing a value takes. -/
def levelsOf : Json → Nat
  | .arr items => 1 + levelsOfItems items
  | .obj fields => 1 + max (sortLevels comparison fields.length) (levelsOfFields fields)
  | _ => 0

def levelsOfItems : List Json → Nat
  | [] => 0
  | v :: vs => max (levelsOf v) (levelsOfItems vs)

def levelsOfFields : List (Text × Json) → Nat
  | [] => 0
  | (_, v) :: fs => max (levelsOf v) (levelsOfFields fs)

end

mutual

/-- **Writing.** -/
theorem writeWithin_ok_iff : ∀ (v : Json) (levels : Nat), writeWithin comparison v levels = .ok () ↔
    v.withinDigits = true ∧ levelsOf comparison v ≤ levels
  | .null, levels | .bool _, levels | .float _, levels | .str _, levels => by
      simp [writeWithin, levelsOf, withinDigits]
  | .int i, levels => by
      have ends : writeWithin comparison (.int i) levels =
          if (Json.int i).withinDigits then .ok () else .error .tooManyDigits := rfl
      rw [ends]
      split <;> simp_all [levelsOf]
  | .arr items, levels => by
      rw [writeWithin, levelsOf, withinDigits]
      by_cases none : levels = 0
      · rw [if_pos none]
        exact iff_of_false (by simp) fun both => by omega
      · rw [if_neg none, writeItemsWithin_ok_iff items]
        exact and_congr_right fun _ => by omega
  | .obj fields, levels => by
      rw [writeWithin, levelsOf, withinDigits, sortLevels]
      by_cases none : levels = 0
      · rw [if_pos none]
        exact iff_of_false (by simp) fun both => by omega
      · rw [if_neg none]
        by_cases several : 2 ≤ fields.length
        · by_cases short : levels - 1 < comparison
          · rw [if_pos ⟨several, short⟩, if_pos several]
            exact iff_of_false (by simp) fun both => by omega
          · rw [if_neg fun both => short both.2, if_pos several, writeFieldsWithin_ok_iff fields]
            exact and_congr_right fun _ => by omega
        · rw [if_neg fun both => several both.1, if_neg several, writeFieldsWithin_ok_iff fields]
          exact and_congr_right fun _ => by omega

theorem writeItemsWithin_ok_iff : ∀ (vs : List Json) (levels : Nat),
    writeItemsWithin comparison vs levels = .ok () ↔
      withinDigitsItems vs = true ∧ levelsOfItems comparison vs ≤ levels
  | [], levels => by simp [writeItemsWithin, withinDigitsItems, levelsOfItems]
  | v :: vs, levels => by
      have first := writeWithin_ok_iff v levels
      rw [writeItemsWithin, withinDigitsItems, levelsOfItems, Bool.and_eq_true, max_le_iff]
      cases written : writeWithin comparison v levels with
      | error e =>
          rw [written] at first
          refine iff_of_false (by simp) fun both => ?_
          cases first.2 ⟨both.1.1, both.2.1⟩
      | ok _ =>
          obtain ⟨digits, fits⟩ := first.1 written
          dsimp only
          rw [writeItemsWithin_ok_iff vs]
          exact ⟨fun rest => ⟨⟨digits, rest.1⟩, fits, rest.2⟩, fun both => ⟨both.1.2, both.2.2⟩⟩

theorem writeFieldsWithin_ok_iff : ∀ (fs : List (Text × Json)) (levels : Nat),
    writeFieldsWithin comparison fs levels = .ok () ↔
      withinDigitsFields fs = true ∧ levelsOfFields comparison fs ≤ levels
  | [], levels => by simp [writeFieldsWithin, withinDigitsFields, levelsOfFields]
  | (k, v) :: fs, levels => by
      have first := writeWithin_ok_iff v levels
      rw [writeFieldsWithin, withinDigitsFields, levelsOfFields, Bool.and_eq_true, max_le_iff]
      cases written : writeWithin comparison v levels with
      | error e =>
          rw [written] at first
          refine iff_of_false (by simp) fun both => ?_
          cases first.2 ⟨both.1.1, both.2.1⟩
      | ok _ =>
          obtain ⟨digits, fits⟩ := first.1 written
          dsimp only
          rw [writeFieldsWithin_ok_iff fs]
          exact ⟨fun rest => ⟨⟨digits, rest.1⟩, fits, rest.2⟩, fun both => ⟨both.1.2, both.2.2⟩⟩

end

/-! ## The order of members -/

theorem levelsOfFields_le_iff (fs : List (Text × Json)) (levels : Nat) :
    levelsOfFields comparison fs ≤ levels ↔ ∀ kv ∈ fs, levelsOf comparison kv.2 ≤ levels := by
  induction fs with
  | nil => simp [levelsOfFields]
  | cons kv fs ih =>
      rw [levelsOfFields, max_le_iff, ih, List.forall_mem_cons]

/-- The members take the levels they take in any order. -/
theorem levelsOfFields_perm {fs gs : List (Text × Json)} (perm : fs.Perm gs) :
    levelsOfFields comparison fs = levelsOfFields comparison gs := by
  refine eq_of_forall_ge_iff fun levels => ?_
  rw [levelsOfFields_le_iff, levelsOfFields_le_iff]
  exact forall_congr' fun kv => imp_congr_left perm.mem_iff

mutual

/-- Sorting the members changes no level. -/
theorem levelsOf_canon : ∀ v : Json, levelsOf comparison v.canon = levelsOf comparison v
  | .null | .bool _ | .int _ | .float _ | .str _ => rfl
  | .arr items => by
      rw [canon, levelsOf, levelsOf, levelsOfItems_canon items]
  | .obj fields => by
      have length : (sortFields (canonFields fields)).length = fields.length := by
        rw [(sortFields_perm _).length_eq, canonFields_eq_map, List.length_map]
      rw [canon, levelsOf, levelsOf, length, levelsOfFields_perm comparison (sortFields_perm _),
        levelsOfFields_canon fields]

theorem levelsOfItems_canon : ∀ vs : List Json,
    levelsOfItems comparison (canonItems vs) = levelsOfItems comparison vs
  | [] => rfl
  | v :: vs => by
      rw [canonItems, levelsOfItems, levelsOfItems, levelsOf_canon v, levelsOfItems_canon vs]

theorem levelsOfFields_canon : ∀ fs : List (Text × Json),
    levelsOfFields comparison (canonFields fs) = levelsOfFields comparison fs
  | [] => rfl
  | (k, v) :: fs => by
      rw [canonFields, levelsOfFields, levelsOfFields, levelsOf_canon v, levelsOfFields_canon fs]

end

end

end Json

end InstrumentBench.Theory
