/-
# Theory.JsonRecord -- a record read back with its members in another order

A dumped object is read back with its members sorted by name and each value
canonicalised.  `SameRecord` is what the reader may rely on: every member holds what
the original's holds, up to the canonical form of its value.
-/
import InstrumentBench.Theory.Json

namespace InstrumentBench.Theory.Json

set_option autoImplicit false

/-! ## Members by name -/

theorem lookup_of_mem {fs : List (Text × Json)} (distinct : (keys fs).Nodup) {k : Text} {v : Json}
    (member : (k, v) ∈ fs) : fs.lookup k = some v := by
  induction fs with
  | nil => cases member
  | cons kv fs ih =>
      obtain ⟨l, w⟩ := kv
      obtain ⟨notLater, distinct⟩ := List.nodup_cons.1 distinct
      rcases List.mem_cons.1 member with same | later
      · cases same
        exact List.lookup_cons_self
      · have ne : k ≠ l := fun same => notLater (List.mem_map.2 ⟨_, later, same⟩)
        rw [List.lookup_cons, beq_eq_false_iff_ne.2 ne]
        exact ih distinct later

theorem lookup_eq_none {fs : List (Text × Json)} {k : Text} (absent : k ∉ keys fs) :
    fs.lookup k = none := by
  rw [List.lookup_eq_none_iff]
  intro kv member
  exact bne_iff_ne.2 fun same => absent (List.mem_map.2 ⟨kv, member, same.symm⟩)

/-- A member of the sorted record is the member of the record, canonicalised. -/
theorem canon_lookup {fs : List (Text × Json)} (distinct : (keys fs).Nodup) (key : Text) :
    ((fs.lookup key).getD .null).canon =
      ((sortFields (canonFields fs)).lookup key).getD .null := by
  have perm := sortFields_perm (canonFields fs)
  have keysPerm := keys_sortFields_perm (canonFields fs)
  rw [keys_canonFields] at keysPerm
  have sortedDistinct := keysPerm.nodup_iff.2 distinct
  by_cases present : key ∈ keys fs
  · obtain ⟨⟨k, v⟩, member, same⟩ := List.mem_map.1 present
    obtain rfl : k = key := same
    have mapped : (k, v.canon) ∈ canonFields fs := by
      rw [canonFields_eq_map]
      exact List.mem_map.2 ⟨_, member, rfl⟩
    simp only [lookup_of_mem distinct member,
      lookup_of_mem sortedDistinct (perm.mem_iff.2 mapped), Option.getD_some]
  · have absent : key ∉ keys (sortFields (canonFields fs)) :=
      fun inside => present (keysPerm.mem_iff.1 inside)
    simp only [lookup_eq_none present, lookup_eq_none absent, Option.getD_none, canon]

/-! ## The same record -/

/-- Two records with the same canonical form, each with every name once. -/
structure SameRecord (record original : List (Text × Json)) : Prop where
  nodup : (keys record).Nodup
  apart : (keys original).Nodup
  canon : (Json.obj record).canon = (Json.obj original).canon

namespace SameRecord

variable {record original : List (Text × Json)} {key : Text}

theorem keys_iff (same : SameRecord record original) : key ∈ keys record ↔ key ∈ keys original := by
  have sorted := same.canon
  simp only [Json.canon, Json.obj.injEq] at sorted
  have left := (keys_sortFields_perm (canonFields record)).mem_iff (a := key)
  have right := (keys_sortFields_perm (canonFields original)).mem_iff (a := key)
  rw [sorted] at left
  rw [keys_canonFields] at left right
  rw [← left, right]

theorem member (same : SameRecord record original) (key : Text) :
    ((record.lookup key).getD .null).canon = ((original.lookup key).getD .null).canon := by
  have sorted := same.canon
  simp only [Json.canon, Json.obj.injEq] at sorted
  rw [canon_lookup same.nodup, canon_lookup same.apart, sorted]

theorem str (same : SameRecord record original) {t : Text}
    (value : (original.lookup key).getD .null = .str t) :
    (record.lookup key).getD .null = .str t := by
  have equal := same.member key
  rw [value] at equal
  generalize (record.lookup key).getD .null = v at equal
  cases v <;> simp_all [Json.canon]

theorem int (same : SameRecord record original) {i : Int}
    (value : (original.lookup key).getD .null = .int i) :
    (record.lookup key).getD .null = .int i := by
  have equal := same.member key
  rw [value] at equal
  generalize (record.lookup key).getD .null = v at equal
  cases v <;> simp_all [Json.canon]

theorem obj (same : SameRecord record original) {fields : List (Text × Json)}
    (value : (original.lookup key).getD .null = .obj fields) :
    ∃ fs, (record.lookup key).getD .null = .obj fs ∧
      (Json.obj fs).canon = (Json.obj fields).canon := by
  have equal := same.member key
  rw [value] at equal
  generalize (record.lookup key).getD .null = v at equal
  cases v with
  | obj fs => exact ⟨fs, rfl, equal⟩
  | _ => simp [Json.canon] at equal

end SameRecord

end InstrumentBench.Theory.Json
