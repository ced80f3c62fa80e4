/-
# Theory.PyDict -- dictionaries as association lists in insertion order

`set` writes a key in place or at the end, `setdefault` writes only an absent key,
`pop` drops one.  A dictionary is read with `List.lookup`; the lemmas say what each
operation does to every lookup.
-/
import Mathlib.Data.List.Basic
import Mathlib.Data.List.Induction

namespace InstrumentBench.Theory.PyDict

set_option autoImplicit false
set_option linter.unusedSectionVars false

/-! ## Lookups in any list -/

section Lookup

variable {κ α : Type} [BEq κ] [LawfulBEq κ]

theorem lookup_isSome_iff (k : κ) (entries : List (κ × α)) :
    (entries.lookup k).isSome = true ↔ ∃ entry ∈ entries, entry.1 = k := by
  induction entries with
  | nil => simp
  | cons entry rest ih =>
      obtain ⟨k', v⟩ := entry
      by_cases same : k = k'
      · subst same
        simp
      · rw [List.lookup_cons, beq_false_of_ne same]
        simp only [List.mem_cons, exists_eq_or_imp, ih]
        constructor
        · exact Or.inr
        · rintro (h | h)
          · exact absurd h.symm same
          · exact h

theorem mem_of_lookup {k : κ} {v : α} {entries : List (κ × α)}
    (found : entries.lookup k = some v) : (k, v) ∈ entries := by
  induction entries with
  | nil => cases found
  | cons entry rest ih =>
      obtain ⟨k', v'⟩ := entry
      by_cases same : k = k'
      · subst same
        rw [List.lookup_cons, beq_self_eq_true] at found
        cases found
        exact List.mem_cons_self
      · rw [List.lookup_cons, beq_false_of_ne same] at found
        exact List.mem_cons_of_mem _ (ih found)

end Lookup

/-! ## Operations -/

variable {κ α : Type} [DecidableEq κ] [BEq κ] [LawfulBEq κ]

/-- `d[k] = v` -/
def set (k : κ) (v : α) : List (κ × α) → List (κ × α)
  | [] => [(k, v)]
  | (j, old) :: rest => if j = k then (j, v) :: rest else (j, old) :: set k v rest

/-- `d.setdefault(k, v)` -/
def setdefault (k : κ) (v : α) (d : List (κ × α)) : List (κ × α) :=
  match d.lookup k with
  | some _ => d
  | none => d ++ [(k, v)]

/-- `d.pop(k, None)` -/
def pop (k : κ) (d : List (κ × α)) : List (κ × α) := d.filter fun entry => entry.1 ≠ k

theorem lookup_cons (k j : κ) (v : α) (d : List (κ × α)) :
    ((j, v) :: d).lookup k = if k = j then some v else d.lookup k := by
  by_cases same : k = j
  · subst same
    simp
  · rw [if_neg same, List.lookup_cons, beq_false_of_ne same]

@[simp] theorem lookup_set (k j : κ) (v : α) (d : List (κ × α)) :
    (set k v d).lookup j = if j = k then some v else d.lookup j := by
  induction d with
  | nil =>
      show List.lookup j [(k, v)] = _
      rw [lookup_cons]
  | cons entry rest ih =>
      obtain ⟨i, old⟩ := entry
      unfold set
      split
      case isTrue same =>
        subst same
        rw [lookup_cons, lookup_cons]
        split <;> rfl
      case isFalse other =>
        rw [lookup_cons, lookup_cons, ih]
        by_cases here : j = i
        · subst here
          rw [if_pos rfl, if_neg other, if_pos rfl]
        · rw [if_neg here, if_neg here]

theorem lookup_append (k : κ) (d e : List (κ × α)) :
    (d ++ e).lookup k = (d.lookup k).or (e.lookup k) := by
  induction d with
  | nil => rfl
  | cons entry rest ih =>
      obtain ⟨j, v⟩ := entry
      rw [List.cons_append, lookup_cons, lookup_cons, ih]
      split <;> rfl

@[simp] theorem lookup_setdefault (k j : κ) (v : α) (d : List (κ × α)) :
    (setdefault k v d).lookup j =
      (d.lookup j).or (if j = k then some v else none) := by
  have last : [(k, v)].lookup j = if j = k then some v else none := lookup_cons j k v []
  unfold setdefault
  split
  case h_1 found =>
    by_cases same : j = k
    · subst same
      rw [found]
      rfl
    · rw [if_neg same, Option.or_none]
  case h_2 => rw [lookup_append, last]

@[simp] theorem lookup_pop (k j : κ) (d : List (κ × α)) :
    (pop k d).lookup j = if j = k then none else d.lookup j := by
  induction d with
  | nil => simp [pop]
  | cons entry rest ih =>
      obtain ⟨i, v⟩ := entry
      unfold pop at ih ⊢
      by_cases same : i = k
      · subst same
        rw [List.filter_cons_of_neg (by simp), ih, lookup_cons]
        split <;> rfl
      · rw [List.filter_cons_of_pos (by simpa using same), lookup_cons, lookup_cons, ih]
        by_cases here : j = i
        · subst here
          rw [if_pos rfl, if_neg same, if_pos rfl]
        · rw [if_neg here, if_neg here]

/-- A default once written stays. -/
theorem lookup_setdefault_of_some {k j : κ} {v w : α} {d : List (κ × α)}
    (found : d.lookup j = some w) : (setdefault k v d).lookup j = some w := by
  rw [lookup_setdefault, found]
  rfl

/-! ## Keys -/

theorem mem_set {k : κ} {v : α} {d : List (κ × α)} {entry : κ × α} (member : entry ∈ set k v d) :
    entry ∈ d ∨ entry = (k, v) := by
  induction d with
  | nil => exact Or.inr (List.mem_singleton.1 member)
  | cons first rest ih =>
      obtain ⟨j, old⟩ := first
      unfold set at member
      split at member
      case isTrue same =>
          subst same
          rcases List.mem_cons.1 member with rfl | later
          · exact Or.inr rfl
          · exact Or.inl (List.mem_cons_of_mem _ later)
      case isFalse =>
          rcases List.mem_cons.1 member with rfl | later
          · exact Or.inl List.mem_cons_self
          · exact (ih later).imp_left (List.mem_cons_of_mem _)

theorem keys_set (k : κ) (v : α) (d : List (κ × α)) :
    (set k v d).map Prod.fst =
      if k ∈ d.map Prod.fst then d.map Prod.fst else d.map Prod.fst ++ [k] := by
  induction d with
  | nil => simp [set]
  | cons entry rest ih =>
      obtain ⟨j, old⟩ := entry
      unfold set
      by_cases same : j = k
      · subst same
        simp
      · rw [if_neg same, List.map_cons, ih]
        have other : k ≠ j := fun h => same h.symm
        by_cases later : k ∈ rest.map Prod.fst
        · rw [if_pos later, if_pos (by simpa using Or.inr later)]
          rfl
        · rw [if_neg later, if_neg]
          · rfl
          · rw [List.map_cons, List.mem_cons, not_or]
            exact ⟨other, later⟩

theorem keys_set_nodup {d : List (κ × α)} (apart : (d.map Prod.fst).Nodup) (k : κ) (v : α) :
    ((set k v d).map Prod.fst).Nodup := by
  rw [keys_set]
  split
  case isTrue => exact apart
  case isFalse fresh =>
      refine List.nodup_append.2 ⟨apart, by simp, ?_⟩
      intro j member l last same
      rw [List.mem_singleton] at last
      exact fresh (last ▸ same ▸ member)

/-- A key that is not there yet is written at the end. -/
theorem set_of_fresh {k : κ} {d : List (κ × α)} (fresh : k ∉ d.map Prod.fst) (v : α) :
    set k v d = d ++ [(k, v)] := by
  induction d with
  | nil => rfl
  | cons first rest ih =>
      obtain ⟨j, old⟩ := first
      rw [List.map_cons, List.mem_cons, not_or] at fresh
      have other : ¬ j = k := fun same => fresh.1 same.symm
      rw [set, if_neg other, ih fresh.2]
      rfl

/-- Of distinct keys, an entry is what its key looks up. -/
theorem lookup_eq_some_iff {d : List (κ × α)} (apart : (d.map Prod.fst).Nodup) {k : κ} {v : α} :
    d.lookup k = some v ↔ (k, v) ∈ d := by
  refine ⟨mem_of_lookup, ?_⟩
  induction d with
  | nil => simp
  | cons entry rest ih =>
      obtain ⟨j, w⟩ := entry
      obtain ⟨away, later⟩ := List.nodup_cons.1 apart
      intro listed
      rw [lookup_cons]
      rcases List.mem_cons.1 listed with same | inside
      · cases same
        rw [if_pos rfl]
      · rw [if_neg]
        · exact ih later inside
        · rintro rfl
          exact away (List.mem_map.2 ⟨_, inside, rfl⟩)

/-! ## Defaults set in turn -/

theorem mem_setdefault {k : κ} {v : α} {d : List (κ × α)} {entry : κ × α}
    (member : entry ∈ setdefault k v d) : entry ∈ d ∨ entry = (k, v) := by
  unfold setdefault at member
  split at member
  case h_1 => exact Or.inl member
  case h_2 =>
      rcases List.mem_append.1 member with old | new
      · exact Or.inl old
      · exact Or.inr (List.mem_singleton.1 new)

theorem mem_keys_setdefault {k j : κ} {v : α} {d : List (κ × α)} :
    j ∈ (setdefault k v d).map Prod.fst ↔ j ∈ d.map Prod.fst ∨ j = k := by
  have keys (d : List (κ × α)) : j ∈ d.map Prod.fst ↔ (d.lookup j).isSome = true := by
    rw [lookup_isSome_iff, List.mem_map]
  rw [keys, keys, lookup_setdefault, Option.isSome_or, Bool.or_eq_true]
  split
  case isTrue same => simp [same]
  case isFalse other => simp [other]

theorem keys_setdefault_nodup {d : List (κ × α)} (apart : (d.map Prod.fst).Nodup) (k : κ) (v : α) :
    ((setdefault k v d).map Prod.fst).Nodup := by
  unfold setdefault
  split
  case h_1 => exact apart
  case h_2 missing =>
      have absent : k ∉ d.map Prod.fst := by
        intro listed
        have present := (lookup_isSome_iff k d).2 (List.mem_map.1 listed)
        rw [missing] at present
        cases present
      rw [List.map_append]
      refine List.nodup_append.2 ⟨apart, by simp, ?_⟩
      intro j old i new same
      rw [same, List.mem_singleton.1 new] at old
      exact absent old

/-- `d.setdefault(k, v)` for every entry, from an empty `d`. -/
def setdefaults (entries : List (κ × α)) : List (κ × α) :=
  entries.foldl (fun d entry => setdefault entry.1 entry.2 d) []

theorem setdefaults_spec (entries : List (κ × α)) :
    ((setdefaults entries).map Prod.fst).Nodup ∧
      (∀ j, j ∈ (setdefaults entries).map Prod.fst ↔ j ∈ entries.map Prod.fst) ∧
      ∀ entry ∈ setdefaults entries, entry ∈ entries := by
  suffices general : ∀ d : List (κ × α), (d.map Prod.fst).Nodup →
      let e := entries.foldl (fun d entry => setdefault entry.1 entry.2 d) d
      (e.map Prod.fst).Nodup ∧
        (∀ j, j ∈ e.map Prod.fst ↔ j ∈ d.map Prod.fst ∨ j ∈ entries.map Prod.fst) ∧
        ∀ entry ∈ e, entry ∈ d ∨ entry ∈ entries by
    obtain ⟨apart, keys, members⟩ := general [] List.nodup_nil
    refine ⟨apart, fun j => ?_, fun entry member => ?_⟩
    · rw [setdefaults, keys]
      simp
    · exact (members entry member).resolve_left List.not_mem_nil
  induction entries with
  | nil => exact fun d apart => ⟨apart, by simp, fun entry => Or.inl⟩
  | cons first rest ih =>
      intro d apart
      obtain ⟨apart', keys, members⟩ :=
        ih (setdefault first.1 first.2 d) (keys_setdefault_nodup apart _ _)
      refine ⟨apart', fun j => ?_, fun entry member => ?_⟩
      · rw [List.foldl_cons, keys, mem_keys_setdefault, List.map_cons, List.mem_cons, or_assoc]
      · rcases members entry member with old | later
        · rcases mem_setdefault old with older | rfl
          · exact Or.inl older
          · exact Or.inr List.mem_cons_self
        · exact Or.inr (List.mem_cons_of_mem _ later)

/-! ## Groups -/

/-- `groups[k].append(v)` for every item, from an empty `defaultdict(list)`. -/
def group (items : List (κ × α)) : List (κ × List α) :=
  items.foldl (fun groups item =>
    set item.1 ((groups.lookup item.1).getD [] ++ [item.2]) groups) []

omit [LawfulBEq κ] in
theorem group_concat (items : List (κ × α)) (item : κ × α) :
    group (items ++ [item]) =
      set item.1 (((group items).lookup item.1).getD [] ++ [item.2]) (group items) := by
  rw [group, List.foldl_append]
  rfl

/-- **A group holds the values of its key.** -/
theorem mem_group {items : List (κ × α)} {k : κ} {v : α} :
    v ∈ ((group items).lookup k).getD [] ↔ (k, v) ∈ items := by
  induction items using List.reverseRecOn with
  | nil => simp [group]
  | append_singleton items item ih =>
      obtain ⟨j, w⟩ := item
      rw [group_concat, lookup_set, List.mem_append, List.mem_singleton, Prod.mk.injEq]
      split
      case isTrue here =>
          subst here
          rw [Option.getD_some, List.mem_append, ih, List.mem_singleton]
          simp
      case isFalse other =>
          rw [ih]
          simp [other]

theorem keys_group_nodup (items : List (κ × α)) : ((group items).map Prod.fst).Nodup := by
  induction items using List.reverseRecOn with
  | nil => simp [group]
  | append_singleton items item ih =>
      rw [group_concat]
      exact keys_set_nodup ih _ _

end InstrumentBench.Theory.PyDict
