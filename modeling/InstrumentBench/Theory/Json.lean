/-
# Theory.Json -- JSON values, and the text `json.dumps` writes for them

`Json` is the value `json.loads` returns: objects keep their members as a list,
in order and possibly with a key twice.  `render` is
`json.dumps(v, separators=(",", ":"), ensure_ascii=True)`; `canon` sorts every
object's members by key, so `render (canon v)` is `dumps` with `sort_keys=True`.
A Python `dict` compares without order, so two values are the same value exactly
when their canonical forms are equal.

* `canon_canon`, `canon_obj_perm`: the canonical form does not depend on the
  order of members;
* `length_render_canon`: canonicalising changes no size;
* `graphic_render`: everything `dumps` writes is printable ASCII.
-/
import InstrumentBench.Theory.Number

namespace InstrumentBench.Theory

set_option autoImplicit false

inductive Json where
  | null
  | bool (b : Bool)
  | int (i : Int)
  | float (x : Float)
  | str (t : Text)
  | arr (items : List Json)
  | obj (fields : List (Text × Json))

namespace Json

instance : Inhabited Json := ⟨.null⟩

mutual

def decEq : (v w : Json) → Decidable (v = w)
  | .null, w => match w with
      | .null => isTrue rfl
      | .bool _ | .int _ | .float _ | .str _ | .arr _ | .obj _ => isFalse nofun
  | .bool a, w => match w with
      | .bool b => decidable_of_iff (a = b) (by simp)
      | .null | .int _ | .float _ | .str _ | .arr _ | .obj _ => isFalse nofun
  | .int a, w => match w with
      | .int b => decidable_of_iff (a = b) (by simp)
      | .null | .bool _ | .float _ | .str _ | .arr _ | .obj _ => isFalse nofun
  | .float a, w => match w with
      | .float b => decidable_of_iff (a = b) (by simp)
      | .null | .bool _ | .int _ | .str _ | .arr _ | .obj _ => isFalse nofun
  | .str a, w => match w with
      | .str b => decidable_of_iff (a = b) (by simp)
      | .null | .bool _ | .int _ | .float _ | .arr _ | .obj _ => isFalse nofun
  | .arr a, w => match w with
      | .arr b => have := decEqItems a b; decidable_of_iff (a = b) (by simp)
      | .null | .bool _ | .int _ | .float _ | .str _ | .obj _ => isFalse nofun
  | .obj a, w => match w with
      | .obj b => have := decEqFields a b; decidable_of_iff (a = b) (by simp)
      | .null | .bool _ | .int _ | .float _ | .str _ | .arr _ => isFalse nofun

def decEqItems : (vs ws : List Json) → Decidable (vs = ws)
  | [], [] => isTrue rfl
  | [], _ :: _ => isFalse nofun
  | _ :: _, [] => isFalse nofun
  | v :: vs, w :: ws =>
      have := decEq v w
      have := decEqItems vs ws
      decidable_of_iff (v = w ∧ vs = ws) (by simp)

def decEqFields : (fs gs : List (Text × Json)) → Decidable (fs = gs)
  | [], [] => isTrue rfl
  | [], _ :: _ => isFalse nofun
  | _ :: _, [] => isFalse nofun
  | (k, v) :: fs, (l, w) :: gs =>
      have := decEq v w
      have := decEqFields fs gs
      decidable_of_iff (k = l ∧ v = w ∧ fs = gs) (by simp [and_assoc])

end

instance : DecidableEq Json := decEq

/-! ## Text -/

/-- One lower-case hexadecimal digit. -/
def hexDigit (n : Nat) : CodePoint :=
  if n % 16 < 10 then ⟨48 + n % 16, by omega⟩ else ⟨87 + n % 16, by omega⟩

def hex4 (n : Nat) : Text :=
  [hexDigit (n / 4096), hexDigit (n / 256), hexDigit (n / 16), hexDigit n]

/-- `\uXXXX` for one UTF-16 unit. -/
def unicodeEscape (unit : CodePoint) : Text :=
  CodePoint.ofChar '\\' :: CodePoint.ofChar 'u' :: hex4 unit.val

/-- The two-character escapes. -/
def shortEscape (c : CodePoint) : Option CodePoint :=
  if c = CodePoint.ofChar '"' then some (CodePoint.ofChar '"')
  else if c = CodePoint.ofChar '\\' then some (CodePoint.ofChar '\\')
  else if c = 8 then some (CodePoint.ofChar 'b')
  else if c = 9 then some (CodePoint.ofChar 't')
  else if c = 10 then some (CodePoint.ofChar 'n')
  else if c = 12 then some (CodePoint.ofChar 'f')
  else if c = 13 then some (CodePoint.ofChar 'r')
  else none

/-- One code point inside a string: outside printable ASCII it is written as one
UTF-16 unit, or as the two of a surrogate pair. -/
def escapeChar (c : CodePoint) : Text :=
  match shortEscape c with
  | some e => [CodePoint.ofChar '\\', e]
  | none =>
      if 0x20 ≤ c.val ∧ c.val ≤ 0x7E then [c]
      else if c.val < 0x10000 then unicodeEscape c
      else unicodeEscape (CodePoint.highSurrogate c) ++ unicodeEscape (CodePoint.lowSurrogate c)

def escapeText (t : Text) : Text := t.flatMap escapeChar

def renderText (t : Text) : Text :=
  CodePoint.ofChar '"' :: (escapeText t ++ [CodePoint.ofChar '"'])

def intLiteral (i : Int) : NumberLiteral := ⟨decide (i < 0), i.natAbs, none, none⟩

/-- `NaN`, `Infinity` and `-Infinity` are what `dumps` writes when it is allowed
to; the canonical encoders refuse such a value first. -/
def renderFloat (x : Float) : Text :=
  if x.isFinite then (reprLiteral x).render
  else if x.isNaN then txt "NaN"
  else if x < 0 then txt "-Infinity"
  else txt "Infinity"

mutual

/-- `json.dumps(v, separators=(",", ":"))`. -/
def render : Json → Text
  | .null => txt "null"
  | .bool true => txt "true"
  | .bool false => txt "false"
  | .int i => (intLiteral i).render
  | .float x => renderFloat x
  | .str t => renderText t
  | .arr [] => txt "[]"
  | .arr (v :: vs) => CodePoint.ofChar '[' :: (render v ++ renderItems vs)
  | .obj [] => txt "{}"
  | .obj ((k, v) :: fs) =>
      CodePoint.ofChar '{' :: (renderText k ++ CodePoint.ofChar ':' :: (render v ++ renderFields fs))

/-- The items after the first, and the closing bracket. -/
def renderItems : List Json → Text
  | [] => [CodePoint.ofChar ']']
  | v :: vs => CodePoint.ofChar ',' :: (render v ++ renderItems vs)

/-- The members after the first, and the closing brace. -/
def renderFields : List (Text × Json) → Text
  | [] => [CodePoint.ofChar '}']
  | (k, v) :: fs =>
      CodePoint.ofChar ',' :: (renderText k ++ CodePoint.ofChar ':' :: (render v ++ renderFields fs))

end

/-! ## Canonical order -/

/-- Members in key order, as `sort_keys` sorts them: by code points. -/
def sortFields (fs : List (Text × Json)) : List (Text × Json) :=
  fs.insertionSort fun a b => a.1 ≤ b.1

mutual

/-- The value with every object's members in key order. -/
def canon : Json → Json
  | .arr items => .arr (canonItems items)
  | .obj fields => .obj (sortFields (canonFields fields))
  | .null => .null
  | .bool b => .bool b
  | .int i => .int i
  | .float x => .float x
  | .str t => .str t

def canonItems : List Json → List Json
  | [] => []
  | v :: vs => canon v :: canonItems vs

def canonFields : List (Text × Json) → List (Text × Json)
  | [] => []
  | (k, v) :: fs => (k, canon v) :: canonFields fs

end

/-- `json.dumps(v, sort_keys=True, separators=(",", ":"))`. -/
def dumps (v : Json) : Text := render (canon v)

/-! ## Sorted members -/

def keys (fs : List (Text × Json)) : List Text := fs.map Prod.fst

theorem sortFields_perm (fs : List (Text × Json)) : (sortFields fs).Perm fs :=
  List.perm_insertionSort _ fs

theorem keys_sortFields_perm (fs : List (Text × Json)) : (keys (sortFields fs)).Perm (keys fs) :=
  (sortFields_perm fs).map Prod.fst

theorem canonItems_eq_map (vs : List Json) : canonItems vs = vs.map canon := by
  induction vs with
  | nil => rfl
  | cons v vs ih => simp [canonItems, ih]

theorem canonFields_eq_map (fs : List (Text × Json)) :
    canonFields fs = fs.map fun kv => (kv.1, canon kv.2) := by
  induction fs with
  | nil => rfl
  | cons kv fs ih => simp [canonFields, ih]

@[simp] theorem keys_canonFields (fs : List (Text × Json)) : keys (canonFields fs) = keys fs := by
  simp [keys, canonFields_eq_map]

theorem canonFields_sortFields (fs : List (Text × Json)) :
    canonFields (sortFields fs) = sortFields (canonFields fs) := by
  simp only [canonFields_eq_map, sortFields]
  exact List.map_insertionSort _ _ _ fs fun _ _ _ _ => Iff.rfl

theorem sortFields_sortFields (fs : List (Text × Json)) :
    sortFields (sortFields fs) = sortFields fs :=
  (List.pairwise_insertionSort _ fs).insertionSort_eq

theorem eq_of_key_eq {fs : List (Text × Json)} (distinct : (keys fs).Nodup)
    {a b : Text × Json} (ha : a ∈ fs) (hb : b ∈ fs) (same : a.1 = b.1) : a = b :=
  List.inj_on_of_nodup_map distinct ha hb same

/-- Members with distinct keys sort to one list, whatever order they came in. -/
theorem sortFields_eq_of_perm {fs gs : List (Text × Json)} (perm : fs.Perm gs)
    (distinct : (keys fs).Nodup) : sortFields fs = sortFields gs := by
  have both : (sortFields fs).Perm (sortFields gs) :=
    (sortFields_perm fs).trans (perm.trans (sortFields_perm gs).symm)
  refine both.eq_of_pairwise (fun a b ha hb ab ba => ?_)
    (List.pairwise_insertionSort _ fs) (List.pairwise_insertionSort _ gs)
  have ha' : a ∈ fs := (sortFields_perm fs).mem_iff.1 ha
  have hb' : b ∈ fs := perm.mem_iff.2 ((sortFields_perm gs).mem_iff.1 hb)
  exact eq_of_key_eq distinct ha' hb' (le_antisymm ab ba)

/-- The canonical form of an object does not depend on the order of its members. -/
theorem canon_obj_perm {fs gs : List (Text × Json)} (perm : fs.Perm gs)
    (distinct : (keys fs).Nodup) : canon (.obj fs) = canon (.obj gs) := by
  have mapped : (canonFields fs).Perm (canonFields gs) := by
    simpa only [canonFields_eq_map] using perm.map _
  simp only [canon, sortFields_eq_of_perm mapped (by simpa using distinct)]

mutual

theorem canon_canon : ∀ v : Json, canon (canon v) = canon v
  | .null | .bool _ | .int _ | .float _ | .str _ => rfl
  | .arr items => by simp only [canon, canonItems_canonItems items]
  | .obj fields => by
      simp only [canon, canonFields_sortFields, canonFields_canonFields fields,
        sortFields_sortFields]

theorem canonItems_canonItems : ∀ vs : List Json, canonItems (canonItems vs) = canonItems vs
  | [] => rfl
  | v :: vs => by simp only [canonItems, canon_canon v, canonItems_canonItems vs]

theorem canonFields_canonFields :
    ∀ fs : List (Text × Json), canonFields (canonFields fs) = canonFields fs
  | [] => rfl
  | (k, v) :: fs => by simp only [canonFields, canon_canon v, canonFields_canonFields fs]

end

/-! ## Values that can be written -/

/-- `sys.get_int_max_str_digits()` -/
def maxStrDigits : Nat := 4300

mutual

/-- Every object is a `dict`, and every number is finite. -/
def Plain : Json → Prop
  | .float x => x.isFinite = true
  | .arr items => PlainItems items
  | .obj fields => (keys fields).Nodup ∧ PlainFields fields
  | _ => True

def PlainItems : List Json → Prop
  | [] => True
  | v :: vs => Plain v ∧ PlainItems vs

def PlainFields : List (Text × Json) → Prop
  | [] => True
  | (_, v) :: fs => Plain v ∧ PlainFields fs

end

mutual

/-- Every number is finite. -/
def finite : Json → Bool
  | .float x => x.isFinite
  | .arr items => finiteItems items
  | .obj fields => finiteFields fields
  | _ => true

def finiteItems : List Json → Bool
  | [] => true
  | v :: vs => finite v && finiteItems vs

def finiteFields : List (Text × Json) → Bool
  | [] => true
  | (_, v) :: fs => finite v && finiteFields fs

end

mutual

/-- Every object is a `dict`. -/
def Distinct : Json → Prop
  | .arr items => DistinctItems items
  | .obj fields => (keys fields).Nodup ∧ DistinctFields fields
  | _ => True

def DistinctItems : List Json → Prop
  | [] => True
  | v :: vs => Distinct v ∧ DistinctItems vs

def DistinctFields : List (Text × Json) → Prop
  | [] => True
  | (_, v) :: fs => Distinct v ∧ DistinctFields fs

end

mutual

theorem plain_iff : ∀ v : Json, Plain v ↔ Distinct v ∧ finite v = true
  | .null | .bool _ | .int _ | .str _ => ⟨fun _ => ⟨trivial, rfl⟩, fun _ => trivial⟩
  | .float _ => ⟨fun plain => ⟨trivial, plain⟩, fun both => both.2⟩
  | .arr items => plainItems_iff items
  | .obj fields => by
      rw [Plain, Distinct, finite, plainFields_iff_distinct fields]
      exact and_assoc.symm

theorem plainItems_iff : ∀ vs : List Json,
    PlainItems vs ↔ DistinctItems vs ∧ finiteItems vs = true
  | [] => ⟨fun _ => ⟨trivial, rfl⟩, fun _ => trivial⟩
  | v :: vs => by
      rw [PlainItems, DistinctItems, finiteItems, plain_iff v, plainItems_iff vs,
        Bool.and_eq_true]
      exact and_and_and_comm

theorem plainFields_iff_distinct : ∀ fs : List (Text × Json),
    PlainFields fs ↔ DistinctFields fs ∧ finiteFields fs = true
  | [] => ⟨fun _ => ⟨trivial, rfl⟩, fun _ => trivial⟩
  | (_, v) :: fs => by
      rw [PlainFields, DistinctFields, finiteFields, plain_iff v, plainFields_iff_distinct fs,
        Bool.and_eq_true]
      exact and_and_and_comm

end

mutual

/-- No integer is past the digit limit; `dumps` raises on one that is. -/
def withinDigits : Json → Bool
  | .int i => (decimalDigits i.natAbs).length ≤ maxStrDigits
  | .arr items => withinDigitsItems items
  | .obj fields => withinDigitsFields fields
  | _ => true

def withinDigitsItems : List Json → Bool
  | [] => true
  | v :: vs => withinDigits v && withinDigitsItems vs

def withinDigitsFields : List (Text × Json) → Bool
  | [] => true
  | (_, v) :: fs => withinDigits v && withinDigitsFields fs

end

/-- `json.dumps(v, allow_nan=False)` writes the value. -/
def Printable (v : Json) : Prop := v.Plain ∧ v.withinDigits = true

mutual

/-- Every string and every key satisfies `P`. -/
def AllText (P : Text → Prop) : Json → Prop
  | .str t => P t
  | .arr items => AllTextItems P items
  | .obj fields => AllTextFields P fields
  | _ => True

def AllTextItems (P : Text → Prop) : List Json → Prop
  | [] => True
  | v :: vs => AllText P v ∧ AllTextItems P vs

def AllTextFields (P : Text → Prop) : List (Text × Json) → Prop
  | [] => True
  | (k, v) :: fs => P k ∧ AllText P v ∧ AllTextFields P fs

end

theorem plainFields_iff (fs : List (Text × Json)) :
    PlainFields fs ↔ ∀ kv ∈ fs, Plain kv.2 := by
  induction fs with
  | nil => simp [PlainFields]
  | cons kv fs ih => simp [PlainFields, ih]

theorem distinctFields_iff (fs : List (Text × Json)) :
    DistinctFields fs ↔ ∀ kv ∈ fs, Distinct kv.2 := by
  induction fs with
  | nil => simp [DistinctFields]
  | cons kv fs ih => simp [DistinctFields, ih]

theorem withinDigitsFields_iff (fs : List (Text × Json)) :
    withinDigitsFields fs = true ↔ ∀ kv ∈ fs, withinDigits kv.2 = true := by
  induction fs with
  | nil => simp [withinDigitsFields]
  | cons kv fs ih => simp [withinDigitsFields, ih]

theorem allTextFields_iff (P : Text → Prop) (fs : List (Text × Json)) :
    AllTextFields P fs ↔ ∀ kv ∈ fs, P kv.1 ∧ AllText P kv.2 := by
  induction fs with
  | nil => simp [AllTextFields]
  | cons kv fs ih => simp [AllTextFields, ih, and_assoc]

theorem plainFields_perm {fs gs : List (Text × Json)} (perm : fs.Perm gs) :
    PlainFields fs ↔ PlainFields gs := by
  simp only [plainFields_iff, perm.mem_iff]

theorem withinDigitsFields_perm {fs gs : List (Text × Json)} (perm : fs.Perm gs) :
    withinDigitsFields fs = withinDigitsFields gs := by
  rw [Bool.eq_iff_iff, withinDigitsFields_iff, withinDigitsFields_iff]
  simp only [perm.mem_iff]

theorem allTextFields_perm (P : Text → Prop) {fs gs : List (Text × Json)} (perm : fs.Perm gs) :
    AllTextFields P fs ↔ AllTextFields P gs := by
  simp only [allTextFields_iff, perm.mem_iff]

mutual

theorem plain_canon : ∀ v : Json, Plain (canon v) ↔ Plain v
  | .null | .bool _ | .int _ | .float _ | .str _ => Iff.rfl
  | .arr items => plainItems_canon items
  | .obj fields => by
      have perm := keys_sortFields_perm (canonFields fields)
      simp only [canon, Plain, plainFields_perm (sortFields_perm _), plainFields_canon fields,
        perm.nodup_iff, keys_canonFields]

theorem plainItems_canon : ∀ vs : List Json, PlainItems (canonItems vs) ↔ PlainItems vs
  | [] => Iff.rfl
  | v :: vs => and_congr (plain_canon v) (plainItems_canon vs)

theorem plainFields_canon :
    ∀ fs : List (Text × Json), PlainFields (canonFields fs) ↔ PlainFields fs
  | [] => Iff.rfl
  | (_, v) :: fs => and_congr (plain_canon v) (plainFields_canon fs)

end

mutual

theorem withinDigits_canon : ∀ v : Json, withinDigits (canon v) = withinDigits v
  | .null | .bool _ | .int _ | .float _ | .str _ => rfl
  | .arr items => withinDigitsItems_canon items
  | .obj fields => by
      simp only [canon, withinDigits, withinDigitsFields_perm (sortFields_perm _),
        withinDigitsFields_canon fields]

theorem withinDigitsItems_canon :
    ∀ vs : List Json, withinDigitsItems (canonItems vs) = withinDigitsItems vs
  | [] => rfl
  | v :: vs => congrArg₂ and (withinDigits_canon v) (withinDigitsItems_canon vs)

theorem withinDigitsFields_canon :
    ∀ fs : List (Text × Json), withinDigitsFields (canonFields fs) = withinDigitsFields fs
  | [] => rfl
  | (_, v) :: fs => congrArg₂ and (withinDigits_canon v) (withinDigitsFields_canon fs)

end

theorem finiteFields_iff (fs : List (Text × Json)) :
    finiteFields fs = true ↔ ∀ kv ∈ fs, finite kv.2 = true := by
  induction fs with
  | nil => simp [finiteFields]
  | cons kv fs ih => simp [finiteFields, ih]

theorem finiteFields_perm {fs gs : List (Text × Json)} (perm : fs.Perm gs) :
    finiteFields fs = finiteFields gs := by
  rw [Bool.eq_iff_iff, finiteFields_iff, finiteFields_iff]
  simp only [perm.mem_iff]

mutual

theorem finite_canon : ∀ v : Json, finite (canon v) = finite v
  | .null | .bool _ | .int _ | .float _ | .str _ => rfl
  | .arr items => finiteItems_canon items
  | .obj fields => by
      simp only [canon, finite, finiteFields_perm (sortFields_perm _), finiteFields_canon fields]

theorem finiteItems_canon : ∀ vs : List Json, finiteItems (canonItems vs) = finiteItems vs
  | [] => rfl
  | v :: vs => congrArg₂ and (finite_canon v) (finiteItems_canon vs)

theorem finiteFields_canon :
    ∀ fs : List (Text × Json), finiteFields (canonFields fs) = finiteFields fs
  | [] => rfl
  | (_, v) :: fs => congrArg₂ and (finite_canon v) (finiteFields_canon fs)

end

theorem printable_canon (v : Json) : Printable (canon v) ↔ Printable v := by
  rw [Printable, Printable, plain_canon, withinDigits_canon]

mutual

theorem allText_canon (P : Text → Prop) : ∀ v : Json, AllText P (canon v) ↔ AllText P v
  | .null | .bool _ | .int _ | .float _ | .str _ => Iff.rfl
  | .arr items => allTextItems_canon P items
  | .obj fields => by
      simp only [canon, AllText, allTextFields_perm P (sortFields_perm _),
        allTextFields_canon P fields]

theorem allTextItems_canon (P : Text → Prop) :
    ∀ vs : List Json, AllTextItems P (canonItems vs) ↔ AllTextItems P vs
  | [] => Iff.rfl
  | v :: vs => and_congr (allText_canon P v) (allTextItems_canon P vs)

theorem allTextFields_canon (P : Text → Prop) :
    ∀ fs : List (Text × Json), AllTextFields P (canonFields fs) ↔ AllTextFields P fs
  | [] => Iff.rfl
  | (_, v) :: fs =>
      and_congr Iff.rfl (and_congr (allText_canon P v) (allTextFields_canon P fs))

end

/-! ## Sizes -/

/-- The characters one member takes, its separator included. -/
def memberLength (kv : Text × Json) : Nat :=
  (renderText kv.1).length + (render kv.2).length + 2

theorem length_renderFields (fs : List (Text × Json)) :
    (renderFields fs).length = (fs.map memberLength).sum + 1 := by
  induction fs with
  | nil => rfl
  | cons kv fs ih =>
      simp only [renderFields, List.length_cons, List.length_append, ih, List.map_cons,
        List.sum_cons, memberLength]
      omega

theorem length_render_obj {fs : List (Text × Json)} (nonempty : fs ≠ []) :
    (render (.obj fs)).length = (fs.map memberLength).sum + 1 := by
  cases fs with
  | nil => exact absurd rfl nonempty
  | cons kv fs =>
      simp only [render, List.length_cons, List.length_append, length_renderFields,
        List.map_cons, List.sum_cons, memberLength]
      omega

theorem length_render_obj_perm {fs gs : List (Text × Json)} (perm : fs.Perm gs) :
    (render (.obj fs)).length = (render (.obj gs)).length := by
  by_cases empty : fs = []
  · subst empty
    rw [List.nil_perm.1 perm]
  · have nonempty : gs ≠ [] := fun h => empty (List.perm_nil.1 (h ▸ perm))
    rw [length_render_obj empty, length_render_obj nonempty, (perm.map _).sum_eq]

mutual

/-- Sorting members changes no size. -/
theorem length_render_canon : ∀ v : Json, (render (canon v)).length = (render v).length
  | .null | .bool _ | .int _ | .float _ | .str _ => rfl
  | .arr [] => rfl
  | .arr (v :: vs) => by
      simp only [canon, canonItems, render, List.length_cons, List.length_append,
        length_render_canon v, length_renderItems_canon vs]
  | .obj [] => rfl
  | .obj ((k, v) :: fs) => by
      rw [canon, length_render_obj_perm (sortFields_perm _), canonFields,
        length_render_obj (by simp), length_render_obj (by simp)]
      simp only [List.map_cons, List.sum_cons, memberLength, length_render_canon v,
        memberLengths_canon fs]

theorem length_renderItems_canon :
    ∀ vs : List Json, (renderItems (canonItems vs)).length = (renderItems vs).length
  | [] => rfl
  | v :: vs => by
      simp only [canonItems, renderItems, List.length_cons, List.length_append,
        length_render_canon v, length_renderItems_canon vs]

theorem memberLengths_canon : ∀ fs : List (Text × Json),
    ((canonFields fs).map memberLength).sum = (fs.map memberLength).sum
  | [] => rfl
  | (k, v) :: fs => by
      simp only [canonFields, List.map_cons, List.sum_cons, memberLength, length_render_canon v,
        memberLengths_canon fs]

end

/-! ## Characters -/

theorem graphic_hexDigit (n : Nat) : 0x20 ≤ (hexDigit n).val ∧ (hexDigit n).val ≤ 0x7E := by
  unfold hexDigit
  split <;> simp only <;> omega

theorem graphic_unicodeEscape (u : CodePoint) : Graphic (unicodeEscape u) := by
  simp only [unicodeEscape, hex4, graphic_cons, graphic_hexDigit, true_and]
  exact ⟨by decide, by decide, graphic_nil⟩

theorem graphic_shortEscape {c e : CodePoint} (h : shortEscape c = some e) : 0x20 ≤ e.val ∧ e.val ≤ 0x7E := by
  unfold shortEscape at h
  split_ifs at h <;> cases h <;> decide

theorem graphic_escapeChar (c : CodePoint) : Graphic (escapeChar c) := by
  unfold escapeChar
  split
  · rename_i e short
    exact graphic_cons.2 ⟨by decide, graphic_cons.2 ⟨graphic_shortEscape short, graphic_nil⟩⟩
  · split
    · rename_i printable
      exact graphic_cons.2 ⟨by omega, graphic_nil⟩
    · split
      · exact graphic_unicodeEscape _
      · exact graphic_append.2 ⟨graphic_unicodeEscape _, graphic_unicodeEscape _⟩

theorem graphic_renderText (t : Text) : Graphic (renderText t) := by
  have body : Graphic (escapeText t) := by
    intro c hc
    obtain ⟨d, -, member⟩ := List.mem_flatMap.1 hc
    exact graphic_escapeChar d c member
  exact graphic_cons.2 ⟨by decide, graphic_append.2 ⟨body, graphic_cons.2 ⟨by decide, graphic_nil⟩⟩⟩

mutual

/-- Everything `dumps` writes is printable ASCII. -/
theorem graphic_render : ∀ v : Json, Graphic (render v)
  | .null => graphic_of_all rfl
  | .bool true => graphic_of_all rfl
  | .bool false => graphic_of_all rfl
  | .int i => Theory.graphic_render _
  | .float x => by
      simp only [render, renderFloat]
      split_ifs
      · exact Theory.graphic_render _
      · exact graphic_of_all rfl
      · exact graphic_of_all rfl
      · exact graphic_of_all rfl
  | .str t => graphic_renderText t
  | .arr [] => graphic_of_all rfl
  | .arr (v :: vs) =>
      graphic_cons.2 ⟨by decide, graphic_append.2 ⟨graphic_render v, graphic_renderItems vs⟩⟩
  | .obj [] => graphic_of_all rfl
  | .obj ((k, v) :: fs) =>
      graphic_cons.2 ⟨by decide, graphic_append.2 ⟨graphic_renderText k,
        graphic_cons.2 ⟨by decide, graphic_append.2 ⟨graphic_render v, graphic_renderFields fs⟩⟩⟩⟩

theorem graphic_renderItems : ∀ vs : List Json, Graphic (renderItems vs)
  | [] => graphic_cons.2 ⟨by decide, graphic_nil⟩
  | v :: vs => graphic_cons.2 ⟨by decide, graphic_append.2 ⟨graphic_render v, graphic_renderItems vs⟩⟩

theorem graphic_renderFields : ∀ fs : List (Text × Json), Graphic (renderFields fs)
  | [] => graphic_cons.2 ⟨by decide, graphic_nil⟩
  | (k, v) :: fs =>
      graphic_cons.2 ⟨by decide, graphic_append.2 ⟨graphic_renderText k,
        graphic_cons.2 ⟨by decide, graphic_append.2 ⟨graphic_render v, graphic_renderFields fs⟩⟩⟩⟩

end

example : dumps (.obj [(txt "b", .arr [.int (-3), .null]), (txt "a", .str (txt "x\n"))]) =
    txt "\x7b\"a\":\"x\\n\",\"b\":[-3,null]\x7d" := by decide +kernel

end Json

end InstrumentBench.Theory
