/-
# Theory.JsonUnicode -- JSON text outside ASCII

With `ensure_ascii=False` the writer leaves everything but quotes, backslashes and
controls as it is.  Such text is read back as the very value it was written for
(`loads_dumpsUnicode`), surrogates included; only the UTF-8 encoder after it refuses
those (`scalarText_dumpsUnicode`).
-/
import InstrumentBench.Theory.JsonParse
import InstrumentBench.Theory.PyText

namespace InstrumentBench.Theory.Json

set_option autoImplicit false

open InstrumentBench.Theory.PyText

/-! ## Strings -/

/-- One code point inside a string that may hold any other. -/
def escapeControl (c : CodePoint) : Text :=
  match shortEscape c with
  | some e => [CodePoint.ofChar '\\', e]
  | none => if c.val < 0x20 then unicodeEscape c else [c]

def controlText (t : Text) : Text := t.flatMap escapeControl

theorem scanChar_escapeControl (c : CodePoint) (rest : Text) :
    scanChar (escapeControl c ++ rest) = .ok (some c, rest) := by
  unfold escapeControl
  split
  · rename_i e short
    obtain ⟨notU, value⟩ := shortValue?_shortEscape short
    have notQuote : CodePoint.ofChar '\\' ≠ CodePoint.ofChar '"' := by decide
    simp only [List.cons_append, List.nil_append, scanChar, notQuote, if_false, if_true, notU, value]
  · rename_i plain
    obtain ⟨notQuote, notSlash⟩ := not_special_of_shortEscape_none plain
    split
    · rename_i control
      have notHigh : ¬ c.isHighSurrogate = true := by
        rw [CodePoint.isHighSurrogate_iff]
        omega
      rw [scanChar_unicodeEscape (by omega), if_neg notHigh]
    · rename_i printable
      simp only [List.cons_append, List.nil_append, scanChar]
      rw [if_neg notQuote, if_neg notSlash, if_neg printable]

theorem scanString_controlText (t rest : Text) (fuel : Nat) (enough : t.length < fuel) :
    scanString fuel (controlText t ++ CodePoint.ofChar '"' :: rest) = .ok (t, rest) := by
  induction t generalizing fuel with
  | nil =>
      obtain ⟨fuel, rfl⟩ : ∃ n, fuel = n + 1 := ⟨fuel - 1, by omega⟩
      rfl
  | cons c t ih =>
      obtain ⟨fuel, rfl⟩ : ∃ n, fuel = n + 1 := ⟨fuel - 1, by omega⟩
      rw [List.length_cons] at enough
      have first := scanChar_escapeControl c (controlText t ++ CodePoint.ofChar '"' :: rest)
      rw [show controlText (c :: t) = escapeControl c ++ controlText t from rfl,
        List.append_assoc, scanString, first]
      simp only [ih fuel (by omega)]

theorem length_le_controlText (t : Text) : t.length ≤ (controlText t).length := by
  induction t with
  | nil => simp
  | cons c t ih =>
      have one : 1 ≤ (escapeControl c).length := by
        unfold escapeControl
        split
        · simp
        · split <;> simp [unicodeEscape]
      rw [show controlText (c :: t) = escapeControl c ++ controlText t from rfl,
        List.length_append, List.length_cons]
      omega

/-- Strings as they are written without `ensure_ascii`. -/
def verbatim : Quoting where
  quote t := CodePoint.ofChar '"' :: (controlText t ++ [CodePoint.ofChar '"'])
  read t := t
  opens t rest := by
    refine ⟨controlText t ++ CodePoint.ofChar '"' :: rest, by simp, ?_⟩
    apply scanString_controlText
    have := length_le_controlText t
    simp only [List.length_append, List.length_cons]
    omega

/-! ## Values -/

mutual

/-- A value read back as its strings are is the value, or it is refused. -/
theorem verbatim_reread : ∀ v : Json, v.Plain → verbatim.reread v = .ok v
  | .null, _ | .bool _, _ | .int _, _ | .str _, _ => rfl
  | .float x, plain => if_pos plain
  | .arr items, plain => by
      rw [Quoting.reread, verbatim_rereadItems items plain]
  | .obj fields, plain => by
      rw [Quoting.reread, verbatim_rereadFields fields plain.2]
      exact uniqueObject_of_nodup plain.1

theorem verbatim_rereadItems : ∀ vs : List Json, PlainItems vs → verbatim.rereadItems vs = .ok vs
  | [], _ => rfl
  | v :: vs, plain => by
      simp only [Quoting.rereadItems, verbatim_reread v plain.1, verbatim_rereadItems vs plain.2]

theorem verbatim_rereadFields :
    ∀ fs : List (Text × Json), PlainFields fs → verbatim.rereadFields fs = .ok fs
  | [], _ => rfl
  | (k, v) :: fs, plain => by
      simp only [Quoting.rereadFields, verbatim_reread v plain.1, verbatim_rereadFields fs plain.2]
      rfl

end

/-! ## Text that encodes -/

theorem scalarText_quote {t : Text} (scalar : ScalarText t) : ScalarText (verbatim.quote t) := by
  have quote : Scalar (CodePoint.ofChar '"') := by decide
  have body : ScalarText (controlText t) := by
    intro c member
    obtain ⟨d, inside, written⟩ := List.mem_flatMap.1 member
    unfold escapeControl at written
    split at written
    · rename_i e short
      have graphic : Graphic [CodePoint.ofChar '\\', e] :=
        graphic_cons.2 ⟨by decide, graphic_cons.2 ⟨graphic_shortEscape short, graphic_nil⟩⟩
      exact scalarText_of_graphic graphic c written
    · split at written
      · exact scalarText_of_graphic (graphic_unicodeEscape d) c written
      · cases List.mem_singleton.1 written
        exact scalar c inside
  exact scalarText_cons.2 ⟨quote, scalarText_append.2
    ⟨body, scalarText_cons.2 ⟨quote, scalarText_nil⟩⟩⟩

mutual

/-- A value whose strings encode renders to text that encodes. -/
theorem scalarText_render : ∀ v : Json, AllText ScalarText v → ScalarText (verbatim.render v)
  | .null, _ | .bool true, _ | .bool false, _ => scalarText_of_graphic (graphic_of_all rfl)
  | .int i, _ => scalarText_of_graphic (graphic_render (.int i))
  | .float x, _ => scalarText_of_graphic (graphic_render (.float x))
  | .str t, scalar => scalarText_quote scalar
  | .arr [], _ => scalarText_of_graphic (graphic_of_all rfl)
  | .arr (v :: vs), scalar =>
      scalarText_cons.2 ⟨by decide, scalarText_append.2
        ⟨scalarText_render v scalar.1, scalarText_renderItems vs scalar.2⟩⟩
  | .obj [], _ => scalarText_of_graphic (graphic_of_all rfl)
  | .obj ((k, v) :: fs), scalar =>
      scalarText_cons.2 ⟨by decide, scalarText_append.2 ⟨scalarText_quote scalar.1,
        scalarText_cons.2 ⟨by decide, scalarText_append.2
          ⟨scalarText_render v scalar.2.1, scalarText_renderFields fs scalar.2.2⟩⟩⟩⟩

theorem scalarText_renderItems :
    ∀ vs : List Json, AllTextItems ScalarText vs → ScalarText (verbatim.renderItems vs)
  | [], _ => scalarText_cons.2 ⟨by decide, scalarText_nil⟩
  | v :: vs, scalar =>
      scalarText_cons.2 ⟨by decide, scalarText_append.2
        ⟨scalarText_render v scalar.1, scalarText_renderItems vs scalar.2⟩⟩

theorem scalarText_renderFields :
    ∀ fs : List (Text × Json), AllTextFields ScalarText fs → ScalarText (verbatim.renderFields fs)
  | [], _ => scalarText_cons.2 ⟨by decide, scalarText_nil⟩
  | (k, v) :: fs, scalar =>
      scalarText_cons.2 ⟨by decide, scalarText_append.2 ⟨scalarText_quote scalar.1,
        scalarText_cons.2 ⟨by decide, scalarText_append.2
          ⟨scalarText_render v scalar.2.1, scalarText_renderFields fs scalar.2.2⟩⟩⟩⟩

end

/-! ## Dumped text -/

/-- `json.dumps(v, ensure_ascii=False, sort_keys=True, separators=(",", ":"))`, where it
raises nothing. -/
def dumpsUnicode (v : Json) : Text := verbatim.render (canon v)

/-- **Reading text outside ASCII.** -/
theorem loads_dumpsUnicode {v : Json} (printable : v.Printable) :
    loads (dumpsUnicode v) = .ok (canon v) := by
  have canonical : (canon v).Printable := (printable_canon v).2 printable
  rw [dumpsUnicode, verbatim.loads_render canonical.2, verbatim_reread _ canonical.1]

theorem scalarText_dumpsUnicode {v : Json} (scalar : v.AllText ScalarText) :
    ScalarText (dumpsUnicode v) :=
  scalarText_render _ ((allText_canon ScalarText v).2 scalar)

/-! ## Shorter integers -/

mutual

/-- No integer has more than `limit` digits. -/
def integersWithin (limit : Nat) : Json → Bool
  | .int i => (decimalDigits i.natAbs).length ≤ limit
  | .arr items => integersWithinItems limit items
  | .obj fields => integersWithinFields limit fields
  | _ => true

def integersWithinItems (limit : Nat) : List Json → Bool
  | [] => true
  | v :: vs => integersWithin limit v && integersWithinItems limit vs

def integersWithinFields (limit : Nat) : List (Text × Json) → Bool
  | [] => true
  | (_, v) :: fs => integersWithin limit v && integersWithinFields limit fs

end

theorem integersWithinFields_iff (limit : Nat) (fs : List (Text × Json)) :
    integersWithinFields limit fs = true ↔ ∀ kv ∈ fs, integersWithin limit kv.2 = true := by
  induction fs with
  | nil => simp [integersWithinFields]
  | cons kv fs ih => simp [integersWithinFields, ih]

mutual

theorem integersWithin_canon (limit : Nat) :
    ∀ v : Json, integersWithin limit (canon v) = integersWithin limit v
  | .null | .bool _ | .int _ | .float _ | .str _ => rfl
  | .arr items => integersWithinItems_canon limit items
  | .obj fields => by
      rw [canon, integersWithin, integersWithin, ← integersWithinFields_canon limit fields,
        Bool.eq_iff_iff, integersWithinFields_iff, integersWithinFields_iff]
      simp only [(sortFields_perm _).mem_iff]

theorem integersWithinItems_canon (limit : Nat) :
    ∀ vs : List Json, integersWithinItems limit (canonItems vs) = integersWithinItems limit vs
  | [] => rfl
  | v :: vs => congrArg₂ and (integersWithin_canon limit v) (integersWithinItems_canon limit vs)

theorem integersWithinFields_canon (limit : Nat) :
    ∀ fs : List (Text × Json),
      integersWithinFields limit (canonFields fs) = integersWithinFields limit fs
  | [] => rfl
  | (_, v) :: fs =>
      congrArg₂ and (integersWithin_canon limit v) (integersWithinFields_canon limit fs)

end

mutual

/-- Integers within a shorter limit are within the interpreter's. -/
theorem withinDigits_of_integersWithin {limit : Nat} (shorter : limit ≤ maxStrDigits) :
    ∀ v : Json, integersWithin limit v = true → withinDigits v = true
  | .null, _ | .bool _, _ | .float _, _ | .str _, _ => rfl
  | .int i, within => by
      simp only [integersWithin, decide_eq_true_eq] at within
      simp only [withinDigits, decide_eq_true_eq]
      omega
  | .arr items, within => withinDigitsItems_of_integersWithin shorter items within
  | .obj fields, within => withinDigitsFields_of_integersWithin shorter fields within

theorem withinDigitsItems_of_integersWithin {limit : Nat} (shorter : limit ≤ maxStrDigits) :
    ∀ vs : List Json, integersWithinItems limit vs = true → withinDigitsItems vs = true
  | [], _ => rfl
  | v :: vs, within => by
      simp only [integersWithinItems, Bool.and_eq_true] at within
      simp only [withinDigitsItems, Bool.and_eq_true]
      exact ⟨withinDigits_of_integersWithin shorter v within.1,
        withinDigitsItems_of_integersWithin shorter vs within.2⟩

theorem withinDigitsFields_of_integersWithin {limit : Nat} (shorter : limit ≤ maxStrDigits) :
    ∀ fs : List (Text × Json), integersWithinFields limit fs = true → withinDigitsFields fs = true
  | [], _ => rfl
  | (_, v) :: fs, within => by
      simp only [integersWithinFields, Bool.and_eq_true] at within
      simp only [withinDigitsFields, Bool.and_eq_true]
      exact ⟨withinDigits_of_integersWithin shorter v within.1,
        withinDigitsFields_of_integersWithin shorter fs within.2⟩

end

end InstrumentBench.Theory.Json
