/-
# Theory.JsonInjective -- a rendered value determines the value

`json.dumps` writes a surrogate pair that stands in a text like the character it
spells, and nothing else is lost: `joined v` joins those pairs, and two values with
the same text are equal once joined.

* `render_determines`: the text of a value, with anything after it that cannot go on
  with a number, determines the joined value and what follows;
* `joined_of_render`: the case with nothing after it.

The proof follows the two values.  `render_shape` reads what kind of value it is from
the first character, so that only values of one kind are compared.
-/
import InstrumentBench.Theory.JsonParse

namespace InstrumentBench.Theory

set_option autoImplicit false

/-! ## Floats that are not finite -/

namespace Binary64

open Float.Model

theorem unpack_infinity {b : BitVec Format.binary64.numBits} {s : UnpackedFloat.Sign}
    (unpacked : UnpackedFloat.unpack Format.binary64 b = .infinity s) :
    UnpackedFloat.pack Format.binary64 (.infinity s) = b := by
  by_cases last : UnpackedFloat.unpackExponent b = -1#11
  · rw [unpack_last last] at unpacked
    by_cases empty : UnpackedFloat.unpackMantissa b = 0#52
    · rw [if_pos empty] at unpacked
      cases unpacked
      have fields := packComponents_fields b
      rw [last, empty] at fields
      exact fields
    · rw [if_neg empty] at unpacked
      cases unpacked
  · rcases unpack_below last with found | ⟨m, e, h, found, -⟩
    · rw [found] at unpacked
      cases unpacked
    · rw [found] at unpacked
      cases unpacked

/-- There is one `NaN`. -/
theorem unpack_notANumber {b : BitVec Format.binary64.numBits} (valid : Format.binary64.Valid b)
    (unpacked : UnpackedFloat.unpack Format.binary64 b = .notANumber) :
    UnpackedFloat.pack Format.binary64 .notANumber = b := by
  by_cases last : UnpackedFloat.unpackExponent b = -1#11
  · rw [unpack_last last] at unpacked
    by_cases empty : UnpackedFloat.unpackMantissa b = 0#52
    · rw [if_pos empty] at unpacked
      cases unpacked
    · exact (valid.eq_packedNaN last empty).symm
  · rcases unpack_below last with found | ⟨m, e, h, found, -⟩
    · rw [found] at unpacked
      cases unpacked
    · rw [found] at unpacked
      cases unpacked

/-- A float that is not finite is known by what it unpacks to. -/
theorem eq_of_unpack {x y : Float} (infinite : x.isFinite = false)
    (same : x.toModel.unpack = y.toModel.unpack) : x = y := by
  obtain ⟨bits, valid⟩ := x
  obtain ⟨bits', valid'⟩ := y
  have packs : bits.toBitVec = bits'.toBitVec := by
    cases unpacked : UnpackedFloat.unpack Format.binary64 bits.toBitVec with
    | finite s m e h =>
        have finite : UnpackedFloat.isFinite (.finite s m e h) = false := unpacked ▸ infinite
        cases finite
    | zero s =>
        have finite : UnpackedFloat.isFinite (.zero s) = false := unpacked ▸ infinite
        cases finite
    | infinity s =>
        have unpacked' : UnpackedFloat.unpack Format.binary64 bits'.toBitVec = .infinity s :=
          same.symm.trans unpacked
        rw [← unpack_infinity unpacked, unpack_infinity unpacked']
    | notANumber =>
        have unpacked' : UnpackedFloat.unpack Format.binary64 bits'.toBitVec = .notANumber :=
          same.symm.trans unpacked
        rw [← unpack_notANumber valid unpacked, unpack_notANumber valid' unpacked']
  obtain rfl := UInt64.toBitVec_inj.1 packs
  rfl

end Binary64

namespace Json

mutual

/-- The value with the surrogate pairs of its texts joined. -/
def joined : Json → Json
  | .str t => .str (joinSurrogates t)
  | .arr items => .arr (joinedItems items)
  | .obj fields => .obj (joinedFields fields)
  | .null => .null
  | .bool b => .bool b
  | .int i => .int i
  | .float x => .float x

def joinedItems : List Json → List Json
  | [] => []
  | v :: vs => joined v :: joinedItems vs

def joinedFields : List (Text × Json) → List (Text × Json)
  | [] => []
  | (k, v) :: fs => (joinSurrogates k, joined v) :: joinedFields fs

end

/-! ## Numbers -/

/-- What a float that is not finite unpacks to, by its constant. -/
theorem constantName_cases {x : Float} (infinite : x.isFinite = false) :
    (x.toModel.unpack = .notANumber ∧ constantName x = "NaN") ∨
      (x.toModel.unpack = .infinity .negative ∧ constantName x = "-Infinity") ∨
      (x.toModel.unpack = .infinity .positive ∧ constantName x = "Infinity") := by
  have finite : x.toModel.unpack.isFinite = false := infinite
  have nan : x.isNaN = x.toModel.unpack.isNaN := rfl
  have below : x < 0 ↔ x.toModel.unpack.lt (0 : Float).toModel.unpack = true :=
    decide_eq_true_iff
  have zero : (0 : Float).toModel.unpack = .zero .positive := rfl
  rw [zero] at below
  cases unpacked : x.toModel.unpack with
  | finite s m e h =>
      rw [unpacked] at finite
      cases finite
  | zero s =>
      rw [unpacked] at finite
      cases finite
  | notANumber =>
      rw [unpacked] at nan
      have number : x.isNaN = true := nan
      exact Or.inl ⟨rfl, by rw [constantName, if_pos number]⟩
  | infinity s =>
      rw [unpacked] at nan below
      have number : ¬ x.isNaN = true := by
        intro yes
        rw [nan] at yes
        cases yes
      cases s with
      | negative => exact Or.inr (Or.inl ⟨rfl, by
          rw [constantName, if_neg number, if_pos (below.2 rfl)]⟩)
      | positive => exact Or.inr (Or.inr ⟨rfl, by
          have above : ¬ x < 0 := fun negative => nomatch below.1 negative
          rw [constantName, if_neg number, if_neg above]⟩)

/-- A float that is not finite is known by its constant. -/
theorem eq_of_constantName {x y : Float} (infinite : x.isFinite = false)
    (infinite' : y.isFinite = false) (same : constantName x = constantName y) : x = y := by
  apply Binary64.eq_of_unpack infinite
  rcases constantName_cases infinite with ⟨unpacked, name⟩ | ⟨unpacked, name⟩ | ⟨unpacked, name⟩ <;>
    rcases constantName_cases infinite' with
      ⟨unpacked', name'⟩ | ⟨unpacked', name'⟩ | ⟨unpacked', name'⟩ <;>
    rw [name, name'] at same <;> simp_all

theorem scanNumber_constant (x : Float) (rest : Text) :
    scanNumber (txt (constantName x) ++ rest) = none := by
  unfold constantName
  split
  · rfl
  · split <;> rfl

/-- A number is written as a literal or as a constant. -/
theorem renderFloat_cases (x : Float) :
    (x.isFinite = true ∧ renderFloat x = (reprLiteral x).render) ∨
      (x.isFinite = false ∧ renderFloat x = txt (constantName x)) := by
  cases finite : x.isFinite with
  | true => exact Or.inl ⟨rfl, by simp [renderFloat, finite]⟩
  | false =>
      refine Or.inr ⟨rfl, ?_⟩
      simp only [renderFloat, finite, constantName]
      split_ifs <;> simp_all

theorem literal_determined {l m : NumberLiteral} {rest rest' : Text} (ends : NumberEnd rest)
    (ends' : NumberEnd rest') (same : l.render ++ rest = m.render ++ rest') :
    l = m ∧ rest = rest' := by
  have scanned := scanNumber_render l ends
  rw [same, scanNumber_render m ends'] at scanned
  cases scanned
  exact ⟨rfl, rfl⟩

theorem literal_ne_constant {l : NumberLiteral} {x : Float} {rest rest' : Text}
    (ends : NumberEnd rest) : l.render ++ rest ≠ txt (constantName x) ++ rest' := by
  intro same
  have scanned := scanNumber_render l ends
  rw [same, scanNumber_constant] at scanned
  cases scanned

theorem constant_determined {x y : Float} {rest rest' : Text} (infinite : x.isFinite = false)
    (infinite' : y.isFinite = false)
    (same : txt (constantName x) ++ rest = txt (constantName y) ++ rest') :
    x = y ∧ rest = rest' := by
  have names : constantName x = constantName y ∧ rest = rest' := by
    rcases constantName_cases infinite with ⟨-, name⟩ | ⟨-, name⟩ | ⟨-, name⟩ <;>
      rcases constantName_cases infinite' with ⟨-, name'⟩ | ⟨-, name'⟩ | ⟨-, name'⟩ <;>
      rw [name, name'] at same ⊢ <;> simp_all [txt, CodePoint.ofChar]
  exact ⟨eq_of_constantName infinite infinite' names.1, names.2⟩

theorem intLiteral_injective {i j : Int} (same : intLiteral i = intLiteral j) : i = j := by
  simp only [intLiteral, NumberLiteral.mk.injEq, decide_eq_decide] at same
  omega

theorem intLiteral_ne_repr {i : Int} {x : Float} (finite : x.isFinite = true) :
    intLiteral i ≠ reprLiteral x := by
  intro same
  have float := reprLiteral_isFloat finite
  rw [← same] at float
  cases float

theorem renderFloat_determined {x y : Float} {rest rest' : Text} (ends : NumberEnd rest)
    (ends' : NumberEnd rest') (same : renderFloat x ++ rest = renderFloat y ++ rest') :
    x = y ∧ rest = rest' := by
  rcases renderFloat_cases x with ⟨finite, written⟩ | ⟨infinite, written⟩ <;>
    rcases renderFloat_cases y with ⟨finite', written'⟩ | ⟨infinite', written'⟩ <;>
    rw [written, written'] at same
  · obtain ⟨literals, rests⟩ := literal_determined ends ends' same
    refine ⟨?_, rests⟩
    rw [← reprLiteral_toFloat finite, literals, reprLiteral_toFloat finite']
  · exact absurd same (literal_ne_constant ends)
  · exact absurd same.symm (literal_ne_constant ends')
  · exact constant_determined infinite infinite' same

theorem renderFloat_ne_int {x : Float} {i : Int} {rest rest' : Text} (ends : NumberEnd rest)
    (ends' : NumberEnd rest') : renderFloat x ++ rest ≠ (intLiteral i).render ++ rest' := by
  intro same
  rcases renderFloat_cases x with ⟨finite, written⟩ | ⟨-, written⟩ <;> rw [written] at same
  · exact intLiteral_ne_repr finite (literal_determined ends ends' same).1.symm
  · exact literal_ne_constant ends' same.symm

/-! ## Texts -/

theorem renderText_determined {t u rest rest' : Text}
    (same : renderText t ++ rest = renderText u ++ rest') :
    joinSurrogates t = joinSurrogates u ∧ rest = rest' := by
  have opened : escapeText t ++ CodePoint.ofChar '"' :: rest =
      escapeText u ++ CodePoint.ofChar '"' :: rest' := by simpa [renderText] using same
  have read := scanString_renderText t rest
  rw [opened, scanString_renderText u rest'] at read
  obtain ⟨texts, rests⟩ := Prod.mk.inj (Except.ok.inj read)
  exact ⟨texts.symm, rests.symm⟩

/-! ## The first character -/

/-- The kinds of values that a first character tells apart. -/
inductive Shape where
  | null | yes | no | number | str | arr | obj
deriving DecidableEq

def shape : Json → Shape
  | .null => .null
  | .bool true => .yes
  | .bool false => .no
  | .int _ | .float _ => .number
  | .str _ => .str
  | .arr _ => .arr
  | .obj _ => .obj

/-- The kind of value that starts with a character. -/
def shapeOf (c : CodePoint) : Shape :=
  if c = CodePoint.ofChar 'n' then .null
  else if c = CodePoint.ofChar 't' then .yes
  else if c = CodePoint.ofChar 'f' then .no
  else if c = CodePoint.ofChar '"' then .str
  else if c = CodePoint.ofChar '[' then .arr
  else if c = CodePoint.ofChar '\x7b' then .obj
  else .number

theorem literal_shape (l : NumberLiteral) :
    ∃ c tail, l.render = c :: tail ∧ shapeOf c = .number := by
  obtain ⟨c, tail, rendered, rfl | ⟨d, rfl⟩⟩ := render_head l
  · exact ⟨_, tail, rendered, by decide⟩
  · exact ⟨_, tail, rendered, (show ∀ e : Digit, shapeOf e.point = .number by decide) d⟩

theorem render_shape (v : Json) : ∃ c tail, render v = c :: tail ∧ shapeOf c = shape v := by
  have str : shapeOf (CodePoint.ofChar '"') = .str := by decide
  have arr : shapeOf (CodePoint.ofChar '[') = .arr := by decide
  have obj : shapeOf (CodePoint.ofChar '\x7b') = .obj := by decide
  match v with
  | .null | .bool true | .bool false => exact ⟨_, _, rfl, by decide⟩
  | .int i => exact literal_shape _
  | .float x =>
      rcases renderFloat_cases x with ⟨-, written⟩ | ⟨infinite, written⟩
      · obtain ⟨c, tail, rendered, number⟩ := literal_shape (reprLiteral x)
        exact ⟨c, tail, written.trans rendered, number⟩
      · have letters : shapeOf (CodePoint.ofChar 'N') = .number ∧
            shapeOf (CodePoint.ofChar '-') = .number ∧
            shapeOf (CodePoint.ofChar 'I') = .number := by decide
        rcases constantName_cases infinite with ⟨-, name⟩ | ⟨-, name⟩ | ⟨-, name⟩ <;>
          rw [name] at written
        · exact ⟨_, _, written, letters.1⟩
        · exact ⟨_, _, written, letters.2.1⟩
        · exact ⟨_, _, written, letters.2.2⟩
  | .str t => exact ⟨_, _, rfl, str⟩
  | .arr [] | .arr (v :: vs) => exact ⟨_, _, rfl, arr⟩
  | .obj [] | .obj (kv :: fs) => exact ⟨_, _, rfl, obj⟩

theorem shape_eq {v w : Json} {rest rest' : Text} (same : render v ++ rest = render w ++ rest') :
    shape v = shape w := by
  obtain ⟨c, tail, rendered, one⟩ := render_shape v
  obtain ⟨d, tail', rendered', other⟩ := render_shape w
  rw [rendered, rendered'] at same
  obtain ⟨rfl, -⟩ := List.cons.inj same
  rw [← one, ← other]

theorem shape_null {w : Json} : shape w = .null ↔ w = .null := by
  cases w with
  | bool b => cases b <;> simp [shape]
  | _ => simp [shape]

theorem shape_bool {b : Bool} {w : Json} : shape w = shape (.bool b) ↔ w = .bool b := by
  cases w with
  | bool c => cases b <;> cases c <;> simp [shape]
  | _ => cases b <;> simp [shape]

theorem shape_number {w : Json} :
    shape w = .number ↔ (∃ i, w = .int i) ∨ ∃ x, w = .float x := by
  cases w with
  | bool b => cases b <;> simp [shape]
  | _ => simp [shape]

theorem shape_str {w : Json} : shape w = .str ↔ ∃ t, w = .str t := by
  cases w with
  | bool b => cases b <;> simp [shape]
  | _ => simp [shape]

theorem shape_arr {w : Json} : shape w = .arr ↔ ∃ items, w = .arr items := by
  cases w with
  | bool b => cases b <;> simp [shape]
  | _ => simp [shape]

theorem shape_obj {w : Json} : shape w = .obj ↔ ∃ fields, w = .obj fields := by
  cases w with
  | bool b => cases b <;> simp [shape]
  | _ => simp [shape]

/-! ## Values -/

/-- No item starts with the bracket that closes a list. -/
theorem closed_ne_item (v : Json) {rest rest' : Text} :
    CodePoint.ofChar ']' :: rest ≠ render v ++ rest' := by
  obtain ⟨c, tail, rendered, -, notClose, -⟩ := render_first v
  rw [rendered]
  intro same
  exact notClose (List.cons.inj same).1.symm

theorem numberEnd_items (vs : List Json) (rest : Text) : NumberEnd (renderItems vs ++ rest) := by
  cases vs <;> exact numberEnd_cons (by decide) (by decide)

theorem numberEnd_fields (fs : List (Text × Json)) (rest : Text) :
    NumberEnd (renderFields fs ++ rest) := by
  cases fs <;> exact numberEnd_cons (by decide) (by decide)

mutual

/-- **A rendered value determines the value**, its surrogates joined, and what follows. -/
theorem render_determines : ∀ (v w : Json) {rest rest' : Text}, NumberEnd rest → NumberEnd rest' →
    render v ++ rest = render w ++ rest' → joined v = joined w ∧ rest = rest'
  | .null, w, rest, rest', _, _, same => by
      cases (shape_null.1 (shape_eq same).symm)
      exact ⟨rfl, List.append_cancel_left same⟩
  | .bool b, w, rest, rest', _, _, same => by
      cases (shape_bool.1 (shape_eq same).symm)
      exact ⟨rfl, List.append_cancel_left same⟩
  | .int i, w, rest, rest', ends, ends', same => by
      rcases shape_number.1 (shape_eq same).symm with ⟨j, rfl⟩ | ⟨y, rfl⟩
      · obtain ⟨literals, rests⟩ := literal_determined ends ends' same
        exact ⟨congrArg Json.int (intLiteral_injective literals), rests⟩
      · exact absurd same.symm (renderFloat_ne_int ends' ends)
  | .float x, w, rest, rest', ends, ends', same => by
      rcases shape_number.1 (shape_eq same).symm with ⟨j, rfl⟩ | ⟨y, rfl⟩
      · exact absurd same (renderFloat_ne_int ends ends')
      · obtain ⟨floats, rests⟩ := renderFloat_determined ends ends' same
        exact ⟨congrArg Json.float floats, rests⟩
  | .str t, w, rest, rest', _, _, same => by
      obtain ⟨u, rfl⟩ := shape_str.1 (shape_eq same).symm
      obtain ⟨texts, rests⟩ := renderText_determined same
      exact ⟨congrArg Json.str texts, rests⟩
  | .arr items, w, rest, rest', _, _, same => by
      obtain ⟨items', rfl⟩ := shape_arr.1 (shape_eq same).symm
      match items, items' with
      | [], [] => exact ⟨rfl, List.append_cancel_left same⟩
      | [], w :: ws =>
          have closed : CodePoint.ofChar ']' :: rest = render w ++ (renderItems ws ++ rest') := by
            simpa [render, txt] using same
          exact absurd closed (closed_ne_item w)
      | v :: vs, [] =>
          have closed : CodePoint.ofChar ']' :: rest' = render v ++ (renderItems vs ++ rest) := by
            simpa [render, txt] using same.symm
          exact absurd closed (closed_ne_item v)
      | v :: vs, w :: ws =>
          have opened : render v ++ (renderItems vs ++ rest) =
              render w ++ (renderItems ws ++ rest') := by simpa [render] using same
          obtain ⟨first, later⟩ := render_determines v w (numberEnd_items vs rest)
            (numberEnd_items ws rest') opened
          obtain ⟨others, rests⟩ := renderItems_determines vs ws later
          exact ⟨by simp only [joined, joinedItems, first, others], rests⟩
  | .obj fields, w, rest, rest', _, _, same => by
      obtain ⟨fields', rfl⟩ := shape_obj.1 (shape_eq same).symm
      match fields, fields' with
      | [], [] => exact ⟨rfl, List.append_cancel_left same⟩
      | [], (l, w) :: gs => cases (List.cons.inj (List.cons.inj same).2).1
      | (k, v) :: fs, [] => cases (List.cons.inj (List.cons.inj same).2).1
      | (k, v) :: fs, (l, w) :: gs =>
          have opened : renderText k ++ CodePoint.ofChar ':' :: (render v ++ (renderFields fs ++ rest)) =
              renderText l ++ CodePoint.ofChar ':' :: (render w ++ (renderFields gs ++ rest')) := by
            simpa [render] using same
          obtain ⟨keys, marked⟩ := renderText_determined opened
          obtain ⟨first, later⟩ := render_determines v w (numberEnd_fields fs rest)
            (numberEnd_fields gs rest') (List.cons.inj marked).2
          obtain ⟨others, rests⟩ := renderFields_determines fs gs later
          exact ⟨by simp only [joined, joinedFields, keys, first, others], rests⟩

theorem renderItems_determines : ∀ (vs ws : List Json) {rest rest' : Text},
    renderItems vs ++ rest = renderItems ws ++ rest' →
      joinedItems vs = joinedItems ws ∧ rest = rest'
  | [], [], rest, rest', same => ⟨rfl, (List.cons.inj same).2⟩
  | [], w :: ws, rest, rest', same => by cases (List.cons.inj same).1
  | v :: vs, [], rest, rest', same => by cases (List.cons.inj same).1
  | v :: vs, w :: ws, rest, rest', same => by
      have opened : render v ++ (renderItems vs ++ rest) =
          render w ++ (renderItems ws ++ rest') := by simpa [renderItems] using same
      obtain ⟨first, later⟩ := render_determines v w (numberEnd_items vs rest)
        (numberEnd_items ws rest') opened
      obtain ⟨others, rests⟩ := renderItems_determines vs ws later
      exact ⟨by simp only [joinedItems, first, others], rests⟩

theorem renderFields_determines : ∀ (fs gs : List (Text × Json)) {rest rest' : Text},
    renderFields fs ++ rest = renderFields gs ++ rest' →
      joinedFields fs = joinedFields gs ∧ rest = rest'
  | [], [], rest, rest', same => ⟨rfl, (List.cons.inj same).2⟩
  | [], (l, w) :: gs, rest, rest', same => by cases (List.cons.inj same).1
  | (k, v) :: fs, [], rest, rest', same => by cases (List.cons.inj same).1
  | (k, v) :: fs, (l, w) :: gs, rest, rest', same => by
      have opened : renderText k ++ CodePoint.ofChar ':' :: (render v ++ (renderFields fs ++ rest)) =
          renderText l ++ CodePoint.ofChar ':' :: (render w ++ (renderFields gs ++ rest')) := by
        simpa [renderFields] using same
      obtain ⟨keys, marked⟩ := renderText_determined opened
      obtain ⟨first, later⟩ := render_determines v w (numberEnd_fields fs rest)
        (numberEnd_fields gs rest') (List.cons.inj marked).2
      obtain ⟨others, rests⟩ := renderFields_determines fs gs later
      exact ⟨by simp only [joinedFields, keys, first, others], rests⟩

end

/-- Values with the same text are equal once joined. -/
theorem joined_of_render {v w : Json} (same : render v = render w) : joined v = joined w := by
  have nothing : NumberEnd [] := by
    intro c first
    cases first
  exact (render_determines v w nothing nothing (by rw [same])).1

end Json

end InstrumentBench.Theory
