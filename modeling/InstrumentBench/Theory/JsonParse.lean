/-
# Theory.JsonParse -- `json.loads`, and what it makes of dumped text

`loads` reads JSON text as Python's decoder does, with the two hooks the
programs install: an object with a repeated key is refused, and so are the
constants `NaN`, `Infinity` and `-Infinity`.  Integers past the interpreter's
digit limit are refused as well.  Inside a string an escaped high surrogate
followed by an escaped low one is read as a single code point.

A writer of JSON is free in how it writes strings (`Quoting`).
`Quoting.loads_render` says exactly what comes back from rendered text, and
`loads_render` is the case that writes ASCII only: `rejoin v`, which joins surrogate
pairs and applies the three refusals.
-/
import InstrumentBench.Theory.Json

namespace InstrumentBench.Theory

set_option autoImplicit false

/-- Why `json.loads` raises.  Every one is a `ValueError`. -/
inductive LoadError where
  /-- `JSONDecodeError` -/
  | malformed
  | duplicateKey (key : Text)
  | constant (name : String)
  /-- `int` past the digit limit -/
  | tooManyDigits
  /-- `UnicodeDecodeError` -/
  | undecodable
deriving DecidableEq

namespace Json

/-! ## Strings -/

def hexValue? (c : CodePoint) : Option Nat :=
  if 48 ≤ c.val ∧ c.val ≤ 57 then some (c.val - 48)
  else if 97 ≤ c.val ∧ c.val ≤ 102 then some (c.val - 87)
  else if 65 ≤ c.val ∧ c.val ≤ 70 then some (c.val - 55)
  else none

/-- The unit spelled by the four hexadecimal digits of `\uXXXX`. -/
def scanHex4 : Text → Option (CodePoint × Text)
  | a :: b :: c :: d :: rest =>
      match hexValue? a, hexValue? b, hexValue? c, hexValue? d with
      | some a, some b, some c, some d =>
          some (Fin.ofNat 0x110000 (((a * 16 + b) * 16 + c) * 16 + d), rest)
      | _, _, _, _ => none
  | _ => none

/-- An escaped low surrogate, if one follows. -/
def scanLow : Text → Option (CodePoint × Text)
  | b :: u :: rest =>
      if b = CodePoint.ofChar '\\' ∧ u = CodePoint.ofChar 'u' then
        match scanHex4 rest with
        | some (unit, rest) => if unit.isLowSurrogate then some (unit, rest) else none
        | none => none
      else none
  | _ => none

/-- The code point after `\u`, a following low surrogate joined in. -/
def scanUnicode (t : Text) : Option (CodePoint × Text) :=
  match scanHex4 t with
  | none => none
  | some (unit, rest) =>
      if unit.isHighSurrogate then
        match scanLow rest with
        | some (low, rest) => some (CodePoint.joinPair unit low, rest)
        | none => some (unit, rest)
      else some (unit, rest)

/-- The code point a two-character escape stands for. -/
def shortValue? (c : CodePoint) : Option CodePoint :=
  if c = CodePoint.ofChar '"' then some c
  else if c = CodePoint.ofChar '\\' then some c
  else if c = CodePoint.ofChar '/' then some c
  else if c = CodePoint.ofChar 'b' then some 8
  else if c = CodePoint.ofChar 't' then some 9
  else if c = CodePoint.ofChar 'n' then some 10
  else if c = CodePoint.ofChar 'f' then some 12
  else if c = CodePoint.ofChar 'r' then some 13
  else none

/-- One code point of a string body, or `none` for the closing quote. -/
def scanChar : Text → Except LoadError (Option CodePoint × Text)
  | [] => .error .malformed
  | c :: rest =>
      if c = CodePoint.ofChar '"' then .ok (none, rest)
      else if c = CodePoint.ofChar '\\' then
        match rest with
        | [] => .error .malformed
        | e :: rest =>
            if e = CodePoint.ofChar 'u' then
              match scanUnicode rest with
              | some (c, rest) => .ok (some c, rest)
              | none => .error .malformed
            else
              match shortValue? e with
              | some c => .ok (some c, rest)
              | none => .error .malformed
      else if c.val < 0x20 then .error .malformed
      else .ok (some c, rest)

/-- A string body up to its closing quote.  The length of the text is fuel
enough, since every code point consumes at least one. -/
def scanString : Nat → Text → Except LoadError (Text × Text)
  | 0, _ => .error .malformed
  | fuel + 1, t =>
      match scanChar t with
      | .error e => .error e
      | .ok (none, rest) => .ok ([], rest)
      | .ok (some c, rest) =>
          match scanString fuel rest with
          | .error e => .error e
          | .ok (cs, rest) => .ok (c :: cs, rest)

/-! ## Values -/

def isSpace (c : CodePoint) : Bool := c = 32 || c = 9 || c = 10 || c = 13

def skipSpace : Text → Text
  | [] => []
  | c :: rest => if isSpace c then skipSpace rest else c :: rest

/-- The first key that occurs twice. -/
def firstDuplicate (seen : List Text) : List Text → Option Text
  | [] => none
  | k :: ks => if k ∈ seen then some k else firstDuplicate (k :: seen) ks

/-- The `object_pairs_hook` that refuses repeated keys. -/
def uniqueObject (fs : List (Text × Json)) : Except LoadError Json :=
  match firstDuplicate [] (keys fs) with
  | some k => .error (.duplicateKey k)
  | none => .ok (.obj fs)

/-- The value of a number literal. -/
def numberValue (l : NumberLiteral) : Except LoadError Json :=
  if l.isFloat then .ok (.float l.toFloat)
  else if (decimalDigits l.whole).length ≤ maxStrDigits then .ok (.int l.toInt)
  else .error .tooManyDigits

/-- A value that is not a string, an array or an object. -/
def scanAtom (t : Text) : Except LoadError (Json × Text) :=
  if txt "null" <+: t then .ok (.null, t.drop 4)
  else if txt "true" <+: t then .ok (.bool true, t.drop 4)
  else if txt "false" <+: t then .ok (.bool false, t.drop 5)
  else
    match scanNumber t with
    | some (l, rest) =>
        match numberValue l with
        | .ok v => .ok (v, rest)
        | .error e => .error e
    | none =>
        if txt "NaN" <+: t then .error (.constant "NaN")
        else if txt "Infinity" <+: t then .error (.constant "Infinity")
        else if txt "-Infinity" <+: t then .error (.constant "-Infinity")
        else .error .malformed

/-- A member's key, its opening quote included, and the colon after it. -/
def scanKey : Text → Except LoadError (Text × Text)
  | [] => .error .malformed
  | q :: rest =>
      if q = CodePoint.ofChar '"' then
        match scanString (rest.length + 1) rest with
        | .error e => .error e
        | .ok (k, rest) =>
            match skipSpace rest with
            | c :: rest =>
                if c = CodePoint.ofChar ':' then .ok (k, skipSpace rest) else .error .malformed
            | [] => .error .malformed
      else .error .malformed

mutual

/-- One value.  The fuel bounds the nesting and the number of values; the size
of the value is enough. -/
def scanValue : Nat → Text → Except LoadError (Json × Text)
  | 0, _ => .error .malformed
  | _ + 1, [] => .error .malformed
  | fuel + 1, c :: rest =>
      if c = CodePoint.ofChar '"' then
        match scanString (rest.length + 1) rest with
        | .error e => .error e
        | .ok (s, rest) => .ok (.str s, rest)
      else if c = CodePoint.ofChar '{' then
        match skipSpace rest with
        | [] => .error .malformed
        | d :: rest =>
            if d = CodePoint.ofChar '}' then .ok (.obj [], rest)
            else
              match scanMembers fuel (d :: rest) with
              | .error e => .error e
              | .ok (fs, rest) =>
                  match uniqueObject fs with
                  | .error e => .error e
                  | .ok v => .ok (v, rest)
      else if c = CodePoint.ofChar '[' then
        match skipSpace rest with
        | [] => .error .malformed
        | d :: rest =>
            if d = CodePoint.ofChar ']' then .ok (.arr [], rest)
            else
              match scanElements fuel (d :: rest) with
              | .error e => .error e
              | .ok (vs, rest) => .ok (.arr vs, rest)
      else scanAtom (c :: rest)

/-- The members up to the closing brace. -/
def scanMembers : Nat → Text → Except LoadError (List (Text × Json) × Text)
  | 0, _ => .error .malformed
  | fuel + 1, t =>
      match scanKey t with
      | .error e => .error e
      | .ok (k, rest) =>
          match scanValue fuel rest with
          | .error e => .error e
          | .ok (v, rest) =>
              match skipSpace rest with
              | [] => .error .malformed
              | c :: rest =>
                  if c = CodePoint.ofChar '}' then .ok ([(k, v)], rest)
                  else if c = CodePoint.ofChar ',' then
                    match scanMembers fuel (skipSpace rest) with
                    | .error e => .error e
                    | .ok (fs, rest) => .ok ((k, v) :: fs, rest)
                  else .error .malformed

/-- The items up to the closing bracket. -/
def scanElements : Nat → Text → Except LoadError (List Json × Text)
  | 0, _ => .error .malformed
  | fuel + 1, t =>
      match scanValue fuel t with
      | .error e => .error e
      | .ok (v, rest) =>
          match skipSpace rest with
          | [] => .error .malformed
          | c :: rest =>
              if c = CodePoint.ofChar ']' then .ok ([v], rest)
              else if c = CodePoint.ofChar ',' then
                match scanElements fuel (skipSpace rest) with
                | .error e => .error e
                | .ok (vs, rest) => .ok (v :: vs, rest)
              else .error .malformed

end

/-- `json.loads(text)`.  A bracket takes two units of fuel, so twice the length is enough. -/
def loads (t : Text) : Except LoadError Json :=
  match scanValue (2 * t.length + 1) (skipSpace t) with
  | .error e => .error e
  | .ok (v, rest) => if skipSpace rest = [] then .ok v else .error .malformed

/-- `json.loads(payload)` of UTF-8 bytes, a byte order mark skipped. -/
def loadsBytes (b : Bytes) : Except LoadError Json :=
  let body := if [0xEF, 0xBB, 0xBF] <+: b then b.drop 3 else b
  match decodeUtf8 true body with
  | none => .error .undecodable
  | some t => loads t

example : loads (txt " \x7b\"a\" : [1, -2.5e1, \"\\ud83d\\ude00\"]\x7d ") =
    .ok (.obj [(txt "a", .arr [.int 1, .float (-25.0), .str [0x1F600]])]) := by decide +kernel

/-! ## Reading back a string -/

/-- Adjacent surrogate pairs joined, from the left. -/
def joinSurrogates : Text → Text
  | h :: l :: rest =>
      if h.isHighSurrogate && l.isLowSurrogate then CodePoint.joinPair h l :: joinSurrogates rest
      else h :: joinSurrogates (l :: rest)
  | t => t

/-- No high surrogate stands right before a low one. -/
def PairFree (t : Text) : Prop :=
  t.IsChain fun h l => (h.isHighSurrogate && l.isLowSurrogate) = false

instance (t : Text) : Decidable (PairFree t) :=
  inferInstanceAs (Decidable (t.IsChain _))

theorem length_joinSurrogates_le (t : Text) : (joinSurrogates t).length ≤ t.length := by
  induction t using joinSurrogates.induct with
  | case1 h l rest pair ih =>
      rw [joinSurrogates, if_pos pair]
      simp only [List.length_cons]
      omega
  | case2 h l rest noPair ih =>
      rw [joinSurrogates, if_neg noPair]
      simpa using ih
  | case3 t short => rw [joinSurrogates]; exact short

/-- Joining changes exactly the texts with an adjacent pair. -/
theorem joinSurrogates_eq_iff (t : Text) : joinSurrogates t = t ↔ PairFree t := by
  induction t using joinSurrogates.induct with
  | case1 h l rest pair ih =>
      have shorter := length_joinSurrogates_le rest
      rw [joinSurrogates, if_pos pair]
      constructor
      · intro same
        have lengths := congrArg List.length same
        simp only [List.length_cons] at lengths
        omega
      · intro free
        rw [PairFree, List.isChain_cons_cons] at free
        rw [free.1] at pair
        cases pair
  | case2 h l rest noPair ih =>
      rw [joinSurrogates, if_neg noPair, PairFree, List.isChain_cons_cons, List.cons.injEq, ih]
      simp only [true_and]
      exact ⟨fun free => ⟨by simpa using noPair, free⟩, fun both => both.2⟩
  | case3 t short =>
      rw [joinSurrogates]
      · refine iff_of_true rfl ?_
        match t, short with
        | [], _ => exact List.IsChain.nil
        | [c], _ => exact List.IsChain.singleton c
        | h :: l :: rest, short => exact absurd rfl (short h l rest)
      · exact short

/-- The first code point of joined text is a low surrogate only if it was one. -/
theorem head_joinSurrogates (c : CodePoint) (t : Text) :
    ∃ d rest, joinSurrogates (c :: t) = d :: rest ∧
      (d.isLowSurrogate = true → c.isLowSurrogate = true) := by
  match t with
  | [] => exact ⟨c, [], by rw [joinSurrogates]; simp, id⟩
  | l :: rest =>
      rw [joinSurrogates]
      split
      · rename_i pair
        refine ⟨_, _, rfl, fun low => ?_⟩
        simp only [Bool.and_eq_true] at pair
        have large := CodePoint.joinPair_large pair.1 pair.2
        rw [CodePoint.isLowSurrogate_iff] at low
        omega
      · exact ⟨c, _, rfl, id⟩

/-- Joined text has no pair left to join. -/
theorem pairFree_joinSurrogates (t : Text) : PairFree (joinSurrogates t) := by
  induction t using joinSurrogates.induct with
  | case1 h l rest pair ih =>
      rw [joinSurrogates, if_pos pair]
      simp only [Bool.and_eq_true] at pair
      have large := CodePoint.joinPair_large pair.1 pair.2
      have notHigh : (CodePoint.joinPair h l).isHighSurrogate = false := by
        rw [← Bool.not_eq_true, CodePoint.isHighSurrogate_iff]
        omega
      cases joined : joinSurrogates rest with
      | nil => exact List.IsChain.singleton _
      | cons d tail =>
          rw [joined] at ih
          exact List.IsChain.cons_cons (by rw [notHigh, Bool.false_and]) ih
  | case2 h l rest noPair ih =>
      rw [joinSurrogates, if_neg noPair]
      obtain ⟨d, tail, joined, low⟩ := head_joinSurrogates l rest
      rw [joined] at ih ⊢
      refine List.IsChain.cons_cons ?_ ih
      simp only [Bool.and_eq_true, not_and] at noPair
      rw [← Bool.not_eq_true, Bool.and_eq_true]
      exact fun both => noPair both.1 (low both.2)
  | case3 t short =>
      rw [joinSurrogates]
      · match t, short with
        | [], _ => exact List.IsChain.nil
        | [c], _ => exact List.IsChain.singleton c
        | h :: l :: rest, short => exact absurd rfl (short h l rest)
      · exact short

theorem hexValue?_hexDigit (n : Nat) : hexValue? (hexDigit n) = some (n % 16) := by
  unfold hexDigit
  split <;> rename_i h
  · simp only [hexValue?]
    rw [if_pos (by omega)]
    simp
  · simp only [hexValue?]
    rw [if_neg (by omega), if_pos (by omega)]
    simp only [Option.some.injEq]
    omega

theorem scanHex4_hex4 {u : CodePoint} (small : u.val < 0x10000) (rest : Text) :
    scanHex4 (hex4 u.val ++ rest) = some (u, rest) := by
  simp only [hex4, List.cons_append, List.nil_append, scanHex4, hexValue?_hexDigit]
  congr 2
  apply Fin.ext
  simp only [Fin.val_ofNat]
  omega

theorem shortValue?_shortEscape {c e : CodePoint} (short : shortEscape c = some e) :
    e ≠ CodePoint.ofChar 'u' ∧ shortValue? e = some c := by
  unfold shortEscape at short
  split_ifs at short <;> cases short <;> subst_vars <;> decide

theorem not_special_of_shortEscape_none {c : CodePoint} (plain : shortEscape c = none) :
    c ≠ CodePoint.ofChar '"' ∧ c ≠ CodePoint.ofChar '\\' := by
  constructor <;> rintro rfl <;> revert plain <;> decide

/-- How an escaped UTF-16 unit starts the scan of a string body. -/
theorem scanChar_unicodeEscape {u : CodePoint} (small : u.val < 0x10000) (rest : Text) :
    scanChar (unicodeEscape u ++ rest) =
      if u.isHighSurrogate then
        match scanLow rest with
        | some (low, rest) => .ok (some (CodePoint.joinPair u low), rest)
        | none => .ok (some u, rest)
      else .ok (some u, rest) := by
  have notQuote : CodePoint.ofChar '\\' ≠ CodePoint.ofChar '"' := by decide
  simp only [unicodeEscape, List.cons_append, scanChar, notQuote, if_false, if_true, scanUnicode,
    scanHex4_hex4 small]
  cases u.isHighSurrogate with
  | true => cases scanLow rest <;> rfl
  | false => rfl

theorem scanLow_unicodeEscape {u : CodePoint} (small : u.val < 0x10000) (rest : Text) :
    scanLow (unicodeEscape u ++ rest) = if u.isLowSurrogate then some (u, rest) else none := by
  simp only [unicodeEscape, List.cons_append, scanLow, and_self, if_true, scanHex4_hex4 small]

/-- A surrogate is written as one escaped unit. -/
theorem escapeChar_surrogate {u : CodePoint} (low : 0xD800 ≤ u.val) (high : u.val ≤ 0xDFFF) :
    escapeChar u = unicodeEscape u := by
  have ne : ∀ d : CodePoint, d.val < 0xD800 → u ≠ d := by
    rintro d small rfl
    omega
  have noShort : shortEscape u = none := by
    unfold shortEscape
    simp only [ne _ (show (CodePoint.ofChar '"').val < 0xD800 by decide),
      ne _ (show (CodePoint.ofChar '\\').val < 0xD800 by decide), ne 8 (by decide),
      ne 9 (by decide), ne 10 (by decide), ne 12 (by decide), ne 13 (by decide), if_false]
  simp only [escapeChar, noShort]
  rw [if_neg (by omega), if_pos (by omega)]

/-- Text written for anything but a low surrogate is not read as one. -/
theorem scanLow_escapeChar {c : CodePoint} (notLow : c.isLowSurrogate = false) (rest : Text) :
    scanLow (escapeChar c ++ rest) = none := by
  unfold escapeChar
  split
  · rename_i e short
    simp [scanLow, (shortValue?_shortEscape short).1]
  · rename_i plain
    split
    · cases rest <;> simp [scanLow, (not_special_of_shortEscape_none plain).2]
    · split
      · rename_i small
        rw [scanLow_unicodeEscape small, notLow]
        rfl
      · have notLow := CodePoint.not_low_of_high (CodePoint.isHighSurrogate_highSurrogate c)
        have small : (CodePoint.highSurrogate c).val < 0x10000 := by
          have := c.isLt
          simp only [CodePoint.highSurrogate]
          omega
        rw [List.append_assoc, scanLow_unicodeEscape small, notLow]
        rfl

theorem scanLow_low {l : CodePoint} (low : l.isLowSurrogate = true) (rest : Text) :
    scanLow (escapeChar l ++ rest) = some (l, rest) := by
  have bounds := (CodePoint.isLowSurrogate_iff l).1 low
  rw [escapeChar_surrogate (by omega) (by omega), scanLow_unicodeEscape (by omega), if_pos low]

/-- What a high surrogate is read as depends on what is written after it; any
other code point is read back alone. -/
theorem scanChar_escapeChar {c : CodePoint} {rest : Text}
    (unpaired : c.isHighSurrogate = true → scanLow rest = none) :
    scanChar (escapeChar c ++ rest) = .ok (some c, rest) := by
  unfold escapeChar
  split
  · rename_i e short
    obtain ⟨notU, value⟩ := shortValue?_shortEscape short
    have notQuote : CodePoint.ofChar '\\' ≠ CodePoint.ofChar '"' := by decide
    simp only [List.cons_append, List.nil_append, scanChar, notQuote, if_false, if_true, notU, value]
  · rename_i plain
    obtain ⟨notQuote, notSlash⟩ := not_special_of_shortEscape_none plain
    split
    · rename_i printable
      simp only [List.cons_append, List.nil_append, scanChar]
      rw [if_neg notQuote, if_neg notSlash, if_neg (by omega)]
    · split
      · rename_i small
        rw [scanChar_unicodeEscape small]
        split
        · rename_i isHigh
          rw [unpaired isHigh]
        · rfl
      · rename_i large
        have bound := c.isLt
        have highSmall : (CodePoint.highSurrogate c).val < 0x10000 := by
          simp only [CodePoint.highSurrogate]
          omega
        have lowSmall : (CodePoint.lowSurrogate c).val < 0x10000 := by
          simp only [CodePoint.lowSurrogate]
          omega
        rw [List.append_assoc, scanChar_unicodeEscape highSmall, scanLow_unicodeEscape lowSmall,
          if_pos (CodePoint.isHighSurrogate_highSurrogate c),
          if_pos (CodePoint.isLowSurrogate_lowSurrogate c)]
        simp only [CodePoint.joinPair_surrogates (Nat.le_of_not_lt large)]

/-- An adjacent surrogate pair is read as one code point. -/
theorem scanChar_pair {h l : CodePoint} (high : h.isHighSurrogate = true)
    (low : l.isLowSurrogate = true) (rest : Text) :
    scanChar (escapeChar h ++ (escapeChar l ++ rest)) =
      .ok (some (CodePoint.joinPair h l), rest) := by
  have bounds := (CodePoint.isHighSurrogate_iff h).1 high
  rw [escapeChar_surrogate (by omega) (by omega), scanChar_unicodeEscape (by omega), if_pos high,
    scanLow_low low]

theorem scanLow_quote (rest : Text) : scanLow (CodePoint.ofChar '"' :: rest) = none := by
  cases rest with
  | nil => rfl
  | cons c rest => simp [scanLow, show CodePoint.ofChar '"' ≠ CodePoint.ofChar '\\' by decide]

/-- A written string body is read back with its adjacent surrogates joined. -/
theorem scanString_escapeText (t rest : Text) (fuel : Nat) (enough : t.length < fuel) :
    scanString fuel (escapeText t ++ CodePoint.ofChar '"' :: rest) =
      .ok (joinSurrogates t, rest) := by
  induction t using joinSurrogates.induct generalizing fuel with
  | case1 h l tail pair ih =>
      obtain ⟨fuel, rfl⟩ : ∃ n, fuel = n + 1 := ⟨fuel - 1, by omega⟩
      simp only [Bool.and_eq_true] at pair
      simp only [List.length_cons] at enough
      have first := scanChar_pair pair.1 pair.2 (escapeText tail ++ CodePoint.ofChar '"' :: rest)
      simp only [escapeText, List.flatMap_cons, List.append_assoc] at first ih ⊢
      rw [scanString, first, joinSurrogates, if_pos (by simp [pair])]
      simp only [ih fuel (by omega)]
  | case2 h l tail noPair ih =>
      obtain ⟨fuel, rfl⟩ : ∃ n, fuel = n + 1 := ⟨fuel - 1, by omega⟩
      simp only [List.length_cons] at enough ih
      have alone : h.isHighSurrogate = true →
          scanLow (escapeText (l :: tail) ++ CodePoint.ofChar '"' :: rest) = none := by
        intro high
        simp only [escapeText, List.flatMap_cons, List.append_assoc]
        exact scanLow_escapeChar (by simpa [high] using noPair) _
      have first := scanChar_escapeChar alone
      rw [show escapeText (h :: l :: tail) = escapeChar h ++ escapeText (l :: tail) from rfl,
        List.append_assoc, scanString, first, joinSurrogates, if_neg noPair]
      simp only [ih fuel (by omega)]
  | case3 t short =>
      obtain ⟨fuel, rfl⟩ : ∃ n, fuel = n + 1 := ⟨fuel - 1, by omega⟩
      match t, short with
      | [], _ => rfl
      | [c], _ =>
          obtain ⟨fuel, rfl⟩ : ∃ n, fuel = n + 1 := ⟨fuel - 1, by simp at enough; omega⟩
          have first := scanChar_escapeChar (c := c) fun _ => scanLow_quote rest
          rw [show escapeText [c] = escapeChar c by simp [escapeText], scanString, first]
          rfl
      | h :: l :: rest, short => exact absurd rfl (short h l rest)

/-! ## Reading back a value -/

/-- The constant `json.dumps` writes for a float that is not finite. -/
def constantName (x : Float) : String :=
  if x.isNaN then "NaN" else if x < 0 then "-Infinity" else "Infinity"

mutual

/-- What a rendered value is read back as: strings with their surrogates joined,
an object refused when that makes two keys equal, and a number refused when it is
not finite. -/
def rejoin : Json → Except LoadError Json
  | .null => .ok .null
  | .bool b => .ok (.bool b)
  | .int i => .ok (.int i)
  | .float x => if x.isFinite then .ok (.float x) else .error (.constant (constantName x))
  | .str t => .ok (.str (joinSurrogates t))
  | .arr items =>
      match rejoinItems items with
      | .error e => .error e
      | .ok vs => .ok (.arr vs)
  | .obj fields =>
      match rejoinFields fields with
      | .error e => .error e
      | .ok fs => uniqueObject fs

def rejoinItems : List Json → Except LoadError (List Json)
  | [] => .ok []
  | v :: vs =>
      match rejoin v with
      | .error e => .error e
      | .ok w =>
          match rejoinItems vs with
          | .error e => .error e
          | .ok ws => .ok (w :: ws)

def rejoinFields : List (Text × Json) → Except LoadError (List (Text × Json))
  | [] => .ok []
  | (k, v) :: fs =>
      match rejoin v with
      | .error e => .error e
      | .ok w =>
          match rejoinFields fs with
          | .error e => .error e
          | .ok gs => .ok ((joinSurrogates k, w) :: gs)

end

mutual

/-- Fuel that is enough to read a rendered value. -/
def size : Json → Nat
  | .arr items => 1 + sizeItems items
  | .obj fields => 1 + sizeFields fields
  | _ => 1

def sizeItems : List Json → Nat
  | [] => 0
  | v :: vs => 1 + size v + sizeItems vs

def sizeFields : List (Text × Json) → Nat
  | [] => 0
  | (_, v) :: fs => 1 + size v + sizeFields fs

end

/-- A result with what is left of the text. -/
def withRest {α : Type} (rest : Text) : Except LoadError α → Except LoadError (α × Text)
  | .error e => .error e
  | .ok a => .ok (a, rest)

theorem not_prefix_of_head {s : String} {c d : CodePoint} {ds rest : Text}
    (word : txt s = d :: ds) (ne : d ≠ c) : ¬ txt s <+: c :: rest := by
  rw [word, List.cons_prefix_cons]
  exact fun h => ne h.1

/-- A rendered number is read back by `numberValue`. -/
theorem scanAtom_render (l : NumberLiteral) {rest : Text} (ends : NumberEnd rest) :
    scanAtom (l.render ++ rest) = withRest rest (numberValue l) := by
  obtain ⟨c, tail, rendered, first⟩ := render_head l
  have head : ∀ d : CodePoint, (∀ e : Digit, d ≠ e.point) → d ≠ CodePoint.ofChar '-' → d ≠ c := by
    rintro d notDigit notMinus rfl
    rcases first with minus | ⟨e, digit⟩
    · exact notMinus minus
    · exact notDigit e digit
  have scanned := scanNumber_render l ends
  rw [rendered, List.cons_append] at scanned ⊢
  unfold scanAtom
  rw [if_neg (not_prefix_of_head rfl (head _ (by decide) (by decide))),
    if_neg (not_prefix_of_head rfl (head _ (by decide) (by decide))),
    if_neg (not_prefix_of_head rfl (head _ (by decide) (by decide))), scanned]
  dsimp only
  cases numberValue l <;> rfl

theorem scanValue_render_number (l : NumberLiteral) {rest : Text} (ends : NumberEnd rest)
    (fuel : Nat) : scanValue (fuel + 1) (l.render ++ rest) = withRest rest (numberValue l) := by
  have atom := scanAtom_render l ends
  obtain ⟨c, tail, rendered, first⟩ := render_head l
  have head : ∀ d : CodePoint, (∀ e : Digit, e.point ≠ d) → CodePoint.ofChar '-' ≠ d → c ≠ d := by
    rintro d notDigit notMinus rfl
    rcases first with minus | ⟨e, digit⟩
    · exact notMinus minus.symm
    · exact notDigit e digit.symm
  rw [rendered, List.cons_append] at atom ⊢
  rw [scanValue, if_neg (head _ (by decide) (by decide)), if_neg (head _ (by decide) (by decide)),
    if_neg (head _ (by decide) (by decide)), atom]

theorem numberValue_intLiteral {i : Int} (digits : (Json.int i).withinDigits = true) :
    numberValue (intLiteral i) = .ok (.int i) := by
  have value : (intLiteral i).toInt = i := by
    simp only [NumberLiteral.toInt, intLiteral, decide_eq_true_eq]
    split <;> omega
  have plain : (intLiteral i).isFloat = false := rfl
  have short : (decimalDigits (intLiteral i).whole).length ≤ maxStrDigits := by
    simpa [withinDigits, intLiteral] using digits
  simp only [numberValue, plain, value]
  rw [if_neg (by simp), if_pos short]

theorem numberValue_reprLiteral {x : Float} (finite : x.isFinite = true) :
    numberValue (reprLiteral x) = .ok (.float x) := by
  simp [numberValue, reprLiteral_isFloat finite, reprLiteral_toFloat finite]

theorem numberEnd_cons {c : CodePoint} {rest : Text} (notDigit : digitOf? c = none)
    (others : c ≠ CodePoint.ofChar '.' ∧ c ≠ CodePoint.ofChar 'e' ∧ c ≠ CodePoint.ofChar 'E') :
    NumberEnd (c :: rest) := by
  intro d hd
  obtain rfl : c = d := by simpa using hd
  exact ⟨notDigit, others⟩

/-- A way to write strings, and what the reader makes of one it wrote. -/
structure Quoting where
  quote : Text → Text
  read : Text → Text
  opens : ∀ t rest, ∃ body, quote t ++ rest = CodePoint.ofChar '"' :: body ∧
    scanString (body.length + 1) body = .ok (read t, rest)

namespace Quoting

variable (q : Quoting)

mutual

/-- `json.dumps(v, separators=(",", ":"))`, its strings written by `quote`. -/
def render : Json → Text
  | .null => txt "null"
  | .bool true => txt "true"
  | .bool false => txt "false"
  | .int i => (intLiteral i).render
  | .float x => renderFloat x
  | .str t => q.quote t
  | .arr [] => txt "[]"
  | .arr (v :: vs) => CodePoint.ofChar '[' :: (render v ++ renderItems vs)
  | .obj [] => txt "{}"
  | .obj ((k, v) :: fs) =>
      CodePoint.ofChar '{' :: (q.quote k ++ CodePoint.ofChar ':' :: (render v ++ renderFields fs))

def renderItems : List Json → Text
  | [] => [CodePoint.ofChar ']']
  | v :: vs => CodePoint.ofChar ',' :: (render v ++ renderItems vs)

def renderFields : List (Text × Json) → Text
  | [] => [CodePoint.ofChar '}']
  | (k, v) :: fs =>
      CodePoint.ofChar ',' :: (q.quote k ++ CodePoint.ofChar ':' :: (render v ++ renderFields fs))

end

mutual

/-- What a rendered value is read back as: strings as they are read, an object refused
when that makes two keys equal, and a number refused when it is not finite. -/
def reread : Json → Except LoadError Json
  | .null => .ok .null
  | .bool b => .ok (.bool b)
  | .int i => .ok (.int i)
  | .float x => if x.isFinite then .ok (.float x) else .error (.constant (constantName x))
  | .str t => .ok (.str (q.read t))
  | .arr items =>
      match rereadItems items with
      | .error e => .error e
      | .ok vs => .ok (.arr vs)
  | .obj fields =>
      match rereadFields fields with
      | .error e => .error e
      | .ok fs => uniqueObject fs

def rereadItems : List Json → Except LoadError (List Json)
  | [] => .ok []
  | v :: vs =>
      match reread v with
      | .error e => .error e
      | .ok w =>
          match rereadItems vs with
          | .error e => .error e
          | .ok ws => .ok (w :: ws)

def rereadFields : List (Text × Json) → Except LoadError (List (Text × Json))
  | [] => .ok []
  | (k, v) :: fs =>
      match reread v with
      | .error e => .error e
      | .ok w =>
          match rereadFields fs with
          | .error e => .error e
          | .ok gs => .ok ((q.read k, w) :: gs)

end


/-- A rendered value starts with neither space nor a closing bracket. -/
theorem render_first (v : Json) :
    ∃ c tail, q.render v = c :: tail ∧ isSpace c = false ∧ c ≠ CodePoint.ofChar ']' ∧
      c ≠ CodePoint.ofChar '}' := by
  have number : ∀ l : NumberLiteral, ∃ c tail, l.render = c :: tail ∧ isSpace c = false ∧
      c ≠ CodePoint.ofChar ']' ∧ c ≠ CodePoint.ofChar '}' := by
    intro l
    obtain ⟨c, tail, rendered, rfl | ⟨d, rfl⟩⟩ := render_head l
    · exact ⟨_, tail, rendered, by decide, by decide, by decide⟩
    · exact ⟨_, tail, rendered, (show ∀ e : Digit, isSpace e.point = false by decide) d,
        (show ∀ e : Digit, e.point ≠ CodePoint.ofChar ']' by decide) d,
        (show ∀ e : Digit, e.point ≠ CodePoint.ofChar '}' by decide) d⟩
  match v with
  | .null => exact ⟨_, _, rfl, by decide, by decide, by decide⟩
  | .bool true => exact ⟨_, _, rfl, by decide, by decide, by decide⟩
  | .bool false => exact ⟨_, _, rfl, by decide, by decide, by decide⟩
  | .int i => exact number _
  | .float x =>
      simp only [render, renderFloat]
      split_ifs
      · exact number _
      · exact ⟨_, _, rfl, by decide, by decide, by decide⟩
      · exact ⟨_, _, rfl, by decide, by decide, by decide⟩
      · exact ⟨_, _, rfl, by decide, by decide, by decide⟩
  | .str t =>
      obtain ⟨body, opened, -⟩ := q.opens t []
      exact ⟨_, body, by simpa [render] using opened, by decide, by decide, by decide⟩
  | .arr [] => exact ⟨_, _, rfl, by decide, by decide, by decide⟩
  | .arr (v :: vs) => exact ⟨_, _, rfl, by decide, by decide, by decide⟩
  | .obj [] => exact ⟨_, _, rfl, by decide, by decide, by decide⟩
  | .obj (kv :: fs) => exact ⟨_, _, rfl, by decide, by decide, by decide⟩

theorem skipSpace_render (v : Json) (rest : Text) :
    skipSpace (q.render v ++ rest) = q.render v ++ rest := by
  obtain ⟨c, tail, rendered, notSpace, -⟩ := render_first q v
  rw [rendered, List.cons_append, skipSpace, notSpace]
  rfl

theorem numberEnd_renderItems (vs : List Json) (rest : Text) :
    NumberEnd (q.renderItems vs ++ rest) := by
  cases vs with
  | nil => exact numberEnd_cons (by decide) (by decide)
  | cons v vs => exact numberEnd_cons (by decide) (by decide)

theorem numberEnd_renderFields (fs : List (Text × Json)) (rest : Text) :
    NumberEnd (q.renderFields fs ++ rest) := by
  cases fs with
  | nil => exact numberEnd_cons (by decide) (by decide)
  | cons kv fs => exact numberEnd_cons (by decide) (by decide)

theorem scanKey_render (k rest : Text) (v : Json) :
    scanKey (q.quote k ++ CodePoint.ofChar ':' :: (q.render v ++ rest)) =
      .ok (q.read k, q.render v ++ rest) := by
  have colon : ∀ tail, skipSpace (CodePoint.ofChar ':' :: tail) = CodePoint.ofChar ':' :: tail :=
    fun _ => rfl
  obtain ⟨body, opened, scanned⟩ := q.opens k (CodePoint.ofChar ':' :: (q.render v ++ rest))
  rw [opened, scanKey, if_pos rfl, scanned]
  simp only [colon, if_true, skipSpace_render]

/-- The items after an opening bracket. -/
def renderElements : List Json → Text
  | [] => []
  | v :: vs => q.render v ++ q.renderItems vs

/-- The members after an opening brace. -/
def renderMembers : List (Text × Json) → Text
  | [] => []
  | (k, v) :: fs => q.quote k ++ CodePoint.ofChar ':' :: (q.render v ++ q.renderFields fs)

theorem skipSpace_quote (k rest : Text) : skipSpace (q.quote k ++ rest) = q.quote k ++ rest := by
  obtain ⟨body, opened, -⟩ := q.opens k rest
  rw [opened]
  rfl

mutual

/-- **Reading a rendered value.**  What comes back is the value as its strings are read,
and what followed it. -/
theorem scanValue_render : ∀ (v : Json) (fuel : Nat) (rest : Text), size v ≤ fuel →
    withinDigits v = true → NumberEnd rest →
    scanValue fuel (q.render v ++ rest) = withRest rest (q.reread v)
  | v, 0, _, enough, _, _ => by cases v <;> simp [size] at enough
  | .null, fuel + 1, rest, _, _, _ => rfl
  | .bool true, fuel + 1, rest, _, _, _ => rfl
  | .bool false, fuel + 1, rest, _, _, _ => rfl
  | .int i, fuel + 1, rest, _, digits, ends => by
      rw [render, scanValue_render_number _ ends, numberValue_intLiteral digits]
      rfl
  | .float x, fuel + 1, rest, _, _, ends => by
      rw [render, renderFloat, reread]
      by_cases finite : x.isFinite = true
      · rw [if_pos finite, if_pos finite, scanValue_render_number _ ends,
          numberValue_reprLiteral finite, withRest]
      · rw [if_neg finite, if_neg finite]
        unfold constantName
        split_ifs
        · rfl
        · rfl
        · rfl
  | .str t, fuel + 1, rest, _, _, _ => by
      obtain ⟨body, opened, scanned⟩ := q.opens t rest
      rw [render, opened, scanValue, if_pos rfl, scanned]
      rfl
  | .arr [], fuel + 1, rest, _, _, _ => rfl
  | .arr (v :: vs), fuel + 1, rest, enough, digits, _ => by
      have items := scanElements_render (v :: vs) fuel rest (by simp)
        (by simp only [size] at enough; omega) digits
      obtain ⟨c, tail, rendered, notSpace, notClose, -⟩ := render_first q v
      simp only [renderElements, rendered, List.cons_append] at items
      rw [render, rendered]
      simp only [List.cons_append, scanValue, skipSpace, notSpace]
      rw [if_neg (by decide), if_neg (by decide), if_pos trivial, if_neg (by simp)]
      simp only [if_neg notClose, items, reread]
      cases q.rereadItems (v :: vs) <;> rfl
  | .obj [], fuel + 1, rest, _, _, _ => rfl
  | .obj ((k, v) :: fs), fuel + 1, rest, enough, digits, _ => by
      have members := scanMembers_render ((k, v) :: fs) fuel rest (by simp)
        (by simp only [size] at enough; omega) digits
      obtain ⟨body, opened, -⟩ := q.opens k
        (CodePoint.ofChar ':' :: (q.render v ++ q.renderFields fs ++ rest))
      have quote : q.quote k ++ CodePoint.ofChar ':' :: (q.render v ++ q.renderFields fs) ++ rest =
          CodePoint.ofChar '"' :: body := by
        rw [← opened]
        simp
      simp only [renderMembers, quote] at members
      rw [render, List.cons_append, quote, scanValue, if_neg (by decide), if_pos rfl]
      simp only [skipSpace, show isSpace (CodePoint.ofChar '"') = false by decide]
      rw [if_neg (by simp)]
      simp only [show CodePoint.ofChar '"' ≠ CodePoint.ofChar '}' by decide, if_false, members,
        reread]
      cases q.rereadFields ((k, v) :: fs) with
      | error e => rfl
      | ok gs =>
          simp only [withRest]
          cases uniqueObject gs <;> rfl

theorem scanElements_render : ∀ (items : List Json) (fuel : Nat) (rest : Text), items ≠ [] →
    sizeItems items ≤ fuel → withinDigitsItems items = true →
    scanElements fuel (q.renderElements items ++ rest) = withRest rest (q.rereadItems items)
  | [], _, _, nonempty, _, _ => absurd rfl nonempty
  | v :: vs, 0, _, _, enough, _ => by simp [sizeItems] at enough
  | v :: vs, fuel + 1, rest, _, enough, digits => by
      simp only [sizeItems] at enough
      simp only [withinDigitsItems, Bool.and_eq_true] at digits
      have first := scanValue_render v fuel (q.renderItems vs ++ rest) (by omega) digits.1
        (numberEnd_renderItems q vs rest)
      rw [renderElements, List.append_assoc, scanElements, first, rereadItems]
      cases q.reread v with
      | error e => rfl
      | ok w =>
          match vs with
          | [] => rfl
          | u :: us =>
              have others := scanElements_render (u :: us) fuel rest (by simp) (by omega)
                digits.2
              have skipped := skipSpace_render q u (q.renderItems us ++ rest)
              have comma : ∀ tail, skipSpace (CodePoint.ofChar ',' :: tail) =
                  CodePoint.ofChar ',' :: tail := fun _ => rfl
              simp only [renderElements, List.append_assoc] at others
              simp only [withRest, renderItems, List.cons_append, List.append_assoc, comma, skipped,
                others]
              rw [if_neg (by decide), if_pos trivial]
              cases q.rereadItems (u :: us) <;> rfl

theorem scanMembers_render : ∀ (fields : List (Text × Json)) (fuel : Nat) (rest : Text),
    fields ≠ [] → sizeFields fields ≤ fuel → withinDigitsFields fields = true →
    scanMembers fuel (q.renderMembers fields ++ rest) = withRest rest (q.rereadFields fields)
  | [], _, _, nonempty, _, _ => absurd rfl nonempty
  | (k, v) :: fs, 0, _, _, enough, _ => by simp [sizeFields] at enough
  | (k, v) :: fs, fuel + 1, rest, _, enough, digits => by
      simp only [sizeFields] at enough
      simp only [withinDigitsFields, Bool.and_eq_true] at digits
      have key := scanKey_render q k (q.renderFields fs ++ rest) v
      have first := scanValue_render v fuel (q.renderFields fs ++ rest) (by omega)
        digits.1 (numberEnd_renderFields q fs rest)
      simp only [renderMembers, List.append_assoc, List.cons_append]
      rw [scanMembers, key]
      dsimp only
      rw [first, rereadFields]
      cases q.reread v with
      | error e => rfl
      | ok w =>
          match fs with
          | [] => rfl
          | (l, u) :: gs =>
              have others := scanMembers_render ((l, u) :: gs) fuel rest (by simp) (by omega)
                digits.2
              have skipped := skipSpace_quote q l
                (CodePoint.ofChar ':' :: (q.render u ++ (q.renderFields gs ++ rest)))
              have comma : ∀ tail, skipSpace (CodePoint.ofChar ',' :: tail) =
                  CodePoint.ofChar ',' :: tail := fun _ => rfl
              simp only [renderMembers, List.append_assoc, List.cons_append] at others
              simp only [withRest, renderFields, List.cons_append, List.append_assoc, comma,
                skipped, others]
              rw [if_neg (by decide), if_pos trivial]
              cases q.rereadFields ((l, u) :: gs) <;> rfl

end

mutual

theorem size_le_length : ∀ v : Json, size v ≤ (q.render v).length
  | .null | .bool true | .bool false => by simp [size, render, txt]
  | .int i => by
      obtain ⟨c, tail, rendered, -⟩ := render_first q (.int i)
      simp [rendered, size]
  | .float x => by
      obtain ⟨c, tail, rendered, -⟩ := render_first q (.float x)
      simp [rendered, size]
  | .str t => by
      obtain ⟨c, tail, rendered, -⟩ := render_first q (.str t)
      simp [rendered, size]
  | .arr [] => by simp [size, sizeItems, render, txt]
  | .arr (v :: vs) => by
      have first := size_le_length v
      have others := sizeItems_le_length vs
      simp only [size, sizeItems, render, List.length_cons, List.length_append]
      omega
  | .obj [] => by simp [size, sizeFields, render, txt]
  | .obj ((k, v) :: fs) => by
      have first := size_le_length v
      have others := sizeFields_le_length fs
      simp only [size, sizeFields, render, List.length_cons, List.length_append]
      omega

theorem sizeItems_le_length :
    ∀ vs : List Json, sizeItems vs + 1 ≤ (q.renderItems vs).length
  | [] => by simp [sizeItems, renderItems]
  | v :: vs => by
      have first := size_le_length v
      have others := sizeItems_le_length vs
      simp only [sizeItems, renderItems, List.length_cons, List.length_append]
      omega

theorem sizeFields_le_length :
    ∀ fs : List (Text × Json), sizeFields fs + 1 ≤ (q.renderFields fs).length
  | [] => by simp [sizeFields, renderFields]
  | (k, v) :: fs => by
      have first := size_le_length v
      have others := sizeFields_le_length fs
      simp only [sizeFields, renderFields, List.length_cons, List.length_append]
      omega

end

/-- **Reading rendered text.** -/
theorem loads_render {v : Json} (digits : v.withinDigits = true) :
    loads (q.render v) = q.reread v := by
  have skipped := skipSpace_render q v []
  have enough := size_le_length q v
  have scanned := scanValue_render q v (2 * (q.render v).length + 1) [] (by omega) digits
    (by intro c hc; simp at hc)
  simp only [List.append_nil] at skipped scanned
  rw [loads, skipped, scanned]
  cases q.reread v <;> rfl

end Quoting

/-! ## Escaped strings -/

theorem length_le_escapeText (t : Text) : t.length ≤ (escapeText t).length := by
  induction t with
  | nil => simp
  | cons c t ih =>
      have one : 1 ≤ (escapeChar c).length := by
        unfold escapeChar
        split
        · simp
        · split_ifs <;> simp [unicodeEscape]
      simp only [escapeText, List.flatMap_cons, List.length_append, List.length_cons] at ih ⊢
      omega

/-- The fuel the scanners give a string is enough for a rendered one. -/
theorem scanString_renderText (t rest : Text) :
    scanString ((escapeText t ++ CodePoint.ofChar '"' :: rest).length + 1)
      (escapeText t ++ CodePoint.ofChar '"' :: rest) = .ok (joinSurrogates t, rest) := by
  refine scanString_escapeText t rest _ ?_
  have := length_le_escapeText t
  simp only [List.length_append, List.length_cons]
  omega

/-- Strings as `ensure_ascii` writes them: a surrogate pair comes back joined. -/
def escaped : Quoting where
  quote := renderText
  read := joinSurrogates
  opens t rest := by
    refine ⟨escapeText t ++ CodePoint.ofChar '"' :: rest, ?_, scanString_renderText t rest⟩
    simp [renderText]

mutual

theorem escaped_render : ∀ v : Json, escaped.render v = render v
  | .null | .bool true | .bool false | .int _ | .float _ | .str _ | .arr [] | .obj [] => rfl
  | .arr (v :: vs) => by
      rw [Quoting.render, render, escaped_render v, escaped_renderItems vs]
  | .obj ((k, v) :: fs) => by
      rw [Quoting.render, render, escaped_render v, escaped_renderFields fs]
      rfl

theorem escaped_renderItems : ∀ vs : List Json, escaped.renderItems vs = renderItems vs
  | [] => rfl
  | v :: vs => by
      rw [Quoting.renderItems, renderItems, escaped_render v, escaped_renderItems vs]

theorem escaped_renderFields :
    ∀ fs : List (Text × Json), escaped.renderFields fs = renderFields fs
  | [] => rfl
  | (k, v) :: fs => by
      rw [Quoting.renderFields, renderFields, escaped_render v, escaped_renderFields fs]
      rfl

end

mutual

theorem escaped_reread : ∀ v : Json, escaped.reread v = rejoin v
  | .null | .bool _ | .int _ | .float _ | .str _ => rfl
  | .arr items => by
      rw [Quoting.reread, rejoin, escaped_rereadItems items]
  | .obj fields => by
      rw [Quoting.reread, rejoin, escaped_rereadFields fields]

theorem escaped_rereadItems : ∀ vs : List Json, escaped.rereadItems vs = rejoinItems vs
  | [] => rfl
  | v :: vs => by
      rw [Quoting.rereadItems, rejoinItems, escaped_reread v, escaped_rereadItems vs]

theorem escaped_rereadFields :
    ∀ fs : List (Text × Json), escaped.rereadFields fs = rejoinFields fs
  | [] => rfl
  | (k, v) :: fs => by
      rw [Quoting.rereadFields, rejoinFields, escaped_reread v, escaped_rereadFields fs]
      cases rejoin v with
      | error e => rfl
      | ok w => cases rejoinFields fs <;> rfl

end

theorem render_first (v : Json) :
    ∃ c tail, render v = c :: tail ∧ isSpace c = false ∧ c ≠ CodePoint.ofChar ']' ∧
      c ≠ CodePoint.ofChar '}' := by
  rw [← escaped_render v]
  exact escaped.render_first v

/-- **Reading dumped text.** -/
theorem loads_render {v : Json} (digits : v.withinDigits = true) : loads (render v) = rejoin v := by
  rw [← escaped_render v, ← escaped_reread v]
  exact escaped.loads_render digits

/-- The reader of bytes sees the rendered text. -/
theorem loadsBytes_render {v : Json} (digits : v.withinDigits = true) :
    loadsBytes ((render v).map fun c => UInt8.ofNat c.val) = rejoin v := by
  have noMark := not_prefix_encoded (graphic_render v).ascii (b := 0xEF) (by decide) [0xBB, 0xBF]
  simp only [loadsBytes, if_neg noMark, decodeUtf8_encodeAscii true (graphic_render v).ascii,
    loads_render digits]

theorem firstDuplicate_none_iff (seen ks : List Text) :
    firstDuplicate seen ks = none ↔ ks.Nodup ∧ ∀ k ∈ ks, k ∉ seen := by
  induction ks generalizing seen with
  | nil => simp [firstDuplicate]
  | cons k ks ih =>
      rw [firstDuplicate]
      split
      · rename_i member
        simp [member]
      · rename_i fresh
        rw [ih, List.nodup_cons]
        constructor
        · rintro ⟨distinct, outside⟩
          refine ⟨⟨fun member => outside k member (by simp), distinct⟩, fun l hl => ?_⟩
          rcases List.mem_cons.1 hl with rfl | member
          · exact fresh
          · exact fun inside => outside l member (List.mem_cons_of_mem _ inside)
        · rintro ⟨⟨notLater, distinct⟩, outside⟩
          refine ⟨distinct, fun l hl inside => ?_⟩
          rcases List.mem_cons.1 inside with rfl | earlier
          · exact notLater hl
          · exact outside l (List.mem_cons_of_mem _ hl) earlier

theorem uniqueObject_of_nodup {fs : List (Text × Json)} (distinct : (keys fs).Nodup) :
    uniqueObject fs = .ok (.obj fs) := by
  have none := (firstDuplicate_none_iff [] (keys fs)).2 ⟨distinct, fun _ _ => List.not_mem_nil⟩
  rw [uniqueObject, none]

theorem uniqueObject_ok {fs : List (Text × Json)} {v : Json} (unique : uniqueObject fs = .ok v) :
    v = .obj fs := by
  unfold uniqueObject at unique
  split at unique
  · cases unique
  · cases unique
    rfl

theorem nodup_of_uniqueObject {fs : List (Text × Json)} {v : Json}
    (unique : uniqueObject fs = .ok v) : (keys fs).Nodup := by
  unfold uniqueObject at unique
  split at unique
  · cases unique
  · exact ((firstDuplicate_none_iff [] (keys fs)).1 ‹_›).1

theorem distinct_numberValue {l : NumberLiteral} {v : Json} (read : numberValue l = .ok v) :
    Distinct v := by
  unfold numberValue at read
  repeat' split at read
  all_goals cases read
  all_goals trivial

theorem distinct_scanAtom {t rest : Text} {v : Json} (scanned : scanAtom t = .ok (v, rest)) :
    Distinct v := by
  unfold scanAtom at scanned
  repeat' split at scanned
  all_goals cases scanned
  all_goals first | trivial | exact distinct_numberValue ‹_›

mutual

/-- Nothing read back holds a pair left to join. -/
theorem allText_rejoin : ∀ (v : Json) {w : Json}, rejoin v = .ok w → AllText PairFree w
  | .null, _, joined | .bool _, _, joined | .int _, _, joined => by
      cases joined
      trivial
  | .float x, _, joined => by
      rw [rejoin] at joined
      split at joined
      · cases joined
        trivial
      · cases joined
  | .str t, _, joined => by
      cases joined
      exact pairFree_joinSurrogates t
  | .arr items, w, joined => by
      rw [rejoin] at joined
      split at joined
      · cases joined
      · rename_i ws items'
        cases joined
        exact allTextItems_rejoin items items'
  | .obj fields, w, joined => by
      rw [rejoin] at joined
      split at joined
      · cases joined
      · rename_i gs fields'
        rw [uniqueObject_ok joined]
        exact allTextFields_rejoin fields fields'

theorem allTextItems_rejoin : ∀ (vs : List Json) {ws : List Json}, rejoinItems vs = .ok ws →
    AllTextItems PairFree ws
  | [], _, joined => by
      cases joined
      trivial
  | v :: vs, ws, joined => by
      rw [rejoinItems] at joined
      split at joined
      · cases joined
      · rename_i w first
        split at joined
        · cases joined
        · rename_i us others
          cases joined
          exact ⟨allText_rejoin v first, allTextItems_rejoin vs others⟩

theorem allTextFields_rejoin : ∀ (fs : List (Text × Json)) {gs : List (Text × Json)},
    rejoinFields fs = .ok gs → AllTextFields PairFree gs
  | [], _, joined => by
      cases joined
      trivial
  | (k, v) :: fs, gs, joined => by
      rw [rejoinFields] at joined
      split at joined
      · cases joined
      · rename_i w first
        split at joined
        · cases joined
        · rename_i us others
          cases joined
          exact ⟨pairFree_joinSurrogates k, allText_rejoin v first,
            allTextFields_rejoin fs others⟩

end

mutual

/-- A value with a number that is not finite is not read back. -/
theorem finite_of_rejoin : ∀ (v : Json) {w : Json}, rejoin v = .ok w → finite v = true
  | .null, _, _ | .bool _, _, _ | .int _, _, _ | .str _, _, _ => rfl
  | .float x, _, joined => by
      rw [rejoin] at joined
      split at joined
      · assumption
      · cases joined
  | .arr items, w, joined => by
      rw [rejoin] at joined
      split at joined
      · cases joined
      · exact finiteItems_of_rejoin items ‹_›
  | .obj fields, w, joined => by
      rw [rejoin] at joined
      split at joined
      · cases joined
      · exact finiteFields_of_rejoin fields ‹_›

theorem finiteItems_of_rejoin : ∀ (vs : List Json) {ws : List Json}, rejoinItems vs = .ok ws →
    finiteItems vs = true
  | [], _, _ => rfl
  | v :: vs, ws, joined => by
      rw [rejoinItems] at joined
      split at joined
      · cases joined
      · rename_i w first
        split at joined
        · cases joined
        · rw [finiteItems, finite_of_rejoin v first, finiteItems_of_rejoin vs ‹_›]
          rfl

theorem finiteFields_of_rejoin : ∀ (fs : List (Text × Json)) {gs : List (Text × Json)},
    rejoinFields fs = .ok gs → finiteFields fs = true
  | [], _, _ => rfl
  | (k, v) :: fs, gs, joined => by
      rw [rejoinFields] at joined
      split at joined
      · cases joined
      · rename_i w first
        split at joined
        · cases joined
        · rw [finiteFields, finite_of_rejoin v first, finiteFields_of_rejoin fs ‹_›]
          rfl

end

mutual

/-- A value without adjacent surrogate pairs is read back as it is. -/
theorem rejoin_of_pairFree : ∀ v : Json, Plain v → AllText PairFree v → rejoin v = .ok v
  | .null, _, _ | .bool _, _, _ | .int _, _, _ => rfl
  | .float _, finite, _ => if_pos finite
  | .str t, _, free => by rw [rejoin, (joinSurrogates_eq_iff t).2 free]
  | .arr items, plain, free => by
      rw [rejoin, rejoinItems_of_pairFree items plain free]
  | .obj fields, plain, free => by
      rw [rejoin, rejoinFields_of_pairFree fields plain.2 free]
      exact uniqueObject_of_nodup plain.1

theorem rejoinItems_of_pairFree : ∀ vs : List Json, PlainItems vs →
    AllTextItems PairFree vs → rejoinItems vs = .ok vs
  | [], _, _ => rfl
  | v :: vs, plain, free => by
      rw [rejoinItems, rejoin_of_pairFree v plain.1 free.1]
      simp only [rejoinItems_of_pairFree vs plain.2 free.2]

theorem rejoinFields_of_pairFree : ∀ fs : List (Text × Json), PlainFields fs →
    AllTextFields PairFree fs → rejoinFields fs = .ok fs
  | [], _, _ => rfl
  | (k, v) :: fs, plain, free => by
      rw [rejoinFields, rejoin_of_pairFree v plain.1 free.2.1]
      simp only [rejoinFields_of_pairFree fs plain.2 free.2.2,
        (joinSurrogates_eq_iff k).2 free.1]

end

/-! ## What is read is plain up to its numbers -/

mutual

theorem distinct_scanValue : ∀ (fuel : Nat) {t : Text} {v : Json} {rest : Text},
    scanValue fuel t = .ok (v, rest) → Distinct v
  | 0, _, _, _, scanned => by cases scanned
  | _ + 1, [], _, _, scanned => by cases scanned
  | fuel + 1, c :: cs, v, rest, scanned => by
      rw [scanValue] at scanned
      split at scanned
      · split at scanned
        · cases scanned
        · cases scanned
          trivial
      split at scanned
      · split at scanned
        · cases scanned
        · split at scanned
          · cases scanned
            exact ⟨List.nodup_nil, trivial⟩
          · split at scanned
            · cases scanned
            · rename_i fs after members
              split at scanned
              · cases scanned
              · rename_i w unique
                cases scanned
                have distinct := nodup_of_uniqueObject unique
                rw [uniqueObject_ok unique]
                exact ⟨distinct, distinct_scanMembers fuel members⟩
      split at scanned
      · split at scanned
        · cases scanned
        · split at scanned
          · cases scanned
            trivial
          · split at scanned
            · cases scanned
            · cases scanned
              exact distinct_scanElements fuel ‹_›
      · exact distinct_scanAtom scanned

theorem distinct_scanMembers : ∀ (fuel : Nat) {t : Text} {fs : List (Text × Json)} {rest : Text},
    scanMembers fuel t = .ok (fs, rest) → DistinctFields fs
  | 0, _, _, _, scanned => by cases scanned
  | fuel + 1, t, fs, rest, scanned => by
      rw [scanMembers] at scanned
      split at scanned
      · cases scanned
      split at scanned
      · cases scanned
      rename_i v after first
      have distinct := distinct_scanValue fuel first
      split at scanned
      · cases scanned
      split at scanned
      · cases scanned
        exact ⟨distinct, trivial⟩
      split at scanned
      · split at scanned
        · cases scanned
        · cases scanned
          exact ⟨distinct, distinct_scanMembers fuel ‹_›⟩
      · cases scanned

theorem distinct_scanElements : ∀ (fuel : Nat) {t : Text} {vs : List Json} {rest : Text},
    scanElements fuel t = .ok (vs, rest) → DistinctItems vs
  | 0, _, _, _, scanned => by cases scanned
  | fuel + 1, t, vs, rest, scanned => by
      rw [scanElements] at scanned
      split at scanned
      · cases scanned
      rename_i v after first
      have distinct := distinct_scanValue fuel first
      split at scanned
      · cases scanned
      split at scanned
      · cases scanned
        exact ⟨distinct, trivial⟩
      split at scanned
      · split at scanned
        · cases scanned
        · cases scanned
          exact ⟨distinct, distinct_scanElements fuel ‹_›⟩
      · cases scanned

end

/-- Every object `json.loads` returns is a `dict`. -/
theorem distinct_of_loads {t : Text} {v : Json} (loaded : loads t = .ok v) : Distinct v := by
  rw [loads] at loaded
  split at loaded
  · cases loaded
  · rename_i w rest scanned
    split at loaded
    · cases loaded
      exact distinct_scanValue _ scanned
    · cases loaded

theorem distinct_of_loadsBytes {b : Bytes} {v : Json} (loaded : loadsBytes b = .ok v) :
    Distinct v := by
  unfold loadsBytes at loaded
  dsimp only at loaded
  split at loaded
  · cases loaded
  · exact distinct_of_loads loaded

/-! ## Round trip -/

/-- **Round trip.**  Dumped text is read back as a value with the same canonical
form exactly when no string holds an adjacent surrogate pair. -/
theorem loadsBytes_dumps_iff {v : Json} (printable : v.Printable) :
    (∃ w, loadsBytes ((dumps v).map fun c => UInt8.ofNat c.val) = .ok w ∧ canon w = canon v) ↔
      v.AllText PairFree := by
  have canonical : (canon v).Printable := (printable_canon v).2 printable
  rw [dumps, loadsBytes_render canonical.2]
  constructor
  · rintro ⟨w, joined, same⟩
    have free := (allText_canon PairFree w).2 (allText_rejoin _ joined)
    rw [same] at free
    exact (allText_canon PairFree v).1 free
  · intro free
    exact ⟨canon v, rejoin_of_pairFree _ canonical.1 ((allText_canon PairFree v).2 free),
      canon_canon v⟩

end Json

end InstrumentBench.Theory
