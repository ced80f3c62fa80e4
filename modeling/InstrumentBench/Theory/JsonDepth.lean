/-
# Theory.JsonDepth -- `json.loads` under a recursion limit

The decoder recurses once for each array or object it enters and raises
`RecursionError` when no level is left; the two hooks run in Python frames of
their own, on top of the levels entered so far.  `loadsWithin` is `loads` with
that limit.

The fuel of the scan is enough: more changes nothing (`scanValueWithin_enough`).

`demand` follows the decoder and counts: the deepest level, and the longest
integer literal, it meets before it stops.  `loadsWithin_eq` says that the limit
matters exactly when the demanded depth passes it, and `loads_tooManyDigits_iff`
that an integer literal is refused exactly when the longest one met is past
`maxStrDigits`.
-/
import InstrumentBench.Theory.JsonLoaded

namespace InstrumentBench.Theory

set_option autoImplicit false

/-- What the limited decoder raises. -/
inductive DepthError where
  | load (error : LoadError)
  | recursion
deriving DecidableEq

/-- The frames the hooks run in. -/
structure HookFrames where
  object : Nat
  constant : Nat

namespace Json

/-- The limited decoder raises what the unlimited one does. -/
def lifted {α : Type} : Except LoadError α → Except DepthError α
  | .error e => .error (.load e)
  | .ok a => .ok a

/-! ## The limited decoder -/

section Within

variable (hooks : HookFrames)

def scanAtomWithin (depth : Nat) (t : Text) : Except DepthError (Json × Text) :=
  match scanAtom t with
  | .error (.constant name) =>
      if hooks.constant ≤ depth then .error (.load (.constant name)) else .error .recursion
  | other => lifted other

/-- The hook call that ends an object. -/
def uniqueObjectWithin (depth : Nat) (fs : List (Text × Json)) : Except DepthError Json :=
  if hooks.object ≤ depth then lifted (uniqueObject fs) else .error .recursion

mutual

/-- `scanValue` with `depth` levels left. -/
def scanValueWithin : Nat → Nat → Text → Except DepthError (Json × Text)
  | 0, _, _ => .error (.load .malformed)
  | _ + 1, _, [] => .error (.load .malformed)
  | fuel + 1, depth, c :: rest =>
      if c = CodePoint.ofChar '"' then
        match scanString (rest.length + 1) rest with
        | .error e => .error (.load e)
        | .ok (s, rest) => .ok (.str s, rest)
      else if c = CodePoint.ofChar '{' then
        if depth = 0 then .error .recursion
        else
          match skipSpace rest with
          | [] => .error (.load .malformed)
          | d :: rest =>
              if d = CodePoint.ofChar '}' then
                match uniqueObjectWithin hooks (depth - 1) [] with
                | .error e => .error e
                | .ok v => .ok (v, rest)
              else
                match scanMembersWithin fuel (depth - 1) (d :: rest) with
                | .error e => .error e
                | .ok (fs, rest) =>
                    match uniqueObjectWithin hooks (depth - 1) fs with
                    | .error e => .error e
                    | .ok v => .ok (v, rest)
      else if c = CodePoint.ofChar '[' then
        if depth = 0 then .error .recursion
        else
          match skipSpace rest with
          | [] => .error (.load .malformed)
          | d :: rest =>
              if d = CodePoint.ofChar ']' then .ok (.arr [], rest)
              else
                match scanElementsWithin fuel (depth - 1) (d :: rest) with
                | .error e => .error e
                | .ok (vs, rest) => .ok (.arr vs, rest)
      else scanAtomWithin hooks depth (c :: rest)

def scanMembersWithin : Nat → Nat → Text → Except DepthError (List (Text × Json) × Text)
  | 0, _, _ => .error (.load .malformed)
  | fuel + 1, depth, t =>
      match scanKey t with
      | .error e => .error (.load e)
      | .ok (k, rest) =>
          match scanValueWithin fuel depth rest with
          | .error e => .error e
          | .ok (v, rest) =>
              match skipSpace rest with
              | [] => .error (.load .malformed)
              | c :: rest =>
                  if c = CodePoint.ofChar '}' then .ok ([(k, v)], rest)
                  else if c = CodePoint.ofChar ',' then
                    match scanMembersWithin fuel depth (skipSpace rest) with
                    | .error e => .error e
                    | .ok (fs, rest) => .ok ((k, v) :: fs, rest)
                  else .error (.load .malformed)

def scanElementsWithin : Nat → Nat → Text → Except DepthError (List Json × Text)
  | 0, _, _ => .error (.load .malformed)
  | fuel + 1, depth, t =>
      match scanValueWithin fuel depth t with
      | .error e => .error e
      | .ok (v, rest) =>
          match skipSpace rest with
          | [] => .error (.load .malformed)
          | c :: rest =>
              if c = CodePoint.ofChar ']' then .ok ([v], rest)
              else if c = CodePoint.ofChar ',' then
                match scanElementsWithin fuel depth (skipSpace rest) with
                | .error e => .error e
                | .ok (vs, rest) => .ok (v :: vs, rest)
              else .error (.load .malformed)

end

/-- `json.loads(text)` with `depth` levels left. -/
def loadsWithin (depth : Nat) (t : Text) : Except DepthError Json :=
  match scanValueWithin hooks (2 * t.length + 1) depth (skipSpace t) with
  | .error e => .error e
  | .ok (v, rest) => if skipSpace rest = [] then .ok v else .error (.load .malformed)

end Within

/-! ## The fuel -/

section Fuel

variable {hooks : HookFrames}

theorem scanAtomWithin_suffix {depth : Nat} {t rest : Text} {v : Json}
    (scanned : scanAtomWithin hooks depth t = .ok (v, rest)) : rest <:+ t := by
  unfold scanAtomWithin at scanned
  split at scanned
  · split at scanned <;> cases scanned
  · cases atom : scanAtom t with
    | error e =>
        rw [atom] at scanned
        cases scanned
    | ok r =>
        rw [atom] at scanned
        cases scanned
        exact scanAtom_suffix atom

mutual

theorem scanValueWithin_suffix : ∀ (fuel : Nat) {depth : Nat} {t : Text} {v : Json} {rest : Text},
    scanValueWithin hooks fuel depth t = .ok (v, rest) → rest <:+ t
  | 0, _, _, _, _, scanned => by cases scanned
  | _ + 1, _, [], _, _, scanned => by cases scanned
  | fuel + 1, depth, c :: cs, v, rest, scanned => by
      have behind := List.suffix_cons c cs
      have opened := (skipSpace_suffix cs).trans behind
      rw [scanValueWithin] at scanned
      split at scanned
      · split at scanned
        · cases scanned
        · rename_i s after found
          cases scanned
          exact (scanString_suffix found).trans behind
      split at scanned
      · split at scanned
        · cases scanned
        split at scanned
        · cases scanned
        · rename_i d after inner
          rw [inner] at opened
          split at scanned
          · split at scanned <;> cases scanned
            exact (List.suffix_cons d _).trans opened
          · split at scanned
            · cases scanned
            · rename_i fs left members
              split at scanned <;> cases scanned
              exact (scanMembersWithin_suffix fuel members).trans opened
      split at scanned
      · split at scanned
        · cases scanned
        split at scanned
        · cases scanned
        · rename_i d after inner
          rw [inner] at opened
          split at scanned
          · cases scanned
            exact (List.suffix_cons d _).trans opened
          · split at scanned <;> cases scanned
            exact (scanElementsWithin_suffix fuel ‹_›).trans opened
      · exact scanAtomWithin_suffix scanned

theorem scanMembersWithin_suffix : ∀ (fuel : Nat) {depth : Nat} {t : Text}
    {fs : List (Text × Json)} {rest : Text},
    scanMembersWithin hooks fuel depth t = .ok (fs, rest) → rest <:+ t
  | 0, _, _, _, _, scanned => by cases scanned
  | fuel + 1, depth, t, fs, rest, scanned => by
      rw [scanMembersWithin] at scanned
      split at scanned
      · cases scanned
      rename_i k colon key
      split at scanned
      · cases scanned
      rename_i v after value
      have past := (skipSpace_suffix after).trans
        ((scanValueWithin_suffix fuel value).trans (scanKey_suffix key))
      split at scanned
      · cases scanned
      rename_i c left inner
      rw [inner] at past
      have next := (List.suffix_cons c left).trans past
      split at scanned
      · cases scanned
        exact next
      split at scanned
      · split at scanned
        · cases scanned
        · rename_i fs' left' others
          cases scanned
          exact (scanMembersWithin_suffix fuel others).trans ((skipSpace_suffix left).trans next)
      · cases scanned

theorem scanElementsWithin_suffix : ∀ (fuel : Nat) {depth : Nat} {t : Text} {vs : List Json}
    {rest : Text}, scanElementsWithin hooks fuel depth t = .ok (vs, rest) → rest <:+ t
  | 0, _, _, _, _, scanned => by cases scanned
  | fuel + 1, depth, t, vs, rest, scanned => by
      rw [scanElementsWithin] at scanned
      split at scanned
      · cases scanned
      rename_i v after value
      have past := (skipSpace_suffix after).trans (scanValueWithin_suffix fuel value)
      split at scanned
      · cases scanned
      rename_i c left inner
      rw [inner] at past
      have next := (List.suffix_cons c left).trans past
      split at scanned
      · cases scanned
        exact next
      split at scanned
      · split at scanned
        · cases scanned
        · rename_i vs' left' others
          cases scanned
          exact (scanElementsWithin_suffix fuel others).trans ((skipSpace_suffix left).trans next)
      · cases scanned

end

mutual

/-- One unit more changes nothing where there are two for each code point. -/
theorem scanValueWithin_succ : ∀ (fuel depth : Nat) (t : Text), 2 * t.length < fuel →
    scanValueWithin hooks (fuel + 1) depth t = scanValueWithin hooks fuel depth t
  | 0, _, _, enough => by omega
  | fuel + 1, depth, [], _ => by rw [scanValueWithin, scanValueWithin]
  | fuel + 1, depth, c :: cs, enough => by
      rw [List.length_cons] at enough
      have opened := (skipSpace_suffix cs).length_le
      rw [scanValueWithin, scanValueWithin]
      cases inner : skipSpace cs with
      | nil => rfl
      | cons d rest =>
          rw [inner] at opened
          dsimp only
          rw [scanMembersWithin_succ fuel (depth - 1) (d :: rest) (by omega),
            scanElementsWithin_succ fuel (depth - 1) (d :: rest) (by omega)]

theorem scanMembersWithin_succ : ∀ (fuel depth : Nat) (t : Text), 2 * t.length + 1 < fuel →
    scanMembersWithin hooks (fuel + 1) depth t = scanMembersWithin hooks fuel depth t
  | 0, _, _, enough => by omega
  | fuel + 1, depth, t, enough => by
      rw [scanMembersWithin, scanMembersWithin]
      cases key : scanKey t with
      | error e => rfl
      | ok keyed =>
          obtain ⟨k, colon⟩ := keyed
          have first := (scanKey_suffix key).length_le
          dsimp only
          rw [scanValueWithin_succ fuel depth colon (by omega)]
          cases value : scanValueWithin hooks fuel depth colon with
          | error e => rfl
          | ok read =>
              obtain ⟨v, after⟩ := read
              have past := ((skipSpace_suffix after).trans
                (scanValueWithin_suffix fuel value)).length_le
              dsimp only
              cases inner : skipSpace after with
              | nil => rfl
              | cons c left =>
                  rw [inner, List.length_cons] at past
                  have next := (skipSpace_suffix left).length_le
                  dsimp only
                  rw [scanMembersWithin_succ fuel depth (skipSpace left) (by omega)]

theorem scanElementsWithin_succ : ∀ (fuel depth : Nat) (t : Text), 2 * t.length + 1 < fuel →
    scanElementsWithin hooks (fuel + 1) depth t = scanElementsWithin hooks fuel depth t
  | 0, _, _, enough => by omega
  | fuel + 1, depth, t, enough => by
      rw [scanElementsWithin, scanElementsWithin]
      rw [scanValueWithin_succ fuel depth t (by omega)]
      cases value : scanValueWithin hooks fuel depth t with
      | error e => rfl
      | ok read =>
          obtain ⟨v, after⟩ := read
          have past := ((skipSpace_suffix after).trans
            (scanValueWithin_suffix fuel value)).length_le
          dsimp only
          cases inner : skipSpace after with
          | nil => rfl
          | cons c left =>
              rw [inner, List.length_cons] at past
              have next := (skipSpace_suffix left).length_le
              dsimp only
              rw [scanElementsWithin_succ fuel depth (skipSpace left) (by omega)]

end

/-- **The fuel is enough**: more than twice the length changes nothing. -/
theorem scanValueWithin_enough {fuel : Nat} {t : Text} (depth : Nat) (enough : 2 * t.length < fuel) :
    scanValueWithin hooks fuel depth t = scanValueWithin hooks (2 * t.length + 1) depth t := by
  induction fuel, enough using Nat.le_induction with
  | base => rfl
  | succ fuel enough ih => rw [scanValueWithin_succ fuel depth t enough, ih]

end Fuel

/-! ## What a text demands -/

/-- The deepest level entered and the digits of the longest integer literal. -/
structure Demand where
  depth : Nat
  digits : Nat

namespace Demand

def none : Demand := ⟨0, 0⟩

/-- The demand of both. -/
def and (a b : Demand) : Demand := ⟨max a.depth b.depth, max a.digits b.digits⟩

/-- The demand one level further down. -/
def deeper (a : Demand) : Demand := ⟨a.depth + 1, a.digits⟩

end Demand

def atomDigits (t : Text) : Nat :=
  if txt "null" <+: t ∨ txt "true" <+: t ∨ txt "false" <+: t then 0
  else
    match scanNumber t with
    | some (l, _) => if l.isFloat then 0 else (decimalDigits l.whole).length
    | none => 0

section Demanded

variable (hooks : HookFrames)

def atomDemand (t : Text) : Demand :=
  match scanAtom t with
  | .error (.constant _) => ⟨hooks.constant, 0⟩
  | _ => ⟨0, atomDigits t⟩

mutual

def valueDemand : Nat → Text → Demand
  | 0, _ => .none
  | _ + 1, [] => .none
  | fuel + 1, c :: rest =>
      if c = CodePoint.ofChar '"' then .none
      else if c = CodePoint.ofChar '{' then
        match skipSpace rest with
        | [] => .deeper .none
        | d :: rest =>
            if d = CodePoint.ofChar '}' then .deeper ⟨hooks.object, 0⟩
            else
              match scanMembers fuel (d :: rest) with
              | .error _ => .deeper (membersDemand fuel (d :: rest))
              | .ok _ => .deeper ((membersDemand fuel (d :: rest)).and ⟨hooks.object, 0⟩)
      else if c = CodePoint.ofChar '[' then
        match skipSpace rest with
        | [] => .deeper .none
        | d :: rest =>
            if d = CodePoint.ofChar ']' then .deeper .none
            else .deeper (elementsDemand fuel (d :: rest))
      else atomDemand hooks (c :: rest)

def membersDemand : Nat → Text → Demand
  | 0, _ => .none
  | fuel + 1, t =>
      match scanKey t with
      | .error _ => .none
      | .ok (_, rest) =>
          match scanValue fuel rest with
          | .error _ => valueDemand fuel rest
          | .ok (_, after) =>
              match skipSpace after with
              | [] => valueDemand fuel rest
              | c :: after =>
                  if c = CodePoint.ofChar ',' then
                    (valueDemand fuel rest).and (membersDemand fuel (skipSpace after))
                  else valueDemand fuel rest

def elementsDemand : Nat → Text → Demand
  | 0, _ => .none
  | fuel + 1, t =>
      match scanValue fuel t with
      | .error _ => valueDemand fuel t
      | .ok (_, after) =>
          match skipSpace after with
          | [] => valueDemand fuel t
          | c :: after =>
              if c = CodePoint.ofChar ',' then
                (valueDemand fuel t).and (elementsDemand fuel (skipSpace after))
              else valueDemand fuel t

end

/-- What `json.loads(text)` meets before it stops. -/
def demand (t : Text) : Demand := valueDemand hooks (2 * t.length + 1) (skipSpace t)

end Demanded

/-! ## The limit -/

section Limit

variable {hooks : HookFrames}

/-- The unlimited result where `need` levels are left. -/
def limited {α : Type} (need depth : Nat) (x : Except LoadError α) : Except DepthError α :=
  if need ≤ depth then lifted x else .error .recursion

@[simp] theorem limited_zero {α : Type} (depth : Nat) (x : Except LoadError α) :
    limited 0 depth x = lifted x := if_pos (Nat.zero_le depth)

theorem limited_fits {α : Type} {need depth : Nat} (x : Except LoadError α) (fits : need ≤ depth) :
    limited need depth x = lifted x := if_pos fits

theorem limited_deep {α : Type} {need depth : Nat} (x : Except LoadError α) (deep : ¬ need ≤ depth) :
    limited need depth x = .error .recursion := if_neg deep

theorem limited_none {α : Type} (depth : Nat) (x : Except LoadError α) :
    limited Demand.none.depth depth x = lifted x := limited_zero depth x

/-- Entering a container takes one level. -/
theorem limited_deeper {α : Type} (need : Demand) (depth : Nat) (x : Except LoadError α) :
    limited need.deeper.depth depth x =
      if depth = 0 then .error .recursion else limited need.depth (depth - 1) x := by
  simp only [limited, Demand.deeper]
  by_cases none : depth = 0
  · rw [if_pos none]
    exact if_neg (by omega)
  · rw [if_neg none]
    exact if_congr (by omega) rfl rfl

/-- Two scans, one after the other, demand the deeper of both. -/
theorem limited_and {α : Type} {first second : Demand} {depth : Nat} {x : Except LoadError α}
    (fits : first.depth ≤ depth) :
    limited (first.and second).depth depth x = limited second.depth depth x := by
  simp only [limited, Demand.and]
  exact if_congr (by omega) rfl rfl

theorem limited_and_recursion {α : Type} {first : Demand} (second : Demand) {depth : Nat}
    (x : Except LoadError α) (deep : ¬ first.depth ≤ depth) :
    limited (first.and second).depth depth x = .error .recursion := by
  apply if_neg
  simp only [Demand.and]
  omega

theorem scanAtomWithin_eq (depth : Nat) (t : Text) :
    scanAtomWithin hooks depth t = limited (atomDemand hooks t).depth depth (scanAtom t) := by
  unfold scanAtomWithin atomDemand
  cases scanned : scanAtom t with
  | ok r => simp
  | error e => cases e <;> simp [limited, lifted]

mutual

/-- **The limit on one value.**  The limited scan is the unlimited one, unless the
text demands a deeper level than there is. -/
theorem scanValueWithin_eq : ∀ (fuel depth : Nat) (t : Text),
    scanValueWithin hooks fuel depth t =
      limited (valueDemand hooks fuel t).depth depth (scanValue fuel t)
  | 0, depth, t => by
      rw [scanValueWithin, valueDemand, scanValue, limited_none]
      rfl
  | fuel + 1, depth, [] => by
      rw [scanValueWithin, valueDemand, scanValue, limited_none]
      rfl
  | fuel + 1, depth, c :: rest => by
      rw [scanValueWithin, valueDemand, scanValue]
      by_cases quote : c = CodePoint.ofChar '"'
      · rw [if_pos quote, if_pos quote, if_pos quote, limited_none]
        cases scanString (rest.length + 1) rest <;> rfl
      rw [if_neg quote, if_neg quote, if_neg quote]
      by_cases brace : c = CodePoint.ofChar '{'
      · rw [if_pos brace, if_pos brace, if_pos brace]
        cases skipSpace rest with
        | nil =>
            simp only [limited_deeper, limited_none]
            rfl
        | cons d rest =>
            dsimp only
            by_cases close : d = CodePoint.ofChar '}'
            · simp only [if_pos close, limited_deeper]
              refine if_congr Iff.rfl rfl ?_
              by_cases called : hooks.object ≤ depth - 1
              · simp [uniqueObjectWithin, limited, called, uniqueObject, keys, firstDuplicate, lifted]
              · simp [uniqueObjectWithin, limited, called]
            · simp only [if_neg close]
              rw [scanMembersWithin_eq fuel (depth - 1) (d :: rest)]
              cases scanMembers fuel (d :: rest) with
              | error e =>
                  simp only [limited_deeper]
                  refine if_congr Iff.rfl rfl ?_
                  by_cases fits : (membersDemand hooks fuel (d :: rest)).depth ≤ depth - 1
                  · simp only [limited, if_pos fits, lifted]
                  · simp only [limited, if_neg fits]
              | ok members =>
                  simp only [limited_deeper]
                  refine if_congr Iff.rfl rfl ?_
                  by_cases fits : (membersDemand hooks fuel (d :: rest)).depth ≤ depth - 1
                  · rw [limited_and fits]
                    simp only [limited, if_pos fits, lifted, uniqueObjectWithin]
                    by_cases called : hooks.object ≤ depth - 1
                    · simp only [if_pos called]
                      cases uniqueObject members.1 <;> rfl
                    · simp only [if_neg called]
                  · rw [limited_and_recursion _ _ fits]
                    simp only [limited, if_neg fits]
      rw [if_neg brace, if_neg brace, if_neg brace]
      by_cases bracket : c = CodePoint.ofChar '['
      · rw [if_pos bracket, if_pos bracket, if_pos bracket]
        cases skipSpace rest with
        | nil =>
            simp only [limited_deeper, limited_none]
            rfl
        | cons d rest =>
            dsimp only
            by_cases close : d = CodePoint.ofChar ']'
            · simp only [if_pos close, limited_deeper, limited_none]
              rfl
            · simp only [if_neg close, limited_deeper]
              refine if_congr Iff.rfl rfl ?_
              rw [scanElementsWithin_eq fuel (depth - 1) (d :: rest)]
              by_cases fits : (elementsDemand hooks fuel (d :: rest)).depth ≤ depth - 1
              · simp only [limited, if_pos fits]
                cases scanElements fuel (d :: rest) <;> rfl
              · simp only [limited, if_neg fits]
      rw [if_neg bracket, if_neg bracket, if_neg bracket]
      exact scanAtomWithin_eq depth (c :: rest)

theorem scanMembersWithin_eq : ∀ (fuel depth : Nat) (t : Text),
    scanMembersWithin hooks fuel depth t =
      limited (membersDemand hooks fuel t).depth depth (scanMembers fuel t)
  | 0, depth, t => by
      rw [scanMembersWithin, membersDemand, scanMembers, limited_none]
      rfl
  | fuel + 1, depth, t => by
      rw [scanMembersWithin, membersDemand, scanMembers]
      cases scanKey t with
      | error e =>
          simp only [limited_none]
          rfl
      | ok keyed =>
          obtain ⟨k, rest⟩ := keyed
          dsimp only
          rw [scanValueWithin_eq fuel depth rest]
          by_cases fits : (valueDemand hooks fuel rest).depth ≤ depth
          · rw [limited_fits _ fits]
            cases scanValue fuel rest with
            | error e =>
                dsimp only [lifted]
                rw [limited_fits _ fits]
                rfl
            | ok value =>
                dsimp only [lifted]
                cases skipSpace value.2 with
                | nil =>
                    dsimp only
                    rw [limited_fits _ fits]
                    rfl
                | cons c after =>
                    dsimp only
                    by_cases comma : c = CodePoint.ofChar ','
                    · subst comma
                      rw [if_neg (by decide), if_pos rfl, if_pos rfl, if_neg (by decide), if_pos rfl,
                        limited_and fits, scanMembersWithin_eq fuel depth (skipSpace after)]
                      by_cases deeper : (membersDemand hooks fuel (skipSpace after)).depth ≤ depth
                      · rw [limited_fits _ deeper, limited_fits _ deeper]
                        cases scanMembers fuel (skipSpace after) <;> rfl
                      · rw [limited_deep _ deeper, limited_deep _ deeper]
                    · rw [if_neg comma, if_neg comma, if_neg comma, limited_fits _ fits]
                      split <;> rfl
          · rw [limited_deep _ fits]
            cases scanValue fuel rest with
            | error e => exact (limited_deep _ fits).symm
            | ok value =>
                dsimp only
                cases skipSpace value.2 with
                | nil => exact (limited_deep _ fits).symm
                | cons c after =>
                    dsimp only
                    by_cases comma : c = CodePoint.ofChar ','
                    · rw [if_pos comma]
                      exact (limited_and_recursion _ _ fits).symm
                    · rw [if_neg comma]
                      exact (limited_deep _ fits).symm

theorem scanElementsWithin_eq : ∀ (fuel depth : Nat) (t : Text),
    scanElementsWithin hooks fuel depth t =
      limited (elementsDemand hooks fuel t).depth depth (scanElements fuel t)
  | 0, depth, t => by
      rw [scanElementsWithin, elementsDemand, scanElements, limited_none]
      rfl
  | fuel + 1, depth, t => by
      rw [scanElementsWithin, elementsDemand, scanElements, scanValueWithin_eq fuel depth t]
      by_cases fits : (valueDemand hooks fuel t).depth ≤ depth
      · rw [limited_fits _ fits]
        cases scanValue fuel t with
        | error e =>
            dsimp only [lifted]
            rw [limited_fits _ fits]
            rfl
        | ok value =>
            dsimp only [lifted]
            cases skipSpace value.2 with
            | nil =>
                dsimp only
                rw [limited_fits _ fits]
                rfl
            | cons c after =>
                dsimp only
                by_cases comma : c = CodePoint.ofChar ','
                · subst comma
                  rw [if_neg (by decide), if_pos rfl, if_pos rfl, if_neg (by decide), if_pos rfl,
                    limited_and fits, scanElementsWithin_eq fuel depth (skipSpace after)]
                  by_cases deeper : (elementsDemand hooks fuel (skipSpace after)).depth ≤ depth
                  · rw [limited_fits _ deeper, limited_fits _ deeper]
                    cases scanElements fuel (skipSpace after) <;> rfl
                  · rw [limited_deep _ deeper, limited_deep _ deeper]
                · rw [if_neg comma, if_neg comma, if_neg comma, limited_fits _ fits]
                  split <;> rfl
      · rw [limited_deep _ fits]
        cases scanValue fuel t with
        | error e => exact (limited_deep _ fits).symm
        | ok value =>
            dsimp only
            cases skipSpace value.2 with
            | nil => exact (limited_deep _ fits).symm
            | cons c after =>
                dsimp only
                by_cases comma : c = CodePoint.ofChar ','
                · rw [if_pos comma]
                  exact (limited_and_recursion _ _ fits).symm
                · rw [if_neg comma]
                  exact (limited_deep _ fits).symm

end

/-- **The limit.**  `json.loads` raises `RecursionError` exactly when the text
demands a deeper level than is left, and else does what it does without a limit. -/
theorem loadsWithin_eq (depth : Nat) (t : Text) :
    loadsWithin hooks depth t = limited (demand hooks t).depth depth (loads t) := by
  rw [loadsWithin, demand, loads, scanValueWithin_eq]
  by_cases fits : (valueDemand hooks (2 * t.length + 1) (skipSpace t)).depth ≤ depth
  · rw [limited_fits _ fits, limited_fits _ fits]
    cases scanValue (2 * t.length + 1) (skipSpace t) with
    | error e => rfl
    | ok value =>
        dsimp only [lifted]
        split <;> rfl
  · rw [limited_deep _ fits, limited_deep _ fits]

end Limit

/-! ## Integer literals -/

section Digits

variable (hooks : HookFrames)

theorem scanChar_error {t : Text} {e : LoadError} (h : scanChar t = .error e) : e = .malformed := by
  unfold scanChar at h
  repeat' split at h
  all_goals cases h
  all_goals rfl

theorem scanString_error {fuel : Nat} {t : Text} {e : LoadError}
    (h : scanString fuel t = .error e) : e = .malformed := by
  induction fuel generalizing t with
  | zero =>
      cases h
      rfl
  | succ fuel ih =>
      rw [scanString] at h
      split at h
      · cases h
        exact scanChar_error ‹_›
      · cases h
      · split at h
        · cases h
          exact ih ‹_›
        · cases h

theorem scanKey_error {t : Text} {e : LoadError} (h : scanKey t = .error e) : e = .malformed := by
  unfold scanKey at h
  repeat' split at h
  all_goals cases h
  all_goals first | rfl | exact scanString_error ‹_›

theorem uniqueObject_error {fs : List (Text × Json)} {e : LoadError}
    (h : uniqueObject fs = .error e) : ∃ key, e = .duplicateKey key := by
  unfold uniqueObject at h
  split at h
  · cases h
    exact ⟨_, rfl⟩
  · cases h

theorem numberValue_tooManyDigits_iff (l : NumberLiteral) :
    numberValue l = .error .tooManyDigits ↔
      maxStrDigits < if l.isFloat then 0 else (decimalDigits l.whole).length := by
  unfold numberValue
  by_cases float : l.isFloat = true
  · rw [if_pos float, if_pos float]
    exact iff_of_false (by simp) (Nat.not_lt_zero _)
  · rw [if_neg float, if_neg float]
    by_cases short : (decimalDigits l.whole).length ≤ maxStrDigits
    · rw [if_pos short]
      exact iff_of_false (by simp) (Nat.not_lt.2 short)
    · rw [if_neg short]
      exact iff_of_true rfl (Nat.lt_of_not_le short)

theorem scanAtom_digits (t : Text) :
    scanAtom t = .error .tooManyDigits ↔ maxStrDigits < atomDigits t := by
  unfold scanAtom atomDigits
  by_cases word : txt "null" <+: t ∨ txt "true" <+: t ∨ txt "false" <+: t
  · rw [if_pos word]
    refine iff_of_false ?_ (Nat.not_lt_zero _)
    rcases word with isNull | isTrue | isFalse
    · simp [isNull]
    · split_ifs <;> simp
    · split_ifs <;> simp
  · rw [if_neg word]
    simp only [not_or] at word
    rw [if_neg word.1, if_neg word.2.1, if_neg word.2.2]
    cases scanNumber t with
    | none => exact iff_of_false (by split_ifs <;> simp) (Nat.not_lt_zero _)
    | some found =>
        dsimp only
        rw [← numberValue_tooManyDigits_iff]
        cases numberValue found.1 <;> simp

theorem scanAtom_tooManyDigits_iff (t : Text) :
    scanAtom t = .error .tooManyDigits ↔ maxStrDigits < (atomDemand hooks t).digits := by
  unfold atomDemand
  split
  · rename_i name scanned
    rw [scanned]
    exact iff_of_false (by simp) (Nat.not_lt_zero _)
  · exact scanAtom_digits t

mutual

theorem scanValue_tooManyDigits_iff : ∀ (fuel : Nat) (t : Text),
    scanValue fuel t = .error .tooManyDigits ↔ maxStrDigits < (valueDemand hooks fuel t).digits
  | 0, t => by
      rw [scanValue, valueDemand]
      exact iff_of_false (by simp) (Nat.not_lt_zero _)
  | fuel + 1, [] => by
      rw [scanValue, valueDemand]
      exact iff_of_false (by simp) (Nat.not_lt_zero _)
  | fuel + 1, c :: rest => by
      rw [scanValue, valueDemand]
      by_cases quote : c = CodePoint.ofChar '"'
      · rw [if_pos quote, if_pos quote]
        refine iff_of_false ?_ (Nat.not_lt_zero _)
        cases scanned : scanString (rest.length + 1) rest with
        | error e => simp [scanString_error scanned]
        | ok s => simp
      rw [if_neg quote, if_neg quote]
      by_cases brace : c = CodePoint.ofChar '{'
      · rw [if_pos brace, if_pos brace]
        cases skipSpace rest with
        | nil => exact iff_of_false (by simp) (Nat.not_lt_zero _)
        | cons d rest =>
            dsimp only
            by_cases close : d = CodePoint.ofChar '}'
            · rw [if_pos close, if_pos close]
              exact iff_of_false (by simp) (Nat.not_lt_zero _)
            · rw [if_neg close, if_neg close]
              have members := scanMembers_tooManyDigits_iff fuel (d :: rest)
              cases scanned : scanMembers fuel (d :: rest) with
              | error e =>
                  rw [scanned] at members
                  simpa [Demand.deeper] using members
              | ok fs =>
                  rw [scanned] at members
                  refine iff_of_false ?_ ?_
                  · dsimp only
                    cases unique : uniqueObject fs.1 with
                    | ok v => simp
                    | error e =>
                        obtain ⟨key, rfl⟩ := uniqueObject_error unique
                        simp
                  · simpa [Demand.deeper, Demand.and] using members
      rw [if_neg brace, if_neg brace]
      by_cases bracket : c = CodePoint.ofChar '['
      · rw [if_pos bracket, if_pos bracket]
        cases skipSpace rest with
        | nil => exact iff_of_false (by simp) (Nat.not_lt_zero _)
        | cons d rest =>
            dsimp only
            by_cases close : d = CodePoint.ofChar ']'
            · rw [if_pos close, if_pos close]
              exact iff_of_false (by simp) (Nat.not_lt_zero _)
            · rw [if_neg close, if_neg close]
              refine Iff.trans ?_ (scanElements_tooManyDigits_iff fuel (d :: rest))
              cases scanElements fuel (d :: rest) <;> simp
      rw [if_neg bracket, if_neg bracket]
      exact scanAtom_tooManyDigits_iff hooks (c :: rest)

theorem scanMembers_tooManyDigits_iff : ∀ (fuel : Nat) (t : Text),
    scanMembers fuel t = .error .tooManyDigits ↔ maxStrDigits < (membersDemand hooks fuel t).digits
  | 0, t => by
      rw [scanMembers, membersDemand]
      exact iff_of_false (by simp) (Nat.not_lt_zero _)
  | fuel + 1, t => by
      rw [scanMembers, membersDemand]
      cases keyed : scanKey t with
      | error e =>
          rw [scanKey_error keyed]
          exact iff_of_false (by simp) (Nat.not_lt_zero _)
      | ok key =>
          obtain ⟨k, rest⟩ := key
          dsimp only
          have first := scanValue_tooManyDigits_iff fuel rest
          cases scanned : scanValue fuel rest with
          | error e =>
              rw [scanned] at first
              simpa using first
          | ok value =>
              have short : ¬ maxStrDigits < (valueDemand hooks fuel rest).digits := by
                intro long
                rw [first.2 long] at scanned
                cases scanned
              dsimp only
              cases skipSpace value.2 with
              | nil => exact iff_of_false (by simp) short
              | cons c after =>
                  dsimp only
                  by_cases comma : c = CodePoint.ofChar ','
                  · subst comma
                    rw [if_neg (by decide), if_pos rfl, if_pos rfl]
                    refine Iff.trans ?_ (Iff.trans (scanMembers_tooManyDigits_iff fuel (skipSpace after)) ?_)
                    · cases scanMembers fuel (skipSpace after) <;> simp
                    · simp only [Demand.and]
                      omega
                  · rw [if_neg comma, if_neg comma]
                    refine iff_of_false ?_ short
                    split <;> simp

theorem scanElements_tooManyDigits_iff : ∀ (fuel : Nat) (t : Text),
    scanElements fuel t = .error .tooManyDigits ↔ maxStrDigits < (elementsDemand hooks fuel t).digits
  | 0, t => by
      rw [scanElements, elementsDemand]
      exact iff_of_false (by simp) (Nat.not_lt_zero _)
  | fuel + 1, t => by
      rw [scanElements, elementsDemand]
      have first := scanValue_tooManyDigits_iff fuel t
      cases scanned : scanValue fuel t with
      | error e =>
          rw [scanned] at first
          simpa using first
      | ok value =>
          have short : ¬ maxStrDigits < (valueDemand hooks fuel t).digits := by
            intro long
            rw [first.2 long] at scanned
            cases scanned
          dsimp only
          cases skipSpace value.2 with
          | nil => exact iff_of_false (by simp) short
          | cons c after =>
              dsimp only
              by_cases comma : c = CodePoint.ofChar ','
              · subst comma
                rw [if_neg (by decide), if_pos rfl, if_pos rfl]
                refine Iff.trans ?_ (Iff.trans (scanElements_tooManyDigits_iff fuel (skipSpace after)) ?_)
                · cases scanElements fuel (skipSpace after) <;> simp
                · simp only [Demand.and]
                  omega
              · rw [if_neg comma, if_neg comma]
                refine iff_of_false ?_ short
                split <;> simp

end

/-- **The digit limit.**  `json.loads` raises the plain `ValueError` of `int` exactly
when an integer literal it meets is past the limit. -/
theorem loads_tooManyDigits_iff (t : Text) :
    loads t = .error .tooManyDigits ↔ maxStrDigits < (demand hooks t).digits := by
  rw [loads, demand, ← scanValue_tooManyDigits_iff]
  cases scanValue (2 * t.length + 1) (skipSpace t) with
  | error e => simp
  | ok value =>
      dsimp only
      split <;> simp

/-! ## A number on its own -/

theorem numberEnd_nil : NumberEnd [] := by
  intro c hc
  cases hc

/-- A number starts with a minus sign or a digit. -/
theorem render_head_ne (l : NumberLiteral) {d : CodePoint} (notMinus : CodePoint.ofChar '-' ≠ d)
    (notDigit : ∀ e : Digit, e.point ≠ d) : ∃ c tail, l.render = c :: tail ∧ c ≠ d := by
  obtain ⟨c, tail, rendered, rfl | ⟨e, rfl⟩⟩ := render_head l
  · exact ⟨_, tail, rendered, notMinus⟩
  · exact ⟨_, tail, rendered, notDigit e⟩

theorem skipSpace_number (l : NumberLiteral) : skipSpace l.render = l.render := by
  have digits : ∀ e : Digit, isSpace e.point = false := by decide
  obtain ⟨c, tail, rendered, rfl | ⟨e, rfl⟩⟩ := render_head l
  · rw [rendered]
    rfl
  · rw [rendered, skipSpace, digits e]
    rfl

theorem loads_number (l : NumberLiteral) : loads l.render = numberValue l := by
  have scanned := scanValue_render_number l numberEnd_nil (2 * l.render.length)
  rw [List.append_nil] at scanned
  rw [loads, skipSpace_number, scanned]
  cases numberValue l <;> rfl

theorem numberValue_not_constant (l : NumberLiteral) (name : String) :
    withRest [] (numberValue l) ≠ .error (.constant name) := by
  unfold numberValue
  split_ifs <;> simp [withRest]

/-- A number takes no level. -/
theorem demand_number (l : NumberLiteral) : (demand hooks l.render).depth = 0 := by
  have atom := scanAtom_render l numberEnd_nil
  rw [List.append_nil] at atom
  have entered : valueDemand hooks (2 * l.render.length + 1) l.render = atomDemand hooks l.render := by
    obtain ⟨c, tail, rendered, quote⟩ := render_head_ne l (d := CodePoint.ofChar '"')
      (by decide) (by decide)
    obtain ⟨_, _, again, brace⟩ := render_head_ne l (d := CodePoint.ofChar '{')
      (by decide) (by decide)
    obtain ⟨_, _, third, bracket⟩ := render_head_ne l (d := CodePoint.ofChar '[')
      (by decide) (by decide)
    rw [rendered] at again third
    cases again
    cases third
    rw [rendered, List.length_cons, valueDemand, if_neg quote, if_neg brace, if_neg bracket]
  rw [demand, skipSpace_number, entered, atomDemand, atom]
  split
  · exact absurd ‹_› (numberValue_not_constant l _)
  · rfl

end Digits

end Json

end InstrumentBench.Theory
