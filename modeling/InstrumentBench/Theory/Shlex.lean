/-
# Theory.Shlex -- the lines of a text and the shell words of a line

`str.splitlines`, `str.strip` and `str.rstrip` of any text, and `shlex.split` of one line
in its POSIX mode, with and without comments.  The two modes agree on a line unless a
comment character stands in it outside quotes and unescaped (`bare`), and then they never do
(`split_of_not_bare`, `length_lt_of_bare`).
-/
import InstrumentBench.Theory.Text

namespace InstrumentBench.Theory.Shlex

set_option autoImplicit false

/-! ## Lines -/

/-- What `str.isspace` holds of. -/
def isSpace (c : CodePoint) : Bool :=
  let n := c.val
  (9 ≤ n && n ≤ 13) || (28 ≤ n && n ≤ 32) || n == 0x85 || n == 0xA0 || n == 0x1680 ||
    (0x2000 ≤ n && n ≤ 0x200A) || n == 0x2028 || n == 0x2029 || n == 0x202F || n == 0x205F ||
    n == 0x3000

/-- Where `str.splitlines` splits. -/
def isLineBreak (c : CodePoint) : Bool :=
  let n := c.val
  (10 ≤ n && n ≤ 13) || (28 ≤ n && n ≤ 30) || n == 0x85 || n == 0x2028 || n == 0x2029

/-- The lines of a text, of which `line` is read (backwards) and the last break may have
been a carriage return. -/
def linesFrom (line : Text) : Bool → Text → List Text
  | _, [] => if line = [] then [] else [line.reverse]
  | afterReturn, c :: t =>
      if afterReturn = true ∧ c = CodePoint.ofChar '\n' then linesFrom line false t
      else if isLineBreak c then line.reverse :: linesFrom [] (c = CodePoint.ofChar '\r') t
      else linesFrom (c :: line) false t

/-- `str.splitlines()` -/
def splitlines (t : Text) : List Text := linesFrom [] false t

/-- `str.lstrip()` -/
def lstrip (t : Text) : Text := t.dropWhile isSpace

/-- `str.rstrip()` -/
def rstrip (t : Text) : Text := (t.reverse.dropWhile isSpace).reverse

/-- `str.strip()` -/
def strip (t : Text) : Text := rstrip (lstrip t)

/-! ## Shell words -/

def hash : CodePoint := CodePoint.ofChar '#'

def backslash : CodePoint := ⟨92, by decide⟩

def singleQuote : CodePoint := ⟨39, by decide⟩

def doubleQuote : CodePoint := ⟨34, by decide⟩

/-- `shlex.whitespace` -/
def isBlank (c : CodePoint) : Bool := c.val == 32 || c.val == 9 || c.val == 10 || c.val == 13

/-- The state of the scanner. -/
inductive Scanner where
  | blank
  | word
  | quote (q : CodePoint)
  | escape
  | quotedEscape
deriving DecidableEq

inductive ShlexError where
  | noClosingQuotation
  | noEscapedCharacter
deriving DecidableEq

/-- `str(error)` -/
def ShlexError.message : ShlexError → Text
  | .noClosingQuotation => txt "No closing quotation"
  | .noEscapedCharacter => txt "No escaped character"

/-- A token that is complete, unless nothing was read of it. -/
def emit (token : Text) (quoted : Bool) (rest : Except ShlexError (List Text)) :
    Except ShlexError (List Text) :=
  if token = [] ∧ quoted = false then rest else rest.map (token :: ·)

/-- The tokens of the rest of a line. -/
def scan (comments : Bool) :
    Scanner → Text → Bool → Text → Except ShlexError (List Text)
  | .blank, _, _, [] => .ok []
  | .word, token, quoted, [] => emit token quoted (.ok [])
  | .quote _, _, _, [] => .error .noClosingQuotation
  | .escape, _, _, [] => .error .noEscapedCharacter
  | .quotedEscape, _, _, [] => .error .noEscapedCharacter
  | .blank, token, quoted, c :: t =>
      if isBlank c then scan comments .blank [] false t
      else if comments = true ∧ c = hash then .ok []
      else if c = backslash then scan comments .escape token quoted t
      else if c = singleQuote ∨ c = doubleQuote then scan comments (.quote c) token quoted t
      else scan comments .word [c] false t
  | .word, token, quoted, c :: t =>
      if isBlank c then emit token quoted (scan comments .blank [] false t)
      else if comments = true ∧ c = hash then emit token quoted (.ok [])
      else if c = singleQuote ∨ c = doubleQuote then scan comments (.quote c) token quoted t
      else if c = backslash then scan comments .escape token quoted t
      else scan comments .word (token ++ [c]) quoted t
  | .quote q, token, _, c :: t =>
      if c = q then scan comments .word token true t
      else if c = backslash ∧ q = doubleQuote then scan comments .quotedEscape token true t
      else scan comments (.quote q) (token ++ [c]) true t
  | .escape, token, quoted, c :: t => scan comments .word (token ++ [c]) quoted t
  | .quotedEscape, token, quoted, c :: t =>
      -- Only the quote and the backslash are escaped between quotes.
      if c = backslash ∨ c = doubleQuote then
        scan comments (.quote doubleQuote) (token ++ [c]) quoted t
      else scan comments (.quote doubleQuote) (token ++ [backslash, c]) quoted t

/-- `shlex.split(line, comments=comments, posix=True)` of one line. -/
def split (comments : Bool) (line : Text) : Except ShlexError (List Text) :=
  scan comments .blank [] false line

/-! ## Bare comment characters -/

/-- A comment character stands in the rest of a line outside quotes and unescaped. -/
def bare : Scanner → Text → Bool
  | _, [] => false
  | .blank, c :: t =>
      if isBlank c then bare .blank t
      else if c = hash then true
      else if c = backslash then bare .escape t
      else if c = singleQuote ∨ c = doubleQuote then bare (.quote c) t
      else bare .word t
  | .word, c :: t =>
      if isBlank c then bare .blank t
      else if c = hash then true
      else if c = singleQuote ∨ c = doubleQuote then bare (.quote c) t
      else if c = backslash then bare .escape t
      else bare .word t
  | .quote q, c :: t =>
      if c = q then bare .word t
      else if c = backslash ∧ q = doubleQuote then bare .quotedEscape t
      else bare (.quote q) t
  | .escape, _ :: t => bare .word t
  | .quotedEscape, _ :: t => bare (.quote doubleQuote) t

theorem scan_of_not_bare {line : Text} {state : Scanner} (free : bare state line = false)
    (token : Text) (quoted : Bool) :
    scan true state token quoted line = scan false state token quoted line := by
  induction line generalizing state token quoted with
  | nil => cases state <;> rfl
  | cons c t ih =>
      cases state with
      | blank =>
          unfold bare at free
          unfold scan
          split_ifs at free ⊢ with blank comment
          all_goals first | exact ih free _ _ | simp_all
      | word =>
          unfold bare at free
          unfold scan
          split_ifs at free ⊢ with blank comment
          all_goals first | exact ih free _ _ | simp_all
      | quote q =>
          unfold bare at free
          unfold scan
          split_ifs at free ⊢ <;> exact ih free _ _
      | escape => exact ih free _ _
      | quotedEscape =>
          unfold bare at free
          unfold scan
          split_ifs <;> exact ih free _ _

/-- **Without a bare comment character there are no comments.** -/
theorem split_of_not_bare {line : Text} (free : bare .blank line = false) :
    split true line = split false line :=
  scan_of_not_bare free [] false

/-! ## What a bare comment character hides -/

/-- The characters that are no space. -/
def visible (t : Text) : Nat := t.countP fun c => !isSpace c

@[simp] theorem visible_nil : visible [] = 0 := rfl

@[simp] theorem visible_append (s t : Text) : visible (s ++ t) = visible s + visible t :=
  List.countP_append

theorem visible_cons (c : CodePoint) (t : Text) :
    visible (c :: t) = (if isSpace c then 0 else 1) + visible t := by
  unfold visible
  cases space : isSpace c <;> simp [space, Nat.add_comm]

theorem visible_hash (t : Text) : visible (hash :: t) = 1 + visible t := by
  rw [visible_cons, if_neg (by decide)]

/-- What is emitted is read after the token. -/
theorem emit_ok {token : Text} {quoted : Bool} {rest : Except ShlexError (List Text)}
    {words : List Text} (emits : emit token quoted rest = .ok words) :
    ∃ later, rest = .ok later ∧ visible words.flatten = visible token + visible later.flatten := by
  unfold emit at emits
  split at emits
  case isTrue nothing => exact ⟨words, emits, by simp [nothing.1]⟩
  case isFalse =>
      cases rest with
      | error e => cases emits
      | ok later =>
          cases emits
          exact ⟨later, rfl, by simp⟩

/-- What has been read of a token is in the words. -/
theorem visible_le_of_scan {comments : Bool} {line : Text} {state : Scanner} {token : Text}
    {quoted : Bool} {words : List Text} (started : state ≠ .blank)
    (scanned : scan comments state token quoted line = .ok words) :
    visible token ≤ visible words.flatten := by
  induction line generalizing state token quoted with
  | nil =>
      cases state with
      | blank => exact absurd rfl started
      | word =>
          obtain ⟨later, -, sum⟩ := emit_ok scanned
          omega
      | quote q => cases scanned
      | escape => cases scanned
      | quotedEscape => cases scanned
  | cons c t ih =>
      have more : ∀ {state : Scanner} {quoted : Bool} {read : Text}, state ≠ .blank →
          scan comments state (token ++ read) quoted t = .ok words →
          visible token ≤ visible words.flatten := by
        intro state quoted read started scanned
        have := ih started scanned
        rw [visible_append] at this
        omega
      cases state with
      | blank => exact absurd rfl started
      | word =>
          unfold scan at scanned
          split_ifs at scanned
          · obtain ⟨later, -, sum⟩ := emit_ok scanned
            omega
          · obtain ⟨later, -, sum⟩ := emit_ok scanned
            omega
          · exact ih (by simp) scanned
          · exact ih (by simp) scanned
          · exact more (by simp) scanned
      | quote q =>
          unfold scan at scanned
          split_ifs at scanned
          · exact ih (by simp) scanned
          · exact ih (by simp) scanned
          · exact more (by simp) scanned
      | escape => exact more (by simp) scanned
      | quotedEscape =>
          unfold scan at scanned
          split_ifs at scanned
          · exact more (by simp) scanned
          · exact more (by simp) scanned

/-- **A comment hides what is read without comments.** -/
theorem visible_lt_of_bare {line : Text} {state : Scanner} {token : Text} {quoted : Bool}
    {words uncommented : List Text} (hidden : bare state line = true)
    (fresh : state = .blank → token = [])
    (scanned : scan true state token quoted line = .ok words)
    (whole : scan false state token quoted line = .ok uncommented) :
    visible words.flatten < visible uncommented.flatten := by
  have started : ∀ {q : CodePoint}, Scanner.quote q ≠ .blank := by simp
  induction line generalizing state token quoted words uncommented with
  | nil => cases state <;> cases hidden
  | cons c t ih =>
      cases state with
      | blank =>
          obtain rfl := fresh rfl
          unfold bare at hidden
          unfold scan at scanned whole
          by_cases blank : isBlank c = true
          · rw [if_pos blank] at hidden scanned whole
            exact ih hidden (fun _ => rfl) scanned whole
          rw [if_neg blank] at hidden scanned whole
          rw [if_neg (by simp)] at whole
          by_cases comment : c = hash
          · subst comment
            rw [if_pos ⟨rfl, rfl⟩] at scanned
            cases scanned
            rw [if_neg (by decide), if_neg (by decide)] at whole
            have := visible_le_of_scan (by simp) whole
            rw [visible_hash] at this
            exact Nat.lt_of_lt_of_le (by simp) this
          rw [if_neg comment] at hidden
          rw [if_neg (by simp [comment])] at scanned
          split_ifs at hidden scanned whole
          · exact ih hidden (by simp) scanned whole
          · exact ih hidden (by simp) scanned whole
          · exact ih hidden (by simp) scanned whole
      | word =>
          unfold bare at hidden
          unfold scan at scanned whole
          by_cases blank : isBlank c = true
          · rw [if_pos blank] at hidden scanned whole
            obtain ⟨later, scanned, sum⟩ := emit_ok scanned
            obtain ⟨later', whole, sum'⟩ := emit_ok whole
            have := ih hidden (fun _ => rfl) scanned whole
            omega
          rw [if_neg blank] at hidden scanned whole
          rw [if_neg (by simp)] at whole
          by_cases comment : c = hash
          · subst comment
            rw [if_pos ⟨rfl, rfl⟩] at scanned
            obtain ⟨later, nothing, sum⟩ := emit_ok scanned
            cases nothing
            rw [if_neg (by decide), if_neg (by decide)] at whole
            have := visible_le_of_scan (by simp) whole
            rw [visible_append, visible_hash] at this
            simp only [List.flatten_nil, visible_nil] at sum this
            omega
          rw [if_neg comment] at hidden
          rw [if_neg (by simp [comment])] at scanned
          split_ifs at hidden scanned whole
          · exact ih hidden (by simp) scanned whole
          · exact ih hidden (by simp) scanned whole
          · exact ih hidden (by simp) scanned whole
      | quote q =>
          unfold bare at hidden
          unfold scan at scanned whole
          split_ifs at hidden scanned whole
          · exact ih hidden (by simp) scanned whole
          · exact ih hidden (by simp) scanned whole
          · exact ih hidden (by simp) scanned whole
      | escape => exact ih hidden (by simp) scanned whole
      | quotedEscape =>
          unfold scan at scanned whole
          split_ifs at scanned whole
          · exact ih hidden (by simp) scanned whole
          · exact ih hidden (by simp) scanned whole

/-- What an escape between quotes has read and not yet kept. -/
def held : Scanner → Nat
  | .quotedEscape => 1
  | _ => 0

/-- **A comment hides a part of its line.** -/
theorem visible_lt_of_line {line : Text} {state : Scanner} {token : Text} {quoted : Bool}
    {words : List Text} (hidden : bare state line = true) (fresh : state = .blank → token = [])
    (scanned : scan true state token quoted line = .ok words) :
    visible words.flatten < visible token + held state + visible line := by
  induction line generalizing state token quoted words with
  | nil => cases state <;> cases hidden
  | cons c t ih =>
      have first : visible (c :: t) = visible [c] + visible t := visible_append [c] t
      have next : ∀ {state' : Scanner} {token' : Text} {quoted' : Bool}, bare state' t = true →
          scan true state' token' quoted' t = .ok words → state' ≠ .blank →
          visible token' + held state' ≤ visible token + held state + visible [c] →
          visible words.flatten < visible token + held state + visible (c :: t) := by
        intro state' token' quoted' hidden scanned started kept
        have := ih hidden (fun blank => absurd blank started) scanned
        omega
      have backslashed : visible [backslash] = 1 := by decide
      cases state with
      | blank =>
          obtain rfl := fresh rfl
          unfold bare at hidden
          unfold scan at scanned
          by_cases blank : isBlank c = true
          · rw [if_pos blank] at hidden scanned
            have := ih hidden (fun _ => rfl) scanned
            simp only [held] at this ⊢
            omega
          rw [if_neg blank] at hidden scanned
          by_cases comment : c = hash
          · subst comment
            rw [if_pos ⟨rfl, rfl⟩] at scanned
            cases scanned
            rw [visible_hash, List.flatten_nil, visible_nil]
            omega
          rw [if_neg comment] at hidden
          rw [if_neg (by simp [comment])] at scanned
          split_ifs at hidden scanned
          · exact next hidden scanned (by simp) (by simp [held])
          · exact next hidden scanned (by simp) (by simp [held])
          · exact next hidden scanned (by simp) (by simp [held])
      | word =>
          unfold bare at hidden
          unfold scan at scanned
          by_cases blank : isBlank c = true
          · rw [if_pos blank] at hidden scanned
            obtain ⟨later, scanned, sum⟩ := emit_ok scanned
            have := ih hidden (fun _ => rfl) scanned
            simp only [held, visible_nil] at this ⊢
            omega
          rw [if_neg blank] at hidden scanned
          by_cases comment : c = hash
          · subst comment
            rw [if_pos ⟨rfl, rfl⟩] at scanned
            obtain ⟨later, nothing, sum⟩ := emit_ok scanned
            cases nothing
            rw [visible_hash]
            simp only [List.flatten_nil, visible_nil] at sum
            omega
          rw [if_neg comment] at hidden
          rw [if_neg (by simp [comment])] at scanned
          split_ifs at hidden scanned
          · exact next hidden scanned (by simp) (by simp [held])
          · exact next hidden scanned (by simp) (by simp [held])
          · exact next hidden scanned (by simp) (by simp [held])
      | quote q =>
          unfold bare at hidden
          unfold scan at scanned
          by_cases ends : c = q
          · rw [if_pos ends] at hidden scanned
            exact next hidden scanned (by simp) (by simp [held])
          rw [if_neg ends] at hidden scanned
          by_cases escapes : c = backslash ∧ q = doubleQuote
          · rw [if_pos escapes] at hidden scanned
            exact next hidden scanned (by simp) (by rw [escapes.1, backslashed]; simp [held])
          rw [if_neg escapes] at hidden scanned
          exact next hidden scanned (by simp) (by simp [held])
      | escape => exact next hidden scanned (by simp) (by simp [held])
      | quotedEscape =>
          unfold scan at scanned
          split_ifs at scanned
          · exact next hidden scanned (by simp) (by simp [held])
          · have both : visible [backslash, c] = visible [backslash] + visible [c] :=
              visible_append [backslash] [c]
            exact next hidden scanned (by simp) (by simp [held, both, backslashed]; omega)

/-- The words between spaces hold all that is visible. -/
theorem visible_splitOnP (t : Text) :
    visible ((t.splitOnP isSpace).filter fun word => word ≠ []).flatten = visible t := by
  rw [List.flatten_filter_ne_nil]
  induction t with
  | nil => rfl
  | cons c t ih =>
      rw [List.splitOnP_cons_eq_if_modifyHead, visible_cons]
      by_cases space : isSpace c = true
      · rw [if_pos space, if_pos space, List.flatten_cons, List.nil_append, ih, Nat.zero_add]
      · rw [if_neg space, if_neg space, ← ih]
        cases split : t.splitOnP isSpace with
        | nil => exact absurd split (List.splitOnP_ne_nil _ _)
        | cons word rest =>
            rw [List.modifyHead_cons, List.flatten_cons, List.cons_append, visible_cons,
              if_neg space, List.flatten_cons]

theorem visible_dropWhile (t : Text) : visible (t.dropWhile isSpace) = visible t := by
  induction t with
  | nil => rfl
  | cons c t ih =>
      by_cases space : isSpace c = true
      · rw [List.dropWhile_cons_of_pos space, ih, visible_cons, if_pos space, Nat.zero_add]
      · rw [List.dropWhile_cons_of_neg space]

/-- Stripping hides nothing. -/
theorem visible_strip (t : Text) : visible (strip t) = visible t := by
  have reversed : ∀ t : Text, visible t.reverse = visible t := fun t => List.countP_reverse
  rw [strip, rstrip, reversed, visible_dropWhile, reversed, lstrip, visible_dropWhile]

end InstrumentBench.Theory.Shlex
