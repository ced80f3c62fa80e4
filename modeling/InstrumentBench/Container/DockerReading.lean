/-
# Container.DockerReading -- the instructions Docker executes and those that are checked

Docker drops whole-line comments before it joins continued lines, and `#` elsewhere is no
comment (`dockerInstructions`); otherwise it is taken to read a file as the check does.
Every instruction the check reads of an accepted file meets the policy
(`scanInstructions_meets`).  In a file whose comment lines stand alone (`LoneFrom`) there
are no others exactly when no `#` of Docker's lines is bare (`docker_reading_iff`).
Elsewhere an instruction or an argument can be hidden from the check (`hidden_accepted`).
-/
import InstrumentBench.Container.Stages

namespace InstrumentBench.Container

set_option autoImplicit false

open InstrumentBench.Theory
open InstrumentBench.Theory.Shlex (splitlines strip lstrip rstrip)

/-! ## Docker's reading -/

/-- The line is a comment as a whole. -/
def isComment (raw : Text) : Bool := [Shlex.hash] <+: lstrip raw

/-- The line is continued by the next one. -/
def isContinued (raw : Text) : Bool := [Shlex.backslash] <:+ rstrip raw

/-- The logical lines of lines without comments. -/
def joined (pending : Text) : List Text → List Text
  | [] => if pending = [] then [] else [pending]
  | raw :: rest =>
      if isContinued raw then joined (pending ++ (rstrip raw).dropLast ++ txt " ") rest
      else (pending ++ raw) :: joined [] rest

/-- The words of a logical line; one whose quotes do not close is split at its blanks. -/
def dockerWords (line : Text) : List Text :=
  match Shlex.split false (strip line) with
  | .ok words => words
  | .error _ => (line.splitOnP Shlex.isSpace).filter fun word => word ≠ []

/-- The name and the arguments of a logical line. -/
def dockerRead (line : Text) : Option (Text × List Text) :=
  match dockerWords line with
  | [] => none
  | name :: arguments => some (upper name, arguments)

/-- The instructions of a file in Docker's reading. -/
def dockerInstructions (text : Text) : List (Text × List Text) :=
  (joined [] ((splitlines text).filter fun raw => !isComment raw)).filterMap dockerRead

/-! ## The policy -/

/-- What comes after the options. -/
def operands (arguments : List Text) : List Text := arguments.dropWhile isOption

/-- A base image is pinned; what is copied is declared and not forbidden. -/
structure Meets (contract : ContainerContract) (i : Text × List Text) : Prop where
  image : i.1 = txt "FROM" → ∃ image, (operands i.2).head? = some image ∧ isDigestImage image = true
  sources : i.1 = txt "COPY" ∨ i.1 = txt "ADD" → ∀ source ∈ (operands i.2).dropLast,
    isDeclared contract source = true ∧ isForbidden source = false

def Instruction.words (i : Instruction) : Text × List Text := (i.name, i.arguments)

theorem fromImage_ok {arguments : List Text} {line : Nat} {image : Text}
    (found : fromImage arguments line = .ok image) : (operands arguments).head? = some image := by
  unfold fromImage at found
  unfold operands
  split at found
  case h_1 => cases found
  case h_2 first rest named =>
      cases found
      rw [named]
      rfl

theorem buildSources_ok {arguments sources : List Text} {instruction : Text} {line : Nat}
    (found : buildSources arguments instruction line = .ok sources) :
    sources = (operands arguments).dropLast := by
  obtain ⟨⟨⟩, -, rest⟩ := bind_ok_iff.1 found
  dsimp only at rest
  split at rest
  · cases rest
  · split at rest
    · cases rest
    · cases rest
      rfl

theorem forM_ok {α : Type} {f : α → Checked Unit} {items : List α} (ran : items.forM f = .ok ()) :
    ∀ item ∈ items, f item = .ok () := by
  induction items with
  | nil => exact fun item inside => absurd inside List.not_mem_nil
  | cons first rest ih =>
      obtain ⟨⟨⟩, here, later⟩ := bind_ok_iff.1 ran
      intro item inside
      rcases List.mem_cons.1 inside with rfl | other
      · exact here
      · exact ih later item other

theorem validateBuildInputs_ok {contract : ContainerContract} {sources : List Text} {line : Nat}
    (valid : validateBuildInputs sources contract line = .ok ()) :
    ∀ source ∈ sources, isDeclared contract source = true ∧ isForbidden source = false := by
  obtain ⟨⟨⟩, allowed, rest⟩ := bind_ok_iff.1 valid
  intro source member
  constructor
  · have here := forM_ok rest source member
    unfold validateBuildInput at here
    dsimp only at here
    split at here
    · cases here
    · split at here
      · cases here
      · split at here
        · cases here
        · split at here
          case isTrue declared => exact declared
          case isFalse => cases here
  · unfold rejectForbiddenInputs at allowed
    split at allowed
    case isTrue => cases allowed
    case isFalse none =>
        rw [Bool.not_eq_true, List.any_eq_false] at none
        simpa using none source member

theorem scanInstruction_meets {contract : ContainerContract} {s s' : Scan} {i : Instruction}
    (scanned : scanInstruction contract s i = .ok s') : Meets contract i.words := by
  have differ : txt "FROM" ≠ txt "COPY" ∧ txt "FROM" ≠ txt "ADD" := by decide
  unfold scanInstruction at scanned
  split at scanned
  case isTrue name =>
      obtain ⟨image, found, rest⟩ := bind_ok_iff.1 scanned
      split at rest
      case isFalse => cases rest
      case isTrue pinned =>
          refine ⟨fun _ => ⟨image, fromImage_ok found, pinned⟩, ?_⟩
          rintro (copy | add)
          · exact absurd (name.symm.trans copy) differ.1
          · exact absurd (name.symm.trans add) differ.2
  case isFalse notFrom =>
  split at scanned
  case isTrue name =>
      obtain ⟨sources, found, rest⟩ := bind_ok_iff.1 scanned
      split at rest
      · cases rest
      · obtain ⟨⟨⟩, valid, -⟩ := bind_ok_iff.1 rest
        refine ⟨fun base => absurd base notFrom, fun _ source member => ?_⟩
        exact validateBuildInputs_ok valid source (buildSources_ok found ▸ member)
  case isFalse notAdd =>
  split at scanned
  case isTrue name =>
      obtain ⟨sources, found, rest⟩ := bind_ok_iff.1 scanned
      obtain ⟨⟨⟩, valid, -⟩ := bind_ok_iff.1 rest
      refine ⟨fun base => absurd base notFrom, fun _ source member => ?_⟩
      exact validateBuildInputs_ok valid source (buildSources_ok found ▸ member)
  case isFalse notCopy =>
      refine ⟨fun base => absurd base notFrom, ?_⟩
      rintro (copy | add)
      · exact absurd copy notCopy
      · exact absurd add notAdd

/-- Every instruction of an accepted file that the check reads meets the policy. -/
theorem scanInstructions_meets {contract : ContainerContract} {instructions : List Instruction}
    {s s' : Scan} (scanned : scanInstructions contract s instructions = .ok s') :
    ∀ i ∈ instructions, Meets contract i.words := by
  induction instructions generalizing s with
  | nil => exact fun i inside => absurd inside List.not_mem_nil
  | cons first rest ih =>
      obtain ⟨middle, here, later⟩ := bind_ok_iff.1 scanned
      intro i inside
      rcases List.mem_cons.1 inside with rfl | other
      · exact scanInstruction_meets here
      · exact ih later i other

/-! ## Comments that stand alone -/

/-- No comment line is continued or stands where a line is continued. -/
def LoneFrom (continued : Bool) : List Text → Prop
  | [] => True
  | raw :: rest =>
      if isComment raw then continued = false ∧ isContinued raw = false ∧ LoneFrom false rest
      else LoneFrom (isContinued raw) rest

instance (continued : Bool) (lines : List Text) : Decidable (LoneFrom continued lines) := by
  induction lines generalizing continued with
  | nil => exact inferInstanceAs (Decidable True)
  | cons raw rest ih =>
      unfold LoneFrom
      have := ih false
      have := ih (isContinued raw)
      infer_instance

/-- A `#` of the logical line stands outside quotes and unescaped. -/
def hasBareHash (line : Text) : Bool := Shlex.bare .blank (strip line)

/-- No `#` of a file is bare but in whole-line comments. -/
def NoBareHash (text : Text) : Prop :=
  ∀ line ∈ joined [] ((splitlines text).filter fun raw => !isComment raw),
    hasBareHash line = false

instance (text : Text) : Decidable (NoBareHash text) := inferInstanceAs (Decidable (∀ _ ∈ _, _))

/-- A comment is stripped to a comment. -/
theorem strip_of_isComment {raw : Text} (comment : isComment raw = true) :
    [Shlex.hash] <+: strip raw := by
  obtain ⟨rest, starts⟩ := of_decide_eq_true comment
  unfold strip
  rw [← starts]
  unfold rstrip
  rw [List.singleton_append, List.reverse_cons, List.dropWhile_append]
  split
  · rw [List.dropWhile_cons_of_neg (by decide)]
    exact List.prefix_refl _
  · rw [List.reverse_append]
    exact List.prefix_append _ _

/-- What the check reads of a logical line, wherever it stands. -/
def checkRead (line : Text) : Option (Text × List Text) :=
  (readLine (0, line)).toOption.bind fun i => i.map Instruction.words

/-- Reading a line depends on its number in messages and numbers only. -/
theorem readLine_ok {line : Nat × Text} {i : Option Instruction} (read : readLine line = .ok i) :
    i.map Instruction.words = checkRead line.2 ∧ (readLine (0, line.2)).toOption.isSome = true := by
  unfold checkRead
  unfold readLine at read ⊢
  dsimp only at read ⊢
  split at read
  case isTrue skipped =>
      cases read
      rw [if_pos skipped]
      exact ⟨rfl, rfl⟩
  case isFalse other =>
      rw [if_neg other]
      split at read <;> cases read <;> exact ⟨rfl, rfl⟩

/-- Where comment lines stand alone, the check reads the lines that Docker reads. -/
theorem readInstructions_of_lone {lines : List Text} {pending : Text} {start number : Nat}
    {logical : List (Nat × Text)} {instructions : List Instruction}
    (lone : LoneFrom (decide (pending ≠ [])) lines)
    (joins : logicalFrom pending start number lines = .ok logical)
    (read : readInstructions logical = .ok instructions) :
    instructions.map Instruction.words =
        (joined pending (lines.filter fun raw => !isComment raw)).filterMap checkRead ∧
      ∀ line ∈ joined pending (lines.filter fun raw => !isComment raw),
        (readLine (0, line)).toOption.isSome = true := by
  induction lines generalizing pending start number logical instructions with
  | nil =>
      unfold logicalFrom at joins
      split at joins
      case isTrue empty =>
          cases joins
          cases read
          subst empty
          exact ⟨rfl, fun line inside => absurd inside List.not_mem_nil⟩
      case isFalse => cases joins
  | cons raw rest ih =>
      unfold logicalFrom at joins
      dsimp only at joins
      unfold LoneFrom at lone
      by_cases comment : isComment raw = true
      · rw [if_pos comment] at lone
        obtain ⟨fresh, ends, later⟩ := lone
        have empty : pending = [] := by simpa using fresh
        subst empty
        rw [if_neg (by simpa [isContinued] using ends)] at joins
        obtain ⟨others, joins', rfl⟩ := map_ok_iff.1 joins
        obtain ⟨i, here, more⟩ := bind_ok_iff.1 read
        obtain ⟨tail, read', made⟩ := bind_ok_iff.1 more
        cases made
        have nothing : i = none := by
          unfold readLine at here
          dsimp only at here
          rw [List.nil_append, if_pos (Or.inr (strip_of_isComment comment))] at here
          exact (Except.ok.inj here).symm
        rw [nothing, List.filter_cons_of_neg (by simpa using comment)]
        exact ih later joins' read'
      · rw [if_neg comment] at lone
        rw [List.filter_cons_of_pos (by simpa using comment)]
        unfold joined
        by_cases continued : isContinued raw = true
        · rw [if_pos continued]
          rw [if_pos (of_decide_eq_true continued)] at joins
          refine ih ?_ joins read
          rw [continued] at lone
          simpa [txt] using lone
        · rw [if_neg continued]
          rw [if_neg (fun ends => continued (decide_eq_true ends))] at joins
          obtain ⟨others, joins', rfl⟩ := map_ok_iff.1 joins
          obtain ⟨i, here, more⟩ := bind_ok_iff.1 read
          obtain ⟨tail, read', made⟩ := bind_ok_iff.1 more
          cases made
          obtain ⟨same, reads⟩ := readLine_ok here
          obtain ⟨later, all⟩ := ih (by simpa [continued] using lone) joins' read'
          constructor
          · rw [List.map_append, later, List.filterMap_cons, ← same]
            cases i <;> rfl
          · intro line member
            rcases List.mem_cons.1 member with rfl | other
            · exact reads
            · exact all line other

/-! ## Bare comment characters -/

/-- What is visible of an instruction. -/
def visible (i : Text × List Text) : Nat := Shlex.visible i.1 + Shlex.visible i.2.flatten

theorem isSpace_upperChar (c : CodePoint) : Shlex.isSpace (upperChar c) = Shlex.isSpace c := by
  unfold upperChar
  split
  case isTrue long => rw [Shlex.isSpace, Shlex.isSpace, long]; decide
  case isFalse =>
    split
    case isTrue dotless => rw [Shlex.isSpace, Shlex.isSpace, dotless]; decide
    case isFalse =>
      unfold PyText.upperChar
      split
      case isTrue letter =>
        have other : ∀ d : CodePoint, 65 ≤ d.val → d.val ≤ 122 → Shlex.isSpace d = false := by
          intro d low high
          simp only [Shlex.isSpace, Bool.or_eq_false_iff, Bool.and_eq_false_iff, decide_eq_false_iff_not,
            beq_eq_false_iff_ne]
          omega
        rw [other c (by omega) letter.2]
        exact other _ (by show 65 ≤ c.val - 32; omega) (by show c.val - 32 ≤ 122; omega)
      case isFalse => rfl

/-- Upper case hides nothing. -/
theorem visible_upper (word : Text) : Shlex.visible (upper word) = Shlex.visible word := by
  unfold Shlex.visible upper
  rw [List.countP_map]
  congr 1
  funext c
  rw [Function.comp_apply, isSpace_upperChar]

/-- A line without a bare `#` is read alike. -/
theorem checkRead_of_not_bare {line : Text} (free : hasBareHash line = false)
    (reads : (readLine (0, line)).toOption.isSome = true) : checkRead line = dockerRead line := by
  obtain ⟨i, read⟩ := Option.isSome_iff_exists.1 reads
  unfold checkRead dockerRead dockerWords
  rw [read]
  have read := ok_of_toOption read
  unfold readLine at read
  dsimp only at read
  rw [← Shlex.split_of_not_bare free]
  split at read
  case isTrue blank =>
      cases read
      rcases blank with empty | comment
      · rw [empty]
        rfl
      · obtain ⟨rest, starts⟩ := comment
        unfold hasBareHash at free
        rw [← starts] at free
        cases free
  case isFalse =>
      split at read
      case h_1 => cases read
      case h_2 empty =>
          cases read
          rw [empty]
          rfl
      case h_3 name arguments words =>
          cases read
          rw [words]
          rfl

/-- A bare `#` hides words from a line that is split. -/
theorem visible_lt_dockerWords {line : Text} (hidden : hasBareHash line = true)
    {words : List Text} (split : Shlex.split true (strip line) = .ok words) :
    Shlex.visible words.flatten < Shlex.visible (dockerWords line).flatten := by
  unfold dockerWords
  cases whole : Shlex.split false (strip line) with
  | ok uncommented => exact Shlex.visible_lt_of_bare hidden (fun _ => rfl) split whole
  | error e =>
      dsimp only
      have part := Shlex.visible_lt_of_line hidden (fun _ => rfl) split
      rw [Shlex.visible_strip] at part
      rw [Shlex.visible_splitOnP]
      simpa [Shlex.held] using part

/-- **A bare `#` hides a part of its line.** -/
theorem dockerRead_of_bare {line : Text} (hidden : hasBareHash line = true)
    (reads : (readLine (0, line)).toOption.isSome = true) :
    ∃ d, dockerRead line = some d ∧ ∀ c, checkRead line = some c → visible c < visible d := by
  have words : ∃ words, Shlex.split true (strip line) = .ok words ∧
      ∀ c, checkRead line = some c → visible c = Shlex.visible words.flatten := by
    obtain ⟨i, read⟩ := Option.isSome_iff_exists.1 reads
    have made : checkRead line = i.map Instruction.words := by
      rw [checkRead, read]
      rfl
    have read := ok_of_toOption read
    unfold readLine at read
    dsimp only at read
    split at read
    case isTrue blank =>
        cases read
        rcases blank with empty | ⟨rest, starts⟩
        · rw [hasBareHash, empty] at hidden
          cases hidden
        · refine ⟨[], by rw [← starts]; rfl, fun c found => ?_⟩
          rw [made] at found
          cases found
    case isFalse =>
        split at read
        case h_1 => cases read
        case h_2 empty =>
            cases read
            refine ⟨[], empty, fun c found => ?_⟩
            rw [made] at found
            cases found
        case h_3 name arguments words =>
            cases read
            refine ⟨name :: arguments, words, fun c found => ?_⟩
            rw [made] at found
            cases found
            rw [visible, Instruction.words, visible_upper, List.flatten_cons, Shlex.visible_append]
  obtain ⟨words, split, sizes⟩ := words
  have less := visible_lt_dockerWords hidden split
  unfold dockerRead
  cases whole : dockerWords line with
  | nil =>
      rw [whole] at less
      exact absurd less (Nat.not_lt_zero _)
  | cons name arguments =>
      refine ⟨_, rfl, fun c found => ?_⟩
      rw [whole, List.flatten_cons, Shlex.visible_append] at less
      rw [sizes c found, visible, visible_upper]
      exact less

/-- Readings of the same lines that come out alike are alike on every line. -/
theorem eq_of_filterMap_eq {α β : Type} {f g : α → Option β} {l : List α}
    (covered : ∀ a ∈ l, (f a).isSome = true → (g a).isSome = true)
    (same : l.filterMap f = l.filterMap g) : ∀ a ∈ l, f a = g a := by
  induction l with
  | nil => exact fun a inside => absurd inside List.not_mem_nil
  | cons a l ih =>
      have rest := fun b inside => covered b (List.mem_cons_of_mem a inside)
      have shorter : (l.filterMap f).length ≤ (l.filterMap g).length := by
        rw [List.length_filterMap_eq_countP, List.length_filterMap_eq_countP]
        exact List.countP_mono_left rest
      have first : f a = g a ∧ l.filterMap f = l.filterMap g := by
        cases left : f a with
        | none =>
            cases right : g a with
            | none =>
                rw [List.filterMap_cons_none left, List.filterMap_cons_none right] at same
                exact ⟨rfl, same⟩
            | some d =>
                rw [List.filterMap_cons_none left, List.filterMap_cons_some right] at same
                rw [same, List.length_cons] at shorter
                omega
        | some c =>
            obtain ⟨d, right⟩ := Option.isSome_iff_exists.1
              (covered a List.mem_cons_self (by rw [left]; rfl))
            rw [List.filterMap_cons_some left, List.filterMap_cons_some right] at same
            obtain ⟨rfl, tails⟩ := List.cons.inj same
            exact ⟨right.symm, tails⟩
      intro b inside
      rcases List.mem_cons.1 inside with rfl | other
      · exact first.1
      · exact ih rest first.2 b other

/-- **Where comment lines stand alone, nothing is hidden exactly when no `#` is bare.** -/
theorem readings_eq_iff {text : Text} {payload : Bytes} {instructions : List Instruction}
    (decoded : decodeUtf8 false payload = some text)
    (read : instructionsOf payload = .ok instructions) (lone : LoneFrom false (splitlines text)) :
    dockerInstructions text = instructions.map Instruction.words ↔ NoBareHash text := by
  unfold instructionsOf at read
  rw [decoded] at read
  obtain ⟨logical, joins, read⟩ := bind_ok_iff.1 read
  have fresh : LoneFrom (decide (([] : Text) ≠ [])) (splitlines text) := lone
  obtain ⟨same, reads⟩ := readInstructions_of_lone fresh joins read
  rw [same]
  constructor
  · intro alike line member
    by_contra hidden
    rw [Bool.not_eq_false] at hidden
    have each := eq_of_filterMap_eq (f := checkRead) (g := dockerRead) ?_ alike.symm line member
    · obtain ⟨d, found, less⟩ := dockerRead_of_bare hidden (reads line member)
      exact absurd (less d (each.trans found)) (Nat.lt_irrefl _)
    · intro line member some'
      by_cases free : hasBareHash line = false
      · rw [← checkRead_of_not_bare free (reads line member)]
        exact some'
      · obtain ⟨d, found, -⟩ := dockerRead_of_bare (by simpa using free) (reads line member)
        rw [found]
        rfl
  · intro free
    exact List.filterMap_congr fun line member =>
      (checkRead_of_not_bare (free line member) (reads line member)).symm

/-- **Docker's reading of an accepted file.**  When no comment line is continued or stands in
a continuation, the check reads the instructions that Docker executes, all of which meet the
policy, exactly when no `#` of another line is bare. -/
theorem docker_reading_iff {payload : Bytes} {contract : ContainerContract}
    {evidence : DockerfileEvidence} (accepted : validateDockerfile payload contract = .ok evidence) :
    ∃ text instructions, decodeUtf8 false payload = some text ∧
      instructionsOf payload = .ok instructions ∧
      (LoneFrom false (splitlines text) →
        ((∀ d ∈ dockerInstructions text, Meets contract d) ∧
          dockerInstructions text = instructions.map Instruction.words ↔ NoBareHash text)) := by
  obtain ⟨instructions, s, read, scanned, -, -⟩ := validateDockerfile_ok accepted
  have decodes : ∃ text, decodeUtf8 false payload = some text := by
    unfold instructionsOf at read
    split at read
    case h_1 => cases read
    case h_2 text decoded => exact ⟨text, decoded⟩
  obtain ⟨text, decoded⟩ := decodes
  refine ⟨text, instructions, decoded, read, fun lone => ?_⟩
  rw [← readings_eq_iff decoded read lone]
  refine ⟨And.right, fun same => ⟨fun d member => ?_, same⟩⟩
  rw [same] at member
  obtain ⟨i, listed, rfl⟩ := List.mem_map.1 member
  exact scanInstructions_meets scanned i listed

/-! ## Hidden instructions -/

/-- One stage with some lines between its base image and its user. -/
def withLines (lines : String) : Bytes :=
  bytesOf (txt "FROM " ++ pinnedImage "a" ++ txt "\n" ++ txt lines ++ txt userLine)

/-- A comment of its own line, a copy and a quoted `#`. -/
def plainLines : String := "# the program\nCOPY app/main.py /app/\nLABEL note='a # b'"

theorem docker_reading_of_plain :
    ∃ text instructions, decodeUtf8 false (withLines plainLines) = some text ∧
      instructionsOf (withLines plainLines) = .ok instructions ∧
      (∀ d ∈ dockerInstructions text, Meets (lockOf (withLines plainLines)) d) ∧
      dockerInstructions text = instructions.map Instruction.words := by
  have accepted : (validateDockerfile (withLines plainLines)
      (lockOf (withLines plainLines))).toOption.isSome = true := by decide +kernel
  have comments : (decodeUtf8 false (withLines plainLines)).map (fun text =>
      decide (LoneFrom false (splitlines text) ∧ NoBareHash text)) = some true := by decide +kernel
  obtain ⟨evidence, made⟩ := Option.isSome_iff_exists.1 accepted
  obtain ⟨text, instructions, decoded, read, iff⟩ := docker_reading_iff (ok_of_toOption made)
  rw [decoded] at comments
  obtain ⟨lone, free⟩ := of_decide_eq_true (Option.some.inj comments)
  exact ⟨text, instructions, decoded, read, (iff lone).2 free⟩

/-- An accepted file with an instruction in Docker's reading that copies what is not
declared or is forbidden. -/
def Hides (payload : Bytes) : Prop :=
  (validateDockerfile payload (lockOf payload)).toOption.isSome = true ∧
    ∃ text, decodeUtf8 false payload = some text ∧
      ∃ d ∈ dockerInstructions text, ¬Meets (lockOf payload) d

/-- A copy that Docker reads and the contract does not declare. -/
def copiesUndeclared (contract : ContainerContract) (d : Text × List Text) : Bool :=
  decide (d.1 = txt "COPY") && (operands d.2).dropLast.any fun source => !isDeclared contract source

theorem hides_of_copies {payload : Bytes}
    (accepted : (validateDockerfile payload (lockOf payload)).toOption.isSome = true)
    (copies : (decodeUtf8 false payload).any (fun text =>
      (dockerInstructions text).any (copiesUndeclared (lockOf payload))) = true) :
    Hides payload := by
  obtain ⟨text, decoded, listed⟩ := (Option.any_eq_true _ _).1 copies
  obtain ⟨d, member, both⟩ := List.any_eq_true.1 listed
  rw [copiesUndeclared, Bool.and_eq_true, decide_eq_true_eq] at both
  obtain ⟨source, inside, undeclared⟩ := List.any_eq_true.1 both.2
  refine ⟨accepted, text, decoded, d, member, fun meets => ?_⟩
  rw [(meets.sources (Or.inl both.1) source inside).1] at undeclared
  cases undeclared

/-- **A copy is hidden by a comment that is continued, by a `#` inside an argument, and by a
comment inside a continuation.** -/
theorem hidden_accepted :
    Hides (withLines "# note \\\nCOPY solution.py /app/") ∧
      Hides (withLines "COPY app/main.py solution.py#1 /app/") ∧
      Hides (withLines "COPY app/main.py /app/ \\\n# note\nsolution.py /app/") := by
  refine ⟨hides_of_copies ?_ ?_, hides_of_copies ?_ ?_, hides_of_copies ?_ ?_⟩
  · decide +kernel
  · decide +kernel
  · decide +kernel
  · decide +kernel
  · decide +kernel
  · decide +kernel

end InstrumentBench.Container
