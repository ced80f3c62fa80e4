/-
# Gateway.Handlers -- what each handler can do

One relation a class, `Handled`, lists every way its `handle` can end: what it
answers or assigns, and the model and the world it leaves when it raises.  What the
handlers keep is proved of these lists and never by unfolding a handler again.

A command reaches a handler stripped, so the word after a header is always there
(`argument_of_header`): the `IndexError` of `split` is never raised.
-/
import Mathlib.Data.List.TakeWhile
import InstrumentBench.Gateway.Instruments

namespace InstrumentBench.Gateway

set_option autoImplicit false

open InstrumentBench.Theory InstrumentBench.Theory.PyText Outcome

/-! ## The word after a header -/

/-- Text that does not end in white space. -/
def Trimmed (t : Text) : Prop := ∀ c ∈ t.getLast?, isSpace c = false

theorem trimmed_strip (t : Text) : Trimmed (strip t) := by
  intro c last
  unfold strip at last
  rw [List.getLast?_reverse] at last
  have first := List.head?_dropWhile_not isSpace (t.dropWhile isSpace).reverse
  rw [Option.mem_def.1 last] at first
  exact first

theorem ascii_strip {command : Bytes} {t : Text} (decoded : decodeAscii command = some t) :
    Ascii (strip t) := by
  have plain : Ascii t := by
    unfold decodeAscii at decoded
    split at decoded
    case isTrue small =>
      cases decoded
      intro c member
      obtain ⟨x, inside, rfl⟩ := List.mem_map.1 member
      have := List.all_eq_true.1 small x inside
      simpa [CodePoint.ofByte] using this
    case isFalse => cases decoded
  intro c member
  unfold strip at member
  have inside := (List.dropWhile_sublist isSpace).subset (List.mem_reverse.1 member)
  exact plain c ((List.dropWhile_sublist isSpace).subset (List.mem_reverse.1 inside))

theorem isSpace_upperChar (c : CodePoint) : isSpace (upperChar c) = isSpace c := by
  unfold upperChar
  split
  case isTrue letter =>
    have upperSpace : ∀ n : CodePoint, 33 ≤ n.val → isSpace n = false := by
      intro n large
      simp only [isSpace, Bool.or_eq_false_iff, Bool.and_eq_false_iff, decide_eq_false_iff_not]
      omega
    rw [upperSpace _ (by dsimp only; omega), upperSpace c (by omega)]
  case isFalse => rfl

/-- A header: a word, and the space that ends it. -/
def Header (pre : Text) : Prop :=
  (∃ c ∈ pre.head?, isSpace c = false) ∧ ∃ c ∈ pre, isSpace c = true

instance (pre : Text) : Decidable (Header pre) :=
  decidable_of_iff (pre.head?.any (fun c => !isSpace c) ∧ pre.any isSpace) (by
    unfold Header
    cases pre <;> simp)

theorem startsWith_iff {pre : String} {t : Text} :
    startsWith pre t = true ↔ ∃ rest, t = txt pre ++ rest := by
  simp only [startsWith, List.isPrefixOf_iff_prefix]
  exact ⟨fun ⟨rest, h⟩ => ⟨rest, h.symm⟩, fun ⟨rest, h⟩ => ⟨rest, h.symm⟩⟩

/-- **A stripped command has a word after its header.** -/
theorem argument_of_header {pre : String} {t : Text} (header : Header (txt pre))
    (given : startsWith pre (upper t) = true) (trimmed : Trimmed t) :
    ∃ rest, argument t = .ok rest := by
  obtain ⟨rest, split⟩ := startsWith_iff.1 given
  obtain ⟨⟨first, opening, solid⟩, blank, inside, space⟩ := header
  obtain ⟨head, tail, rfl⟩ : ∃ head tail, t = head :: tail := by
    cases t with
    | nil =>
        have empty : txt pre = [] := (List.append_eq_nil_iff.1 split.symm).1
        rw [empty] at inside
        cases inside
    | cons head tail => exact ⟨head, tail, rfl⟩
  have headSolid : isSpace head = false := by
    rw [← isSpace_upperChar]
    have same : (upper (head :: tail)).head? = (txt pre).head? := by
      rw [split, List.head?_append]
      rw [Option.mem_def.1 opening]
      rfl
    have : upperChar head = first := by
      have : (upper (head :: tail)).head? = some (upperChar head) := rfl
      rw [this, Option.mem_def.1 opening] at same
      exact Option.some.inj same
    rw [this, solid]
  have spaced : ∃ c ∈ head :: tail, isSpace c = true := by
    have : blank ∈ upper (head :: tail) := by
      rw [split]
      exact List.mem_append_left _ inside
    obtain ⟨c, member, rfl⟩ := List.mem_map.1 this
    exact ⟨c, member, by rw [← isSpace_upperChar]; exact space⟩
  have start : (head :: tail).dropWhile isSpace = head :: tail :=
    List.dropWhile_cons_of_neg (by simp [headSolid])
  unfold argument secondWord
  rw [start]
  split
  case h_1 word => exact ⟨_, rfl⟩
  case h_2 missing =>
    exfalso
    -- what follows the word is nonempty, ends the command and is white space throughout
    generalize cut : ((head :: tail).dropWhile fun c => !isSpace c) = after at missing
    have whole : ∃ word, head :: tail = word ++ after :=
      ⟨_, by rw [← cut, List.takeWhile_append_dropWhile]⟩
    have white : ∀ c ∈ after, isSpace c = true := by
      split at missing
      case h_1 blankTail => exact List.dropWhile_eq_nil_iff.1 blankTail
      case h_2 => cases missing
    have nonempty : after ≠ [] := by
      intro empty
      rw [← cut, List.dropWhile_eq_nil_iff] at empty
      obtain ⟨c, member, spaceC⟩ := spaced
      have := empty c member
      rw [spaceC] at this
      cases this
    obtain ⟨word, joined⟩ := whole
    have last : (head :: tail).getLast? = some (after.getLast nonempty) := by
      rw [joined, List.getLast?_append_of_ne_nil _ nonempty, List.getLast?_eq_getLast_of_ne_nil]
    have solidLast := trimmed _ last
    rw [white _ (List.getLast_mem nonempty)] at solidLast
    cases solidLast

/-! ## Steps of a handler -/

section Steps

variable {σ α β : Type} {m : σ} {w : DUTWorld}

theorem eval_error {fault : Fault} {next : α → Outcome σ} :
    eval m w (.error fault) next = raise m w fault := rfl

theorem eval_ok {a : α} {next : α → Outcome σ} : eval m w (.ok a) next = next a := rfl

/-- The fault is one that `exchange` turns into a `CommandError`; its message, which the
error queue answers with, is ASCII. -/
def Fault.Refusal (fault : Fault) : Prop :=
  ∃ message, fault.rejected? = some message ∧ Ascii message

theorem refusal_command {message : Text} (plain : Ascii message) :
    (Fault.command message).Refusal := ⟨message, rfl, plain⟩

theorem refusal_value {message : Text} (plain : Ascii message) :
    (Fault.value message).Refusal := ⟨message, rfl, plain⟩

theorem refusal_worldState {message : Text} (plain : Ascii message) :
    (Fault.worldState message).Refusal := ⟨message, rfl, plain⟩

theorem refusal_undefined {text : Text} (plain : Ascii text) :
    (Fault.command (txt "undefined header: " ++ text)).Refusal :=
  refusal_command (ascii_append.2 ⟨by decide, plain⟩)

/-- An expression that only raises refusals. -/
def Refuses (x : Except Fault α) : Prop := ∀ fault, x = .error fault → fault.Refusal

theorem Refuses.ok {a : α} : Refuses (.ok a : Except Fault α) := by
  intro fault h
  cases h

theorem Refuses.error {fault : Fault} (refusal : fault.Refusal) :
    Refuses (.error fault : Except Fault α) := by
  intro fault' h
  cases h
  exact refusal

theorem Refuses.bind {x : Except Fault α} {f : α → Except Fault β} (first : Refuses x)
    (later : ∀ a, x = .ok a → Refuses (f a)) : Refuses (x >>= f) := by
  cases x with
  | error fault =>
      intro fault' h
      cases h
      exact first fault rfl
  | ok a => exact later a rfl

theorem Refuses.map {x : Except Fault α} {f : α → β} (refuses : Refuses x) :
    Refuses (x.map f) := by
  cases x with
  | error fault =>
      intro fault' h
      cases h
      exact refuses fault rfl
  | ok a => exact .ok

theorem Refuses.mapM {f : α → Except Fault β} (each : ∀ a, Refuses (f a)) (items : List α) :
    Refuses (items.mapM f) := by
  induction items with
  | nil => exact .ok
  | cons a rest ih =>
      rw [List.mapM_cons]
      apply (each a).bind
      intro b _
      apply ih.bind
      intro bs _
      exact .ok

end Steps

/-! ## Readers only refuse -/

theorem graphic_hex4 (n : Nat) : Graphic (Json.hex4 n) := by
  simp only [Json.hex4, graphic_cons, Json.graphic_hexDigit, true_and]
  exact graphic_nil

theorem graphic_reprChar (quote : Char) (printable : 0x20 ≤ quote.toNat ∧ quote.toNat ≤ 0x7E)
    (c : CodePoint) : Graphic (reprChar (fun _ => false) quote c) := by
  unfold reprChar
  dsimp only
  split
  case isTrue escaped =>
    refine graphic_cons.2 ⟨by decide, graphic_cons.2 ⟨?_, graphic_nil⟩⟩
    rcases escaped with rfl | rfl
    · exact printable
    · decide
  case isFalse =>
    split_ifs
    · exact graphic_of_all rfl
    · exact graphic_of_all rfl
    · exact graphic_of_all rfl
    case pos plain =>
      refine graphic_cons.2 ⟨?_, graphic_nil⟩
      simp only [Bool.false_eq_true, and_false, or_false] at plain
      omega
    · exact graphic_append.2 ⟨graphic_of_all rfl, graphic_cons.2 ⟨Json.graphic_hexDigit _,
        graphic_cons.2 ⟨Json.graphic_hexDigit _, graphic_nil⟩⟩⟩
    · exact graphic_append.2 ⟨graphic_of_all rfl, graphic_hex4 _⟩
    · exact graphic_append.2 ⟨graphic_append.2 ⟨graphic_of_all rfl, graphic_hex4 _⟩,
        graphic_hex4 _⟩

theorem graphic_reprAscii (t : Text) : Graphic (reprAscii t) := by
  have quoted : ∀ quote : Char, 0x20 ≤ quote.toNat ∧ quote.toNat ≤ 0x7E →
      Graphic ([CodePoint.ofChar quote] ++ t.flatMap (reprChar (fun _ => false) quote) ++
        [CodePoint.ofChar quote]) := by
    intro quote printable
    have mark : Graphic [CodePoint.ofChar quote] := graphic_cons.2 ⟨printable, graphic_nil⟩
    refine graphic_append.2 ⟨graphic_append.2 ⟨mark, ?_⟩, mark⟩
    intro c member
    obtain ⟨d, -, inside⟩ := List.mem_flatMap.1 member
    exact graphic_reprChar quote printable d c inside
  unfold reprAscii repr
  exact quoted _ (by split <;> decide)

theorem refuses_parseFloat (t : Text) : Refuses (parseFloat t) := by
  unfold parseFloat
  split
  · exact .ok
  · exact .error (refusal_value (ascii_append.2 ⟨by decide, (graphic_reprAscii t).ascii⟩))

theorem refuses_parseInt (t : Text) : Refuses (parseInt t) := by
  unfold parseInt
  split
  · refine .error (refusal_value (ascii_append.2 ⟨ascii_append.2 ⟨by decide, ?_⟩, by decide⟩))
    exact (graphic_digitText _).ascii
  · split
    · exact .ok
    · refine .error (refusal_value (ascii_append.2 ⟨by decide, ?_⟩))
      intro c member
      exact (graphic_reprAscii t).ascii c (List.mem_of_mem_take member)

theorem refuses_parseBool (t : Text) : Refuses (parseBool t) := by
  unfold parseBool commandError
  dsimp only
  split
  · exact .ok
  · split
    · exact .ok
    · exact .error
        (refusal_command (ascii_append.2 ⟨by decide, (graphic_reprAscii t).ascii⟩))

theorem refuses_parseRoutes (t : Text) : Refuses (parseRoutes t) := by
  unfold parseRoutes commandError
  split
  · exact .error (refusal_command (by decide))
  · dsimp only
    split
    · exact .ok
    · exact .error (refusal_command (by decide))

theorem refuses_argument {pre : String} {t : Text} (header : Header (txt pre))
    (given : startsWith pre (upper t) = true) (trimmed : Trimmed t) : Refuses (argument t) := by
  obtain ⟨rest, read⟩ := argument_of_header header given trimmed
  rw [read]
  exact .ok

theorem refuses_parseWaveform {t : Text} (given : startsWith "DATA:ARB " (upper t) = true)
    (trimmed : Trimmed t) : Refuses (parseWaveform t) := by
  unfold parseWaveform
  apply (refuses_argument (by decide) given trimmed).bind
  intro body _
  split
  · exact .error (refusal_value (by decide))
  · apply (Refuses.mapM refuses_parseFloat _).bind
    intro points _
    split
    · exact .error (refusal_command (by decide))
    · exact .ok

theorem parseWaveform_points {t : Text} {name : Text} {points : List Float}
    (read : parseWaveform t = .ok (name, points)) : 2 ≤ points.length := by
  simp only [parseWaveform, bind, Except.bind, commandError] at read
  repeat' split at read
  all_goals first
    | (cases read; done)
    | (cases read; omega)

/-! ## What the world does -/

namespace DUTWorld

theorem refuses_routes (arguments : List Text) : Refuses (routes arguments) := by
  unfold routes
  split
  · exact .error (refusal_value (by decide))
  · split
    · exact .ok
    · exact .error (refusal_value (by decide))

/-- **The world refuses with its own errors only.** -/
theorem refuses_apply (action : SemanticAction) (w : DUTWorld) : Refuses (w.apply action) := by
  cases action with
  | switchClose given =>
      show Refuses (closeRoutes given w)
      unfold closeRoutes
      split
      · exact .error (refusal_worldState (by decide))
      · exact (refuses_routes given).map
  | switchOpen given => exact (refuses_routes given).map
  | switchOpenAll => exact .ok
  | psuConfigure voltage =>
      show Refuses (configurePsu voltage w)
      unfold configurePsu
      split
      · exact .ok
      · exact .error (refusal_value (by decide))
  | psuOutput enabled =>
      show Refuses (setPsuOutput enabled w)
      unfold setPsuOutput
      split
      · exact .error (refusal_worldState (by decide))
      · exact .ok
  | awgWaveform name points amplitude =>
      show Refuses (setAwgWaveform name points amplitude w)
      unfold setAwgWaveform
      split
      · exact .error (refusal_value (by decide))
      · split
        · exact .error (refusal_value (by decide))
        · split
          · exact .error (refusal_value (by decide))
          · exact .ok
  | awgOutput enabled =>
      show Refuses (setAwgOutput enabled w)
      unfold setAwgOutput
      split
      · exact .error (refusal_worldState (by decide))
      · exact .ok

theorem refuses_requireReady (spec : WorldSpec) (w : DUTWorld) :
    Refuses (w.requireReady spec) := by
  unfold requireReady
  repeat' split
  all_goals first
    | exact .ok
    | exact .error (refusal_worldState (by decide))

theorem refuses_dmmSamples (spec : WorldSpec) (w : DUTWorld) : Refuses (w.dmmSamples spec) :=
  (refuses_requireReady spec w).map

theorem refuses_scopeSamples (spec : WorldSpec) (w : DUTWorld) :
    Refuses (w.scopeSamples spec) :=
  (refuses_requireReady spec w).map

/-- Routing leaves the sources alone. -/
theorem apply_switch {action : SemanticAction} {w w' : DUTWorld}
    (routing : (∃ given, action = .switchClose given) ∨ (∃ given, action = .switchOpen given) ∨
      action = .switchOpenAll)
    (applied : w.apply action = .ok w') : ∃ closed, w' = { w with closedRoutes := closed } := by
  rcases routing with ⟨given, rfl⟩ | ⟨given, rfl⟩ | rfl
  · change closeRoutes given w = .ok w' at applied
    unfold closeRoutes at applied
    split at applied
    · cases applied
    · cases read : routes given with
      | error fault =>
          rw [read] at applied
          cases applied
      | ok closed =>
          rw [read] at applied
          cases applied
          exact ⟨_, rfl⟩
  · change openRoutes given w = .ok w' at applied
    unfold openRoutes at applied
    cases read : routes given with
    | error fault =>
        rw [read] at applied
        cases applied
    | ok opened =>
        rw [read] at applied
        cases applied
        exact ⟨_, rfl⟩
  · cases applied
    exact ⟨[], rfl⟩

/-- A stimulus the world takes has two points at least. -/
theorem apply_awgWaveform {name : Text} {points : List Float} {amplitude : Float}
    {w w' : DUTWorld} (applied : w.apply (.awgWaveform name points amplitude) = .ok w') :
    2 ≤ points.length ∧
      w' = { w with
        awgWaveformName := some name, awgPoints := points, awgAmplitudeVpp := amplitude } := by
  change setAwgWaveform name points amplitude w = .ok w' at applied
  unfold setAwgWaveform at applied
  split at applied
  · cases applied
  · split at applied
    · cases applied
    · split at applied
      · cases applied
      · cases applied
        exact ⟨by omega, rfl⟩

end DUTWorld

/-! ## The handlers -/

/-- A step that reads something first: it refuses, or goes on with what was read. -/
theorem eval_cases {σ α : Type} {m : σ} {w : DUTWorld} {x : Except Fault α}
    {next : α → Outcome σ} (refuses : Refuses x) :
    (∃ fault, fault.Refusal ∧ eval m w x next = raise m w fault) ∨
      ∃ a, x = .ok a ∧ eval m w x next = next a := by
  cases x with
  | error fault => exact .inl ⟨fault, refuses fault rfl, rfl⟩
  | ok a => exact .inr ⟨a, rfl, rfl⟩

theorem refuses_word {α : Type} {pre : String} {t : Text} {read : Text → Except Fault α}
    (header : Header (txt pre)) (given : startsWith pre (upper t) = true) (trimmed : Trimmed t)
    (refuses : ∀ word, Refuses (read word)) : Refuses (argument t >>= read) :=
  (refuses_argument header given trimmed).bind fun word _ => refuses word

/-- How the supply's `handle` ends. -/
inductive PSUModel.Handled (text : Text) (m : PSUModel) (w : DUTWorld) : Outcome PSUModel → Prop
  | answered (response : Bytes) : Handled text m w (answer m w response)
  | refused {fault : Fault} (refusal : fault.Refusal) : Handled text m w (raise m w fault)
  | selected : Handled text m w (done { m with channel := 1 } w)
  | configured (voltage : Float) (within : 0.0 ≤ voltage ∧ voltage ≤ 6.0) :
      Handled text m w (done { m with voltage } { w with psuVoltageV := voltage })
  | overwritten (voltage : Float) {fault : Fault} (refusal : fault.Refusal)
      (given : startsWith "VOLT " (upper text) = true)
      (read : (argument text >>= parseFloat) = .ok voltage)
      (outside : ¬(0.0 ≤ voltage ∧ voltage ≤ 6.0)) :
      Handled text m w (raise { m with voltage } w fault)
  | switched (enabled : Bool) :
      Handled text m w (done { m with output := enabled } { w with psuOutput := enabled })

theorem PSUModel.handled {text : Text} (plain : Ascii text) (trimmed : Trimmed text)
    (m : PSUModel) (w : DUTWorld) :
    Handled text m w (handle text m w) := by
  unfold handle
  dsimp only
  split
  case isTrue given =>
    rcases eval_cases (refuses_word (by decide) given trimmed refuses_parseInt) with
      ⟨fault, refusal, result⟩ | ⟨channel, -, result⟩ <;> rw [result]
    · exact .refused refusal
    · split
      · exact .refused (refusal_command (by decide))
      · rename_i one
        rw [not_not.1 one]
        exact .selected
  case isFalse =>
  split
  case isTrue given =>
    rcases eval_cases (refuses_word (by decide) given trimmed refuses_parseFloat) with
      ⟨fault, refusal, result⟩ | ⟨voltage, read, result⟩ <;> rw [result]
    · exact .refused refusal
    · by_cases within : 0.0 ≤ voltage ∧ voltage ≤ 6.0
      · have applied : w.apply (.psuConfigure voltage) = .ok { w with psuVoltageV := voltage } :=
          if_pos within
        simp only [applying, applied, eval_ok]
        exact .configured voltage within
      · have applied : w.apply (.psuConfigure voltage) =
            .error (.value (txt "PSU voltage must be between 0 and 6 V")) := if_neg within
        simp only [applying, applied, eval_error]
        exact .overwritten voltage (refusal_value (by decide)) given read within
  case isFalse =>
  split
  case isTrue => exact .answered _
  case isFalse =>
  split
  case isTrue given =>
    rcases eval_cases (refuses_word (by decide) given trimmed refuses_parseBool) with
      ⟨fault, refusal, result⟩ | ⟨enabled, -, result⟩ <;> rw [result]
    · exact .refused refusal
    · unfold applying
      rcases eval_cases (DUTWorld.refuses_apply _ w) with
        ⟨fault, refusal, result⟩ | ⟨w', applied, result⟩ <;> rw [result]
      · exact .refused refusal
      · change DUTWorld.setPsuOutput enabled w = .ok w' at applied
        unfold DUTWorld.setPsuOutput at applied
        split at applied
        · cases applied
        · cases applied
          exact .switched enabled
  case isFalse =>
  split
  case isTrue => exact .answered _
  case isFalse => exact .refused (refusal_undefined plain)

/-- How the switch's `handle` ends. -/
inductive SwitchModel.Handled (m : SwitchModel) (w : DUTWorld) : Outcome SwitchModel → Prop
  | answered (response : Bytes) : Handled m w (answer m w response)
  | refused {fault : Fault} (refusal : fault.Refusal) : Handled m w (raise m w fault)
  | routed (closed : List Text) : Handled m w (done m { w with closedRoutes := closed })

theorem SwitchModel.handled {text : Text} (plain : Ascii text) (m : SwitchModel) (w : DUTWorld) :
    Handled m w (handle text m w) := by
  have route : ∀ {action : SemanticAction}, ((∃ given, action = .switchClose given) ∨
      (∃ given, action = .switchOpen given) ∨ action = .switchOpenAll) →
      Handled m w (applying m w action fun w => done m w) := by
    intro action routing
    unfold applying
    rcases eval_cases (DUTWorld.refuses_apply action w) with
      ⟨fault, refusal, result⟩ | ⟨w', applied, result⟩ <;> rw [result]
    · exact .refused refusal
    · obtain ⟨closed, rfl⟩ := DUTWorld.apply_switch routing applied
      exact .routed closed
  unfold handle
  dsimp only
  split
  case isTrue =>
    rcases eval_cases (refuses_parseRoutes text) with
      ⟨fault, refusal, result⟩ | ⟨routes, -, result⟩ <;> rw [result]
    · exact .refused refusal
    · exact route (.inl ⟨routes, rfl⟩)
  case isFalse =>
  split
  case isTrue =>
    rcases eval_cases (refuses_parseRoutes text) with
      ⟨fault, refusal, result⟩ | ⟨routes, -, result⟩ <;> rw [result]
    · exact .refused refusal
    · exact route (.inr (.inl ⟨routes, rfl⟩))
  case isFalse =>
  split
  case isTrue => exact route (.inr (.inr rfl))
  case isFalse =>
  split
  case isTrue => exact .answered _
  case isFalse => exact .refused (refusal_undefined plain)

/-- How the generator's `handle` ends. -/
inductive AWGModel.Handled (text : Text) (m : AWGModel) (w : DUTWorld) : Outcome AWGModel → Prop
  | answered (response : Bytes) : Handled text m w (answer m w response)
  | refused {fault : Fault} (refusal : fault.Refusal) : Handled text m w (raise m w fault)
  | uploaded (name : Text) (points : List Float) (enough : 2 ≤ points.length) :
      Handled text m w (done { m with waveforms := PyDict.set name points m.waveforms } w)
  | selected (name : Text) (known : (m.waveforms.lookup name).isSome) :
      Handled text m w (done { m with selected := some name } w)
  | shifted (offsetV : Float) : Handled text m w (done { m with offsetV } w)
  | scaled (amplitudeVpp : Float) (positive : ¬amplitudeVpp ≤ 0) :
      Handled text m w (done { m with amplitudeVpp } w)
  | overwritten (amplitudeVpp : Float) {fault : Fault} (refusal : fault.Refusal)
      (given : startsWith "VOLT " (upper text) = true)
      (read : (argument text >>= parseFloat) = .ok amplitudeVpp) (outside : amplitudeVpp ≤ 0) :
      Handled text m w (raise { m with amplitudeVpp } w fault)
  | missing (name : Text) (chosen : m.selected = some name)
      (absent : m.waveforms.lookup name = none) : Handled text m w (raise m w (.key name))
  | started (name : Text) (points : List Float) (chosen : m.selected = some name)
      (known : m.waveforms.lookup name = some points) :
      Handled text m w (done { m with output := true }
        { w with
          awgWaveformName := some name, awgPoints := points, awgAmplitudeVpp := m.amplitudeVpp,
          awgOutput := true, stimulusStartedMs := some w.clockMs })
  | stopped :
      Handled text m w (done { m with output := false }
        { w with awgOutput := false, stimulusStartedMs := none })

/-- Switching on loads the selected waveform first, which the world then has: the
second action cannot be refused. -/
theorem AWGModel.handled_on (text : Text) (m : AWGModel) (w : DUTWorld) :
    Handled text m w (loadStimulus m w fun w =>
      applying m w (.awgOutput true) fun w => done { m with output := true } w) := by
  unfold loadStimulus
  split
  case h_1 => exact .refused (refusal_command (by decide))
  case h_2 name chosen =>
    split
    case h_1 absent => exact .missing name chosen absent
    case h_2 points known =>
      unfold applying
      rcases eval_cases (DUTWorld.refuses_apply _ w) with
        ⟨fault, refusal, result⟩ | ⟨w', applied, result⟩ <;> rw [result]
      · exact .refused refusal
      · obtain ⟨enough, rfl⟩ := DUTWorld.apply_awgWaveform applied
        rw [DUTWorld.apply_awgOutput_true (by
          intro empty
          change points = [] at empty
          rw [empty] at enough
          simp at enough), eval_ok]
        exact .started name points chosen known

theorem AWGModel.handled (spec : WorldSpec) {text : Text} (plain : Ascii text)
    (trimmed : Trimmed text) (m : AWGModel) (w : DUTWorld) :
    Handled text m w (handle spec text m w) := by
  unfold handle
  dsimp only
  split
  case isTrue given =>
    rcases eval_cases (refuses_parseWaveform given trimmed) with
      ⟨fault, refusal, result⟩ | ⟨⟨name, points⟩, read, result⟩ <;> rw [result]
    · exact .refused refusal
    · exact .uploaded name points (parseWaveform_points read)
  case isFalse =>
  split
  case isTrue given =>
    rcases eval_cases (refuses_argument (by decide) given trimmed) with
      ⟨fault, refusal, result⟩ | ⟨word, -, result⟩ <;> rw [result]
    · exact .refused refusal
    · split
      case isTrue => exact .refused (refusal_command (by decide))
      case isFalse known => exact .selected (upper word) (by simpa using known)
  case isFalse =>
  split
  case isTrue given =>
    rcases eval_cases (refuses_word (by decide) given trimmed refuses_parseFloat) with
      ⟨fault, refusal, result⟩ | ⟨offsetV, -, result⟩ <;> rw [result]
    · exact .refused refusal
    · exact .shifted offsetV
  case isFalse =>
  split
  case isTrue given =>
    rcases eval_cases (refuses_word (by decide) given trimmed refuses_parseFloat) with
      ⟨fault, refusal, result⟩ | ⟨amplitudeVpp, read, result⟩ <;> rw [result]
    · exact .refused refusal
    · split
      case isTrue outside =>
        exact .overwritten amplitudeVpp (refusal_command (by decide)) given read outside
      case isFalse positive => exact .scaled amplitudeVpp positive
  case isFalse =>
  split
  case isTrue given =>
    rcases eval_cases (refuses_word (by decide) given trimmed refuses_parseBool) with
      ⟨fault, refusal, result⟩ | ⟨enabled, -, result⟩ <;> rw [result]
    · exact .refused refusal
    · cases enabled with
      | true => exact handled_on text m w
      | false => exact .stopped
  case isFalse =>
  split
  case isTrue => exact .answered _
  case isFalse =>
  split
  case isTrue => exact .answered _
  case isFalse =>
  split
  case isTrue => exact .answered _
  case isFalse => exact .refused (refusal_undefined plain)

/-- How the multimeter's `handle` ends. -/
inductive DMMModel.Handled (text : Text) (m : DMMModel) (w : DUTWorld) : Outcome DMMModel → Prop
  | measured (response : Bytes) :
      Handled text m w (answer { m with initiated := false } w response)
  | refused {fault : Fault} (refusal : fault.Refusal) : Handled text m w (raise m w fault)
  | configured : Handled text m w (done { m with configured := true } w)
  | ranged (rangeV : Float) : Handled text m w (done { m with rangeV } w)
  | counted (sampleCount : Int) (positive : 1 ≤ sampleCount) :
      Handled text m w (done { m with sampleCount } w)
  | overwritten (sampleCount : Int) {fault : Fault} (refusal : fault.Refusal)
      (given : startsWith "SAMP:COUN " (upper text) = true)
      (read : (argument text >>= parseInt) = .ok sampleCount) (outside : sampleCount < 1) :
      Handled text m w (raise { m with sampleCount } w fault)
  | initiated (ready : m.configured = true) :
      Handled text m w (done { m with initiated := true } w)

theorem DMMModel.handled (spec : WorldSpec) {text : Text} (plain : Ascii text)
    (trimmed : Trimmed text) (m : DMMModel) (w : DUTWorld) :
    Handled text m w (handle spec text m w) := by
  unfold handle
  dsimp only
  split
  case isTrue => exact .configured
  case isFalse =>
  split
  case isTrue given =>
    rcases eval_cases (refuses_word (by decide) given trimmed refuses_parseFloat) with
      ⟨fault, refusal, result⟩ | ⟨rangeV, -, result⟩ <;> rw [result]
    · exact .refused refusal
    · exact .ranged rangeV
  case isFalse =>
  split
  case isTrue given =>
    rcases eval_cases (refuses_word (by decide) given trimmed refuses_parseInt) with
      ⟨fault, refusal, result⟩ | ⟨sampleCount, read, result⟩ <;> rw [result]
    · exact .refused refusal
    · split
      case isTrue outside =>
        exact .overwritten sampleCount (refusal_command (by decide)) given read outside
      case isFalse positive => exact .counted sampleCount (by omega)
  case isFalse =>
  split
  case isTrue =>
    split
    case isTrue => exact .refused (refusal_command (by decide))
    case isFalse ready => exact .initiated (not_not.1 ready)
  case isFalse =>
  split
  case isTrue =>
    split
    case isTrue => exact .refused (refusal_command (by decide))
    case isFalse =>
      rcases eval_cases (DUTWorld.refuses_dmmSamples spec w) with
        ⟨fault, refusal, result⟩ | ⟨samples, -, result⟩ <;> rw [result]
      · exact .refused refusal
      · exact .measured _
  case isFalse => exact .refused (refusal_undefined plain)

/-- How the oscilloscope's `handle` ends. -/
inductive ScopeModel.Handled (spec : WorldSpec) (text : Text) (m : ScopeModel) (w : DUTWorld) :
    Outcome ScopeModel → Prop
  | answered (response : Bytes) : Handled spec text m w (answer m w response)
  | refused {fault : Fault} (refusal : fault.Refusal) : Handled spec text m w (raise m w fault)
  | sourced : Handled spec text m w (done { m with source := txt "CH1" } w)
  | encoded : Handled spec text m w (done { m with encoding := txt "RIBINARY" } w)
  | widened : Handled spec text m w (done { m with width := 1 } w)
  | overflowed (asked : upper text = txt "CURVE?") (values : List Float)
      (read : w.scopeSamples spec = .ok values)
      (infinite : values.mapM curveCode = .error (.other (txt "OverflowError"))) :
      Handled spec text m w (raise m w (.other (txt "OverflowError")))

theorem ScopeModel.curveCode_fault {value : Float} {fault : Fault}
    (raised : curveCode value = .error fault) :
    fault.Refusal ∨ fault = .other (txt "OverflowError") := by
  unfold curveCode at raised
  dsimp only at raised
  split at raised
  · cases raised
  · split at raised
    · cases raised
      exact .inl (refusal_value (by decide))
    · cases raised
      exact .inr rfl

theorem ScopeModel.curve_fault {values : List Float} {fault : Fault}
    (raised : values.mapM curveCode = .error fault) :
    fault.Refusal ∨ fault = .other (txt "OverflowError") := by
  induction values generalizing fault with
  | nil => cases raised
  | cons value rest ih =>
      rw [List.mapM_cons] at raised
      cases here : curveCode value with
      | error _ =>
          rw [here] at raised
          cases raised
          exact curveCode_fault here
      | ok code =>
          cases later : rest.mapM curveCode with
          | error _ =>
              rw [here, later] at raised
              cases raised
              exact ih later
          | ok codes =>
              rw [here, later] at raised
              cases raised

theorem ScopeModel.handled (spec : WorldSpec) {text : Text} (plain : Ascii text)
    (trimmed : Trimmed text) (m : ScopeModel) (w : DUTWorld) :
    Handled spec text m w (handle spec text m w) := by
  unfold handle
  dsimp only
  split
  case isTrue given =>
    rcases eval_cases (refuses_argument (by decide) given trimmed) with
      ⟨fault, refusal, result⟩ | ⟨word, -, result⟩ <;> rw [result]
    · exact .refused refusal
    · split
      case isTrue => exact .refused (refusal_command (by decide))
      case isFalse known =>
        rw [not_not.1 known]
        exact .sourced
  case isFalse =>
  split
  case isTrue given =>
    rcases eval_cases (refuses_argument (by decide) given trimmed) with
      ⟨fault, refusal, result⟩ | ⟨word, -, result⟩ <;> rw [result]
    · exact .refused refusal
    · split
      case isTrue => exact .refused (refusal_command (by decide))
      case isFalse known =>
        rw [not_not.1 known]
        exact .encoded
  case isFalse =>
  split
  case isTrue given =>
    rcases eval_cases (refuses_word (by decide) given trimmed refuses_parseInt) with
      ⟨fault, refusal, result⟩ | ⟨width, -, result⟩ <;> rw [result]
    · exact .refused refusal
    · split
      case isTrue => exact .refused (refusal_command (by decide))
      case isFalse one =>
        rw [not_not.1 one]
        exact .widened
  case isFalse =>
  split
  case isTrue => exact .answered _
  case isFalse =>
  split
  case isTrue => exact .answered _
  case isFalse =>
  split
  case isTrue => exact .answered _
  case isFalse =>
  split
  case isTrue =>
    rcases eval_cases (DUTWorld.refuses_scopeSamples spec w) with
      ⟨fault, refusal, result⟩ | ⟨samples, -, result⟩ <;> rw [result]
    · exact .refused refusal
    · exact .answered _
  case isFalse =>
  split
  case isTrue asked =>
    cases read : w.scopeSamples spec with
    | error fault => exact .refused (DUTWorld.refuses_scopeSamples spec w fault read)
    | ok values =>
        cases curve : values.mapM curveCode with
        | error fault =>
            simp only [bind, Except.bind, curve, eval_error]
            rcases curve_fault curve with refusal | rfl
            · exact .refused refusal
            · exact .overflowed asked values read curve
        | ok payload =>
            simp only [bind, Except.bind, curve, eval_ok]
            exact .answered _
  case isFalse => exact .refused (refusal_undefined plain)

/-- Resetting is never refused. -/
theorem reset_result (i : Instrument) (m : i.Fields) (w : DUTWorld) :
    (i.reset m w).result = .ok none := by
  cases i with
  | bench role =>
      cases role with
      | psu =>
          show (PSUModel.reset m w).result = .ok none
          unfold PSUModel.reset
          dsimp only
          split <;> rfl
      | awg =>
          show (AWGModel.reset m w).result = .ok none
          unfold AWGModel.reset
          split <;> rfl
      | _ => rfl
  | distractor => rfl

end InstrumentBench.Gateway
