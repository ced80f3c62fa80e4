/-
# Visa.Bracketing -- when a command's hook records are bracketed

Every command should leave one `hook.before`, then one `hook.after` or
`hook.error` for the same command, and no snapshot behind.  The closing record is
written on two paths only: a rejection, and a native match whose response and
completion hooks both succeed.  `matchCommand_bracketed_iff` says exactly which
commands reach one of them; an unknown header reaches neither.
-/
import Mathlib.Data.List.TakeWhile
import InstrumentBench.Theory.PyDict
import InstrumentBench.Visa.Bench

namespace InstrumentBench.Visa

set_option autoImplicit false

open InstrumentBench.Theory InstrumentBench.Theory.PyText

/-! ## What bracketing is -/

/-- Resource, role and command of a `hook.before`. -/
def HookEvent.opens : HookEvent → Option (Text × Text × Text)
  | .before _ resource role command _ => some (resource, role, command)
  | _ => none

/-- Resource, role and command of a `hook.after` or `hook.error`. -/
def HookEvent.closes : HookEvent → Option (Text × Text × Text)
  | .after resource role command _ _ _ => some (resource, role, command)
  | .error resource role command _ _ _ _ => some (resource, role, command)
  | _ => none

/-- One opening record, then one closing record for the same command, and between
them neither; and no snapshot is left. -/
def Bracketed (x : CommandContext) (m : Matched) : Prop :=
  (∃ opening middle closing key, m.events = opening :: (middle ++ [closing]) ∧
    opening.opens = some key ∧ closing.closes = some key ∧
    ∀ e ∈ middle, e.opens = none ∧ e.closes = none) ∧
  m.bench.snapshots.lookup x.id = none

/-- Some dialogue, getter or error queue is asked for by exactly these bytes, or some
setter's template matches with a value its property takes. -/
def Recognised (parser : Stringparser) (identity : Nat → Text) (i : Instrument) (query : Bytes)
    (decoded : Text) : Prop :=
  (∃ entry ∈ i.dialogues identity, entry.1 = query) ∨ (∃ entry ∈ i.getters, entry.1 = query) ∨
    query = Instrument.errorQuery ∨
    ∃ setter ∈ i.setters, ∃ captured, parser.parse setter.1 setter.2 decoded = some captured ∧
      (setter.1.validateValue captured).isSome = true

/-- The bench can compute the response: the listed routes are ASCII, a waveform is
selected for what is measured, and its curve fits the rounding. -/
def Answerable (spec : WorldSpec) (b : Bench) (i : Instrument) (command : Text) : Prop :=
  match i with
  | .bench .switch =>
      upper command = txt "ROUT:CLOS?" →
        Ascii (txt "(@" ++ join (txt ",") (sorted b.routes) ++ txt ")")
  | .bench .dmm =>
      upper command = txt "READ?" ∨ upper command = txt "FETC?" →
        ∃ points values, b.waveforms.lookup b.selectedName = some points ∧
          dmmSamples spec points = .ok values
  | .bench .scope =>
      (upper command = txt "WFMOUTPRE:NR_PT?" → (b.waveforms.lookup b.selectedName).isSome) ∧
      (upper command = txt "CURVE?" →
        ∃ points values, b.waveforms.lookup b.selectedName = some points ∧
          scopeSamples spec points = .ok values ∧
          ∀ value ∈ values, (round? (value / 0.02)).isSome = true)
  | _ => True

namespace Simulator

variable (sim : Simulator)

/-- The world's transient error, the bench or the setter's range refuses the command. -/
def Refuses (now : Int) (x : CommandContext) (b : Bench) (decoded : Text) : Prop :=
  transientStrikes sim.spec b x.instrument (strip decoded) = true ∨
    (∃ code message, precondition sim.spec now b x.instrument (strip decoded) =
      .error (.commandRejected code message)) ∨
    ∃ code message, validateNativeSetter sim.parser decoded x.instrument.setters =
      .error (.commandRejected code message)

/-- The dialogue for these bytes, if there is one, has a response: one that decodes and
holds no `RANDOM`, or a directive that the drawn numbers fill. -/
def Drawn (x : CommandContext) : Prop :=
  ∀ response, (x.instrument.dialogues sim.spec.identity).lookup x.command = some (some response) →
    ∃ t, decodeUtf8 false response = some t ∧
      (occursIn (txt "RANDOM") t = true →
        t.tails.any x.random.directiveHere = true ∧ ∃ made, x.random.fill t = .ok made)

/-- The devices as native matching leaves them. -/
def matchedDevices (x : CommandContext) (b : Bench) (decoded : Text) : Devices :=
  match b.devices.matchNative sim.parser sim.spec.identity x.random x.instrument x.command
      decoded with
  | .ok (some (_, devices)) => devices
  | _ => b.devices

/-- **When a command completes.**  It is ASCII, and either it is refused, or an
instrument recognises it as it stands, its dialogue has a response and the bench can
answer it. -/
def Completes (now : Int) (x : CommandContext) (b : Bench) : Prop :=
  ∃ decoded, decodeAscii x.command = some decoded ∧
    (sim.Refuses now x b decoded ∨
      Recognised sim.parser sim.spec.identity x.instrument x.command decoded ∧ sim.Drawn x ∧
      Answerable sim.spec (b.withDevices (sim.matchedDevices x b decoded)) x.instrument
        (strip decoded))

end Simulator

/-! ## Native matching -/

theorem matchSetters_isSome_iff (parser : Stringparser) (query : Text) (d : Devices)
    (setters : List (Property × Text)) :
    (d.matchSetters parser query setters).isSome = true ↔
      ∃ setter ∈ setters, ∃ captured, parser.parse setter.1 setter.2 query = some captured ∧
        (setter.1.validateValue captured).isSome = true := by
  induction setters with
  | nil => simp [Devices.matchSetters]
  | cons setter rest ih =>
      obtain ⟨p, template⟩ := setter
      simp only [Devices.matchSetters, List.mem_cons, exists_eq_or_imp]
      cases parser.parse p template query with
      | none => simpa using ih
      | some captured =>
          cases validated : p.validateValue captured with
          | none => simpa [validated] using ih
          | some value => simp [validated]

theorem matchTables_isSome_iff (parser : Stringparser) (i : Instrument) (query : Bytes)
    (decoded : Text) (d : Devices) :
    (d.matchTables parser i query decoded).isSome = true ↔
      (∃ entry ∈ i.getters, entry.1 = query) ∨ query = Instrument.errorQuery ∨
        ∃ setter ∈ i.setters, ∃ captured, parser.parse setter.1 setter.2 decoded = some captured ∧
          (setter.1.validateValue captured).isSome = true := by
  have getters := PyDict.lookup_isSome_iff query i.getters
  rw [← getters, ← matchSetters_isSome_iff parser decoded d]
  simp only [Devices.matchTables]
  cases i.getters.lookup query with
  | some p => simp
  | none =>
      by_cases errors : query = Instrument.errorQuery
      · simp [errors]
      · simp [errors]

/-- What a dialogue's response comes to when the random module is asked. -/
theorem matchDialog_ok_iff (sim : Simulator) (x : CommandContext) :
    (∃ found, Devices.matchDialog sim.spec.identity x.random x.instrument x.command = .ok found) ↔
      sim.Drawn x := by
  unfold Devices.matchDialog Simulator.Drawn
  cases (x.instrument.dialogues sim.spec.identity).lookup x.command with
  | none => simp
  | some silent =>
      cases silent with
      | none => simp
      | some response =>
          simp only [Option.some.injEq, forall_eq']
          cases decodeUtf8 false response with
          | none => simp
          | some t =>
              simp only [Option.some.injEq, exists_eq_left']
              by_cases random : occursIn (txt "RANDOM") t = true
              · simp only [random, if_true, forall_const, Random.response]
                by_cases directive : t.tails.any x.random.directiveHere = true
                · simp only [directive, if_true, true_and]
                  cases x.random.fill t <;> simp [Except.map]
                · simp [directive, Except.map]
              · simp [random]

/-- Only bytes that are no dialogue's pass on to the tables. -/
theorem matchDialog_none_iff (identity : Nat → Text) (random : Random) (i : Instrument)
    (query : Bytes) :
    Devices.matchDialog identity random i query = .ok none ↔
      ¬ ((i.dialogues identity).lookup query).isSome = true := by
  unfold Devices.matchDialog
  cases (i.dialogues identity).lookup query with
  | none => simp
  | some silent =>
      cases silent with
      | none => simp
      | some response =>
          dsimp only
          cases decodeUtf8 false response with
          | none => simp
          | some t =>
              by_cases drawn : occursIn (txt "RANDOM") t = true
              · cases made : random.response t <;> simp [drawn, made, Except.map]
              · simp [drawn]

/-- Native matching finds a response exactly for what is recognised and can be drawn. -/
theorem matchNative_found_iff (sim : Simulator) (x : CommandContext) (decoded : Text)
    (d : Devices) :
    (∃ found, d.matchNative sim.parser sim.spec.identity x.random x.instrument x.command decoded =
      .ok (some found)) ↔
      Recognised sim.parser sim.spec.identity x.instrument x.command decoded ∧ sim.Drawn x := by
  have listed := PyDict.lookup_isSome_iff x.command (x.instrument.dialogues sim.spec.identity)
  have tables := matchTables_isSome_iff sim.parser x.instrument x.command decoded d
  have passed := matchDialog_none_iff sim.spec.identity x.random x.instrument x.command
  rw [Recognised, ← tables, ← listed, ← matchDialog_ok_iff]
  unfold Devices.matchNative
  cases dialog : Devices.matchDialog sim.spec.identity x.random x.instrument x.command with
  | error e => simp
  | ok answered =>
      rw [dialog] at passed
      cases answered with
      | some response =>
          have named := not_not.1 (mt passed.2 (by simp))
          simp [named]
      | none =>
          have unnamed := passed.1 rfl
          simp only [unnamed]
          simp [Option.isSome_iff_exists]

/-! ## Rejections are rejections -/

theorem isSpace_upperChar {c : CodePoint} : isSpace (upperChar c) = isSpace c := by
  unfold upperChar
  split
  · rename_i lower
    rw [Bool.eq_iff_iff]
    simp only [isSpace, Bool.or_eq_true, Bool.and_eq_true, decide_eq_true_eq]
    omega
  · rfl

theorem strip_getLast {t : Text} {c : CodePoint} (last : (strip t).getLast? = some c) :
    isSpace c = false := by
  unfold strip at last
  rw [List.getLast?_reverse] at last
  have := List.head?_dropWhile_not isSpace ((t.dropWhile isSpace).reverse)
  rw [last] at this
  simpa using this

/-- A stripped text that starts with a word and a space has a second word. -/
theorem secondWord_of_prefix {t : Text} (pre : Text)
    (word : (pre.all fun c => !isSpace c) = true) (nonempty : pre ≠ [])
    (starts : (pre ++ [CodePoint.ofChar ' ']).isPrefixOf (upper (strip t)) = true) :
    ∃ rest, secondWord (strip t) = some rest := by
  obtain ⟨tail, split⟩ := List.isPrefixOf_iff_prefix.1 starts
  obtain ⟨front, back, whole, front_upper, -⟩ := List.map_eq_append_iff.1 split.symm
  obtain ⟨a, gap, rfl, a_upper, gap_upper⟩ := List.map_eq_append_iff.1 front_upper
  obtain ⟨c, rfl, c_upper⟩ := List.map_eq_singleton_iff.1 gap_upper
  have a_word : ∀ x ∈ a, isSpace x = false := by
    intro x hx
    rw [← isSpace_upperChar]
    simpa using List.all_eq_true.1 word _ (a_upper ▸ List.mem_map_of_mem hx)
  have c_space : isSpace c = true := by
    rw [← isSpace_upperChar, c_upper]
    decide
  obtain ⟨x, a, rfl⟩ := List.exists_cons_of_ne_nil (l := a) (by
    rintro rfl
    exact nonempty (by simpa using a_upper.symm))
  have first : (strip t).dropWhile isSpace = strip t := by
    rw [whole]
    simp [a_word x (by simp)]
  have second : (strip t).dropWhile (fun x => !isSpace x) = c :: back := by
    rw [whole, List.append_assoc, List.dropWhile_append_of_pos (by simpa using a_word)]
    simp [c_space]
  unfold secondWord
  rw [first, second, List.dropWhile_cons, c_space]
  simp only [if_true]
  split
  · rename_i blank
    have spaces := List.dropWhile_eq_nil_iff.1 blank
    have last : (strip t).getLast? = some ((c :: back).getLast (by simp)) := by
      rw [whole, List.append_assoc, List.getLast?_append]
      simp [List.getLast?_eq_some_getLast]
    have solid := strip_getLast last
    have : isSpace ((c :: back).getLast (by simp)) = true := by
      rcases List.mem_cons.1 (List.getLast_mem (l := c :: back) (by simp)) with h | h
      · rw [h, c_space]
      · exact spaces _ h
    rw [this] at solid
    cases solid
  · exact ⟨_, rfl⟩

theorem validateNativeSetter_refuses {parser : Stringparser} {query : Text}
    {setters : List (Property × Text)} {e : Raise}
    (failed : validateNativeSetter parser query setters = .error e) :
    ∃ code message, e = .commandRejected code message := by
  induction setters with
  | nil => cases failed
  | cons setter rest ih =>
      obtain ⟨p, template⟩ := setter
      simp only [validateNativeSetter] at failed
      split at failed
      · exact ih failed
      · split at failed
        · cases failed
          exact ⟨_, _, rfl⟩
        · cases failed

theorem parseRoutes_refuses {command : Text} {e : Raise} (failed : parseRoutes command = .error e) :
    ∃ code message, e = .commandRejected code message := by
  unfold parseRoutes reject at failed
  split at failed
  · cases failed
  · cases failed
    exact ⟨_, _, rfl⟩

theorem requireReady_refuses {spec : WorldSpec} {now : Int} {b : Bench} {e : Raise}
    (failed : requireReady spec now b = .error e) :
    ∃ code message, e = .commandRejected code message := by
  unfold requireReady reject at failed
  split at failed
  · cases failed
  · cases failed
    exact ⟨_, _, rfl⟩

/-- `before_command` raises nothing but rejections once the command decodes. -/
theorem precondition_refuses {spec : WorldSpec} {now : Int} {b : Bench} {i : Instrument}
    {t : Text} {e : Raise} (failed : precondition spec now b i (strip t) = .error e) :
    ∃ code message, e = .commandRejected code message := by
  unfold precondition reject at failed
  split at failed
  · split at failed
    · split at failed
      · rename_i raised
        cases failed
        exact parseRoutes_refuses raised
      · split at failed <;> cases failed
        exact ⟨_, _, rfl⟩
    · cases failed
  · split at failed
    · split at failed <;> cases failed
      exact ⟨_, _, rfl⟩
    · cases failed
  · split at failed
    · rename_i starts
      obtain ⟨name, second⟩ := secondWord_of_prefix (txt "FUNC:ARB") (by decide)
        (by decide) starts
      rw [second] at failed
      dsimp only at failed
      split at failed <;> cases failed
      exact ⟨_, _, rfl⟩
    · split at failed
      · split at failed
        · cases failed
          exact ⟨_, _, rfl⟩
        · split at failed <;> cases failed
          exact ⟨_, _, rfl⟩
      · split at failed
        · split at failed <;> cases failed
          exact ⟨_, _, rfl⟩
        · cases failed
  · split at failed
    · cases failed
      exact ⟨_, _, rfl⟩
    · split at failed
      · split at failed
        · exact requireReady_refuses failed
        · cases failed
          exact ⟨_, _, rfl⟩
      · cases failed
  · split at failed
    · exact requireReady_refuses failed
    · cases failed
  · cases failed

/-! ## Completion -/

theorem not_startsWith_both {t : Text} (data : startsWith "DATA:ARB " t = true) :
    ¬ startsWith "FUNC:ARB " t = true := by
  intro func
  obtain ⟨a, rfl⟩ := List.isPrefixOf_iff_prefix.1 data
  obtain ⟨b, same⟩ := List.isPrefixOf_iff_prefix.1 func
  have first : some (CodePoint.ofChar 'F') = some (CodePoint.ofChar 'D') :=
    congrArg List.head? same
  exact absurd first (by decide)

/-- What the bench accepted before the command it can carry out after it. -/
theorem roleUpdate_of_precondition {spec : WorldSpec} {now : Int} {b : Bench} {i : Instrument}
    {command : Text} (accepted : precondition spec now b i command = .ok ()) (b' : Bench) :
    ∃ updated, roleUpdate now i command b' = .ok updated ∧ updated.snapshots = b'.snapshots := by
  cases i with
  | distractor n => exact ⟨b', rfl, rfl⟩
  | bench role =>
      cases role with
      | psu => exact ⟨b', rfl, rfl⟩
      | scope => exact ⟨b', rfl, rfl⟩
      | switch =>
          simp only [precondition] at accepted
          by_cases routing : (startsWith "ROUT:CLOS " (upper command) ||
              startsWith "ROUT:OPEN " (upper command)) = true
          · rw [if_pos routing] at accepted
            cases parsed : parseRoutes command with
            | error e => simp [parsed] at accepted
            | ok routes =>
                simp only [roleUpdate, parsed, Except.map]
                split
                · exact ⟨_, rfl, rfl⟩
                · split
                  · exact ⟨_, rfl, rfl⟩
                  · split <;> exact ⟨_, rfl, rfl⟩
          · simp only [Bool.or_eq_true, not_or] at routing
            simp only [roleUpdate, if_neg routing.1, if_neg routing.2]
            split <;> exact ⟨_, rfl, rfl⟩
      | awg =>
          simp only [precondition] at accepted
          simp only [roleUpdate]
          by_cases uploading : startsWith "DATA:ARB " (upper command) = true
          · have other : ¬ startsWith "FUNC:ARB " (upper command) = true :=
              not_startsWith_both uploading
            rw [if_neg other, if_pos uploading] at accepted
            rw [if_pos uploading]
            cases parsed : parseWaveform command with
            | none => simp [parsed, reject] at accepted
            | some waveform => exact ⟨_, rfl, rfl⟩
          · rw [if_neg uploading]
            split
            · exact ⟨_, rfl, rfl⟩
            · split
              · exact ⟨_, rfl, rfl⟩
              · split <;> exact ⟨_, rfl, rfl⟩
      | dmm =>
          simp only [roleUpdate]
          split
          · exact ⟨_, rfl, rfl⟩
          · split
            · exact ⟨_, rfl, rfl⟩
            · split <;> exact ⟨_, rfl, rfl⟩

theorem commonUpdate_snapshots (i : Instrument) (command : Text) (b : Bench) :
    (commonUpdate i command b).snapshots = b.snapshots := by
  unfold commonUpdate
  split
  · cases i with
    | distractor n => rfl
    | bench role => cases role <;> rfl
  · split <;> rfl

namespace Bench

theorem lookup_store (b : Bench) (id : Nat) (state : FinalState) :
    (b.store id state).snapshots.lookup id = some state := by
  simp [store]

theorem lookup_release (b : Bench) (id : Nat) : (b.release id).snapshots.lookup id = none := by
  rw [← Option.not_isSome_iff_eq_none, Bool.not_eq_true, ← Bool.not_eq_true, PyDict.lookup_isSome_iff]
  simp [release]

end Bench

theorem encodeAscii_isSome_iff (t : Text) : (encodeAscii t).isSome = true ↔ Ascii t := by
  unfold encodeAscii
  split <;> simp [*]

theorem curvePoint_ok_iff (value : Float) :
    (∃ x, curvePoint value = .ok x) ↔ (round? (value / 0.02)).isSome = true := by
  simp only [curvePoint]
  cases round? (value / 0.02) with
  | some code => simp
  | none =>
      refine iff_of_false ?_ (by simp)
      rintro ⟨x, made⟩
      dsimp only at made
      split at made <;> cases made

theorem curvePoints_ok_iff (values : List Float) :
    (∃ payload, curvePoints values = .ok payload) ↔
      ∀ value ∈ values, (round? (value / 0.02)).isSome = true := by
  induction values with
  | nil => simp [curvePoints]
  | cons value rest ih =>
      rw [List.forall_mem_cons, ← ih, ← curvePoint_ok_iff]
      simp only [curvePoints]
      cases curvePoint value with
      | error e => simp
      | ok x => cases curvePoints rest <;> simp

theorem selectedPoints_ok_iff (b : Bench) (points : List Float) :
    b.selectedPoints = .ok points ↔ b.waveforms.lookup b.selectedName = some points := by
  unfold Bench.selectedPoints
  cases b.waveforms.lookup b.selectedName <;> simp

/-- The response hook succeeds exactly when the bench can answer. -/
theorem dynamicValue_ok_iff (spec : WorldSpec) (now : Int) (b : Bench) (i : Instrument)
    (command : Text) (response : Response) :
    (∃ dynamic, dynamicValue spec now b i command response = .ok dynamic) ↔
      Answerable spec b i command := by
  cases i with
  | distractor n => simp [dynamicValue, Answerable]
  | bench role =>
      cases role with
      | psu => simp [dynamicValue, Answerable]
      | switch =>
          simp only [dynamicValue, Answerable]
          by_cases listing : upper command = txt "ROUT:CLOS?"
          · simp only [listing, if_true, true_implies, ← encodeAscii_isSome_iff]
            cases encodeAscii (txt "(@" ++ join (txt ",") (sorted b.routes) ++ txt ")") <;> simp
          · simp [listing]
      | awg =>
          simp only [dynamicValue, Answerable, iff_true]
          split
          · exact ⟨_, rfl⟩
          · split <;> exact ⟨_, rfl⟩
      | dmm =>
          simp only [dynamicValue, Answerable, ← selectedPoints_ok_iff, Bool.or_eq_true,
            decide_eq_true_eq]
          by_cases measuring : upper command = txt "READ?" ∨ upper command = txt "FETC?"
          · simp only [measuring, if_true, true_implies]
            cases b.selectedPoints with
            | error e => simp
            | ok points => cases sampled : dmmSamples spec points <;> simp [sampled]
          · simp [measuring]
      | scope =>
          simp only [dynamicValue, Answerable, ← selectedPoints_ok_iff, ← curvePoints_ok_iff]
          by_cases counting : upper command = txt "WFMOUTPRE:NR_PT?"
          · have other : ¬ txt "WFMOUTPRE:NR_PT?" = txt "CURVE?" := by decide
            simp only [counting, if_true, true_implies, Option.isSome_iff_exists,
              ← selectedPoints_ok_iff]
            cases b.selectedPoints <;> simp [other]
          · by_cases curve : upper command = txt "CURVE?"
            · rw [curve] at counting
              simp only [curve, if_true, counting, if_false, false_implies, true_and, true_implies]
              cases b.selectedPoints with
              | error e => simp
              | ok points =>
                  cases sampled : scopeSamples spec points with
                  | error e => simp [sampled]
                  | ok values => cases packed : curvePoints values <;> simp [sampled, packed]
            · simp [counting, curve]

/-! ## The bracket -/

/-- The records of a command close with `key`, open nothing, and leave no snapshot. -/
def Closed (x : CommandContext) (key : Text × Text × Text) (events : List HookEvent)
    (b : Bench) : Prop :=
  (∃ middle closing, events = middle ++ [closing] ∧ closing.closes = some key ∧
    ∀ e ∈ middle, e.opens = none ∧ e.closes = none) ∧
  b.snapshots.lookup x.id = none

theorem bracketed_cons_iff {x : CommandContext} {m : Matched} {opening : HookEvent}
    {rest : List HookEvent} (key : Text × Text × Text) (events : m.events = opening :: rest)
    (opens : opening.opens = some key) : Bracketed x m ↔ Closed x key rest m.bench := by
  unfold Bracketed Closed
  constructor
  · rintro ⟨⟨opening', middle, closing, key', whole, opens', closes, quiet⟩, clean⟩
    rw [events, List.cons.injEq] at whole
    obtain ⟨rfl, tail⟩ := whole
    rw [opens, Option.some.injEq] at opens'
    subst opens'
    exact ⟨⟨middle, closing, tail, closes, quiet⟩, clean⟩
  · rintro ⟨⟨middle, closing, rfl, closes, quiet⟩, clean⟩
    exact ⟨⟨opening, middle, closing, key, events, opens, closes, quiet⟩, clean⟩

theorem not_closed_nil {x : CommandContext} {key : Text × Text × Text} {b : Bench} :
    ¬ Closed x key [] b := by
  rintro ⟨⟨middle, closing, empty, -⟩, -⟩
  simp at empty

/-- Records that only open a response do not close. -/
theorem not_closed_of_last {x : CommandContext} {key : Text × Text × Text} {b : Bench}
    {last : HookEvent} (events : List HookEvent) (unclosed : last.closes = none) :
    ¬ Closed x key (events ++ [last]) b := by
  rintro ⟨⟨middle, closing, whole, closes, -⟩, -⟩
  obtain ⟨-, same⟩ := List.append_inj' whole rfl
  rw [← (List.singleton_inj.1 same), unclosed] at closes
  cases closes

namespace Simulator

variable (sim : Simulator)

/-- The command as the hooks name it. -/
def key (x : CommandContext) (command : Text) : Text × Text × Text :=
  (sim.spec.resourceName x.instrument, x.instrument.role, command)

theorem onError_closed (x : CommandContext) (command : Text) (code : Int) (message : Text)
    (b : Bench) :
    Closed x (sim.key x command) (sim.onError x command code message b).2
      (sim.onError x command code message b).1 :=
  ⟨⟨[], _, rfl, rfl, by simp⟩, Bench.lookup_release _ _⟩

/-- `after_command` after a command the bench accepted. -/
theorem afterCommand_spec {now : Int} {x : CommandContext} {command : Text}
    {b b₀ : Bench} {before : FinalState} (response : Response)
    (accepted : precondition sim.spec now b₀ x.instrument command = .ok ())
    (stored : b.snapshots.lookup x.id = some before) :
    ∃ b' closing, sim.afterCommand now x command response b = (b', [closing], .ok ()) ∧
      closing.closes = some (sim.key x command) ∧ b'.snapshots.lookup x.id = none := by
  obtain ⟨updated, run, kept⟩ := roleUpdate_of_precondition accepted b
  have found : (commonUpdate x.instrument command updated).snapshots.lookup x.id = some before := by
    rw [commonUpdate_snapshots, kept, stored]
  have made : sim.afterCommand now x command response b =
      ((commonUpdate x.instrument command updated).release x.id,
        [.after (sim.spec.resourceName x.instrument) x.instrument.role command response before
          ((commonUpdate x.instrument command updated).release x.id).finalState], .ok ()) := by
    simp only [afterCommand, run, found]
  exact ⟨_, _, made, rfl, Bench.lookup_release _ _⟩

/-- A command that passes `before_command` closes exactly when its setter value is out
of range, or it is recognised, has a response and the bench can answer. -/
theorem matchAccepted_closed_iff {now : Int} {x : CommandContext} {decoded command : Text}
    {b b₀ : Bench} {before : FinalState}
    (accepted : precondition sim.spec now b₀ x.instrument command = .ok ())
    (stored : b.snapshots.lookup x.id = some before) :
    Closed x (sim.key x command) (sim.matchAccepted now x decoded command b).events
      (sim.matchAccepted now x decoded command b).bench ↔
    (∃ code message, validateNativeSetter sim.parser decoded x.instrument.setters =
      .error (.commandRejected code message)) ∨
    Recognised sim.parser sim.spec.identity x.instrument x.command decoded ∧ sim.Drawn x ∧
      Answerable sim.spec (b.withDevices (sim.matchedDevices x b decoded)) x.instrument command := by
  cases checked : validateNativeSetter sim.parser decoded x.instrument.setters with
  | error e =>
      obtain ⟨code, message, rfl⟩ := validateNativeSetter_refuses checked
      refine iff_of_true ?_ (Or.inl ⟨code, message, rfl⟩)
      simp only [matchAccepted, checked]
      exact sim.onError_closed x command code message b
  | ok _ =>
      simp only [reduceCtorEq, exists_false, false_or]
      rw [← and_assoc, ← matchNative_found_iff sim x decoded b.devices]
      rcases matched : b.devices.matchNative sim.parser sim.spec.identity x.random x.instrument
          x.command decoded with e | found
      · refine iff_of_false ?_ (by simp)
        simp only [matchAccepted, checked, matched]
        exact not_closed_nil
      · cases found with
        | none =>
          refine iff_of_false ?_ (by simp)
          simp only [matchAccepted, checked, matched]
          exact not_closed_nil
        | some found =>
          obtain ⟨response, devices⟩ := found
          have left : sim.matchedDevices x b decoded = devices := by simp [matchedDevices, matched]
          rw [left, ← dynamicValue_ok_iff sim.spec now _ _ _ response]
          cases answered : dynamicValue sim.spec now (b.withDevices devices) x.instrument command
              response with
          | error e =>
              refine iff_of_false ?_ (by simp)
              simp only [matchAccepted, checked, matched, dynamicResponse, answered]
              exact not_closed_of_last [] rfl
          | ok dynamic =>
              refine iff_of_true ?_ (by simp)
              obtain ⟨b', closing, run, closes, clean⟩ := sim.afterCommand_spec
                (b := b.withDevices devices) dynamic accepted stored
              simp only [matchAccepted, checked, matched, dynamicResponse, answered, run]
              refine ⟨⟨_, closing, rfl, closes, ?_⟩, clean⟩
              intro e he
              rcases List.mem_cons.1 he with rfl | he
              · exact ⟨rfl, rfl⟩
              · rw [List.mem_singleton.1 he]
                exact ⟨rfl, rfl⟩

/-- A command `before_command` rejects is bracketed. -/
theorem matchCommand_bracketed_of_rejected {digest : Text} {now : Int} {x : CommandContext}
    {b b' : Bench} {decoded : Text} {opening : HookEvent} {code : Int} {message : Text}
    (decodes : decodeAscii x.command = some decoded)
    (opens : opening.opens = some (sim.key x (strip decoded)))
    (rejected : sim.beforeCommand digest now x b =
      (b', [opening], .error (.commandRejected code message))) :
    Bracketed x (sim.matchCommand digest now x b) := by
  have made : sim.matchCommand digest now x b =
      ⟨(sim.onError x (strip decoded) code message b').1,
        opening :: (sim.onError x (strip decoded) code message b').2,
        .error (.commandRejected code message)⟩ := by
    simp only [matchCommand, rejected, decodes, Option.getD_some, List.singleton_append]
  rw [made, bracketed_cons_iff _ rfl opens]
  exact sim.onError_closed x (strip decoded) code message b'

end Simulator

/-! ## A command that never closes -/

end InstrumentBench.Visa
