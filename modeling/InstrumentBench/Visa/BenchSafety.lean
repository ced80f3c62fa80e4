/-
# Visa.BenchSafety -- what the bench never does

The guard on a measurement is spread over three places: the check before a command,
the devices that hold the outputs, and the clock reading that enabling the generator
leaves.  `bench_safe` puts them together over every run of the bench, clean or dirty
at its start: a measurement is answered only on a connected, powered and settled
bench, and no route closes while an output is on.

When the generator was last enabled is read off the setters themselves
(`Watched.lastEnabled`), not off the clock reading the bench keeps.
-/
import InstrumentBench.Visa.BenchSteps

namespace InstrumentBench.Visa

set_option autoImplicit false

open InstrumentBench.Theory InstrumentBench.Theory.PyText

/-! ## What is relied on of the template parser -/

/-- The package inverts formatting: a template that ends in its one field captures what
stands in the field's place, a final newline apart. -/
structure Stringparser.Inverts (parser : Stringparser) : Prop where
  text : ∀ pre t captured, parser.text (pre ++ txt "\x7b\x7d") t = some captured →
    t = pre ++ captured ∨ t = pre ++ captured ++ txt "\n"

/-! ## Watching the generator -/

/-- A setting that switches the generator's output on. -/
def switchesOn : ((p : Property) × p.kind.Value) → Bool
  | ⟨.awgOutput, value⟩ => (value : Text) = txt "ON"
  | _ => false

/-- A command is carried out whose setter switches the generator on. -/
def Simulator.enables (sim : Simulator) (digest : Text) (now : Int) (x : CommandContext)
    (b : Bench) : Bool :=
  match (sim.matchCommand digest now x b).result with
  | .ok (some _) =>
      x.instrument = .bench .awg &&
        (setting sim.parser ((decodeAscii x.command).getD []) x.instrument.setters).any switchesOn
  | _ => false

/-- A bench, and when its generator was last enabled. -/
structure Watched where
  bench : Bench
  lastEnabled : Option Int

def Watched.next (sim : Simulator) (w : Watched) (action : BenchAction) : Watched where
  bench := action.apply sim w.bench
  lastEnabled :=
    match action with
    | .deliver digest now x => if sim.enables digest now x w.bench then some now else w.lastEnabled
    | _ => w.lastEnabled

/-- The bench after `actions`, watched from its start: what is on in a fresh bench was
not enabled by a command. -/
def Simulator.watch (sim : Simulator) (actions : List BenchAction) : Watched :=
  actions.foldl (Watched.next sim) ⟨.initial sim.spec, none⟩

/-- The queries that measure. -/
def measurements : List Text := [txt "READ?", txt "FETC?", txt "CURVE?"]

/-- What asks an instrument to measure. -/
def Instrument.measurements : Instrument → List Text
  | .bench .dmm => [txt "READ?", txt "FETC?"]
  | .bench .scope => [txt "CURVE?"]
  | _ => []

/-- The data a matched command is answered with. -/
def Matched.data (m : Matched) : Option Bytes :=
  match m.result with
  | .ok (some (some data)) => some data
  | _ => none

/-- The bench is connected, powered and settled for a measurement. -/
structure Watched.Measurable (spec : WorldSpec) (now : Int) (w : Watched) : Prop where
  connected : spec.requiredRoutes ⊆ w.bench.routes
  supplied : w.bench.psuOutput = true
  driven : w.bench.awgOutput = true
  settled : ∃ t, w.lastEnabled = some t ∧ spec.settleMs * 1000000 ≤ now - t

/-! ## Which texts enable -/

theorem strip_head {c : CodePoint} (t : Text) (solid : isSpace c = false) :
    (strip (c :: t)).head? = some c := by
  unfold strip
  rw [List.dropWhile_cons, solid]
  simp only [Bool.false_eq_true, if_false, List.reverse_cons, List.head?_reverse]
  rw [List.dropWhile_append]
  split
  · simp [solid]
  · simp

/-- A text that starts as the generator's other templates do is no output command. -/
theorem upper_strip_ne {c : CodePoint} (t word : Text) (solid : isSpace c = false)
    (other : upperChar c ≠ CodePoint.ofChar 'O') :
    upper (strip (c :: t)) ≠ txt "OUTP " ++ word := by
  intro same
  have first := congrArg List.head? same
  rw [upper, List.head?_map, strip_head t solid] at first
  exact other (Option.some.inj first)

/-- An output takes `ON` and `OFF` as they are written. -/
theorem output_values {captured value : Text}
    (valid : Property.awgOutput.validateValue captured = some value) :
    captured = value ∧ (value = txt "ON" ∨ value = txt "OFF") := by
  obtain ⟨converted, -, -, listed⟩ := Property.validateValue_some valid
  refine ⟨Option.some.inj converted, ?_⟩
  rcases listed with empty | listed
  · cases empty
  · simp only [Property.specs, List.any_cons, List.any_nil, Bool.or_false, Bool.or_eq_true]
      at listed
    rcases listed with on | off
    · exact Or.inl (of_decide_eq_true on)
    · exact Or.inr (of_decide_eq_true off)

/-- A setting that switches on is the output's. -/
theorem output_of_switchesOn {s : (p : Property) × p.kind.Value} (switches : switchesOn s = true) :
    s = ⟨.awgOutput, txt "ON"⟩ := by
  obtain ⟨p, value⟩ := s
  cases p
  case awgOutput =>
    have on : value = txt "ON" := of_decide_eq_true switches
    rw [on]
  all_goals cases switches

/-- What the output's setter takes is the command that names its value. -/
theorem command_of_output {parser : Stringparser} (inverts : parser.Inverts)
    {decoded captured value : Text}
    (parsed : parser.parse .awgOutput (txt "OUTP \x7b\x7d") decoded = some captured)
    (valid : Property.awgOutput.validateValue captured = some value) :
    (value = txt "ON" ∨ value = txt "OFF") ∧ upper (strip decoded) = txt "OUTP " ++ value := by
  obtain ⟨rfl, listed⟩ := output_values valid
  refine ⟨listed, ?_⟩
  rcases inverts.text (txt "OUTP ") decoded captured parsed with whole | whole
  · rw [whole]
    rcases listed with rfl | rfl
    · decide
    · decide
  · rw [whole]
    rcases listed with rfl | rfl
    · decide
    · decide

/-- The setting that takes an output command is the one it names. -/
theorem setting_of_output {parser : Stringparser} (inverts : parser.Inverts)
    {decoded word : Text} {s : (p : Property) × p.kind.Value}
    (found : setting parser decoded (Instrument.bench .awg).setters = some s)
    (command : upper (strip decoded) = txt "OUTP " ++ word) : s = ⟨.awgOutput, word⟩ := by
  obtain ⟨template, captured, listed, parsed, valid⟩ := setting_some found
  obtain ⟨p, value⟩ := s
  have other (pre : Text) {t : Text} {c : CodePoint} {rest : Text} (starts : pre = c :: rest)
      (solid : isSpace c = false) (differs : upperChar c ≠ CodePoint.ofChar 'O')
      (captured : parser.text (pre ++ txt "\x7b\x7d") decoded = some t) : False := by
    subst starts
    rcases inverts.text _ _ _ captured with whole | whole
    · rw [whole, List.cons_append] at command
      exact upper_strip_ne _ _ solid differs command
    · rw [whole, List.cons_append, List.cons_append] at command
      exact upper_strip_ne _ _ solid differs command
  simp only [Instrument.setters, List.mem_cons, Prod.mk.injEq, List.not_mem_nil, or_false]
    at listed
  rcases listed with ⟨rfl, rfl⟩ | ⟨rfl, rfl⟩ | ⟨rfl, rfl⟩ | ⟨rfl, rfl⟩ | ⟨rfl, rfl⟩
  · exact absurd parsed (fun h => other (txt "DATA:ARB ") rfl (by decide) (by decide) h)
  · exact absurd parsed (fun h => other (txt "FUNC:ARB ") rfl (by decide) (by decide) h)
  · exact absurd parsed (fun h => other (txt "VOLT ") rfl (by decide) (by decide) h)
  · exact absurd parsed (fun h => other (txt "VOLT:OFFS ") rfl (by decide) (by decide) h)
  · have named := (command_of_output inverts parsed valid).2
    rw [command] at named
    rw [List.append_cancel_left named]

/-- A setting of the output comes from the command that names it. -/
theorem output_of_setting {parser : Stringparser} (inverts : parser.Inverts)
    {decoded value : Text}
    (found : setting parser decoded (Instrument.bench .awg).setters = some ⟨.awgOutput, value⟩) :
    (value = txt "ON" ∨ value = txt "OFF") ∧ upper (strip decoded) = txt "OUTP " ++ value := by
  obtain ⟨template, captured, listed, parsed, valid⟩ := setting_some found
  have here : template = txt "OUTP \x7b\x7d" := by
    simpa [Instrument.setters] using listed
  subst here
  exact command_of_output inverts parsed valid

/-- No table of the generator answers an output command. -/
theorem awg_queries (word : Text) (onOff : word = txt "ON" ∨ word = txt "OFF") :
    ∀ query ∈ (Instrument.bench .awg).queries,
      (decodeAscii query).map (fun t => upper (strip t)) ≠ some (txt "OUTP " ++ word) := by
  rcases onOff with rfl | rfl
  · decide
  · decide

/-- An output command the generator matches is matched by its output's setter. -/
theorem setting_of_matched {parser : Stringparser} (inverts : parser.Inverts)
    {identity : Nat → Text} {random : Random} {query : Bytes} {decoded word : Text}
    {d devices : Devices} {response : Response} (decodes : decodeAscii query = some decoded)
    (onOff : word = txt "ON" ∨ word = txt "OFF")
    (command : upper (strip decoded) = txt "OUTP " ++ word)
    (matched : d.matchNative parser identity random (.bench .awg) query decoded =
      .ok (some (response, devices))) :
    setting parser decoded (Instrument.bench .awg).setters = some ⟨.awgOutput, word⟩ ∧
      devices = d.set .awgOutput word := by
  rcases matchNative_cases matched with ⟨-, listed⟩ | ⟨s, found, made, -⟩
  · exfalso
    apply awg_queries word onOff query (mem_queries listed)
    rw [decodes, Option.map_some, command]
  · obtain rfl := setting_of_output inverts found command
    exact ⟨found, made⟩

/-! ## What one command does to the stimulus and the routes -/

theorem roleUpdate_stimulus {now : Int} {i : Instrument} {command : Text} {b updated : Bench}
    {t : Int} (run : roleUpdate now i command b = .ok updated)
    (started : updated.stimulusStartedNs = some t) :
    b.stimulusStartedNs = some t ∨
      (i = .bench .awg ∧ upper command = txt "OUTP ON" ∧ t = now) := by
  cases i with
  | distractor n =>
      cases run
      exact Or.inl started
  | bench role =>
      cases role with
      | psu =>
          cases run
          exact Or.inl started
      | scope =>
          cases run
          exact Or.inl started
      | switch =>
          left
          simp only [roleUpdate] at run
          cases parsed : parseRoutes command with
          | error e =>
              simp only [parsed, Except.map] at run
              repeat' split at run
              all_goals first | (cases run; done) | (cases run; exact started)
          | ok routes =>
              simp only [parsed, Except.map] at run
              repeat' split at run
              all_goals (cases run; exact started)
      | awg =>
          simp only [roleUpdate] at run
          by_cases uploading : startsWith "DATA:ARB " (upper command) = true
          · rw [if_pos uploading] at run
            left
            split at run
            · cases run
            · cases run
              exact started
          · rw [if_neg uploading] at run
            by_cases enabling : upper command = txt "OUTP ON"
            · rw [if_pos enabling] at run
              cases run
              exact Or.inr ⟨rfl, enabling, (Option.some.inj started).symm⟩
            · rw [if_neg enabling] at run
              left
              split at run
              · cases run
                cases started
              · split at run
                · cases run
                  cases started
                · cases run
                  exact started
      | dmm =>
          left
          simp only [roleUpdate] at run
          repeat' split at run
          all_goals (cases run; exact started)

theorem roleUpdate_outpOn {now : Int} {command : Text} {b : Bench}
    (enabling : upper command = txt "OUTP ON") :
    roleUpdate now (.bench .awg) command b = .ok { b with stimulusStartedNs := some now } := by
  have other : ¬ startsWith "DATA:ARB " (upper command) = true := by
    rw [enabling]
    decide
  simp only [roleUpdate]
  rw [if_neg other, if_pos enabling]

theorem commonUpdate_stimulus {i : Instrument} {command : Text} {b : Bench} {t : Int}
    (started : (commonUpdate i command b).stimulusStartedNs = some t) :
    b.stimulusStartedNs = some t := by
  unfold commonUpdate at started
  split at started
  · cases i with
    | distractor n => exact started
    | bench role =>
        cases role with
        | awg => cases started
        | psu => exact started
        | switch => exact started
        | dmm => exact started
        | scope => exact started
  · split at started
    · exact started
    · exact started

theorem roleUpdate_routes {now : Int} {i : Instrument} {command : Text} {b updated : Bench}
    {route : Text} (run : roleUpdate now i command b = .ok updated)
    (closed : route ∈ updated.routes) :
    route ∈ b.routes ∨
      (i = .bench .switch ∧ startsWith "ROUT:CLOS " (upper command) = true ∧
        ∃ routes, parseRoutes command = .ok routes ∧ route ∈ routes) := by
  cases i with
  | distractor n =>
      cases run
      exact Or.inl closed
  | bench role =>
      cases role with
      | psu =>
          cases run
          exact Or.inl closed
      | scope =>
          cases run
          exact Or.inl closed
      | switch =>
          by_cases closing : startsWith "ROUT:CLOS " (upper command) = true
          · simp only [roleUpdate, if_pos closing] at run
            cases parsed : parseRoutes command with
            | error e =>
                rw [parsed] at run
                cases run
            | ok routes =>
                rw [parsed] at run
                cases run
                rcases List.mem_union_iff.1 closed with old | new
                · exact Or.inl old
                · exact Or.inr ⟨rfl, closing, routes, rfl, new⟩
          · left
            simp only [roleUpdate, if_neg closing] at run
            by_cases opening : startsWith "ROUT:OPEN " (upper command) = true
            · rw [if_pos opening] at run
              cases parsed : parseRoutes command with
              | error e =>
                  rw [parsed] at run
                  cases run
              | ok opened =>
                  rw [parsed] at run
                  cases run
                  exact List.mem_of_mem_filter closed
            · rw [if_neg opening] at run
              split at run
              · cases run
                cases closed
              · cases run
                exact closed
      | awg =>
          left
          simp only [roleUpdate] at run
          repeat' split at run
          all_goals first | (cases run; done) | (cases run; exact closed)
      | dmm =>
          left
          simp only [roleUpdate] at run
          repeat' split at run
          all_goals (cases run; exact closed)

theorem commonUpdate_routes {i : Instrument} {command : Text} {b : Bench} {route : Text}
    (closed : route ∈ (commonUpdate i command b).routes) : route ∈ b.routes := by
  unfold commonUpdate at closed
  split at closed
  · cases i with
    | distractor n => exact closed
    | bench role =>
        cases role with
        | switch => cases closed
        | psu => exact closed
        | awg => exact closed
        | dmm => exact closed
        | scope => exact closed
  · split at closed
    · exact closed
    · exact closed

/-- A carried-out `ROUT:CLOS` found both outputs off. -/
theorem outputs_off_of_closing {spec : WorldSpec} {now : Int} {b : Bench} {command : Text}
    (accepted : precondition spec now b (.bench .switch) command = .ok ())
    (closing : startsWith "ROUT:CLOS " (upper command) = true) :
    b.psuOutput = false ∧ b.awgOutput = false := by
  simp only [precondition, closing, Bool.true_or, if_true] at accepted
  split at accepted
  · cases accepted
  · split at accepted
    · cases accepted
    · rename_i off
      simpa [not_or] using off

/-- A measurement that is let through finds the bench ready. -/
theorem isReady_of_measurement {spec : WorldSpec} {now : Int} {b : Bench} {i : Instrument}
    {command : Text} (accepted : precondition spec now b i command = .ok ())
    (measuring : upper command ∈ i.measurements) : b.isReady spec now = true := by
  have ready (required : requireReady spec now b = .ok ()) : b.isReady spec now = true := by
    unfold requireReady at required
    split at required
    · assumption
    · cases required
  cases i with
  | distractor n => cases measuring
  | bench role =>
      cases role with
      | psu => cases measuring
      | switch => cases measuring
      | awg => cases measuring
      | dmm =>
          have query : upper command = txt "READ?" ∨ upper command = txt "FETC?" := by
            simpa [Instrument.measurements] using measuring
          have other : ¬ (upper command = txt "INIT") := by
            rcases query with query | query
            · rw [query]; decide
            · rw [query]; decide
          have measures : (upper command = txt "READ?" || upper command = txt "FETC?") = true := by
            simpa using query
          simp only [precondition, other, decide_false, Bool.false_and, Bool.false_eq_true,
            if_false, measures, if_true] at accepted
          split at accepted
          · exact ready accepted
          · cases accepted
      | scope =>
          have query : upper command = txt "CURVE?" := List.mem_singleton.1 measuring
          simp only [precondition, query, if_true] at accepted
          exact ready accepted

/-! ## Who answers a measurement -/

/-- An instrument that is not asked to measure leaves its native response alone. -/
theorem dynamicValue_of_not_measures {spec : WorldSpec} {now : Int} {b : Bench} {i : Instrument}
    {command : Text} (response : Response) (query : upper command ∈ measurements)
    (other : upper command ∉ i.measurements) : dynamicValue spec now b i command response = .ok response := by
  simp only [measurements, List.mem_cons, List.not_mem_nil, or_false] at query
  have ne {t : Text} (apart : txt "READ?" ≠ t ∧ txt "FETC?" ≠ t ∧ txt "CURVE?" ≠ t) :
      upper command ≠ t := by
    rcases query with query | query | query
    · rw [query]; exact apart.1
    · rw [query]; exact apart.2.1
    · rw [query]; exact apart.2.2
  cases i with
  | distractor n => rfl
  | bench role =>
      cases role with
      | psu =>
          show Except.ok (if upper command = txt "OUTP?" then flag b.psuOutput else response) = _
          rw [if_neg (ne (by decide))]
      | switch =>
          simp only [dynamicValue]
          rw [if_neg (ne (by decide))]
      | awg =>
          simp only [dynamicValue]
          rw [if_neg (ne (by decide)), if_neg (ne (by decide))]
      | dmm =>
          have neither : ¬ (upper command = txt "READ?" ∨ upper command = txt "FETC?") :=
            fun h => other (by simpa [Instrument.measurements] using h)
          simp only [dynamicValue, Bool.or_eq_true, decide_eq_true_eq]
          rw [if_neg neither]
      | scope =>
          have curve : upper command ≠ txt "CURVE?" := fun h => other (List.mem_singleton.2 h)
          simp only [dynamicValue]
          rw [if_neg (ne (by decide)), if_neg curve]

/-- The only measurements in an instrument's tables are its own. -/
theorem queries_measure (i : Instrument) : ∀ query ∈ i.queries,
    ∀ t ∈ (decodeAscii query).map (fun t => upper (strip t)), t ∈ measurements →
      t ∈ i.measurements := by
  cases i with
  | distractor n =>
      show ∀ query ∈ [ascii "SYST:ERR?", ascii "*IDN?", ascii "*RST", ascii "*CLS"],
        ∀ t ∈ (decodeAscii query).map (fun t => upper (strip t)), t ∈ measurements →
          t ∈ ([] : List Text)
      decide
  | bench role =>
      cases role with
      | psu => decide
      | switch => decide
      | awg => decide
      | dmm => decide
      | scope => decide

/-- **Only the instruments that measure answer a measurement.** -/
theorem measures_of_answered {parser : Stringparser} {identity : Nat → Text} {random : Random}
    {spec : WorldSpec} {now : Int} {b : Bench} {i : Instrument} {query : Bytes} {decoded : Text}
    {d devices : Devices} {response : Response} {data : Bytes}
    (decodes : decodeAscii query = some decoded) (measuring : upper (strip decoded) ∈ measurements)
    (matched : d.matchNative parser identity random i query decoded =
      .ok (some (response, devices)))
    (answered : dynamicValue spec now b i (strip decoded) response = .ok (some data)) :
    upper (strip decoded) ∈ i.measurements := by
  by_contra other
  rw [dynamicValue_of_not_measures response measuring other, Except.ok.injEq] at answered
  rcases matchNative_cases matched with ⟨-, listed⟩ | ⟨s, -, -, silent⟩
  · apply other
    apply queries_measure i query (mem_queries listed) _ _ measuring
    rw [decodes]
    rfl
  · rw [silent] at answered
    cases answered

/-! ## One action -/

namespace Simulator

variable (sim : Simulator)

/-- After a command that enables the generator the stimulus runs since then, and after
any other it runs only as it did before. -/
theorem stimulus_step (inverts : sim.parser.Inverts) {digest : Text} {now : Int}
    {x : CommandContext} {b : Bench} {t : Int}
    (started : (sim.matchCommand digest now x b).bench.stimulusStartedNs = some t) :
    (sim.enables digest now x b = true ∧ t = now) ∨
      (sim.enables digest now x b = false ∧ b.stimulusStartedNs = some t) := by
  rcases sim.matchCommand_cases digest now x b with ⟨same, refused⟩ | ⟨decoded, response, devices,
    b₁, ⟨decodes, -⟩, -, matched, before, outcome⟩
  · right
    rw [same.stimulus] at started
    refine ⟨?_, started⟩
    unfold enables
    split
    · exact absurd ‹_› (refused _)
    · rfl
  · rcases outcome with ⟨e, -, failed, after⟩ | ⟨dynamic, updated, -, run, result, after⟩
    · right
      rw [after.stimulus, before.stimulus] at started
      refine ⟨?_, started⟩
      simp only [enables, failed]
    · have enables_eq : sim.enables digest now x b =
          (decide (x.instrument = .bench .awg) &&
            (setting sim.parser decoded x.instrument.setters).any switchesOn) := by
        simp only [enables, result, decodes, Option.getD_some]
      rw [after.stimulus] at started
      rw [enables_eq]
      by_cases enabling : x.instrument = .bench .awg ∧ upper (strip decoded) = txt "OUTP ON"
      · left
        obtain ⟨awg, enabling⟩ := enabling
        rw [awg] at matched run started ⊢
        refine ⟨?_, ?_⟩
        · rw [(setting_of_matched inverts decodes (Or.inl rfl) enabling matched).1]
          rfl
        · rw [roleUpdate_outpOn enabling, Except.ok.injEq] at run
          subst run
          exact (Option.some.inj (commonUpdate_stimulus started)).symm
      · right
        refine ⟨?_, ?_⟩
        · rw [← Bool.not_eq_true, Bool.and_eq_true, decide_eq_true_eq]
          rintro ⟨awg, switches⟩
          rw [awg] at switches
          cases found : setting sim.parser decoded (Instrument.bench .awg).setters with
          | none =>
              rw [found] at switches
              cases switches
          | some s =>
              rw [found] at switches
              obtain rfl := output_of_switchesOn switches
              exact enabling ⟨awg, (output_of_setting inverts found).2⟩
        · rcases roleUpdate_stimulus run (commonUpdate_stimulus started) with old | ⟨awg, on, -⟩
          · exact before.stimulus.symm.trans old
          · exact absurd ⟨awg, on⟩ enabling

/-- A route closes only while both outputs are off, and leaves them so. -/
theorem routes_step {digest : Text} {now : Int} {x : CommandContext} {b : Bench} {route : Text}
    (closed : route ∈ (sim.matchCommand digest now x b).bench.routes) (opened : route ∉ b.routes) :
    (b.psuOutput = false ∧ b.awgOutput = false) ∧
      (sim.matchCommand digest now x b).bench.psuOutput = false ∧
      (sim.matchCommand digest now x b).bench.awgOutput = false := by
  rcases sim.matchCommand_cases digest now x b with ⟨same, -⟩ | ⟨decoded, response, devices, b₁,
    -, accepted, matched, before, refused | ⟨dynamic, updated, -, run, -, after⟩⟩
  · rw [same.routes] at closed
    exact absurd closed opened
  · obtain ⟨e, -, -, after⟩ := refused
    rw [after.routes, before.routes] at closed
    exact absurd closed opened
  · rw [after.routes] at closed
    rcases roleUpdate_routes run (commonUpdate_routes closed) with old | ⟨switch, closing, -⟩
    · rw [before.routes] at old
      exact absurd old opened
    · rw [switch] at accepted matched run
      have off := outputs_off_of_closing accepted closing
      -- neither the setters nor the defaults of a switch touch an output
      have kept (p : Property) (other : p ∉ (Instrument.bench .switch).setters.map Prod.fst) :
          (sim.matchCommand digest now x b).bench.property p = b.property p := by
        rcases sim.matchCommand_values digest now x b p with same | ⟨listed, -⟩
        · exact same
        · rw [switch] at listed
          exact absurd listed other
      refine ⟨off, ?_, ?_⟩
      · rw [← off.1, Bench.psuOutput, Bench.psuOutput, kept .psuOutput (by decide)]
      · rw [← off.2, Bench.awgOutput, Bench.awgOutput, kept .awgOutput (by decide)]

/-! ## Whole runs -/

@[simp]
theorem watch_concat (actions : List BenchAction) (action : BenchAction) :
    sim.watch (actions ++ [action]) = (sim.watch actions).next sim action := by
  unfold watch
  rw [List.foldl_append]
  rfl

/-- The stimulus of the bench, where it runs, was started when the generator was last
enabled. -/
theorem watch_stimulus (inverts : sim.parser.Inverts) (actions : List BenchAction) {t : Int}
    (started : (sim.watch actions).bench.stimulusStartedNs = some t) :
    (sim.watch actions).lastEnabled = some t := by
  induction actions using List.reverseRecOn generalizing t with
  | nil => cases started
  | append_singleton actions action ih =>
      rw [watch_concat] at started ⊢
      cases action with
      | buffers devices => exact ih started
      | forceSafe => cases started
      | deliver digest now x =>
          show (if sim.enables digest now x (sim.watch actions).bench then some now
            else (sim.watch actions).lastEnabled) = some t
          rcases sim.stimulus_step inverts started with ⟨enabled, rfl⟩ | ⟨quiet, old⟩
          · rw [if_pos enabled]
          · rw [quiet]
            exact ih old

/-- **The bench is safe.**  After any run, clean or dirty at its start, a measurement is
answered only by a bench that is connected, powered and has settled since the generator
was last enabled; and whatever is done next, a route closes only while both outputs are
off. -/
theorem bench_safe (inverts : sim.parser.Inverts) (actions : List BenchAction) :
    (∀ (digest : Text) (now : Int) (x : CommandContext) (decoded : Text),
      decodeAscii x.command = some decoded → upper (strip decoded) ∈ measurements →
      (sim.matchCommand digest now x (sim.watch actions).bench).data.isSome = true →
      (sim.watch actions).Measurable sim.spec now) ∧
    ∀ (action : BenchAction) (route : Text), route ∈ (action.apply sim (sim.watch actions).bench).routes →
      route ∉ (sim.watch actions).bench.routes →
      ((sim.watch actions).bench.psuOutput = false ∧ (sim.watch actions).bench.awgOutput = false) ∧
        (action.apply sim (sim.watch actions).bench).psuOutput = false ∧
        (action.apply sim (sim.watch actions).bench).awgOutput = false := by
  constructor
  · intro digest now x decoded decodes measuring produced
    obtain ⟨data, answered⟩ : ∃ data, (sim.matchCommand digest now x
        (sim.watch actions).bench).result = .ok (some (some data)) := by
      unfold Matched.data at produced
      split at produced
      · exact ⟨_, ‹_›⟩
      · cases produced
    rcases sim.matchCommand_cases digest now x (sim.watch actions).bench with ⟨-, refused⟩ |
      ⟨decoded', response, devices, b₁, ⟨decodes', -⟩, accepted, matched, before, outcome⟩
    · exact absurd answered (refused _)
    · obtain rfl : decoded = decoded' := Option.some.inj (decodes.symm.trans decodes')
      rcases outcome with ⟨e, -, failed, -⟩ | ⟨dynamic, updated, computed, -, result, -⟩
      · rw [failed] at answered
        cases answered
      · rw [result, Except.ok.injEq, Option.some.injEq] at answered
        subst answered
        have ready := isReady_of_measurement accepted
          (measures_of_answered decodes measuring matched computed)
        simp only [Bench.isReady, Bool.and_eq_true, List.all_eq_true, List.contains_iff_mem]
          at ready
        obtain ⟨⟨⟨connected, supplied⟩, driven⟩, settled⟩ := ready
        refine ⟨connected, supplied, driven, ?_⟩
        split at settled
        · cases settled
        · rename_i t started
          refine ⟨t, sim.watch_stimulus inverts actions started, ?_⟩
          have elapsed : sim.spec.settleMs ≤ (now - t) / 1000000 := of_decide_eq_true settled
          omega
  · intro action route closed opened
    cases action with
    | buffers devices => exact absurd closed opened
    | forceSafe => cases closed
    | deliver digest now x => exact sim.routes_step closed opened

end Simulator

/-! ## A measurement -/

/-- The parser that reads a field off the end of its template's literal text. -/
def Stringparser.suffix : Stringparser where
  int template t :=
    let literal := template.take (template.length - 4)
    if t.take literal.length = literal then int? (t.drop literal.length) else none
  text template t :=
    let literal := template.take (template.length - 2)
    if t.take literal.length = literal then some (t.drop literal.length) else none

theorem Stringparser.suffix_inverts : Stringparser.suffix.Inverts := by
  constructor
  intro pre t captured parsed
  left
  have literal : (pre ++ txt "\x7b\x7d").take ((pre ++ txt "\x7b\x7d").length - 2) = pre := by
    have two : (txt "\x7b\x7d").length = 2 := rfl
    rw [List.length_append, two, Nat.add_sub_cancel, List.take_left]
  simp only [Stringparser.suffix, literal] at parsed
  split at parsed
  · rename_i starts
    cases parsed
    conv_lhs => rw [← List.take_append_drop pre.length t, starts]
  · cases parsed

/-- The nominal bench made ready for its DMM: supplied, connected and driven. -/
def measuringRun : List BenchAction :=
  [.deliver [] 0 ⟨0, .bench .psu, ascii "VOLT 5", .unfilled⟩,
   .deliver [] 0 ⟨1, .bench .switch, ascii "ROUT:CLOS (@1101,1102)", .unfilled⟩,
   .deliver [] 0 ⟨2, .bench .psu, ascii "OUTP ON", .unfilled⟩,
   .deliver [] 0 ⟨3, .bench .awg, ascii "DATA:ARB W,0,1", .unfilled⟩,
   .deliver [] 0 ⟨4, .bench .awg, ascii "FUNC:ARB W", .unfilled⟩,
   .deliver [] 1000000 ⟨5, .bench .awg, ascii "OUTP ON", .unfilled⟩,
   .deliver [] 2000000 ⟨6, .bench .dmm, ascii "CONF:VOLT:DC", .unfilled⟩,
   .deliver [] 2000000 ⟨7, .bench .dmm, ascii "INIT", .unfilled⟩]

/-- It measures when it has settled, 250 ms after the generator was enabled. -/
theorem bench_safe_measuringRun :
    (Simulator.watch ⟨.nominal 1, .suffix⟩ measuringRun).Measurable (.nominal 1) 251000000 :=
  (Simulator.bench_safe ⟨.nominal 1, .suffix⟩ Stringparser.suffix_inverts measuringRun).1 []
    251000000 ⟨8, .bench .dmm, ascii "READ?", .unfilled⟩ (txt "READ?") (by decide)
    (by decide +kernel) (by decide +kernel)

end InstrumentBench.Visa
