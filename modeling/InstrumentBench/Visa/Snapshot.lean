/-
# Visa.Snapshot -- the world snapshot, as it is taken and as it is verified

`Bench.snapshot` is what the service writes before and after its clean-up, and
`validSnapshot` what the evaluator asks of it.  The verifier wants finite numbers and
named routes; the bench lets two things past that break it: a `NaN` or an infinity that
a range check does not catch, and a route list with an empty element.
`snapshots_valid` says that nothing else does.
-/
import InstrumentBench.Theory.Run
import InstrumentBench.Visa.BenchSafety

namespace InstrumentBench.Visa

set_option autoImplicit false

open InstrumentBench.Theory InstrumentBench.Theory.PyText

/-! ## The snapshot -/

structure WorldSnapshot where
  clockMs : Int
  closedRoutes : List Text
  psuVoltageV : Float
  psuOutput : Bool
  awgWaveformName : Option Text
  awgPoints : List Float
  awgAmplitudeVpp : Float
  awgOutput : Bool
  stimulusStartedMs : Option Int
  safe : Bool

/-- `snapshot`, of a bench constructed at `startedNs` and at a reading of the clock. -/
def Bench.snapshot (startedNs now : Int) (b : Bench) : WorldSnapshot where
  clockMs := (now - startedNs) / 1000000
  closedRoutes := sorted b.routes
  psuVoltageV := b.property .voltage
  psuOutput := b.psuOutput
  awgWaveformName := if b.selectedName.isEmpty then none else some b.selectedName
  awgPoints := (b.waveforms.lookup b.selectedName).getD []
  awgAmplitudeVpp := b.property .amplitude
  awgOutput := b.awgOutput
  stimulusStartedMs := b.stimulusStartedNs.map fun started => (started - startedNs) / 1000000
  safe := !b.psuOutput && !b.awgOutput && b.routes.isEmpty

/-- `asdict`, as JSON. -/
def WorldSnapshot.asJson (s : WorldSnapshot) : Json :=
  .obj [
    (txt "clock_ms", .int s.clockMs),
    (txt "closed_routes", .arr (s.closedRoutes.map .str)),
    (txt "psu_voltage_v", .float s.psuVoltageV),
    (txt "psu_output", .bool s.psuOutput),
    (txt "awg_waveform_name", s.awgWaveformName.elim .null .str),
    (txt "awg_points", .arr (s.awgPoints.map .float)),
    (txt "awg_amplitude_vpp", .float s.awgAmplitudeVpp),
    (txt "awg_output", .bool s.awgOutput),
    (txt "stimulus_started_ms", s.stimulusStartedMs.elim .null .int),
    (txt "safe", .bool s.safe)]

/-! ## The verifier -/

/-- The integers `math.isfinite` converts: past them it raises the `OverflowError`. -/
def floatRange (i : Int) : Bool := i.natAbs < 2 ^ 1024 - 2 ^ 970

/-- `_finite_number` -/
def finiteNumber : Json → Bool
  | .int i => floatRange i
  | .float x => x.isFinite
  | _ => false

/-- An `int` that is no `bool` and is not negative. -/
def naturalNumber : Json → Bool
  | .int i => 0 ≤ i
  | _ => false

def isBool : Json → Bool
  | .bool _ => true
  | _ => false

def isStr : Json → Bool
  | .str _ => true
  | _ => false

def isNull : Json → Bool
  | .null => true
  | _ => false

def nonemptyStr : Json → Bool
  | .str t => !t.isEmpty
  | _ => false

def snapshotKeys : List Text :=
  [txt "clock_ms", txt "closed_routes", txt "psu_voltage_v", txt "psu_output",
    txt "awg_waveform_name", txt "awg_points", txt "awg_amplitude_vpp", txt "awg_output",
    txt "stimulus_started_ms", txt "safe"]

/-- `len(points) <= 64` and every point is a finite number. -/
def validPoints : Json → Bool
  | .arr points => points.length ≤ 64 && points.all finiteNumber
  | _ => false

/-- A list of non-empty strings. -/
def validRoutes : Json → Bool
  | .arr routes => routes.all nonemptyStr
  | _ => false

/-- `value["safe"] is (not psu_output and not awg_output and not routes)` -/
def safeAgrees : Json → Json → Json → Json → Bool
  | .bool safe, .bool psuOutput, .bool awgOutput, .arr routes =>
      safe == (!psuOutput && !awgOutput && routes.isEmpty)
  | _, _, _, _ => false

/-- `_valid_snapshot` -/
def validSnapshot : Json → Bool
  | .obj fields =>
      let field (key : String) : Json := (fields.lookup (txt key)).getD .null
      (Json.keys fields).all (snapshotKeys.contains ·) &&
        snapshotKeys.all ((Json.keys fields).contains ·) &&
        naturalNumber (field "clock_ms") &&
        (isNull (field "stimulus_started_ms") || naturalNumber (field "stimulus_started_ms")) &&
        isBool (field "psu_output") && isBool (field "awg_output") && isBool (field "safe") &&
        (isNull (field "awg_waveform_name") || isStr (field "awg_waveform_name")) &&
        validRoutes (field "closed_routes") && validPoints (field "awg_points") &&
        safeAgrees (field "safe") (field "psu_output") (field "awg_output")
          (field "closed_routes") &&
        finiteNumber (field "psu_voltage_v") && finiteNumber (field "awg_amplitude_vpp")
  | _ => false

/-! ## What makes a bench presentable -/

/-- The numbers of a snapshot are finite, and its points few. -/
structure Bench.Finite (b : Bench) : Prop where
  voltage : Float.isFinite (b.property .voltage) = true
  amplitude : Float.isFinite (b.property .amplitude) = true
  points : ∀ waveform ∈ b.waveforms, waveform.2.length ≤ 64 ∧ waveform.2.all Float.isFinite = true

/-- What the verifier asks of the state behind a snapshot. -/
structure Bench.Presentable (startedNs : Int) (b : Bench) : Prop extends b.Finite where
  routes : ∀ route ∈ b.routes, route ≠ []
  stimulus : ∀ started, b.stimulusStartedNs = some started → startedNs ≤ started

theorem mem_sorted {t : Text} {items : List Text} : t ∈ sorted items ↔ t ∈ items :=
  List.mem_insertionSort _

theorem sorted_isEmpty (items : List Text) : (sorted items).isEmpty = items.isEmpty := by
  rw [Bool.eq_iff_iff, List.isEmpty_iff, List.isEmpty_iff]
  constructor
  · intro none
    apply List.eq_nil_iff_forall_not_mem.2
    intro t listed
    rw [← mem_sorted, none] at listed
    cases listed
  · intro none
    rw [none]
    rfl

/-- **A presentable bench gives a valid snapshot.** -/
theorem Bench.Presentable.valid {startedNs now : Int} {b : Bench} (h : b.Presentable startedNs)
    (later : startedNs ≤ now) : validSnapshot (b.snapshot startedNs now).asJson = true := by
  have clock : naturalNumber (.int ((now - startedNs) / 1000000)) = true := by
    apply decide_eq_true
    omega
  have stimulus : ∀ started : Option Int, (∀ t, started = some t → startedNs ≤ t) →
      (isNull ((started.map fun t => (t - startedNs) / 1000000).elim .null .int) ||
        naturalNumber ((started.map fun t => (t - startedNs) / 1000000).elim .null .int)) =
          true := by
    intro started after
    cases started with
    | none => rfl
    | some t =>
        have := after t rfl
        show decide (0 ≤ (t - startedNs) / 1000000) = true
        apply decide_eq_true
        omega
  have waveform : ∀ name : Option Text,
      (isNull (name.elim .null .str) || isStr (name.elim .null .str)) = true := by
    intro name
    cases name with
    | none => rfl
    | some t => rfl
  have routes : validRoutes (.arr ((sorted b.routes).map .str)) = true := by
    show ((sorted b.routes).map Json.str).all nonemptyStr = true
    rw [List.all_map, List.all_eq_true]
    intro route listed
    have named := h.routes route (mem_sorted.1 listed)
    show (!route.isEmpty) = true
    rw [Bool.not_eq_true', List.isEmpty_eq_false_iff]
    exact named
  have points : validPoints (.arr
      (((b.waveforms.lookup b.selectedName).getD []).map .float)) = true := by
    cases found : b.waveforms.lookup b.selectedName with
    | none => rfl
    | some points =>
        obtain ⟨few, finite⟩ := h.points _ (PyDict.mem_of_lookup found)
        show (decide ((points.map Json.float).length ≤ 64) &&
          (points.map Json.float).all finiteNumber) = true
        rw [List.length_map, decide_eq_true few, Bool.true_and, List.all_map]
        exact finite
  have agrees : safeAgrees (.bool (!b.psuOutput && !b.awgOutput && b.routes.isEmpty))
      (.bool b.psuOutput) (.bool b.awgOutput) (.arr ((sorted b.routes).map .str)) = true := by
    show ((!b.psuOutput && !b.awgOutput && b.routes.isEmpty) ==
      (!b.psuOutput && !b.awgOutput && ((sorted b.routes).map Json.str).isEmpty)) = true
    rw [List.isEmpty_map, sorted_isEmpty, beq_self_eq_true]
  -- the ten fields are found where they were put
  have fields (s : WorldSnapshot) : validSnapshot s.asJson =
      (naturalNumber (.int s.clockMs) &&
        (isNull (s.stimulusStartedMs.elim .null .int) ||
          naturalNumber (s.stimulusStartedMs.elim .null .int)) &&
        true && true && true &&
        (isNull (s.awgWaveformName.elim .null .str) ||
          isStr (s.awgWaveformName.elim .null .str)) &&
        validRoutes (.arr (s.closedRoutes.map .str)) &&
        validPoints (.arr (s.awgPoints.map .float)) &&
        safeAgrees (.bool s.safe) (.bool s.psuOutput) (.bool s.awgOutput)
          (.arr (s.closedRoutes.map .str)) &&
        s.psuVoltageV.isFinite && s.awgAmplitudeVpp.isFinite) := rfl
  rw [fields]
  simp only [Bench.snapshot, clock, stimulus _ h.stimulus, waveform, routes, points, agrees,
    Bool.and_true, Bool.true_and]
  rw [h.voltage, h.amplitude]
  rfl

/-! ## What a command must not bring in -/

/-- A setting of the voltage or the amplitude is finite. -/
def finiteSetting : ((p : Property) × p.kind.Value) → Bool
  | ⟨.voltage, value⟩ => Float.isFinite value
  | ⟨.amplitude, value⟩ => Float.isFinite value
  | _ => true

/-- The elements of a switch's list of routes to close all name a route. -/
def namesRoutes (i : Instrument) (command : Text) : Bool :=
  if i = .bench .switch ∧ startsWith "ROUT:CLOS " (upper command) = true then
    match parseRoutes command with
    | .ok routes => routes.all fun route => !route.isEmpty
    | .error _ => true
  else true

/-- A command sets no voltage or amplitude that is not finite, and closes no nameless
route. -/
def Harmless (parser : Stringparser) (i : Instrument) (decoded : Text) : Bool :=
  (setting parser decoded i.setters).all finiteSetting && namesRoutes i (strip decoded)

/-- **When a step keeps the snapshot valid.**  Any command may come that is refused, that
nothing takes, or that is harmless. -/
def Simulator.Clean (sim : Simulator) (b : Bench) : BenchAction → Prop
  | .deliver _ now x =>
      ∀ decoded, sim.CarriedOut now x b decoded → Harmless sim.parser x.instrument decoded = true
  | _ => True

/-- No reading of the clock precedes the construction of the bench. -/
def BenchAction.NotBefore (startedNs : Int) : BenchAction → Prop
  | .deliver _ now _ => startedNs ≤ now
  | _ => True

/-! ## Waveforms -/

theorem mem_setWaveform {name : Text} {points : List Float} {waveforms : List (Text × List Float)}
    {w : Text × List Float} (stored : w ∈ setWaveform name points waveforms) :
    w ∈ waveforms ∨ w = (name, points) := by
  induction waveforms with
  | nil => exact Or.inr (List.mem_singleton.1 stored)
  | cons entry rest ih =>
      obtain ⟨n, old⟩ := entry
      unfold setWaveform at stored
      split at stored
      · rename_i same
        subst same
        rcases List.mem_cons.1 stored with rfl | later
        · exact Or.inr rfl
        · exact Or.inl (List.mem_cons_of_mem _ later)
      · rcases List.mem_cons.1 stored with rfl | later
        · exact Or.inl List.mem_cons_self
        · rcases ih later with old | new
          · exact Or.inl (List.mem_cons_of_mem _ old)
          · exact Or.inr new

theorem roleUpdate_waveforms {now : Int} {i : Instrument} {command : Text} {b updated : Bench}
    {w : Text × List Float} (run : roleUpdate now i command b = .ok updated)
    (stored : w ∈ updated.waveforms) :
    w ∈ b.waveforms ∨
      (i = .bench .awg ∧ startsWith "DATA:ARB " (upper command) = true ∧
        parseWaveform command = some w) := by
  cases i with
  | distractor n =>
      cases run
      exact Or.inl stored
  | bench role =>
      cases role with
      | psu =>
          cases run
          exact Or.inl stored
      | scope =>
          cases run
          exact Or.inl stored
      | switch =>
          left
          simp only [roleUpdate] at run
          cases parsed : parseRoutes command with
          | error e =>
              simp only [parsed, Except.map] at run
              repeat' split at run
              all_goals first | (cases run; done) | (cases run; exact stored)
          | ok routes =>
              simp only [parsed, Except.map] at run
              repeat' split at run
              all_goals (cases run; exact stored)
      | awg =>
          simp only [roleUpdate] at run
          by_cases uploading : startsWith "DATA:ARB " (upper command) = true
          · rw [if_pos uploading] at run
            cases parsed : parseWaveform command with
            | none =>
                rw [parsed] at run
                cases run
            | some waveform =>
                rw [parsed] at run
                cases run
                rcases mem_setWaveform stored with old | new
                · exact Or.inl old
                · exact Or.inr ⟨rfl, uploading, congrArg some new.symm⟩
          · rw [if_neg uploading] at run
            left
            repeat' split at run
            all_goals (cases run; first | exact stored | cases stored)
      | dmm =>
          left
          simp only [roleUpdate] at run
          repeat' split at run
          all_goals (cases run; exact stored)

theorem commonUpdate_waveforms {i : Instrument} {command : Text} {b : Bench}
    {w : Text × List Float} (stored : w ∈ (commonUpdate i command b).waveforms) :
    w ∈ b.waveforms := by
  unfold commonUpdate at stored
  split at stored
  · cases i with
    | distractor n => exact stored
    | bench role =>
        cases role with
        | awg => cases stored
        | psu => exact stored
        | switch => exact stored
        | dmm => exact stored
        | scope => exact stored
  · split at stored
    · exact stored
    · exact stored

/-- An uploaded waveform is within the bench's bounds. -/
theorem allowed_of_upload {spec : WorldSpec} {now : Int} {b : Bench} {command : Text}
    {w : Text × List Float} (accepted : precondition spec now b (.bench .awg) command = .ok ())
    (uploading : startsWith "DATA:ARB " (upper command) = true)
    (parsed : parseWaveform command = some w) : waveformAllowed b w.1 w.2 = true := by
  have other : ¬ startsWith "FUNC:ARB " (upper command) = true := not_startsWith_both uploading
  simp only [precondition, if_neg other, if_pos uploading, parsed] at accepted
  split at accepted
  · assumption
  · cases accepted

/-! ## Clean runs -/

/-- A fresh bench is set to finite numbers. -/
theorem Bench.initial_finite (spec : WorldSpec) : (Bench.initial spec).Finite where
  voltage := by
    have start : (Bench.initial spec).property .voltage = (0 : Float) := by
      unfold Bench.initial Bench.property
      cases spec.initialPsuOutput <;> cases spec.initialAwgOutput <;> rfl
    rw [start]
    decide
  amplitude := by
    have start : (Bench.initial spec).property .amplitude = (1 : Float) := by
      unfold Bench.initial Bench.property
      cases spec.initialPsuOutput <;> cases spec.initialAwgOutput <;> rfl
    rw [start]
    decide
  points := by
    intro w stored
    cases stored

/-- And it is presentable where its initial routes have names. -/
theorem Bench.initial_presentable {spec : WorldSpec} (startedNs : Int)
    (named : ∀ route ∈ spec.initialClosedRoutes, route ≠ []) :
    (Bench.initial spec).Presentable startedNs where
  toFinite := Bench.initial_finite spec
  routes := named
  stimulus := by
    intro started running
    cases running

theorem Bench.Finite.congr {b b' : Bench} (h : b.Finite) (same : b.Agrees b') : b'.Finite where
  voltage := by
    rw [same.property]
    exact h.voltage
  amplitude := by
    rw [same.property]
    exact h.amplitude
  points := by
    rw [same.waveforms]
    exact h.points

theorem Bench.Presentable.congr {startedNs : Int} {b b' : Bench} (h : b.Presentable startedNs)
    (same : b.Agrees b') : b'.Presentable startedNs where
  toFinite := h.toFinite.congr same
  routes := by
    rw [same.routes]
    exact h.routes
  stimulus := by
    rw [same.stimulus]
    exact h.stimulus

theorem Bench.Finite.forceSafe {b : Bench} (h : b.Finite) : (Visa.forceSafe b).Finite where
  voltage := h.voltage
  amplitude := h.amplitude
  points := h.points

namespace Simulator

variable (sim : Simulator)

/-- A carried-out command sets no voltage or amplitude that is not finite. -/
def SetsFinite (now : Int) (x : CommandContext) (b : Bench) : Prop :=
  ∀ decoded, sim.CarriedOut now x b decoded →
    (setting sim.parser decoded x.instrument.setters).all finiteSetting = true

theorem Clean.setsFinite {sim : Simulator} {digest : Text} {now : Int} {x : CommandContext}
    {b : Bench} (clean : sim.Clean b (.deliver digest now x)) : sim.SetsFinite now x b := by
  intro decoded carried
  have harmless := clean decoded carried
  rw [Harmless, Bool.and_eq_true] at harmless
  exact harmless.1

/-- What is set to finite values stays finite. -/
theorem finite_setting_step {digest : Text} {now : Int} {x : CommandContext} {b : Bench}
    (finite : sim.SetsFinite now x b) {p : Property}
    (start : finiteSetting ⟨p, b.property p⟩ = true)
    (default_finite : finiteSetting ⟨p, p.default⟩ = true) :
    finiteSetting ⟨p, (sim.matchCommand digest now x b).bench.property p⟩ = true := by
  rcases sim.matchCommand_values digest now x b p with same | ⟨-, reset | ⟨decoded, carried, found⟩⟩
  · rw [Bench.property, same]
    exact start
  · rw [Bench.property, reset]
    exact default_finite
  · have set := finite decoded carried
    rw [found] at set
    exact set

/-- Where a closed route comes from. -/
theorem routes_origin {digest : Text} {now : Int} {x : CommandContext} {b : Bench} {route : Text}
    (closed : route ∈ (sim.matchCommand digest now x b).bench.routes) :
    route ∈ b.routes ∨
      ∃ decoded routes, sim.CarriedOut now x b decoded ∧ x.instrument = .bench .switch ∧
        startsWith "ROUT:CLOS " (upper (strip decoded)) = true ∧
        parseRoutes (strip decoded) = .ok routes ∧ route ∈ routes := by
  rcases sim.matchCommand_cases digest now x b with ⟨same, -⟩ | ⟨decoded, response, devices, b₁,
    carried, -, -, before, ⟨e, -, -, after⟩ | ⟨dynamic, updated, -, run, -, after⟩⟩
  · left
    rw [← same.routes]
    exact closed
  · left
    rw [after.routes, before.routes] at closed
    exact closed
  · rw [after.routes] at closed
    rcases roleUpdate_routes run (commonUpdate_routes closed) with old |
      ⟨switch, closing, routes, parsed, listed⟩
    · left
      rw [before.routes] at old
      exact old
    · right
      exact ⟨decoded, routes, carried, switch, closing, parsed, listed⟩

/-- Where a stored waveform comes from. -/
theorem waveforms_origin {digest : Text} {now : Int} {x : CommandContext} {b : Bench}
    {w : Text × List Float} (stored : w ∈ (sim.matchCommand digest now x b).bench.waveforms) :
    w ∈ b.waveforms ∨ waveformAllowed b w.1 w.2 = true := by
  rcases sim.matchCommand_cases digest now x b with ⟨same, -⟩ | ⟨decoded, response, devices, b₁,
    -, accepted, -, before, ⟨e, -, -, after⟩ | ⟨dynamic, updated, -, run, -, after⟩⟩
  · left
    rw [← same.waveforms]
    exact stored
  · left
    rw [after.waveforms, before.waveforms] at stored
    exact stored
  · rw [after.waveforms] at stored
    rcases roleUpdate_waveforms run (commonUpdate_waveforms stored) with old |
      ⟨awg, uploading, parsed⟩
    · left
      rw [before.waveforms] at old
      exact old
    · right
      rw [awg] at accepted
      exact allowed_of_upload accepted uploading parsed

/-- **A command that sets finite values leaves finite values.** -/
theorem finite_step (digest : Text) {now : Int} {x : CommandContext} {b : Bench} (h : b.Finite)
    (finite : sim.SetsFinite now x b) : (sim.matchCommand digest now x b).bench.Finite where
  voltage := sim.finite_setting_step (p := .voltage) finite h.voltage (by decide)
  amplitude := sim.finite_setting_step (p := .amplitude) finite h.amplitude (by decide)
  points := by
    intro w stored
    rcases sim.waveforms_origin stored with old | allowed
    · exact h.points w old
    · simp only [waveformAllowed, Bool.and_eq_true, decide_eq_true_eq] at allowed
      obtain ⟨⟨⟨-, few⟩, finite⟩, -⟩ := allowed
      exact ⟨few, finite⟩

/-- The stimulus runs as it did, or since this command. -/
theorem stimulus_origin {digest : Text} {now : Int} {x : CommandContext} {b : Bench} {t : Int}
    (started : (sim.matchCommand digest now x b).bench.stimulusStartedNs = some t) :
    b.stimulusStartedNs = some t ∨ t = now := by
  rcases sim.matchCommand_cases digest now x b with ⟨same, -⟩ | ⟨decoded, response, devices, b₁,
    -, -, -, before, ⟨e, -, -, after⟩ | ⟨dynamic, updated, -, run, -, after⟩⟩
  · left
    rw [← same.stimulus]
    exact started
  · left
    rw [after.stimulus, before.stimulus] at started
    exact started
  · rw [after.stimulus] at started
    rcases roleUpdate_stimulus run (commonUpdate_stimulus started) with old | ⟨-, -, here⟩
    · left
      rw [before.stimulus] at old
      exact old
    · exact Or.inr here

/-- **A clean step keeps the bench presentable.** -/
theorem presentable_step {startedNs : Int} {b : Bench} {action : BenchAction}
    (h : b.Presentable startedNs) (clean : sim.Clean b action)
    (timely : action.NotBefore startedNs) : (action.apply sim b).Presentable startedNs := by
  cases action with
  | buffers devices => exact h.congr (sim.buffers_agrees devices b)
  | forceSafe =>
      refine ⟨h.toFinite.forceSafe, ?_, ?_⟩
      · intro route listed
        cases listed
      · intro started running
        cases running
  | deliver digest now x =>
      refine ⟨sim.finite_step _ h.toFinite clean.setsFinite, ?_, ?_⟩
      · intro route closed
        rcases sim.routes_origin closed with old | ⟨decoded, routes, carried, switch, closing,
          parsed, listed⟩
        · exact h.routes route old
        · have harmless := clean decoded carried
          rw [Harmless, Bool.and_eq_true, namesRoutes, if_pos ⟨switch, closing⟩, parsed] at harmless
          have named := List.all_eq_true.1 harmless.2 route listed
          simpa using named
      · intro started running
        rcases sim.stimulus_origin running with old | rfl
        · exact h.stimulus started old
        · exact timely

end Simulator

/-- A route list with an empty element closes a route without a name. -/
example : validSnapshot ((Simulator.benchAfter ⟨.nominal 1, .suffix⟩
    [.deliver [] 0 ⟨0, .bench .switch, ascii "ROUT:CLOS (@1101,)", .unfilled⟩]).snapshot 0 0).asJson =
    false := by
  decide

end InstrumentBench.Visa
