/-
# Visa.ProjectedWorld -- the projection's world beside the bench's

Bench and projection run the same world: the bench by hooks on every command, the
projection by comparing the states the hooks journal.

* `Recorded`: a run of the bench with the journal it leaves, and the reading of the
  projection's clock at which the bench last restarted its stimulus;
* `projection_mirrors`: in what `project_events` returns of such a journal, the event of
  a completed command holds the bench's own snapshots and exactly that reading.

The one command that tells a difference from an event is `OUTP ON` on a generator that
is on already: the bench restarts its stimulus, the projection sees no change.
-/
import InstrumentBench.Visa.SequenceLaw

namespace InstrumentBench.Visa

set_option autoImplicit false

open InstrumentBench.Theory InstrumentBench.Theory.PyText

/-! ## The records of a command -/

/-- The resource, the role and the states a completion record shows. -/
def HookEvent.completion : HookEvent → Option (Text × Text × FinalState × FinalState)
  | .after resource role _ _ stateBefore stateAfter =>
      some (resource, role, stateBefore, stateAfter)
  | .error resource role _ _ _ stateBefore stateAfter =>
      some (resource, role, stateBefore, stateAfter)
  | _ => none

/-- The records between the opening one and the completion. -/
def HookEvent.isResponse : HookEvent → Bool
  | .native _ _ _ _ => true
  | .dynamic _ _ _ _ => true
  | _ => false

/-- What a command that completes has journaled: the state it found, its responses, and
the states before and after it. -/
structure CompletionRecords (spec : WorldSpec) (digest : Text) (i : Instrument) (b b' : Bench)
    (opening : HookEvent) (middle : List HookEvent) (closing : HookEvent) : Prop where
  opening : ∃ command,
    opening = .before digest (spec.resourceName i) i.role command b.finalState
  middle : ∀ e ∈ middle, e.isResponse = true
  closing : closing.completion = some (spec.resourceName i, i.role, b.finalState, b'.finalState)

namespace Simulator

variable (sim : Simulator)

theorem onError_records {x : CommandContext} (command : Text) (code : Int) (message : Text)
    {b : Bench} {before : FinalState} (stored : b.snapshots.lookup x.id = some before) :
    ∃ closing, (sim.onError x command code message b).2 = [closing] ∧
      closing.completion =
        some (sim.spec.resourceName x.instrument, x.instrument.role, before,
          (sim.onError x command code message b).1.finalState) := by
  refine ⟨_, rfl, ?_⟩
  have found : (b.withDevices (b.devices.pushError x.instrument
      (encodeUtf8 (intText code ++ txt ",\"" ++ (message.map fun c =>
        if c = CodePoint.ofChar '"' then CodePoint.ofChar '\'' else c) ++ txt "\"")))).snapshots.lookup
        x.id = some before := stored
  simp only [onError, HookEvent.completion, found, Option.getD_some]

/-- **A completing command journals the states around it.** -/
theorem matchCommand_records (digest : Text) {now : Int} {x : CommandContext} {b : Bench}
    (completes : sim.Completes now x b) :
    ∃ opening middle closing,
      (sim.matchCommand digest now x b).events = opening :: (middle ++ [closing]) ∧
      CompletionRecords sim.spec digest x.instrument b (sim.matchCommand digest now x b).bench opening middle
        closing := by
  obtain ⟨decoded, decodes, outcome⟩ := completes
  have stored : (b.store x.id b.finalState).snapshots.lookup x.id = some b.finalState :=
    b.lookup_store x.id b.finalState
  by_cases strikes : transientStrikes sim.spec (b.store x.id b.finalState) x.instrument
      (strip decoded) = true
  · simp only [matchCommand, beforeCommand, decodes, if_pos strikes, reject]
    obtain ⟨closing, records, states⟩ := sim.onError_records (x := x)
      (b := { b.store x.id b.finalState with
        transientErrorsRemaining := (b.store x.id b.finalState).transientErrorsRemaining - 1 })
      (strip decoded) (-350) (txt "Transient communication error") stored
    exact ⟨_, [], closing, by rw [Option.getD_some, records]; rfl,
      ⟨⟨_, rfl⟩, by simp, states⟩⟩
  · cases checked : precondition sim.spec now (b.store x.id b.finalState) x.instrument
        (strip decoded) with
    | error e =>
        obtain ⟨code, message, rfl⟩ := precondition_refuses checked
        simp only [matchCommand, beforeCommand, decodes, if_neg strikes, checked, Except.map]
        obtain ⟨closing, records, states⟩ := sim.onError_records (x := x)
          (strip decoded) code message stored
        exact ⟨_, [], closing, by rw [Option.getD_some, records]; rfl,
          ⟨⟨_, rfl⟩, by simp, states⟩⟩
    | ok _ =>
        simp only [matchCommand, beforeCommand, decodes, if_neg strikes, checked, Except.map,
          Option.getD_some, List.singleton_append]
        cases valid : validateNativeSetter sim.parser decoded x.instrument.setters with
        | error e =>
            obtain ⟨code, message, rfl⟩ := validateNativeSetter_refuses valid
            simp only [matchAccepted, valid]
            obtain ⟨closing, records, states⟩ := sim.onError_records (x := x)
              (strip decoded) code message stored
            exact ⟨_, [], closing, by rw [records]; rfl, ⟨⟨_, rfl⟩, by simp, states⟩⟩
        | ok _ =>
            have accepted : ¬ sim.Refuses now x b decoded := by
              rintro (struck | ⟨code, message, rejected⟩ | ⟨code, message, invalid⟩)
              · exact strikes struck
              · cases checked.symm.trans rejected
              · cases valid.symm.trans invalid
            obtain ⟨recognised, drawn, answerable⟩ := outcome.resolve_left accepted
            obtain ⟨⟨response, devices⟩, matched⟩ := (matchNative_found_iff sim x decoded
              (b.store x.id b.finalState).devices).2 ⟨recognised, drawn⟩
            have left : sim.matchedDevices x b decoded = devices := by
              have same : b.devices.matchNative sim.parser sim.spec.identity x.random x.instrument
                  x.command decoded = .ok (some (response, devices)) := matched
              simp only [matchedDevices, same]
            rw [left] at answerable
            obtain ⟨dynamic, answered⟩ := (dynamicValue_ok_iff sim.spec now
              ((b.store x.id b.finalState).withDevices devices) x.instrument (strip decoded)
              response).2 answerable
            obtain ⟨updated, run, kept⟩ := roleUpdate_of_precondition checked
              ((b.store x.id b.finalState).withDevices devices)
            have held : (commonUpdate x.instrument (strip decoded)
                updated).snapshots.lookup x.id = some b.finalState := by
              rw [commonUpdate_snapshots, kept]
              exact stored
            simp only [matchAccepted, valid, matched, dynamicResponse, answered, afterCommand,
              run, held]
            refine ⟨_, _, _, rfl, ⟨⟨_, rfl⟩, ?_, rfl⟩⟩
            intro e among
            rcases List.mem_cons.1 among with rfl | among
            · rfl
            · rw [List.mem_singleton.1 among]
              rfl

end Simulator

/-! ## The generator -/

/-- Only the generator's own commands move the stimulus. -/
theorem roleUpdate_stimulus_other {now : Int} {i : Instrument} {command : Text}
    {b updated : Bench} (other : i ≠ .bench .awg)
    (run : roleUpdate now i command b = .ok updated) :
    updated.stimulusStartedNs = b.stimulusStartedNs := by
  cases i with
  | distractor n =>
      cases run
      rfl
  | bench role =>
      cases role with
      | awg => exact absurd rfl other
      | psu =>
          cases run
          rfl
      | scope =>
          cases run
          rfl
      | switch =>
          simp only [roleUpdate] at run
          cases parsed : parseRoutes command with
          | error e =>
              simp only [parsed, Except.map] at run
              repeat' split at run
              all_goals first | (cases run; done) | (cases run; rfl)
          | ok routes =>
              simp only [parsed, Except.map] at run
              repeat' split at run
              all_goals (cases run; rfl)
      | dmm =>
          simp only [roleUpdate] at run
          repeat' split at run
          all_goals (cases run; rfl)

/-- And of those only `OUTP` and `*RST`. -/
theorem roleUpdate_stimulus_awg {now : Int} {command : Text} {b updated : Bench}
    (on : upper command ≠ txt "OUTP ON") (off : upper command ≠ txt "OUTP OFF")
    (reset : upper command ≠ txt "*RST")
    (run : roleUpdate now (.bench .awg) command b = .ok updated) :
    updated.stimulusStartedNs = b.stimulusStartedNs := by
  simp only [roleUpdate, if_neg on, if_neg off, if_neg reset] at run
  split at run
  · split at run
    · cases run
    · cases run
      rfl
  · cases run
    rfl

theorem roleUpdate_outpOff {now : Int} {command : Text} {b : Bench}
    (disabling : upper command = txt "OUTP OFF") :
    roleUpdate now (.bench .awg) command b = .ok { b with stimulusStartedNs := none } := by
  have other : ¬ startsWith "DATA:ARB " (upper command) = true := by
    rw [disabling]
    decide
  have on : ¬ upper command = txt "OUTP ON" := by
    rw [disabling]
    decide
  simp only [roleUpdate]
  rw [if_neg other, if_neg on, if_pos disabling]

/-- A command that does not reset keeps every value the devices were left with. -/
theorem commonUpdate_kept {i : Instrument} {command : Text} {b : Bench} (p : Property)
    (other : upper command ≠ txt "*RST") :
    (commonUpdate i command b).devices.values p = b.devices.values p := by
  rcases commonUpdate_values i command b p with same | ⟨reset, -⟩
  · exact same
  · exact absurd reset other

/-- `*RST` stops the stimulus and switches the generator off. -/
theorem commonUpdate_reset {command : Text} (b : Bench) (reset : upper command = txt "*RST") :
    (commonUpdate (.bench .awg) command b).stimulusStartedNs = none ∧
      (commonUpdate (.bench .awg) command b).devices.values .awgOutput = txt "OFF" := by
  unfold commonUpdate
  rw [if_pos reset]
  refine ⟨rfl, ?_⟩
  show ((Role.awg.resetProperties.foldl (fun (d : Devices) p => d.set p p.default)
    b.devices).values .awgOutput) = _
  rw [foldl_default_values, if_pos (by decide)]
  rfl

theorem commonUpdate_stimulus_other {i : Instrument} {command : Text} {b : Bench}
    (other : i ≠ .bench .awg ∨ upper command ≠ txt "*RST") :
    (commonUpdate i command b).stimulusStartedNs = b.stimulusStartedNs := by
  unfold commonUpdate
  split
  · rename_i reset
    cases i with
    | distractor n => rfl
    | bench role =>
        cases role with
        | awg =>
            rcases other with other | other
            · exact absurd rfl other
            · exact absurd reset other
        | psu => rfl
        | switch => rfl
        | dmm => rfl
        | scope => rfl
  · split <;> rfl

/-- Only the generator has the output's setter. -/
theorem awg_of_output {i : Instrument} {template : Text}
    (listed : (Property.awgOutput, template) ∈ i.setters) : i = .bench .awg := by
  cases i with
  | distractor n => cases listed
  | bench role =>
      cases role with
      | awg => rfl
      | psu => simp [Instrument.setters] at listed
      | switch => simp [Instrument.setters] at listed
      | dmm => simp [Instrument.setters] at listed
      | scope => simp [Instrument.setters] at listed

theorem Bench.awgOutput_of_property {b b' : Bench}
    (same : b'.devices.values .awgOutput = b.devices.values .awgOutput) :
    b'.awgOutput = b.awgOutput := by
  unfold Bench.awgOutput Bench.property
  rw [same]

theorem Bench.awgOutput_of_value {b : Bench} {word : Text}
    (value : b.devices.values .awgOutput = word) :
    b.awgOutput = decide (upper word = txt "ON") := by
  unfold Bench.awgOutput Bench.property
  rw [value]

namespace Simulator

variable (sim : Simulator)

/-- `after_command` takes the branch that restarts the stimulus. -/
def restarts (digest : Text) (now : Int) (x : CommandContext) (b : Bench) : Bool :=
  match (sim.matchCommand digest now x b).result with
  | .ok (some _) =>
      x.instrument = .bench .awg &&
        upper (strip ((decodeAscii x.command).getD [])) = txt "OUTP ON"
  | _ => false

/-- A command of another instrument does nothing to the generator. -/
theorem generator_other (digest : Text) (now : Int) {x : CommandContext} (b : Bench)
    (awg : x.instrument ≠ .bench .awg) :
    sim.restarts digest now x b = false ∧
      (sim.matchCommand digest now x b).bench.stimulusStartedNs = b.stimulusStartedNs ∧
      (sim.matchCommand digest now x b).bench.awgOutput = b.awgOutput := by
  have quiet : sim.restarts digest now x b = false := by
    unfold restarts
    split
    · rw [decide_eq_false awg, Bool.false_and]
    · rfl
  refine ⟨quiet, ?_⟩
  rcases sim.matchCommand_cases digest now x b with ⟨same, refused⟩ | ⟨decoded, response, devices,
    b₁, -, -, matched, before, outcome⟩
  · exact ⟨same.stimulus, same.awgOutput⟩
  have kept : b₁.devices.values .awgOutput = b.devices.values .awgOutput := by
    rw [before.values]
    rcases matchNative_values matched .awgOutput with same | found
    · exact same
    · obtain ⟨template, captured, listed, -⟩ := setting_some found
      exact absurd (awg_of_output listed) awg
  rcases outcome with ⟨e, -, -, after⟩ | ⟨dynamic, updated, -, run, -, after⟩
  · exact ⟨after.stimulus.trans before.stimulus,
      after.awgOutput.trans (Bench.awgOutput_of_property kept)⟩
  · refine ⟨?_, ?_⟩
    · rw [after.stimulus, commonUpdate_stimulus_other (Or.inl awg),
        roleUpdate_stimulus_other awg run]
      exact before.stimulus
    · apply Bench.awgOutput_of_property
      rw [after.values]
      rcases commonUpdate_values x.instrument (strip decoded) updated .awgOutput with same |
        ⟨-, ⟨role, here, restored⟩, -⟩
      · rw [same, roleUpdate_devices run, kept]
      · exfalso
        apply awg
        rw [here]
        cases role
        case awg => rfl
        all_goals exact absurd restored (by decide)

/-- **What one command does to the generator.**  It restarts the stimulus and leaves the
output on, or stops it and leaves the output off, or leaves both. -/
theorem generator_step (inverts : sim.parser.Inverts) (digest : Text) (now : Int)
    (x : CommandContext) (b : Bench) :
    (sim.restarts digest now x b = true ∧
      (sim.matchCommand digest now x b).bench.stimulusStartedNs = some now ∧
      (sim.matchCommand digest now x b).bench.awgOutput = true) ∨
    (sim.restarts digest now x b = false ∧
      (((sim.matchCommand digest now x b).bench.stimulusStartedNs = none ∧
        (sim.matchCommand digest now x b).bench.awgOutput = false) ∨
      ((sim.matchCommand digest now x b).bench.stimulusStartedNs = b.stimulusStartedNs ∧
        (sim.matchCommand digest now x b).bench.awgOutput = b.awgOutput))) := by
  by_cases awg : x.instrument = .bench .awg
  case neg =>
    obtain ⟨quiet, kept⟩ := sim.generator_other digest now b awg
    exact Or.inr ⟨quiet, Or.inr kept⟩
  rcases sim.matchCommand_cases digest now x b with ⟨same, refused⟩ | ⟨decoded, response, devices,
    b₁, ⟨decodes, -⟩, -, matched, before, outcome⟩
  · right
    refine ⟨?_, Or.inr ⟨same.stimulus, same.awgOutput⟩⟩
    unfold restarts
    split
    · exact absurd ‹_› (refused _)
    · rfl
  · rw [awg] at matched
    rcases outcome with ⟨e, failed, -, -⟩ | ⟨dynamic, updated, -, run, result, after⟩
    · -- the generator's responses never fail
      exfalso
      rw [awg] at failed
      simp only [dynamicValue] at failed
      repeat' split at failed
      all_goals cases failed
    · have restarts_eq : sim.restarts digest now x b =
          decide (upper (strip decoded) = txt "OUTP ON") := by
        simp only [restarts, result, awg, decodes, Option.getD_some, decide_true, Bool.true_and]
      rw [awg] at run after
      by_cases on : upper (strip decoded) = txt "OUTP ON"
      · left
        refine ⟨by rw [restarts_eq]; exact decide_eq_true on, ?_, ?_⟩
        · rw [after.stimulus, commonUpdate_stimulus_other (Or.inr (by rw [on]; decide))]
          rw [roleUpdate_outpOn on, Except.ok.injEq] at run
          rw [← run]
        · have value : (sim.matchCommand digest now x b).bench.devices.values .awgOutput =
              txt "ON" := by
            rw [after.values, commonUpdate_kept _ (by rw [on]; decide), roleUpdate_devices run,
              before.values]
            show devices.values .awgOutput = txt "ON"
            rw [(setting_of_matched inverts decodes (Or.inl rfl) on matched).2]
            exact Devices.set_self ..
          rw [Bench.awgOutput_of_value value]
          decide
      · right
        refine ⟨by rw [restarts_eq]; exact decide_eq_false on, ?_⟩
        by_cases reset : upper (strip decoded) = txt "*RST"
        · left
          obtain ⟨stopped, value⟩ := commonUpdate_reset updated reset
          refine ⟨by rw [after.stimulus]; exact stopped, ?_⟩
          rw [Bench.awgOutput_of_value ((congrFun after.values _).trans value)]
          decide
        · by_cases off : upper (strip decoded) = txt "OUTP OFF"
          · left
            refine ⟨?_, ?_⟩
            · rw [after.stimulus, commonUpdate_stimulus_other (Or.inr reset)]
              rw [roleUpdate_outpOff off, Except.ok.injEq] at run
              rw [← run]
            · have value : (sim.matchCommand digest now x b).bench.devices.values .awgOutput =
                  txt "OFF" := by
                rw [after.values, commonUpdate_kept _ reset, roleUpdate_devices run,
                  before.values]
                show devices.values .awgOutput = txt "OFF"
                rw [(setting_of_matched inverts decodes (Or.inr rfl) off matched).2]
                exact Devices.set_self ..
              rw [Bench.awgOutput_of_value value]
              decide
          · right
            refine ⟨?_, ?_⟩
            · rw [after.stimulus, commonUpdate_stimulus_other (Or.inr reset),
                roleUpdate_stimulus_awg on off reset run]
              exact before.stimulus
            · apply Bench.awgOutput_of_property
              rw [after.values, commonUpdate_kept _ reset, roleUpdate_devices run,
                before.values]
              rcases matchNative_values matched .awgOutput with same | found
              · exact same
              · obtain ⟨onOff, named⟩ := output_of_setting inverts found
                rcases onOff with word | word
                · rw [word] at named
                  exact absurd named on
                · rw [word] at named
                  exact absurd named off

end Simulator

/-! ## The attached snapshot -/

/-- Equal in every field other than the clock readings. -/
def WorldSnapshot.SameWorld (s t : WorldSnapshot) : Prop := s.clocked 0 none = t.clocked 0 none

theorem sorted_sorted (items : List Text) : sorted (sorted items) = sorted items := by
  unfold sorted
  apply List.Pairwise.insertionSort_eq
  exact List.pairwise_insertionSort _ _

theorem finitePoints_of_finite {points : List Float} (finite : points.all Float.isFinite = true) :
    finitePoints points = .ok points := by
  induction points with
  | nil => rfl
  | cons x rest ih =>
      rw [List.all_cons, Bool.and_eq_true] at finite
      simp only [finitePoints, finiteFloat, if_pos finite.1, ih finite.2, Except.map]

/-- **The journaled state projects to the bench's snapshot.** -/
theorem Bench.Finite.snapshot {b : Bench} (h : b.Finite) (startedNs now clockMs : Int)
    (stimulusStartedMs : Option Int) :
    b.finalState.snapshot clockMs stimulusStartedMs =
      .ok ((b.snapshot startedNs now).clocked clockMs stimulusStartedMs) := by
  have name : (if b.finalState.awgSelected.isEmpty then none
      else some (upper b.finalState.awgSelected)) =
      if b.selectedName.isEmpty then none else some b.selectedName := by
    show (if b.finalState.awgSelected.isEmpty then none else some b.selectedName) = _
    have empty : b.selectedName.isEmpty = b.finalState.awgSelected.isEmpty := List.isEmpty_map ..
    rw [empty]
  have key : (if b.selectedName.isEmpty then none else some b.selectedName).getD [] =
      b.selectedName := by
    cases b.selectedName with
    | nil => rfl
    | cons c t => rfl
  have points : finitePoints ((b.finalState.awgWaveforms.lookup b.selectedName).getD []) =
      .ok ((b.waveforms.lookup b.selectedName).getD []) := by
    apply finitePoints_of_finite
    show ((b.waveforms.lookup b.selectedName).getD []).all Float.isFinite = true
    cases found : b.waveforms.lookup b.selectedName with
    | none => rfl
    | some points => exact (h.points _ (PyDict.mem_of_lookup found)).2
  have voltage : finiteFloat b.finalState.psuVoltage = .ok (b.property .voltage) :=
    if_pos h.voltage
  have amplitude : finiteFloat b.finalState.awgAmplitude = .ok (b.property .amplitude) :=
    if_pos h.amplitude
  have routes : sorted b.finalState.closedRoutes = sorted b.routes := sorted_sorted b.routes
  have none_closed : b.finalState.closedRoutes.isEmpty = b.routes.isEmpty :=
    sorted_isEmpty b.routes
  simp only [FinalState.snapshot, name, key, points, voltage, amplitude, routes, none_closed]
  rfl

/-! ## What a record does to the stimulus clock -/

/-- A record of the broker's own: no hook, and not the host's clean-up. -/
def Body.isQuiet : Body → Bool
  | .hook _ _ => false
  | .forceSafe _ _ => false
  | _ => true

namespace Projection

/-- The stimulus clock, the hook in flight and the start of the clock are as they were. -/
structure SameClock (p p' : Projection) : Prop where
  stimulus : p'.stimulusStartedMs = p.stimulusStartedMs
  active : p'.activeHook = p.activeHook
  startNs : p'.startNs = p.startNs

theorem SameClock.refl (p : Projection) : p.SameClock p := ⟨rfl, rfl, rfl⟩

theorem SameClock.trans {p q r : Projection} (first : p.SameClock q) (last : q.SameClock r) :
    p.SameClock r where
  stimulus := last.stimulus.trans first.stimulus
  active := last.active.trans first.active
  startNs := last.startNs.trans first.startNs

variable {repr : WireValue → Text} {p p' : Projection} {event : JournalEvent}

theorem attributeSet_clock {args : AuditedArgs}
    (accepted : p.attributeSet repr event args = .ok p') : p.SameClock p' := by
  unfold attributeSet at accepted
  simp only [bind, Except.bind] at accepted
  repeat' split at accepted
  all_goals first | (cases accepted; done) | (cases accepted; exact ⟨rfl, rfl, rfl⟩)

theorem result_clock {c : Nat} {operation : Text} {value : WireValue}
    (accepted : p.result repr event c operation value = .ok p') : p.SameClock p' := by
  unfold result at accepted
  split at accepted
  · cases accepted
  · dsimp only at accepted
    split at accepted
    · cases accepted
    · split at accepted
      · simp only [bind, Except.bind] at accepted
        split at accepted
        · cases accepted
        · cases accepted
          exact ⟨rfl, rfl, rfl⟩
      · split at accepted
        · simp only [bind, Except.bind] at accepted
          repeat' split at accepted
          all_goals first | (cases accepted; done) | (cases accepted; exact ⟨rfl, rfl, rfl⟩)
        · split at accepted
          · have same := attributeSet_clock accepted
            exact ⟨same.stimulus, same.active, same.startNs⟩
          · split at accepted
            · simp only [bind, Except.bind] at accepted
              repeat' split at accepted
              all_goals first | (cases accepted; done) | (cases accepted; exact ⟨rfl, rfl, rfl⟩)
            · cases accepted
              exact ⟨rfl, rfl, rfl⟩

/-- **A quiet record leaves the stimulus clock alone.** -/
theorem next_clock (quiet : event.body.isQuiet = true)
    (accepted : p.next repr event = .ok p') : p.SameClock p' := by
  unfold next at accepted
  cases body : event.body with
  | hook origin record =>
      rw [body] at quiet
      cases quiet
  | forceSafe before after =>
      rw [body] at quiet
      cases quiet
  | rpcResult c operation value status =>
      rw [body] at accepted
      exact result_clock accepted
  | rpcRequest c operation args =>
      rw [body] at accepted
      cases accepted
      unfold request
      dsimp only
      repeat' split
      all_goals exact ⟨rfl, rfl, rfl⟩
  | rpcReject c operation errorKind code =>
      rw [body] at accepted
      cases accepted
      unfold rejected
      dsimp only
      split
      all_goals exact ⟨rfl, rfl, rfl⟩
  | connectionReject c reason =>
      rw [body] at accepted
      cases accepted
      exact ⟨rfl, rfl, rfl⟩
  | connectionClose c leaked =>
      rw [body] at accepted
      cases accepted
      exact ⟨rfl, rfl, rfl⟩
  | _ =>
      rw [body] at accepted
      cases accepted
      exact ⟨rfl, rfl, rfl⟩

theorem noteHook_clock {digest resource role : Text}
    (accepted : p.noteHook digest resource role = .ok p') :
    p.SameClock p' ∧ p'.writes = p.writes := by
  unfold noteHook at accepted
  split at accepted
  · cases accepted
    exact ⟨.refl p, rfl⟩
  · split at accepted
    · cases accepted
      exact ⟨⟨rfl, rfl, rfl⟩, rfl⟩
    · cases accepted
    · cases accepted

/-- An opening record is accepted only between commands, and puts its session's hook in
flight. -/
theorem hookBefore_clock {digest resource role : Text} {stateBefore : FinalState}
    (accepted : p.hookBefore event digest resource role stateBefore = .ok p') :
    p.activeHook = none ∧ p'.activeHook = some digest ∧
      p'.stimulusStartedMs = p.stimulusStartedMs ∧ p'.startNs = p.startNs := by
  simp only [hookBefore, bind, Except.bind] at accepted
  split at accepted
  · cases accepted
  · rename_i digest' named
    have same : digest' = digest := by
      unfold requiredText at named
      split at named
      · cases named
      · exact (Except.ok.inj named).symm
    subst same
    split at accepted
    · cases accepted
    · rename_i noted note
      obtain ⟨⟨stimulus, active, startNs⟩, -⟩ := noteHook_clock note
      split at accepted
      · cases accepted
      · rename_i idle
        split at accepted
        · cases accepted
        · cases accepted
          refine ⟨?_, rfl, stimulus, startNs⟩
          rw [← active]
          simpa using idle

/-- What a completed command leaves the projection with. -/
structure Completed (event : JournalEvent) (b b' : Bench) (p p' : Projection) (d : Draft) :
    Prop where
  idle : p'.activeHook = none
  startNs : p'.startNs = p.startNs
  stimulus : p'.stimulusStartedMs =
    nextStimulus (p.clockMs event) b.awgOutput b'.awgOutput p.stimulusStartedMs
  kept : d ∈ p'.drafts
  raw : d.raw = event
  first : d.offset = 0
  operation : d.operation = .write
  stateBefore : ∀ startedNs now, d.stateBefore =
    (b.snapshot startedNs now).clocked (p.clockMs event) p.stimulusStartedMs
  stateAfter : ∀ startedNs now, d.stateAfter =
    (b'.snapshot startedNs now).clocked (p.clockMs event) p'.stimulusStartedMs

theorem inferWriteTermination_startNs (p : Projection) (digest : Text) (writeEvent : JournalEvent)
    (request : Bytes) (before : WorldSnapshot) (role resource : Text) :
    (p.inferWriteTermination digest writeEvent request before role resource).startNs =
      p.startNs := by
  unfold inferWriteTermination
  split <;> rfl

/-- **A completion record that is accepted completes its command.** -/
theorem hookCompletion_completed {digest resource role : Text} {response : Option Bytes}
    {errorCode : Option Text} {b b' : Bench} (active : p.activeHook = some digest)
    (finite : b.Finite) (finite' : b'.Finite)
    (accepted : p.hookCompletion event resource role response errorCode b.finalState
      b'.finalState = .ok p') : ∃ d, Completed event b b' p p' d := by
  simp only [hookCompletion, active, bind, Except.bind] at accepted
  split at accepted
  · cases accepted
  · rename_i noted note
    obtain ⟨⟨stimulus, -, started⟩, -⟩ := noteHook_clock note
    have clock : noted.clockMs event = p.clockMs event := by
      unfold clockMs
      rw [started]
    have before := finite.snapshot 0 0 (p.clockMs event) p.stimulusStartedMs
    have before_output : ((b.snapshot 0 0).clocked (p.clockMs event)
        p.stimulusStartedMs).awgOutput = b.awgOutput := rfl
    have after_output : b'.finalState.awgOutput = b'.awgOutput := rfl
    have after := finite'.snapshot 0 0 (p.clockMs event)
      (nextStimulus (p.clockMs event) b.awgOutput b'.awgOutput p.stimulusStartedMs)
    simp only [clock, stimulus, before, before_output, after_output, after] at accepted
    split at accepted
    · cases accepted
    · rename_i write pending
      cases accepted
      exact ⟨_, ⟨rfl, (inferWriteTermination_startNs ..).trans started, rfl,
        List.mem_append_right _ (List.mem_singleton_self _), rfl, rfl, rfl, fun _ _ => rfl,
        fun _ _ => rfl⟩⟩

end Projection

/-! ## The journal of a run -/

/-- The hook record a journal event is. -/
def JournalEvent.hookEvent (r : JournalEvent) : Option HookEvent :=
  match r.body with
  | .hook _ e => some e
  | _ => none

theorem JournalEvent.body_of_hookEvent {r : JournalEvent} {e : HookEvent}
    (hooked : r.hookEvent = some e) : ∃ origin, r.body = .hook origin e := by
  unfold JournalEvent.hookEvent at hooked
  split at hooked
  · rename_i origin e' body
    cases hooked
    exact ⟨origin, body⟩
  · cases hooked

/-- The journal of one command: its hook records in their order, the last of them
`record`, and any records of the broker's own before and between them. -/
structure CommandRecords (events : List HookEvent) (early : List JournalEvent)
    (record : JournalEvent) : Prop where
  hosted : ∀ r ∈ early, r.body.isQuiet = true ∨ r.hookEvent.isSome = true
  hooks : early.filterMap JournalEvent.hookEvent ++ record.hookEvent.toList = events
  closed : record.hookEvent.isSome = true

/-- What becomes of a stimulus clock at a command. -/
inductive StimulusChange where
  | absent
  | kept
  | restarted
deriving DecidableEq

/-- What a change leaves of a clock's old reading. -/
def StimulusChange.apply (clock : Int) (old : Option Int) : StimulusChange → Option Int
  | .absent => none
  | .kept => old
  | .restarted => some clock

/-- What a command does to `_stimulus_started_ns`. -/
def Simulator.change (sim : Simulator) (digest : Text) (now : Int) (x : CommandContext)
    (b : Bench) : StimulusChange :=
  if (sim.matchCommand digest now x b).bench.stimulusStartedNs.isNone then .absent
  else if sim.restarts digest now x b then .restarted
  else .kept

/-- `clock_ms` of a record, of a journal that starts at `startNs`. -/
def JournalEvent.clockMs (startNs : Int) (event : JournalEvent) : Int :=
  max 0 ((event.monotonicNs - startNs) / 1000000)

/-- **A run of the bench and its journal**, of commands that `conforms` allows, each with
its records, and any records of the broker's own.  `held` is the reading of the journal's
clock at the completion that last restarted the bench's stimulus, where it has one. -/
inductive Recorded (sim : Simulator) (conforms : Int → CommandContext → Bench → Prop)
    (startNs : Int) : Bench → Option Int → List JournalEvent → Prop where
  | start : Recorded sim conforms startNs (.initial sim.spec) none []
  | buffers {b : Bench} {held : Option Int} {records : List JournalEvent}
      (before : Recorded sim conforms startNs b held records) (devices : Devices) :
      Recorded sim conforms startNs ((BenchAction.buffers devices).apply sim b) held records
  | quiet {b : Bench} {held : Option Int} {records : List JournalEvent} {event : JournalEvent}
      (before : Recorded sim conforms startNs b held records)
      (quiet : event.body.isQuiet = true) :
      Recorded sim conforms startNs b held (records ++ [event])
  | command {b : Bench} {held : Option Int} {records early : List JournalEvent}
      {record : JournalEvent} (before : Recorded sim conforms startNs b held records)
      (digest : Text) (now : Int) (x : CommandContext) (conforming : conforms now x b)
      (journaled : CommandRecords (sim.matchCommand digest now x b).events early record) :
      Recorded sim conforms startNs (sim.matchCommand digest now x b).bench
        ((sim.change digest now x b).apply (record.clockMs startNs) held)
        (records ++ (early ++ [record]))
  | forceSafe {b : Bench} {held : Option Int} {records : List JournalEvent}
      {event : JournalEvent} (before : Recorded sim conforms startNs b held records)
      (body : event.body = .forceSafe b.finalState (Visa.forceSafe b).finalState) :
      Recorded sim conforms startNs (Visa.forceSafe b) none (records ++ [event])

/-- **What is projected of a completed command**: the one event that its completion is
numbered as holds the bench's own snapshots, and its stimulus start is absent, kept or
restarted as the bench's is. -/
def Mirrored (sim : Simulator) (startNs : Int) (digest : Text) (now : Int) (x : CommandContext)
    (b : Bench) (held : Option Int) (record : JournalEvent) (events : List EvidenceEvent) : Prop :=
  let b' := (sim.matchCommand digest now x b).bench
  let change := sim.change digest now x b
  ∃ e ∈ events, e.sequence = record.sequence * 10 ∧ e.operation = txt "write" ∧
    (∀ startedNs clock, e.stateBefore.SameWorld (b.snapshot startedNs clock) ∧
      e.stateAfter.SameWorld (b'.snapshot startedNs clock)) ∧
    b'.stimulusStartedNs = change.apply now b.stimulusStartedNs ∧
    e.stateBefore.stimulusStartedMs = held ∧
    e.stateAfter.stimulusStartedMs = change.apply (record.clockMs startNs) held

/-- **When the projection mirrors a command.**  It completes, it sets no voltage or
amplitude that is not finite, and it is no `OUTP ON` that finds the output on. -/
structure Simulator.Mirrors (sim : Simulator) (now : Int) (x : CommandContext) (b : Bench) :
    Prop where
  completes : sim.Completes now x b
  finite : sim.SetsFinite now x b
  fresh : b.awgOutput = true → ¬ ∃ decoded, sim.CarriedOut now x b decoded ∧
    x.instrument = .bench .awg ∧ upper (strip decoded) = txt "OUTP ON"

/-! ## Bench and projection, side by side -/

/-- What the two keep between commands. -/
structure Aligned (startNs : Int) (b : Bench) (held : Option Int) (p : Projection) : Prop where
  idle : p.activeHook = none
  startNs : p.startNs = startNs
  finite : b.Finite
  stimulus : p.stimulusStartedMs = held
  running : held.isSome = b.stimulusStartedNs.isSome
  driven : b.stimulusStartedNs.isSome = true → b.awgOutput = true

section Reading

variable {sim : Simulator} {repr : WireValue → Text} {p p' : Projection}
  {records : List JournalEvent}

/-- Records of the broker's own and responses leave the clock alone. -/
theorem responses_clock (read : p.replay repr records = .ok p')
    (hosted : ∀ r ∈ records, r.body.isQuiet = true ∨ r.hookEvent.isSome = true)
    (responses : ∀ e ∈ records.filterMap JournalEvent.hookEvent, e.isResponse = true) :
    p.SameClock p' := by
  induction records generalizing p with
  | nil =>
      cases read
      exact .refl _
  | cons r rest ih =>
      obtain ⟨q, accepted, later⟩ := Projection.replay_cons read
      have onward := ih later (fun r' listed => hosted r' (List.mem_cons_of_mem _ listed))
        fun e listed => responses e (List.mem_filterMap.2 (by
          obtain ⟨r', among, hooked⟩ := List.mem_filterMap.1 listed
          exact ⟨r', List.mem_cons_of_mem _ among, hooked⟩))
      have here : p.SameClock q := by
        rcases hosted r List.mem_cons_self with quiet | hooked
        · exact Projection.next_clock quiet accepted
        · obtain ⟨e, hooked⟩ := Option.isSome_iff_exists.1 hooked
          obtain ⟨origin, body⟩ := JournalEvent.body_of_hookEvent hooked
          have response := responses e
            (by rw [List.filterMap_cons_some hooked]; exact List.mem_cons_self)
          unfold Projection.next at accepted
          rw [body] at accepted
          cases e with
          | native _ _ _ _ =>
              cases accepted
              exact .refl _
          | dynamic _ _ _ _ =>
              cases accepted
              exact .refl _
          | before _ _ _ _ _ => cases response
          | after _ _ _ _ _ _ => cases response
          | error _ _ _ _ _ _ _ => cases response
      exact here.trans onward

/-- From the opening record to before the completion: the session's hook is in flight,
and the stimulus clock stands. -/
theorem opened_clock {spec : WorldSpec} {digest : Text} {i : Instrument} {b b' : Bench}
    {opening closing : HookEvent} {middle : List HookEvent}
    (shown : CompletionRecords spec digest i b b' opening middle closing)
    (read : p.replay repr records = .ok p')
    (hosted : ∀ r ∈ records, r.body.isQuiet = true ∨ r.hookEvent.isSome = true)
    (hooks : records.filterMap JournalEvent.hookEvent = opening :: middle) :
    p'.activeHook = some digest ∧ p'.stimulusStartedMs = p.stimulusStartedMs ∧
      p'.startNs = p.startNs := by
  induction records generalizing p with
  | nil => cases hooks
  | cons r rest ih =>
      obtain ⟨q, accepted, later⟩ := Projection.replay_cons read
      have hosted' : ∀ r ∈ rest, r.body.isQuiet = true ∨ r.hookEvent.isSome = true :=
        fun r' listed => hosted r' (List.mem_cons_of_mem _ listed)
      cases hooked : r.hookEvent with
      | none =>
          have quiet := (hosted r List.mem_cons_self).resolve_right (by rw [hooked]; decide)
          rw [List.filterMap_cons_none hooked] at hooks
          have here := Projection.next_clock quiet accepted
          obtain ⟨active, stimulus, startNs⟩ := ih later hosted' hooks
          exact ⟨active, stimulus.trans here.stimulus, startNs.trans here.startNs⟩
      | some e =>
          rw [List.filterMap_cons_some hooked] at hooks
          obtain ⟨rfl, rest_hooks⟩ := List.cons.inj hooks
          obtain ⟨origin, body⟩ := JournalEvent.body_of_hookEvent hooked
          obtain ⟨command, rfl⟩ := shown.opening
          unfold Projection.next at accepted
          rw [body] at accepted
          have here : p.hookBefore r digest (spec.resourceName i) i.role b.finalState = .ok q :=
            accepted
          obtain ⟨-, active, stimulus, startNs⟩ := Projection.hookBefore_clock here
          have onward := responses_clock later hosted' (by rw [rest_hooks]; exact shown.middle)
          exact ⟨onward.active.trans active, onward.stimulus.trans stimulus,
            onward.startNs.trans startNs⟩

/-- What a completion record is read as. -/
theorem next_completion {b b' : Bench} {digest resource role : Text} {closing : HookEvent}
    {event : JournalEvent}
    (states : closing.completion = some (resource, role, b.finalState, b'.finalState))
    (hooked : event.hookEvent = some closing) (active : p.activeHook = some digest)
    (finite : b.Finite) (finite' : b'.Finite) (accepted : p.next repr event = .ok p') :
    ∃ d, Projection.Completed event b b' p p' d := by
  obtain ⟨origin, body⟩ := JournalEvent.body_of_hookEvent hooked
  unfold Projection.next at accepted
  rw [body] at accepted
  cases closing with
  | before _ _ _ _ _ => cases states
  | native _ _ _ _ => cases states
  | dynamic _ _ _ _ => cases states
  | after _ _ _ response _ _ =>
      cases states
      exact Projection.hookCompletion_completed active finite finite' accepted
  | error _ _ _ code _ _ _ =>
      cases states
      exact Projection.hookCompletion_completed active finite finite' accepted

/-- A command that restarts the stimulus is carried out. -/
theorem Simulator.carried_of_restarts {digest : Text} {now : Int}
    {x : CommandContext} {b : Bench} (restarted : sim.restarts digest now x b = true) :
    ∃ decoded, sim.CarriedOut now x b decoded ∧ x.instrument = .bench .awg ∧
      upper (strip decoded) = txt "OUTP ON" := by
  unfold restarts at restarted
  split at restarted
  · rename_i response result
    rcases sim.matchCommand_cases digest now x b with ⟨-, refused⟩ | ⟨decoded, -, -, -, carried, -⟩
    · exact absurd result (refused _)
    · rw [carried.1, Option.getD_some, Bool.and_eq_true, decide_eq_true_eq, decide_eq_true_eq]
        at restarted
      exact ⟨decoded, carried, restarted⟩
  · cases restarted

end Reading

namespace Aligned

variable {sim : Simulator} {repr : WireValue → Text} {startNs : Int} {b : Bench}
  {held : Option Int} {p p' : Projection}

/-- **The two stimulus clocks change together.** -/
theorem stimulus_step (inverts : sim.parser.Inverts) (h : Aligned startNs b held p)
    (digest : Text) {now : Int} {x : CommandContext} (mirrors : sim.Mirrors now x b)
    (clockMs : Int) :
    let b' := (sim.matchCommand digest now x b).bench
    let change := sim.change digest now x b
    Projection.nextStimulus clockMs b.awgOutput b'.awgOutput held = change.apply clockMs held ∧
      b'.stimulusStartedNs = change.apply now b.stimulusStartedNs ∧
      (change.apply clockMs held).isSome = b'.stimulusStartedNs.isSome ∧
      (b'.stimulusStartedNs.isSome = true → b'.awgOutput = true) := by
  intro b' change
  rcases sim.generator_step inverts digest now x b with ⟨restarts, started, on⟩ |
    ⟨quiet, ⟨stopped, off⟩ | ⟨kept, same⟩⟩
  · have was_off : b.awgOutput = false := by
      by_contra was_on
      exact mirrors.fresh (Bool.not_eq_false _ ▸ was_on) (Simulator.carried_of_restarts restarts)
    have running : b'.stimulusStartedNs = some now := started
    have output : b'.awgOutput = true := on
    have restarted : change = .restarted := by
      show (if b'.stimulusStartedNs.isNone then _ else _) = _
      rw [running, if_neg (by simp), if_pos restarts]
    rw [restarted, running, was_off, output]
    exact ⟨rfl, rfl, rfl, fun _ => rfl⟩
  · have idle : b'.stimulusStartedNs = none := stopped
    have output : b'.awgOutput = false := off
    have absent : change = .absent := by
      show (if b'.stimulusStartedNs.isNone then _ else _) = _
      rw [idle, if_pos (by decide)]
    rw [absent, idle, output]
    refine ⟨?_, rfl, rfl, ?_⟩
    · cases b.awgOutput <;> rfl
    · intro running
      cases running
  · have stimulus : b'.stimulusStartedNs = b.stimulusStartedNs := kept
    have output : b'.awgOutput = b.awgOutput := same
    cases begun : b.stimulusStartedNs with
    | none =>
        have absent : change = .absent := by
          show (if b'.stimulusStartedNs.isNone then _ else _) = _
          rw [stimulus, begun, if_pos (by decide)]
        have none_held : held = none := by
          rw [← Option.not_isSome_iff_eq_none, h.running, begun]
          decide
        rw [absent, stimulus, begun, none_held, output]
        refine ⟨?_, rfl, rfl, ?_⟩
        · cases b.awgOutput <;> rfl
        · intro running
          cases running
    | some t =>
        have driven : b.awgOutput = true := h.driven (by rw [begun]; rfl)
        have unchanged : change = .kept := by
          show (if b'.stimulusStartedNs.isNone then _ else if _ then _ else _) = _
          rw [stimulus, begun, if_neg (by simp), quiet, if_neg (by decide)]
        have running : held.isSome = true := by
          rw [h.running, begun]
          rfl
        rw [unchanged, stimulus, begun, output, driven]
        exact ⟨rfl, rfl, running, fun _ => rfl⟩

/-- **One command**: it is drafted with its snapshots, and the two stay aligned. -/
theorem command (inverts : sim.parser.Inverts) (h : Aligned startNs b held p) {digest : Text}
    {now : Int} {x : CommandContext} (mirrors : sim.Mirrors now x b) {early : List JournalEvent}
    {record : JournalEvent}
    (journaled : CommandRecords (sim.matchCommand digest now x b).events early record)
    (read : p.replay repr (early ++ [record]) = .ok p') :
    let b' := (sim.matchCommand digest now x b).bench
    Aligned startNs b' ((sim.change digest now x b).apply (record.clockMs startNs) held) p' ∧
      ∃ q d, Projection.Completed record b b' q p' d ∧ q.stimulusStartedMs = held ∧
        p'.stimulusStartedMs =
          (sim.change digest now x b).apply (record.clockMs startNs) held := by
  intro b'
  obtain ⟨opening, middle, closing, events, shown⟩ :=
    sim.matchCommand_records digest mirrors.completes
  obtain ⟨e, hooked⟩ := Option.isSome_iff_exists.1 journaled.closed
  have hooks := journaled.hooks.trans events
  rw [hooked, Option.toList_some, ← List.cons_append] at hooks
  obtain ⟨before, last⟩ := List.append_inj' hooks rfl
  obtain rfl := List.singleton_inj.1 last
  obtain ⟨q, first, final⟩ := Projection.replay_append read
  obtain ⟨active, stimulus, started⟩ := opened_clock shown first journaled.hosted before
  have finite' := sim.finite_step digest h.finite mirrors.finite
  obtain ⟨d, completed⟩ := next_completion shown.closing hooked active h.finite finite'
    (Projection.replay_singleton final)
  have clock : q.clockMs record = record.clockMs startNs := by
    unfold Projection.clockMs JournalEvent.clockMs
    rw [started, h.startNs]
  obtain ⟨next, -, some_iff, driven⟩ := h.stimulus_step inverts digest mirrors
    (record.clockMs startNs)
  have after : p'.stimulusStartedMs =
      (sim.change digest now x b).apply (record.clockMs startNs) held := by
    rw [completed.stimulus, clock, stimulus, h.stimulus]
    exact next
  exact ⟨⟨completed.idle, completed.startNs.trans (started.trans h.startNs), finite', after,
    some_iff, driven⟩, q, d, completed, stimulus.trans h.stimulus, after⟩

end Aligned

/-- Alignment survives a conforming run. -/
theorem Recorded.aligned {sim : Simulator} {repr : WireValue → Text}
    (inverts : sim.parser.Inverts) {startNs : Int} {b : Bench} {held : Option Int}
    {records : List JournalEvent} (recorded : Recorded sim sim.Mirrors startNs b held records)
    {lastState : WorldSnapshot} {p : Projection}
    (read : (Projection.start startNs lastState).replay repr records = .ok p) :
    Aligned startNs b held p := by
  induction recorded generalizing p with
  | start =>
      cases read
      exact ⟨rfl, rfl, Bench.initial_finite sim.spec, rfl, rfl, by intro running; cases running⟩
  | @buffers b held records before devices ih =>
      have aligned := ih read
      have same := sim.buffers_agrees devices b
      exact ⟨aligned.idle, aligned.startNs, aligned.finite.congr same, aligned.stimulus,
        aligned.running, aligned.driven⟩
  | quiet before quiet ih =>
      obtain ⟨q, first, last⟩ := Projection.replay_append read
      have aligned := ih first
      have same := Projection.next_clock quiet (Projection.replay_singleton last)
      exact ⟨same.active.trans aligned.idle, same.startNs.trans aligned.startNs, aligned.finite,
        same.stimulus.trans aligned.stimulus, aligned.running, aligned.driven⟩
  | command before digest now x mirrors journaled ih =>
      obtain ⟨q, first, last⟩ := Projection.replay_append read
      exact ((ih first).command inverts mirrors journaled last).1
  | @forceSafe b held records event before body ih =>
      obtain ⟨q, first, last⟩ := Projection.replay_append read
      have aligned := ih first
      have accepted := Projection.replay_singleton last
      unfold Projection.next at accepted
      rw [body] at accepted
      simp only [Projection.forcedSafe, bind, Except.bind] at accepted
      split at accepted
      · cases accepted
      · split at accepted
        · cases accepted
        · cases accepted
          refine ⟨aligned.idle, aligned.startNs, aligned.finite.forceSafe, rfl, rfl, ?_⟩
          intro running
          cases running

/-- **The projection mirrors the bench.**  In what `project_events` returns of a journal,
a conforming command after any run of conforming commands, with any records of the
broker's own in between and any at all after it, has an event with the bench's own
snapshots, and its stimulus start is absent, kept or restarted as the bench's is. -/
theorem projection_mirrors {sim : Simulator} {repr : WireValue → Text}
    (inverts : sim.parser.Inverts) {startNs : Int} {b : Bench} {held : Option Int}
    {records : List JournalEvent} (recorded : Recorded sim sim.Mirrors startNs b held records)
    {digest : Text} {now : Int} {x : CommandContext} (mirrors : sim.Mirrors now x b)
    {early rest : List JournalEvent} {record : JournalEvent}
    (journaled : CommandRecords (sim.matchCommand digest now x b).events early record)
    (started : ∀ first ∈ (records ++ (early ++ [record]) ++ rest).head?,
      first.monotonicNs = startNs) {events : List EvidenceEvent}
    (returned : projectEvents repr (records ++ (early ++ [record]) ++ rest) = .ok events) :
    Mirrored sim startNs digest now x b held record events := by
  rcases projectEvents_ok returned with ⟨empty, -⟩ | ⟨first, world, p, head, read, -, rfl, -⟩
  · simp at empty
  · obtain rfl := started first head
    obtain ⟨q', before, after⟩ := Projection.replay_append read
    obtain ⟨q, run, command⟩ := Projection.replay_append before
    have aligned := recorded.aligned inverts run
    obtain ⟨-, r, d, completed, old, new⟩ := aligned.command inverts mirrors journaled command
    obtain ⟨-, bench, -, -⟩ := aligned.stimulus_step inverts digest mirrors 0
    refine ⟨_, mem_numberedEvents.2 ⟨d, Projection.replay_drafts after completed.kept, rfl⟩, ?_,
      ?_, ?_, bench, ?_, ?_⟩
    · show d.raw.sequence * 10 + d.offset = _
      rw [completed.raw, completed.first, Nat.add_zero]
    · show d.operation.name = _
      rw [completed.operation]
      rfl
    · intro startedNs clock
      show d.stateBefore.SameWorld _ ∧ d.stateAfter.SameWorld _
      refine ⟨?_, ?_⟩
      · rw [completed.stateBefore startedNs clock]
        rfl
      · rw [completed.stateAfter startedNs clock]
        rfl
    · show d.stateBefore.stimulusStartedMs = held
      rw [completed.stateBefore 0 0]
      exact old
    · show d.stateAfter.stimulusStartedMs = _
      rw [completed.stateAfter 0 0]
      exact new

/-! ## Runs of writes -/

/-- The hook record of a write on the session `T` of connection 0. -/
def hookRecord (sequence : Nat) (now : Int) (data : Bytes) (e : HookEvent) : JournalEvent :=
  ⟨sequence, now, .hook ⟨0, txt "T", data⟩ e⟩

/-- The request of that write and hook records after it, numbered from `n`. -/
def writeRecords (n : Nat) (now : Int) (data : Bytes) (events : List HookEvent) :
    List JournalEvent :=
  ⟨n, now, .rpcRequest 0 (.plain (txt "write"))
    (.full [(txt "session", .str (txt "T")), (txt "data", .bytes data)])⟩ ::
    events.mapIdx fun k e => hookRecord (n + 1 + k) now data e

theorem hookEvents_mapIdx (now : Int) (data : Bytes) (events : List HookEvent) (f : Nat → Nat) :
    (events.mapIdx fun k e => hookRecord (f k) now data e).filterMap JournalEvent.hookEvent =
      events := by
  induction events generalizing f with
  | nil => rfl
  | cons e rest ih =>
      rw [List.mapIdx_cons, List.filterMap_cons_some (rfl : (hookRecord _ _ _ e).hookEvent = some e)]
      exact congrArg _ (ih fun k => f (k + 1))

theorem writeRecords_journaled (n : Nat) (now : Int) (data : Bytes) (sequence : Nat)
    {events early : List HookEvent} {closing : HookEvent} (whole : events = early ++ [closing]) :
    CommandRecords events (writeRecords n now data early)
      (hookRecord sequence now data closing) where
  hosted := by
    intro r listed
    rcases List.mem_cons.1 listed with rfl | listed
    · exact Or.inl rfl
    · obtain ⟨k, inside, rfl⟩ := List.mem_mapIdx.1 listed
      exact Or.inr rfl
  hooks := by
    rw [whole, writeRecords, List.filterMap_cons_none rfl, hookEvents_mapIdx]
    rfl
  closed := rfl

/-- A bench, its stimulus start on the journal's clock, and its journal. -/
structure Recording where
  bench : Bench
  held : Option Int
  records : List JournalEvent

namespace Simulator

variable (sim : Simulator)

/-- The journal of a write up to its command's completion. -/
def opened (now : Int) (x : CommandContext) (r : Recording) : List JournalEvent :=
  writeRecords (r.records.length + 1) now (x.command ++ [newline])
    (sim.matchCommand (tokenDigest (txt "T")) now x r.bench).events.dropLast

/-- The completion of a write's command. -/
def closing (now : Int) (x : CommandContext) (r : Recording) : Option JournalEvent :=
  (sim.matchCommand (tokenDigest (txt "T")) now x r.bench).events.getLast?.map
    (hookRecord (r.records.length + (sim.opened now x r).length + 1) now (x.command ++ [newline]))

/-- The result of a write, which follows `records`. -/
def written (now : Int) (records : List JournalEvent) : JournalEvent :=
  ⟨records.length + 1, now, .rpcResult 0 (txt "write") .none (some 0)⟩

/-- A write of one command, and its result. -/
def write (now : Int) (x : CommandContext) (r : Recording) : Option Recording :=
  (sim.closing now x r).map fun record =>
    let records := r.records ++ (sim.opened now x r ++ [record])
    { bench := (sim.matchCommand (tokenDigest (txt "T")) now x r.bench).bench
      held := (sim.change (tokenDigest (txt "T")) now x r.bench).apply (record.clockMs 0) r.held
      records := records ++ [written now records] }

/-- Writes of allowed commands, one after another, from a fresh bench. -/
def writes (allowed : CommandContext → Bench → Bool) (commands : List (Int × CommandContext)) :
    Option Recording :=
  commands.foldlM (fun r w => if allowed w.2 r.bench then sim.write w.1 w.2 r else none)
    ⟨.initial sim.spec, none, []⟩

variable {sim}

theorem closing_journaled {r : Recording} {now : Int} {x : CommandContext}
    {record : JournalEvent} (closes : sim.closing now x r = some record) :
    CommandRecords (sim.matchCommand (tokenDigest (txt "T")) now x r.bench).events
      (sim.opened now x r) record := by
  obtain ⟨closing, last, rfl⟩ := Option.map_eq_some_iff.1 closes
  exact writeRecords_journaled _ _ _ _ (List.dropLast_append_getLast? closing last).symm

theorem writes_recorded {conforms : Int → CommandContext → Bench → Prop}
    {allowed : CommandContext → Bench → Bool}
    (conform : ∀ now x b, allowed x b = true → conforms now x b)
    {commands : List (Int × CommandContext)} {r : Recording}
    (ran : sim.writes allowed commands = some r) :
    Recorded sim conforms 0 r.bench r.held r.records := by
  induction commands using List.reverseRecOn generalizing r with
  | nil =>
      cases ran
      exact .start
  | append_singleton commands last ih =>
      unfold writes at ran
      rw [List.foldlM_append] at ran
      obtain ⟨r₁, before, after⟩ := Option.bind_eq_some_iff.1 ran
      simp only [List.foldlM_cons, List.foldlM_nil, bind_pure] at after
      split at after
      · rename_i permitted
        obtain ⟨record, closes, rfl⟩ := Option.map_eq_some_iff.1 after
        exact .quiet (.command (ih before) _ _ _ (conform _ _ _ permitted)
          (closing_journaled closes)) rfl
      · cases after

/-- A table of its instrument takes the command. -/
def takes (sim : Simulator) (x : CommandContext) (b : Bench) : Bool :=
  (decodeAscii x.command).any fun decoded =>
    (b.devices.matchNative sim.parser sim.spec.identity x.random x.instrument x.command
      decoded).toOption.join.isSome

/-- A command to the generator that a table takes completes. -/
theorem completes_of_takes (now : Int) {x : CommandContext} {b : Bench}
    (awg : x.instrument = .bench .awg) (taken : takes sim x b = true) : sim.Completes now x b := by
  obtain ⟨decoded, decodes, matched⟩ := (Option.any_eq_true _ _).1 taken
  have found : ∃ found, b.devices.matchNative sim.parser sim.spec.identity x.random x.instrument
      x.command decoded = .ok (some found) := by
    rcases made : b.devices.matchNative sim.parser sim.spec.identity x.random x.instrument
        x.command decoded with e | _ | found
    · rw [made] at matched
      cases matched
    · rw [made] at matched
      cases matched
    · exact ⟨found, rfl⟩
  obtain ⟨recognised, drawn⟩ := (matchNative_found_iff sim x decoded b.devices).1 found
  refine ⟨decoded, decodes, Or.inr ⟨recognised, drawn, ?_⟩⟩
  rw [awg]
  trivial

/-- It is mirrored as well. -/
def reflects (sim : Simulator) (x : CommandContext) (b : Bench) : Bool :=
  x.instrument = .bench .awg && takes sim x b && (decodeAscii x.command).any fun decoded =>
    (setting sim.parser decoded x.instrument.setters).all finiteSetting &&
      (!b.awgOutput || upper (strip decoded) ≠ txt "OUTP ON")

theorem mirrors_of_reflects (now : Int) {x : CommandContext} {b : Bench}
    (reflected : reflects sim x b = true) : sim.Mirrors now x b := by
  simp only [reflects, Bool.and_eq_true, decide_eq_true_eq] at reflected
  obtain ⟨⟨awg, taken⟩, sound⟩ := reflected
  obtain ⟨decoded, decodes, sound⟩ := (Option.any_eq_true _ _).1 sound
  obtain ⟨finite, fresh⟩ := Bool.and_eq_true_iff.1 sound
  refine ⟨completes_of_takes now awg taken, ?_, ?_⟩
  · intro decoded' carried
    obtain rfl : decoded = decoded' := Option.some.inj (decodes.symm.trans carried.1)
    exact finite
  · rintro on ⟨decoded', carried, -, output⟩
    obtain rfl : decoded = decoded' := Option.some.inj (decodes.symm.trans carried.1)
    simp [on, output] at fresh

end Simulator

/-- A world whose generator can drive the bench from the start. -/
def poweredWorld : WorldSpec :=
  { WorldSpec.nominal 1 with
    initialPsuOutput := true
    initialClosedRoutes := [txt "1101", txt "1102"] }

def awgCommand (command : String) : CommandContext := ⟨0, .bench .awg, ascii command, .unfilled⟩

/-- A waveform is uploaded and selected, and the output switched on. -/
def stimulusWrites : List (Int × CommandContext) :=
  [(0, awgCommand "DATA:ARB W,0,1"), (1000000, awgCommand "FUNC:ARB W"),
    (2000000, awgCommand "OUTP ON")]

/-- The amplitude is set while the stimulus runs that `OUTP ON` started at 2 ms. -/
theorem projection_mirrors_generator :
    let sim : Simulator := ⟨poweredWorld, .suffix⟩
    let x := awgCommand "VOLT 2"
    ∃ r record events, sim.writes (Simulator.reflects sim) stimulusWrites = some r ∧
      r.held = some 2 ∧ sim.closing 3000000 x r = some record ∧
      projectEvents (fun _ => []) (r.records ++ (sim.opened 3000000 x r ++ [record]) ++
        [Simulator.written 3000000 (r.records ++ (sim.opened 3000000 x r ++ [record]))]) =
          .ok events ∧
      Mirrored sim 0 (tokenDigest (txt "T")) 3000000 x r.bench r.held record events := by
  intro sim x
  have runs : (sim.writes (Simulator.reflects sim) stimulusWrites).any (fun r =>
      (decide (r.held = some 2) && Simulator.reflects sim x r.bench) &&
      (sim.closing 3000000 x r).any fun record =>
        let records := r.records ++ (sim.opened 3000000 x r ++ [record]) ++
          [Simulator.written 3000000 (r.records ++ (sim.opened 3000000 x r ++ [record]))]
        records.head?.all (fun first => first.monotonicNs = 0) &&
          settles (fun _ => []) records fun _ => true) = true := by
    decide +kernel
  obtain ⟨r, ran, ends⟩ := (Option.any_eq_true _ _).1 runs
  obtain ⟨known, ends⟩ := Bool.and_eq_true_iff.1 ends
  obtain ⟨held, reflected⟩ := Bool.and_eq_true_iff.1 known
  obtain ⟨record, closes, ends⟩ := (Option.any_eq_true _ _).1 ends
  obtain ⟨started, settled⟩ := Bool.and_eq_true_iff.1 ends
  obtain ⟨p, -, returned⟩ := projectEvents_of_settles settled
  refine ⟨r, record, _, ran, of_decide_eq_true held, closes, returned, ?_⟩
  apply projection_mirrors Stringparser.suffix_inverts
    (Simulator.writes_recorded (fun now x b => Simulator.mirrors_of_reflects now) ran)
    (Simulator.mirrors_of_reflects _ reflected) (Simulator.closing_journaled closes) ?_ returned
  intro first head
  exact of_decide_eq_true ((Option.all_eq_true _ _).1 started first head)

/-! ## A restart that is not seen -/

/-- A world whose generator drives a connected bench from the start. -/
def drivenWorld : WorldSpec := { poweredWorld with initialAwgOutput := true }

/-- **The bench restarts a stimulus the projection does not.**  In a world that starts
with its generator on, a waveform is uploaded and selected, and `OUTP ON` is sent: all
three commands are accepted and completed, the third starts the bench's stimulus, and
the projection, which sees the output on before and after it, has none. -/
theorem restart_unseen :
    ¬ ∀ (sim : Simulator) (repr : WireValue → Text) (startNs : Int) (b : Bench)
      (held : Option Int) (records early rest : List JournalEvent) (record : JournalEvent)
      (digest : Text) (now : Int) (x : CommandContext) (events : List EvidenceEvent),
      sim.parser.Inverts → Recorded sim (fun now x b => sim.Completes now x b) startNs b held records →
      sim.Completes now x b → CommandRecords (sim.matchCommand digest now x b).events early record →
      (∀ first ∈ (records ++ (early ++ [record]) ++ rest).head?, first.monotonicNs = startNs) →
      projectEvents repr (records ++ (early ++ [record]) ++ rest) = .ok events →
      Mirrored sim startNs digest now x b held record events := by
  intro mirrored
  let sim : Simulator := ⟨drivenWorld, .suffix⟩
  let x := awgCommand "OUTP ON"
  let allowed (x : CommandContext) (b : Bench) : Bool :=
    x.instrument = .bench .awg && Simulator.takes sim x b
  have completes : ∀ now x b, allowed x b = true → sim.Completes now x b := by
    intro now x b permitted
    obtain ⟨awg, taken⟩ := Bool.and_eq_true_iff.1 permitted
    exact Simulator.completes_of_takes now (of_decide_eq_true awg) taken
  have runs : (sim.writes allowed stimulusWrites.dropLast).any (fun r =>
      (allowed x r.bench && decide (sim.change (tokenDigest (txt "T")) 2000000 x r.bench =
        .restarted)) && (sim.closing 2000000 x r).any fun record =>
        let records := r.records ++ (sim.opened 2000000 x r ++ [record]) ++
          [Simulator.written 2000000 (r.records ++ (sim.opened 2000000 x r ++ [record]))]
        records.head?.all (fun first => first.monotonicNs = 0) &&
          settles (fun _ => []) records fun p =>
            p.drafts.all fun d => d.stateAfter.stimulusStartedMs.isNone) = true := by
    decide +kernel
  obtain ⟨r, ran, ends⟩ := (Option.any_eq_true _ _).1 runs
  obtain ⟨known, ends⟩ := Bool.and_eq_true_iff.1 ends
  obtain ⟨permitted, restarted⟩ := Bool.and_eq_true_iff.1 known
  obtain ⟨record, closes, ends⟩ := (Option.any_eq_true _ _).1 ends
  obtain ⟨started, settled⟩ := Bool.and_eq_true_iff.1 ends
  obtain ⟨p, unseen, returned⟩ := projectEvents_of_settles settled
  obtain ⟨e, listed, -, -, -, -, -, after⟩ := mirrored sim (fun _ => []) 0 r.bench r.held r.records
    (sim.opened 2000000 x r) _ record (tokenDigest (txt "T")) 2000000 x _
    Stringparser.suffix_inverts (Simulator.writes_recorded completes ran)
    (completes 2000000 x r.bench permitted) (Simulator.closing_journaled closes)
    (fun first head => of_decide_eq_true ((Option.all_eq_true _ _).1 started first head)) returned
  obtain ⟨d, kept, rfl⟩ := mem_numberedEvents.1 listed
  have none_after : d.stateAfter.stimulusStartedMs = none :=
    Option.isNone_iff_eq_none.1 (List.all_eq_true.1 unseen d kept)
  rw [of_decide_eq_true restarted] at after
  cases none_after.symm.trans after

end InstrumentBench.Visa
