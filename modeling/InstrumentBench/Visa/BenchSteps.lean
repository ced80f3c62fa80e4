/-
# Visa.BenchSteps -- what one command can do to the bench

Matching a command walks through hooks, devices and response computation.  What
comes of it is said here once: a command that is not carried out leaves everything
but the bookkeeping alone (`Bench.Agrees`), and one that is carried out passed every
check on the bench as it stood, wrote at most one property, and then took its role's
update (`matchCommand_cases`).  Whole runs of the bench are lists of `BenchAction`.
-/
import InstrumentBench.Visa.Bracketing
import InstrumentBench.Visa.System

namespace InstrumentBench.Visa

set_option autoImplicit false

open InstrumentBench.Theory InstrumentBench.Theory.PyText

/-! ## The physical state -/

/-- Two benches agree on everything but the bookkeeping: error queues, buffers, stored
snapshots and the transient errors that remain. -/
structure Bench.Agrees (b b' : Bench) : Prop where
  values : b'.devices.values = b.devices.values
  routes : b'.routes = b.routes
  waveforms : b'.waveforms = b.waveforms
  stimulus : b'.stimulusStartedNs = b.stimulusStartedNs
  configured : b'.dmmConfigured = b.dmmConfigured
  initiated : b'.dmmInitiated = b.dmmInitiated

namespace Bench.Agrees

variable {b b' b'' : Bench}

theorem refl (b : Bench) : b.Agrees b := ⟨rfl, rfl, rfl, rfl, rfl, rfl⟩

theorem trans (h : b.Agrees b') (h' : b'.Agrees b'') : b.Agrees b'' :=
  ⟨h'.values.trans h.values, h'.routes.trans h.routes, h'.waveforms.trans h.waveforms,
    h'.stimulus.trans h.stimulus, h'.configured.trans h.configured,
    h'.initiated.trans h.initiated⟩

theorem property (h : b.Agrees b') (p : Property) : b'.property p = b.property p :=
  congrFun h.values p

theorem psuOutput (h : b.Agrees b') : b'.psuOutput = b.psuOutput := by
  unfold Bench.psuOutput
  rw [h.property]

theorem awgOutput (h : b.Agrees b') : b'.awgOutput = b.awgOutput := by
  unfold Bench.awgOutput
  rw [h.property]

theorem finalState (h : b.Agrees b') : b'.finalState = b.finalState := by
  unfold Bench.finalState
  rw [h.psuOutput, h.awgOutput, h.routes, h.waveforms, h.configured, h.initiated]
  simp only [h.property]

theorem selectedName (h : b.Agrees b') : b'.selectedName = b.selectedName := by
  unfold Bench.selectedName
  rw [h.property]

theorem selectedPoints (h : b.Agrees b') : b'.selectedPoints = b.selectedPoints := by
  unfold Bench.selectedPoints
  rw [h.selectedName, h.waveforms]

end Bench.Agrees

/-! ## Native matching -/

/-- A value validates when it converts, is not out of bounds and is one of those
listed, if any are. -/
theorem Property.validateValue_some {p : Property} {captured : p.kind.Captured}
    {value : p.kind.Value} (valid : p.validateValue captured = some value) :
    p.kind.convert captured = some value ∧ p.specs.minimum.any (p.kind.below value) = false ∧
      (p.specs.maximum.any fun most => p.kind.below most value) = false ∧
      (p.specs.valid.isEmpty = true ∨ p.specs.valid.any (p.kind.equal value) = true) := by
  unfold Property.validateValue at valid
  cases converted : p.kind.convert captured with
  | none =>
      rw [converted] at valid
      cases valid
  | some v =>
      rw [converted] at valid
      dsimp only at valid
      by_cases low : p.specs.minimum.any (p.kind.below v) = true
      · rw [if_pos low] at valid
        cases valid
      · by_cases high : (p.specs.maximum.any fun most => p.kind.below most v) = true
        · rw [if_neg low, if_pos high] at valid
          cases valid
        · by_cases other : (!p.specs.valid.isEmpty && !p.specs.valid.any (p.kind.equal v)) = true
          · rw [if_neg low, if_neg high, if_pos other] at valid
            cases valid
          · rw [if_neg low, if_neg high, if_neg other, Option.some.injEq] at valid
            subst valid
            refine ⟨rfl, Bool.eq_false_iff.2 low, Bool.eq_false_iff.2 high, ?_⟩
            simp only [Bool.and_eq_true, Bool.not_eq_true', not_and, Bool.not_eq_false] at other
            by_cases empty : p.specs.valid.isEmpty = true
            · exact Or.inl empty
            · exact Or.inr (other (Bool.eq_false_iff.2 empty))

/-- The setter that takes a command: the property and the value it is given. -/
def setting (parser : Stringparser) (query : Text) :
    List (Property × Text) → Option ((p : Property) × p.kind.Value)
  | [] => none
  | (p, template) :: rest =>
      match parser.parse p template query with
      | none => setting parser query rest
      | some captured =>
          match p.validateValue captured with
          | none => setting parser query rest
          | some value => some ⟨p, value⟩

theorem matchSetters_eq (parser : Stringparser) (query : Text) (d : Devices)
    (setters : List (Property × Text)) :
    d.matchSetters parser query setters =
      (setting parser query setters).map fun s => d.set s.1 s.2 := by
  induction setters with
  | nil => rfl
  | cons setter rest ih =>
      obtain ⟨p, template⟩ := setter
      simp only [Devices.matchSetters, setting]
      cases parser.parse p template query with
      | none => exact ih
      | some captured =>
          dsimp only
          cases p.validateValue captured with
          | none => exact ih
          | some value => rfl

/-- A setting comes from one of the setters, and its value validates. -/
theorem setting_some {parser : Stringparser} {query : Text} {setters : List (Property × Text)}
    {s : (p : Property) × p.kind.Value} (found : setting parser query setters = some s) :
    ∃ template captured, (s.1, template) ∈ setters ∧
      parser.parse s.1 template query = some captured ∧
      s.1.validateValue captured = some s.2 := by
  induction setters with
  | nil => cases found
  | cons setter rest ih =>
      obtain ⟨p, template⟩ := setter
      simp only [setting] at found
      have later (found : setting parser query rest = some s) :
          ∃ template' captured, (s.1, template') ∈ (p, template) :: rest ∧
            parser.parse s.1 template' query = some captured ∧
            s.1.validateValue captured = some s.2 := by
        obtain ⟨template', captured, listed, parsed, valid⟩ := ih found
        exact ⟨template', captured, List.mem_cons_of_mem _ listed, parsed, valid⟩
      cases parsed : parser.parse p template query with
      | none =>
          rw [parsed] at found
          exact later found
      | some captured =>
          rw [parsed] at found
          dsimp only at found
          cases valid : p.validateValue captured with
          | none =>
              rw [valid] at found
              exact later found
          | some value =>
              rw [valid] at found
              cases found
              exact ⟨template, captured, List.mem_cons_self, parsed, valid⟩

/-- What the tables behind the dialogues do: they answer and change no property, or a
setter writes its one property and answers nothing. -/
theorem matchTables_cases {parser : Stringparser} {i : Instrument} {query : Bytes} {decoded : Text}
    {d devices : Devices} {response : Response}
    (matched : d.matchTables parser i query decoded = some (response, devices)) :
    (devices.values = d.values ∧
      ((∃ entry ∈ i.getters, entry.1 = query) ∨ query = Instrument.errorQuery)) ∨
    ∃ s, setting parser decoded i.setters = some s ∧ devices = d.set s.1 s.2 ∧
      response = none := by
  unfold Devices.matchTables at matched
  cases getter : i.getters.lookup query with
  | some p =>
      rw [getter] at matched
      cases matched
      left
      exact ⟨rfl, Or.inl ((PyDict.lookup_isSome_iff _ _).1 (by rw [getter]; rfl))⟩
  | none =>
      rw [getter] at matched
      dsimp only at matched
      by_cases errors : query = Instrument.errorQuery
      · rw [if_pos errors] at matched
        left
        refine ⟨?_, Or.inr errors⟩
        cases matched
        show (d.popError i).2.values = d.values
        unfold Devices.popError
        split <;> rfl
      · rw [if_neg errors, matchSetters_eq, Option.map_map] at matched
        obtain ⟨s, found, made⟩ := Option.map_eq_some_iff.1 matched
        cases made
        right
        exact ⟨s, found, rfl, rfl⟩

/-- What native matching does: it answers and changes no property, or a setter writes
its one property and answers nothing. -/
theorem matchNative_cases {parser : Stringparser} {identity : Nat → Text} {random : Random}
    {i : Instrument} {query : Bytes} {decoded : Text} {d devices : Devices} {response : Response}
    (matched : d.matchNative parser identity random i query decoded =
      .ok (some (response, devices))) :
    (devices.values = d.values ∧
      ((∃ entry ∈ i.dialogues identity, entry.1 = query) ∨ (∃ entry ∈ i.getters, entry.1 = query) ∨
        query = Instrument.errorQuery)) ∨
    ∃ s, setting parser decoded i.setters = some s ∧ devices = d.set s.1 s.2 ∧
      response = none := by
  unfold Devices.matchNative at matched
  cases dialog : Devices.matchDialog identity random i query with
  | error e =>
      rw [dialog] at matched
      cases matched
  | ok answered =>
      rw [dialog] at matched
      cases answered with
      | some answer =>
          cases matched
          left
          refine ⟨rfl, Or.inl ((PyDict.lookup_isSome_iff _ _).1 ?_)⟩
          unfold Devices.matchDialog at dialog
          cases named : (i.dialogues identity).lookup query with
          | none =>
              rw [named] at dialog
              cases dialog
          | some r => rfl
      | none =>
          rcases matchTables_cases (Except.ok.inj matched) with ⟨same, listed⟩ | written
          · exact Or.inl ⟨same, Or.inr listed⟩
          · exact Or.inr written

/-- The queries an instrument's tables answer, by their bytes. -/
def Instrument.queries (i : Instrument) : List Bytes :=
  Instrument.errorQuery :: (i.dialogues fun _ => []).map Prod.fst ++ i.getters.map Prod.fst

theorem mem_queries {i : Instrument} {identity : Nat → Text} {query : Bytes}
    (listed : (∃ entry ∈ i.dialogues identity, entry.1 = query) ∨
      (∃ entry ∈ i.getters, entry.1 = query) ∨ query = Instrument.errorQuery) :
    query ∈ i.queries := by
  have keys : (i.dialogues identity).map Prod.fst = (i.dialogues fun _ => []).map Prod.fst := by
    cases i with
    | bench role => rfl
    | distractor n => rfl
  rw [Instrument.queries, List.cons_append, List.mem_cons, List.mem_append, ← keys]
  rcases listed with ⟨entry, listed, rfl⟩ | ⟨entry, listed, rfl⟩ | errors
  · exact Or.inr (Or.inl (List.mem_map_of_mem listed))
  · exact Or.inr (Or.inr (List.mem_map_of_mem listed))
  · exact Or.inl errors

theorem Devices.set_self (d : Devices) (p : Property) (value : p.kind.Value) :
    (d.set p value).values p = value := Function.update_self ..

/-- A property that native matching changes is the one the setter writes. -/
theorem matchNative_values {parser : Stringparser} {identity : Nat → Text} {random : Random}
    {i : Instrument} {query : Bytes} {decoded : Text} {d devices : Devices} {response : Response}
    (matched : d.matchNative parser identity random i query decoded =
      .ok (some (response, devices)))
    (p : Property) :
    devices.values p = d.values p ∨
      setting parser decoded i.setters = some ⟨p, devices.values p⟩ := by
  rcases matchNative_cases matched with ⟨same, -⟩ | ⟨s, found, rfl, -⟩
  · exact Or.inl (congrFun same p)
  · obtain ⟨q, value⟩ := s
    by_cases here : p = q
    · subst here
      right
      rw [found]
      rw [Devices.set_self]
    · left
      exact Function.update_of_ne here _ _

/-! ## The updates after a command -/

/-- `after_command` touches the devices only through the common commands. -/
theorem roleUpdate_devices {now : Int} {i : Instrument} {command : Text} {b updated : Bench}
    (run : roleUpdate now i command b = .ok updated) : updated.devices = b.devices := by
  cases i with
  | distractor n =>
      cases run
      rfl
  | bench role =>
      cases role with
      | psu =>
          cases run
          rfl
      | scope =>
          cases run
          rfl
      | switch =>
          simp only [roleUpdate] at run
          cases parsed : parseRoutes command with
          | error e =>
              simp only [parsed, Except.map] at run
              repeat' split at run
              all_goals first | (cases run; done) | (cases run; rfl)
          | ok routes =>
              simp only [parsed, Except.map] at run
              repeat' split at run
              all_goals (cases run; rfl)
      | awg =>
          simp only [roleUpdate] at run
          repeat' split at run
          all_goals first | (cases run; done) | (cases run; rfl)
      | dmm =>
          simp only [roleUpdate] at run
          repeat' split at run
          all_goals (cases run; rfl)

/-- What setting a list of properties to their defaults leaves. -/
theorem foldl_default_values (properties : List Property) (d : Devices) (p : Property) :
    (properties.foldl (fun (d : Devices) p => d.set p p.default) d).values p =
      if p ∈ properties then p.default else d.values p := by
  induction properties generalizing d with
  | nil => rfl
  | cons q rest ih =>
      rw [List.foldl_cons, ih]
      by_cases later : p ∈ rest
      · rw [if_pos later, if_pos (List.mem_cons_of_mem _ later)]
      · rw [if_neg later]
        by_cases here : p = q
        · subst here
          rw [if_pos List.mem_cons_self]
          exact Function.update_self ..
        · rw [if_neg (by simp [here, later])]
          exact Function.update_of_ne here _ _

/-- `*RST` restores the defaults of its role, and no other command changes a value. -/
theorem commonUpdate_values (i : Instrument) (command : Text) (b : Bench) (p : Property) :
    (commonUpdate i command b).devices.values p = b.devices.values p ∨
      upper command = txt "*RST" ∧ (∃ r, i = .bench r ∧ p ∈ r.resetProperties) ∧
        (commonUpdate i command b).devices.values p = p.default := by
  unfold commonUpdate
  by_cases reset : upper command = txt "*RST"
  · rw [if_pos reset]
    cases i with
    | distractor n => exact Or.inl rfl
    | bench role =>
        have devices : (resetRole role b).devices =
            role.resetProperties.foldl (fun (d : Devices) p => d.set p p.default) b.devices := by
          cases role <;> rfl
        show (resetRole role b).devices.values p = _ ∨ _
        rw [devices, foldl_default_values]
        by_cases restored : p ∈ role.resetProperties
        · right
          exact ⟨reset, ⟨role, rfl, restored⟩, if_pos restored⟩
        · left
          rw [if_neg restored]
  · rw [if_neg reset]
    left
    split <;> rfl

/-! ## One command -/

namespace Simulator

variable (sim : Simulator)

/-- A command is let through, and a table of its instrument takes it. -/
def CarriedOut (now : Int) (x : CommandContext) (b : Bench) (decoded : Text) : Prop :=
  decodeAscii x.command = some decoded ∧ ¬ sim.Refuses now x b decoded ∧
    Recognised sim.parser sim.spec.identity x.instrument x.command decoded

theorem onError_agrees (x : CommandContext) (command : Text) (code : Int) (message : Text)
    (b : Bench) : b.Agrees (sim.onError x command code message b).1 :=
  ⟨rfl, rfl, rfl, rfl, rfl, rfl⟩

/-- **What one command can do.**  Either it is not carried out and the bench agrees with
what it was, or the bench let it through as it stood and the devices matched it; then
the response cannot be computed, or the role's update follows. -/
theorem matchCommand_cases (digest : Text) (now : Int) (x : CommandContext) (b : Bench) :
    (b.Agrees (sim.matchCommand digest now x b).bench ∧
      ∀ response, (sim.matchCommand digest now x b).result ≠ .ok (some response)) ∨
    ∃ decoded response devices b₁, sim.CarriedOut now x b decoded ∧
      precondition sim.spec now b x.instrument (strip decoded) = .ok () ∧
      b.devices.matchNative sim.parser sim.spec.identity x.random x.instrument x.command decoded =
        .ok (some (response, devices)) ∧
      (b.withDevices devices).Agrees b₁ ∧
      ((∃ e, dynamicValue sim.spec now b₁ x.instrument (strip decoded) response = .error e ∧
          (sim.matchCommand digest now x b).result = .error e ∧
          b₁.Agrees (sim.matchCommand digest now x b).bench) ∨
        ∃ dynamic updated,
          dynamicValue sim.spec now b₁ x.instrument (strip decoded) response = .ok dynamic ∧
          roleUpdate now x.instrument (strip decoded) b₁ = .ok updated ∧
          (sim.matchCommand digest now x b).result = .ok (some dynamic) ∧
          (commonUpdate x.instrument (strip decoded) updated).Agrees
            (sim.matchCommand digest now x b).bench) := by
  have stored : b.Agrees (b.store x.id b.finalState) := ⟨rfl, rfl, rfl, rfl, rfl, rfl⟩
  cases decodes : decodeAscii x.command with
  | none =>
      left
      have made : sim.matchCommand digest now x b =
          ⟨b.store x.id b.finalState, [], .error .valueError⟩ := by
        simp only [matchCommand, beforeCommand, decodes]
      rw [made]
      exact ⟨stored, by intro response h; cases h⟩
  | some decoded =>
      by_cases strikes : transientStrikes sim.spec (b.store x.id b.finalState) x.instrument
          (strip decoded) = true
      · left
        simp only [matchCommand, beforeCommand, decodes, if_pos strikes, reject]
        refine ⟨?_, by intro response h; cases h⟩
        exact ⟨rfl, rfl, rfl, rfl, rfl, rfl⟩
      · cases checked : precondition sim.spec now (b.store x.id b.finalState) x.instrument
            (strip decoded) with
        | error e =>
            left
            obtain ⟨code, message, rfl⟩ := precondition_refuses checked
            simp only [matchCommand, beforeCommand, decodes, if_neg strikes, checked, Except.map]
            exact ⟨stored.trans (sim.onError_agrees ..), by intro response h; cases h⟩
        | ok _ =>
            have made : sim.matchCommand digest now x b =
                let m := sim.matchAccepted now x decoded (strip decoded)
                  (b.store x.id b.finalState)
                ⟨m.bench, .before digest (sim.spec.resourceName x.instrument) x.instrument.role
                  (strip decoded) b.finalState :: m.events, m.result⟩ := by
              simp only [matchCommand, beforeCommand, decodes, if_neg strikes, checked, Except.map,
                Option.getD_some, List.singleton_append]
            rw [made]
            dsimp only
            cases valid : validateNativeSetter sim.parser decoded x.instrument.setters with
            | error e =>
                left
                obtain ⟨code, message, rfl⟩ := validateNativeSetter_refuses valid
                simp only [matchAccepted, valid]
                exact ⟨stored.trans (sim.onError_agrees ..), by intro response h; cases h⟩
            | ok _ =>
                rcases matched : (b.store x.id b.finalState).devices.matchNative sim.parser
                    sim.spec.identity x.random x.instrument x.command decoded with e | found
                · left
                  simp only [matchAccepted, valid, matched]
                  exact ⟨stored, by intro response h; cases h⟩
                · cases found with
                  | none =>
                    left
                    simp only [matchAccepted, valid, matched]
                    exact ⟨stored, by intro response h; cases h⟩
                  | some found =>
                    obtain ⟨response, devices⟩ := found
                    right
                    have carried : sim.CarriedOut now x b decoded := by
                      refine ⟨decodes, ?_, ?_⟩
                      · rintro (struck | ⟨code, message, rejected⟩ | ⟨code, message, invalid⟩)
                        · exact strikes struck
                        · cases checked.symm.trans rejected
                        · cases valid.symm.trans invalid
                      · exact ((matchNative_found_iff sim x decoded
                          (b.store x.id b.finalState).devices).1 ⟨_, matched⟩).1
                    refine ⟨decoded, response, devices,
                      (b.store x.id b.finalState).withDevices devices, carried, checked, matched,
                      ⟨rfl, rfl, rfl, rfl, rfl, rfl⟩, ?_⟩
                    cases answered : dynamicValue sim.spec now
                        ((b.store x.id b.finalState).withDevices devices) x.instrument
                        (strip decoded) response with
                    | error e =>
                        left
                        simp only [matchAccepted, valid, matched, dynamicResponse, answered]
                        exact ⟨e, rfl, rfl, .refl _⟩
                    | ok dynamic =>
                        right
                        obtain ⟨updated, run, kept⟩ := roleUpdate_of_precondition checked
                          ((b.store x.id b.finalState).withDevices devices)
                        have held : (commonUpdate x.instrument (strip decoded)
                            updated).snapshots.lookup x.id = some b.finalState := by
                          rw [commonUpdate_snapshots, kept]
                          exact b.lookup_store x.id b.finalState
                        simp only [matchAccepted, valid, matched, dynamicResponse, answered,
                          afterCommand, run, held]
                        exact ⟨dynamic, updated, rfl, rfl, rfl, ⟨rfl, rfl, rfl, rfl, rfl, rfl⟩⟩

/-- **A property changes only to what its own instrument's setter writes, or to its
default.** -/
theorem matchCommand_values (digest : Text) (now : Int) (x : CommandContext) (b : Bench)
    (p : Property) :
    (sim.matchCommand digest now x b).bench.devices.values p = b.devices.values p ∨
      p ∈ x.instrument.setters.map Prod.fst ∧
        ((sim.matchCommand digest now x b).bench.devices.values p = p.default ∨
          ∃ decoded, sim.CarriedOut now x b decoded ∧
            setting sim.parser decoded x.instrument.setters =
              some ⟨p, (sim.matchCommand digest now x b).bench.devices.values p⟩) := by
  rcases sim.matchCommand_cases digest now x b with ⟨same, -⟩ | ⟨decoded, response, devices, b₁,
    carried, -, matched, before, outcome⟩
  · exact Or.inl (congrFun same.values p)
  · have start : b₁.devices.values p = b.devices.values p ∨
        setting sim.parser decoded x.instrument.setters = some ⟨p, b₁.devices.values p⟩ := by
      rw [before.values]
      exact matchNative_values matched p
    have write (kept : (sim.matchCommand digest now x b).bench.devices.values p =
        b₁.devices.values p) :
        (sim.matchCommand digest now x b).bench.devices.values p = b.devices.values p ∨
          p ∈ x.instrument.setters.map Prod.fst ∧
            ((sim.matchCommand digest now x b).bench.devices.values p = p.default ∨
              ∃ decoded, sim.CarriedOut now x b decoded ∧
                setting sim.parser decoded x.instrument.setters =
                  some ⟨p, (sim.matchCommand digest now x b).bench.devices.values p⟩) := by
      rw [kept]
      rcases start with same | found
      · exact Or.inl same
      · right
        obtain ⟨template, captured, listed, -⟩ := setting_some found
        exact ⟨List.mem_map_of_mem listed, Or.inr ⟨decoded, carried, found⟩⟩
    rcases outcome with ⟨e, -, -, after⟩ | ⟨dynamic, updated, -, run, -, after⟩
    · exact write (congrFun after.values p)
    · have final : (sim.matchCommand digest now x b).bench.devices.values p =
          (commonUpdate x.instrument (strip decoded) updated).devices.values p :=
        congrFun after.values p
      rcases commonUpdate_values x.instrument (strip decoded) updated p with same |
        ⟨-, ⟨role, here, restored⟩, reset⟩
      · apply write
        rw [final, same, roleUpdate_devices run]
      · right
        rw [here]
        refine ⟨?_, Or.inl (final.trans reset)⟩
        have setters : (Instrument.bench role).setters.map Prod.fst = role.resetProperties := by
          cases role <;> rfl
        rw [setters]
        exact restored

end Simulator

/-! ## Runs of the bench -/

/-- What happens to a bench: a command is delivered, the framing of a device moves its
queues and buffers, or the host forces the bench safe. -/
inductive BenchAction where
  | deliver (digest : Text) (now : Int) (x : CommandContext)
  | buffers (devices : Devices)
  | forceSafe

/-- One action on the bench. -/
def BenchAction.apply (sim : Simulator) : BenchAction → Bench → Bench
  | .deliver digest now x, b => (sim.matchCommand digest now x b).bench
  | .buffers devices, b => b.withDevices { devices with values := b.devices.values }
  | .forceSafe, b => Visa.forceSafe b

/-- The bench after `actions`, from the bench of its world. -/
def Simulator.benchAfter (sim : Simulator) (actions : List BenchAction) : Bench :=
  actions.foldl (fun b action => action.apply sim b) (.initial sim.spec)

namespace Simulator

variable (sim : Simulator)

@[simp]
theorem benchAfter_nil : sim.benchAfter [] = .initial sim.spec := rfl

@[simp]
theorem benchAfter_concat (actions : List BenchAction) (action : BenchAction) :
    sim.benchAfter (actions ++ [action]) = action.apply sim (sim.benchAfter actions) := by
  unfold benchAfter
  rw [List.foldl_append]
  rfl

theorem buffers_agrees (devices : Devices) (b : Bench) :
    b.Agrees ((BenchAction.buffers devices).apply sim b) :=
  ⟨rfl, rfl, rfl, rfl, rfl, rfl⟩

end Simulator

end InstrumentBench.Visa
