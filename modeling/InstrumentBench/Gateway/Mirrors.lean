/-
# Gateway.Mirrors -- the quantities that are stored twice

The supply model keeps its voltage and output state beside the world's, and the
generator model its output state.  `OUTP?` and `VOLT?` answer from the model, the
measurements come from the world.

* `mirrors_always_iff`: the two agree in every state of a run exactly when the world starts
  with both outputs off, the supply never rejects a voltage it does not hold, and
  `force_safe` finds both outputs off;
* `forced_output_stays`: after `force_safe` the supply still reports its output on.
-/
import InstrumentBench.Theory.Run
import InstrumentBench.Gateway.Atomicity

namespace InstrumentBench.Gateway

set_option autoImplicit false

open InstrumentBench.Theory InstrumentBench.Theory.PyText Outcome

/-! ## What an exchange leaves -/

/-- How an exchange ends: nothing but the error queue moves, the class is reset, or
its handler runs. -/
inductive Exchanged (spec : WorldSpec) {i : Instrument} (command : Bytes)
    (m : InstrumentModel i) (w : DUTWorld) : i.Fields → DUTWorld → Prop
  | kept (clean : ¬ Overwrites command m) : Exchanged spec command m w m.fields w
  | reset (clean : ¬ Overwrites command m) :
      Exchanged spec command m w (i.reset m.fields w).model (i.reset m.fields w).world
  | handled (text : Text) (plain : Ascii text) (trimmed : Trimmed text)
      (own : Overwrites command m ↔ OverwritesText text i m.fields) :
      Exchanged spec command m w (i.handle spec text m.fields w).model
        (i.handle spec text m.fields w).world

theorem overwrites_iff {i : Instrument} {command : Bytes} {m : InstrumentModel i} {text : Text}
    (decoded : decodeAscii command = some text) :
    Overwrites command m ↔ OverwritesText (strip text) i m.fields := by
  unfold Overwrites
  rw [decoded]
  simp

theorem exchange_cases (spec : WorldSpec) {i : Instrument} (command : Bytes)
    (m : InstrumentModel i) (w : DUTWorld) :
    Exchanged spec command m w (m.exchange spec command w).model.fields
      (m.exchange spec command w).world := by
  unfold InstrumentModel.exchange
  cases decoded : decodeAscii command with
  | none =>
      apply Exchanged.kept
      rintro ⟨text, given, -⟩
      rw [decoded] at given
      cases given
  | some text =>
      have common := fun named =>
        (not_congr (overwrites_iff (m := m) decoded)).2 (not_overwrites_common named)
      dsimp only
      by_cases idn : upper (strip text) = txt "*IDN?"
      · rw [if_pos idn]
        split <;> exact .kept (common (.inl idn))
      rw [if_neg idn]
      by_cases cls : upper (strip text) = txt "*CLS"
      · rw [if_pos cls]
        exact .kept (common (.inr (.inl cls)))
      rw [if_neg cls]
      by_cases rst : upper (strip text) = txt "*RST"
      · rw [if_pos rst]
        exact .reset (common (.inr (.inr (.inl rst))))
      rw [if_neg rst]
      by_cases err : upper (strip text) = txt "SYST:ERR?"
      · rw [if_pos err]
        have clean := common (.inr (.inr (.inr err)))
        split
        · exact .kept clean
        · split <;> exact .kept clean
      rw [if_neg err]
      have ended : (m.exchangeOwn spec (strip text) w).model.fields =
            (i.handle spec (strip text) m.fields w).model ∧
          (m.exchangeOwn spec (strip text) w).world =
            (i.handle spec (strip text) m.fields w).world := by
        unfold InstrumentModel.exchangeOwn
        dsimp only
        split
        · exact ⟨rfl, rfl⟩
        · split <;> exact ⟨rfl, rfl⟩
      rw [ended.1, ended.2]
      exact .handled (strip text) (ascii_strip decoded) (trimmed_strip text)
        (overwrites_iff decoded)

/-! ## Agreement -/

/-- The supply's copy agrees with the world. -/
def PSUModel.Mirrors (m : PSUModel) (w : DUTWorld) : Prop :=
  m.voltage = w.psuVoltageV ∧ m.output = w.psuOutput

/-- The generator's copy agrees with the world. -/
def AWGModel.Mirrors (m : AWGModel) (w : DUTWorld) : Prop := m.output = w.awgOutput

/-- The supply fields of two worlds are the same. -/
structure SameSupply (w w' : DUTWorld) : Prop where
  voltage : w'.psuVoltageV = w.psuVoltageV
  output : w'.psuOutput = w.psuOutput

theorem SameSupply.refl (w : DUTWorld) : SameSupply w w := ⟨rfl, rfl⟩

theorem SameSupply.mirrors {w w' : DUTWorld} (same : SameSupply w w') {m : PSUModel}
    (mirrors : m.Mirrors w) : m.Mirrors w' :=
  ⟨mirrors.1.trans same.voltage.symm, mirrors.2.trans same.output.symm⟩

/-- **A supply command keeps the agreement exactly where it overwrites nothing.** -/
theorem PSUModel.mirrors_iff {command : Bytes} {spec : WorldSpec}
    {m : InstrumentModel (.bench .psu)} {w w' : DUTWorld} {fields : Instrument.Fields (.bench .psu)}
    (mirrors : PSUModel.Mirrors m.fields w) (ended : Exchanged spec command m w fields w') :
    (PSUModel.Mirrors fields w' ↔ ¬ Overwrites command m) ∧ w'.awgOutput = w.awgOutput := by
  cases ended with
  | kept clean => exact ⟨iff_of_true mirrors clean, rfl⟩
  | reset clean =>
      have cleared : Mirrors (PSUModel.reset m.fields w).model (PSUModel.reset m.fields w).world ∧
          (PSUModel.reset m.fields w).world.awgOutput = w.awgOutput := by
        unfold reset
        dsimp only
        cases on : w.psuOutput with
        | true =>
            rw [if_pos rfl]
            exact ⟨⟨rfl, rfl⟩, rfl⟩
        | false =>
            rw [if_neg (by simp)]
            exact ⟨⟨rfl, on.symm⟩, rfl⟩
      exact ⟨iff_of_true cleared.1 clean, cleared.2⟩
  | handled text plain trimmed own =>
      rw [own]
      have ended := PSUModel.handled plain trimmed m.fields w
      show (Mirrors (handle text m.fields w).model (handle text m.fields w).world ↔ _) ∧
        (handle text m.fields w).world.awgOutput = w.awgOutput
      have clean : ∀ {o : Outcome PSUModel}, handle text m.fields w = o → o.model.Mirrors o.world →
          Kept m.fields w o →
          (o.model.Mirrors o.world ↔ ¬ OverwritesText text (.bench .psu) m.fields) := by
        intro o is still kept
        refine iff_of_true still ?_
        rw [← PSUModel.kept_iff plain trimmed m.fields w, is]
        exact kept
      generalize is : handle text m.fields w = o at ended ⊢
      cases ended with
      | answered => exact ⟨clean is mirrors kept_answer, rfl⟩
      | refused => exact ⟨clean is mirrors kept_raise, rfl⟩
      | selected => exact ⟨clean is mirrors kept_done, rfl⟩
      | configured voltage => exact ⟨clean is ⟨rfl, mirrors.2⟩ kept_done, rfl⟩
      | switched enabled => exact ⟨clean is ⟨mirrors.1, rfl⟩ kept_done, rfl⟩
      | overwritten voltage refusal given read outside =>
          refine ⟨?_, rfl⟩
          rw [← PSUModel.kept_iff plain trimmed m.fields w, is, kept_raise_iff refusal]
          constructor
          · intro agrees
            have same : voltage = m.fields.voltage := agrees.1.trans mirrors.1.symm
            rw [same]
          · intro same
            show Mirrors { m.fields with voltage } w
            rw [same]
            exact mirrors

/-- A generator command keeps its agreement, whatever it is. -/
theorem AWGModel.mirrors {command : Bytes} {spec : WorldSpec}
    {m : InstrumentModel (.bench .awg)} {w w' : DUTWorld} {fields : Instrument.Fields (.bench .awg)}
    (mirrors : AWGModel.Mirrors m.fields w) (ended : Exchanged spec command m w fields w') :
    AWGModel.Mirrors fields w' ∧ SameSupply w w' := by
  cases ended with
  | kept => exact ⟨mirrors, .refl w⟩
  | reset =>
      show Mirrors (AWGModel.reset m.fields w).model (AWGModel.reset m.fields w).world ∧
        SameSupply w (AWGModel.reset m.fields w).world
      unfold reset
      split
      case isTrue => exact ⟨rfl, ⟨rfl, rfl⟩⟩
      case isFalse off => exact ⟨(Bool.eq_false_iff.2 off).symm, .refl w⟩
  | handled text plain trimmed own =>
      have ended := AWGModel.handled spec plain trimmed m.fields w
      show Mirrors (handle spec text m.fields w).model (handle spec text m.fields w).world ∧
        SameSupply w (handle spec text m.fields w).world
      generalize handle spec text m.fields w = o at ended ⊢
      cases ended with
      | started => exact ⟨rfl, ⟨rfl, rfl⟩⟩
      | stopped => exact ⟨rfl, ⟨rfl, rfl⟩⟩
      | _ => exact ⟨mirrors, .refl w⟩

/-- The other instruments leave both sources alone. -/
theorem sources_kept {spec : WorldSpec} {i : Instrument} (psu : i ≠ .bench .psu)
    (awg : i ≠ .bench .awg) {command : Bytes} {m : InstrumentModel i} {w w' : DUTWorld}
    {fields : i.Fields} (ended : Exchanged spec command m w fields w') :
    SameSupply w w' ∧ w'.awgOutput = w.awgOutput := by
  cases ended with
  | kept => exact ⟨.refl w, rfl⟩
  | reset =>
      cases i with
      | bench role =>
          cases role with
          | psu => exact absurd rfl psu
          | awg => exact absurd rfl awg
          | _ => exact ⟨⟨rfl, rfl⟩, rfl⟩
      | distractor => exact ⟨⟨rfl, rfl⟩, rfl⟩
  | handled text plain trimmed own =>
      cases i with
      | bench role =>
          cases role with
          | psu => exact absurd rfl psu
          | awg => exact absurd rfl awg
          | switch =>
              have ended := SwitchModel.handled plain m.fields w
              show SameSupply w (SwitchModel.handle text m.fields w).world ∧
                (SwitchModel.handle text m.fields w).world.awgOutput = w.awgOutput
              generalize SwitchModel.handle text m.fields w = o at ended ⊢
              cases ended <;> exact ⟨⟨rfl, rfl⟩, rfl⟩
          | scope =>
              have ended := ScopeModel.handled spec plain trimmed m.fields w
              show SameSupply w (ScopeModel.handle spec text m.fields w).world ∧
                (ScopeModel.handle spec text m.fields w).world.awgOutput = w.awgOutput
              generalize ScopeModel.handle spec text m.fields w = o at ended ⊢
              cases ended <;> exact ⟨⟨rfl, rfl⟩, rfl⟩
          | dmm =>
              have ended := DMMModel.handled spec plain trimmed m.fields w
              show SameSupply w (DMMModel.handle spec text m.fields w).world ∧
                (DMMModel.handle spec text m.fields w).world.awgOutput = w.awgOutput
              generalize DMMModel.handle spec text m.fields w = o at ended ⊢
              cases ended <;> exact ⟨⟨rfl, rfl⟩, rfl⟩
      | distractor => exact ⟨⟨rfl, rfl⟩, rfl⟩

/-! ## Runs of the rack -/

/-- What is done to a rack: commands, the safety shutdown, and the gateway's two
accesses to the world. -/
inductive RackAction where
  | write (resource : Text) (payload : Bytes)
  | forceSafe
  | advance (milliseconds : Nat)
  | noteReopen (role : Text)

namespace InstrumentRack

def step (spec : WorldSpec) (rack : InstrumentRack) : RackAction → InstrumentRack
  | .write resource payload => (rack.write spec resource payload).1
  | .forceSafe =>
      match rack.forceSafe with
      | .ok safe => safe
      | .error _ => rack
  | .advance milliseconds => { rack with world := rack.world.advanceMs milliseconds }
  | .noteReopen role => { rack with world := rack.world.noteSessionReopen role }

/-- The supply and the generator agree with the world. -/
def Mirrors (rack : InstrumentRack) : Prop :=
  PSUModel.Mirrors (rack.models (.bench .psu)).fields rack.world ∧
    AWGModel.Mirrors (rack.models (.bench .awg)).fields rack.world

/-- The action is no supply command that overwrites the voltage, and no shutdown of
an output that is on. -/
def Conforms (spec : WorldSpec) (rack : InstrumentRack) : RackAction → Prop
  | .write resource payload =>
      spec.instruments.lookup resource = some (.bench .psu) →
        rack.transientStrikes spec (.bench .psu) payload = false →
          ¬ Overwrites payload (rack.models (.bench .psu))
  | .forceSafe => rack.world.psuOutput = false ∧ rack.world.awgOutput = false
  | .advance _ | .noteReopen _ => True

theorem exchange_models_of_ne (spec : WorldSpec) {i j : Instrument} (other : j ≠ i)
    (payload : Bytes) (rack : InstrumentRack) :
    (rack.exchange spec i payload).1.models j = rack.models j :=
  Function.update_of_ne other _ _

theorem exchange_models_self (spec : WorldSpec) (i : Instrument) (payload : Bytes)
    (rack : InstrumentRack) :
    (rack.exchange spec i payload).1.models i =
      ((rack.models i).exchange spec payload rack.world).model :=
  Function.update_self _ _ _

/-- One exchange keeps the agreement exactly where the supply overwrites nothing. -/
theorem exchange_mirrors_iff (spec : WorldSpec) (i : Instrument) (payload : Bytes)
    {rack : InstrumentRack} (mirrors : rack.Mirrors) :
    (rack.exchange spec i payload).1.Mirrors ↔
      (i = .bench .psu → ¬ Overwrites payload (rack.models (.bench .psu))) := by
  have ended := exchange_cases spec payload (rack.models i) rack.world
  unfold Mirrors
  by_cases psu : i = .bench .psu
  · subst psu
    obtain ⟨agrees, awg⟩ := PSUModel.mirrors_iff mirrors.1 ended
    rw [exchange_models_self, exchange_models_of_ne spec (by decide)]
    constructor
    · rintro ⟨still, -⟩ -
      exact agrees.1 still
    · intro clean
      exact ⟨agrees.2 (clean rfl), mirrors.2.trans awg.symm⟩
  · refine iff_of_true ?_ (fun same => absurd same psu)
    by_cases awg : i = .bench .awg
    · subst awg
      obtain ⟨agrees, supply⟩ := AWGModel.mirrors mirrors.2 ended
      rw [exchange_models_self, exchange_models_of_ne spec (by decide)]
      exact ⟨supply.mirrors mirrors.1, agrees⟩
    · obtain ⟨supply, generator⟩ := sources_kept psu awg ended
      rw [exchange_models_of_ne spec (Ne.symm psu), exchange_models_of_ne spec (Ne.symm awg)]
      exact ⟨supply.mirrors mirrors.1, mirrors.2.trans generator.symm⟩

/-- What the safety shutdown leaves: outputs off in the world, the models untouched. -/
theorem forceSafe_ok (rack : InstrumentRack) :
    ∃ w, rack.forceSafe = .ok { rack with world := w } ∧ w.psuOutput = false ∧
      w.awgOutput = false ∧ w.psuVoltageV = rack.world.psuVoltageV := by
  obtain ⟨w, models, remaining⟩ := rack
  unfold forceSafe
  by_cases routes : (sorted w.closedRoutes).isEmpty = true <;>
    cases awg : w.awgOutput <;> cases psu : w.psuOutput <;>
    (simp only [DUTWorld.snapshot, awg, psu, routes, bind, Except.bind, pure, Except.pure, if_true,
      Bool.false_eq_true, if_false, DUTWorld.apply_awgOutput_false,
      DUTWorld.apply_psuOutput_false]
     exact ⟨_, rfl, by simp [psu], by simp [awg], rfl⟩)

/-- **A step keeps the agreement exactly where it conforms.** -/
theorem step_mirrors_iff (spec : WorldSpec) (rack : InstrumentRack) (action : RackAction)
    (mirrors : rack.Mirrors) : (rack.step spec action).Mirrors ↔ rack.Conforms spec action := by
  cases action with
  | write resource payload =>
      show (rack.write spec resource payload).1.Mirrors ↔ (_ → _)
      unfold write
      cases known : spec.instruments.lookup resource with
      | none => exact iff_of_true mirrors (fun h => by cases h)
      | some i =>
          dsimp only
          by_cases strikes : rack.transientStrikes spec i payload = true
          · rw [if_pos strikes]
            refine iff_of_true mirrors ?_
            intro psu spared
            cases psu
            rw [strikes] at spared
            cases spared
          · rw [if_neg strikes, exchange_mirrors_iff spec i payload mirrors]
            constructor
            · intro clean psu _
              exact clean (Option.some.inj psu)
            · rintro clean rfl
              exact clean rfl (Bool.eq_false_iff.2 strikes)
  | forceSafe =>
      obtain ⟨w, safe, psu, awg, voltage⟩ := forceSafe_ok rack
      show (match rack.forceSafe with | .ok safe => safe | .error _ => rack).Mirrors ↔
        rack.world.psuOutput = false ∧ rack.world.awgOutput = false
      rw [safe]
      show ((_ = w.psuVoltageV ∧ _ = w.psuOutput) ∧ _ = w.awgOutput) ↔ _
      rw [psu, awg, voltage, mirrors.1.1, mirrors.1.2, mirrors.2]
      simp
  | advance milliseconds => exact iff_of_true mirrors trivial
  | noteReopen role => exact iff_of_true mirrors trivial

end InstrumentRack

/-- The world starts with both outputs off. -/
def WorldSpec.StartsOff (spec : WorldSpec) : Prop :=
  spec.initialPsuOutput = false ∧ spec.initialAwgOutput = false

theorem InstrumentRack.new_mirrors_iff (spec : WorldSpec) :
    (new spec).Mirrors ↔ spec.StartsOff := by
  show ((0.0 : Float) = 0.0 ∧ false = spec.initialPsuOutput) ∧ false = spec.initialAwgOutput ↔ _
  unfold WorldSpec.StartsOff
  rw [eq_comm (a := false), eq_comm (a := false)]
  simp

/-- **The mirrors agree in every state of a run exactly when the world starts with both
outputs off and every action conforms.** -/
theorem mirrors_always_iff (spec : WorldSpec) (run : List RackAction) :
    (∀ done, done <+: run →
      (done.foldl (InstrumentRack.step spec) (InstrumentRack.new spec)).Mirrors) ↔
      spec.StartsOff ∧
        Along (InstrumentRack.step spec) (InstrumentRack.Conforms spec) (InstrumentRack.new spec)
          run := by
  rw [← InstrumentRack.new_mirrors_iff]
  constructor
  · intro always
    have start := always [] List.nil_prefix
    exact ⟨start, (Along.always_iff (InstrumentRack.step_mirrors_iff spec) start).1 always⟩
  · rintro ⟨start, along⟩
    exact (Along.always_iff (InstrumentRack.step_mirrors_iff spec) start).2 along

/-- The supply is switched on and the bench is made safe: the world's output is off,
the supply model still reports it on. -/
theorem forced_output_stays :
    ¬ ∀ done, done <+: [RackAction.write (txt "TCPIP0::192.0.2.10::inst0::INSTR") (ascii "VOLT 5"),
        .write (txt "TCPIP0::192.0.2.10::inst0::INSTR") (ascii "OUTP ON"), .forceSafe] →
      (done.foldl (InstrumentRack.step (.nominal 1)) (InstrumentRack.new (.nominal 1))).Mirrors := by
  intro always
  have agrees := (always _ (List.prefix_refl _)).1.2
  revert agrees
  decide +kernel

end InstrumentBench.Gateway
