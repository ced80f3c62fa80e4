/-
# Gateway.Atomicity -- when a rejected command changes nothing

`exchange` rejects a command with a `CommandError`.  The world checks before it
assigns, and so do the handlers, except three: the supply's and the generator's
`VOLT` and the multimeter's `SAMP:COUN` store the value before they check it.

* `exchange_atomic_iff`: a rejected command leaves the fields of its model and the
  world as they were exactly when it is not one of these three with a value that is
  out of range and differs from the one the model holds;
* `rejected_voltage_stays`: the supply keeps a voltage it has rejected.
-/
import InstrumentBench.Gateway.Handlers

namespace InstrumentBench.Gateway

set_option autoImplicit false

open InstrumentBench.Theory InstrumentBench.Theory.PyText Outcome

/-! ## The property and its condition -/

/-- The call raised `CommandError`. -/
def Outcome.Rejected {σ : Type} (o : Outcome σ) : Prop :=
  ∃ message, o.result = .error (.command message)

/-- If the model rejects the command, every field but the error queue and the whole
world are as before it. -/
def Atomic (spec : WorldSpec) {i : Instrument} (command : Bytes) (m : InstrumentModel i)
    (w : DUTWorld) : Prop :=
  (m.exchange spec command w).Rejected →
    (m.exchange spec command w).model.fields = m.fields ∧
      (m.exchange spec command w).world = w

/-- The text writes a field with a value that its range check refuses and that the
field does not hold already. -/
def OverwritesText (text : Text) : (i : Instrument) → i.Fields → Prop
  | .bench .psu => fun m =>
      startsWith "VOLT " (upper text) = true ∧
        ∃ voltage, (argument text >>= parseFloat) = .ok voltage ∧
          ¬(0.0 ≤ voltage ∧ voltage ≤ 6.0) ∧ voltage ≠ m.voltage
  | .bench .awg => fun m =>
      startsWith "VOLT " (upper text) = true ∧
        ∃ amplitude, (argument text >>= parseFloat) = .ok amplitude ∧
          amplitude ≤ 0 ∧ amplitude ≠ m.amplitudeVpp
  | .bench .dmm => fun m =>
      startsWith "SAMP:COUN " (upper text) = true ∧
        ∃ count, (argument text >>= parseInt) = .ok count ∧ count < 1 ∧ count ≠ m.sampleCount
  | .bench .switch | .bench .scope | .distractor _ => fun _ => False

/-- The command is ASCII text that overwrites a field. -/
def Overwrites {i : Instrument} (command : Bytes) (m : InstrumentModel i) : Prop :=
  ∃ decoded, decodeAscii command = some decoded ∧ OverwritesText (strip decoded) i m.fields

/-! ## Handlers -/

/-- A refused step that went nowhere. -/
def Kept {σ : Type} (m : σ) (w : DUTWorld) (o : Outcome σ) : Prop :=
  (∃ fault message, fault.rejected? = some message ∧ o.result = .error fault) →
    o.model = m ∧ o.world = w

section Kept

variable {σ : Type} {m m' : σ} {w w' : DUTWorld} {fault : Fault} {response : Bytes}

theorem kept_done : Kept m w (done m' w') := by
  rintro ⟨fault, message, -, raised⟩
  cases raised

theorem kept_answer : Kept m w (answer m' w' response) := by
  rintro ⟨fault, message, -, raised⟩
  cases raised

theorem kept_raise : Kept m w (raise m w fault) := fun _ => ⟨rfl, rfl⟩

/-- A refusal that leaves another model is no kept step. -/
theorem kept_raise_iff (refusal : fault.Refusal) : Kept m w (raise m' w fault) ↔ m' = m := by
  constructor
  · intro kept
    obtain ⟨message, known, -⟩ := refusal
    exact (kept ⟨fault, message, known, rfl⟩).1
  · rintro rfl
    exact kept_raise

end Kept

/-- Text that starts with one header does not start with another. -/
theorem not_startsWith {a b : String} {t : Text} (given : startsWith a t = true)
    (apart : ¬ txt a <+: txt b ∧ ¬ txt b <+: txt a) : startsWith b t = false := by
  rw [Bool.eq_false_iff]
  intro other
  have left : txt a <+: t := List.isPrefixOf_iff_prefix.1 given
  have right : txt b <+: t := List.isPrefixOf_iff_prefix.1 other
  exact (List.prefix_or_prefix_of_prefix left right).elim apart.1 apart.2

/-- **A handler's refusal is atomic exactly where nothing is overwritten.** -/
theorem PSUModel.kept_iff {text : Text} (plain : Ascii text) (trimmed : Trimmed text)
    (m : PSUModel) (w : DUTWorld) :
    Kept m w (handle text m w) ↔ ¬ OverwritesText text (.bench .psu) m := by
  constructor
  · rintro kept ⟨given, voltage, read, outside, other⟩
    have stored : handle text m w = raise { m with voltage } w
        (.value (txt "PSU voltage must be between 0 and 6 V")) := by
      unfold handle
      dsimp only
      rw [if_neg (by simp [not_startsWith given (b := "INST:NSEL ") (by decide)]),
        if_pos given, read, eval_ok]
      have applied : w.apply (.psuConfigure voltage) =
          .error (.value (txt "PSU voltage must be between 0 and 6 V")) := if_neg outside
      rw [applying, applied, eval_error]
    rw [stored, kept_raise_iff (refusal_value (by decide))] at kept
    exact other (congrArg PSUModel.voltage kept)
  · intro clean
    have ended := handled plain trimmed m w
    generalize handle text m w = outcome at ended ⊢
    cases ended with
    | answered => exact kept_answer
    | refused => exact kept_raise
    | selected => exact kept_done
    | configured => exact kept_done
    | switched => exact kept_done
    | overwritten voltage refusal given read outside =>
        have same : voltage = m.voltage := by
          by_contra other
          exact clean ⟨given, voltage, read, outside, other⟩
        rw [kept_raise_iff refusal, same]

theorem AWGModel.kept_iff (spec : WorldSpec) {text : Text} (plain : Ascii text)
    (trimmed : Trimmed text) (m : AWGModel) (w : DUTWorld) :
    Kept m w (handle spec text m w) ↔ ¬ OverwritesText text (.bench .awg) m := by
  constructor
  · rintro kept ⟨given, amplitudeVpp, read, outside, other⟩
    have stored : handle spec text m w = raise { m with amplitudeVpp } w
        (.command (txt "amplitude must be positive")) := by
      unfold handle
      dsimp only
      rw [if_neg (by simp [not_startsWith given (b := "DATA:ARB ") (by decide)]),
        if_neg (by simp [not_startsWith given (b := "FUNC:ARB ") (by decide)]),
        if_neg (by simp [not_startsWith given (b := "VOLT:OFFS ") (by decide)]),
        if_pos given, read, eval_ok, if_pos outside]
      rfl
    rw [stored, kept_raise_iff (refusal_command (by decide))] at kept
    exact other (congrArg AWGModel.amplitudeVpp kept)
  · intro clean
    have ended := handled spec plain trimmed m w
    generalize handle spec text m w = outcome at ended ⊢
    cases ended with
    | answered => exact kept_answer
    | refused => exact kept_raise
    | missing => exact kept_raise
    | uploaded => exact kept_done
    | selected => exact kept_done
    | shifted => exact kept_done
    | scaled => exact kept_done
    | started => exact kept_done
    | stopped => exact kept_done
    | overwritten amplitudeVpp refusal given read outside =>
        have same : amplitudeVpp = m.amplitudeVpp := by
          by_contra other
          exact clean ⟨given, amplitudeVpp, read, outside, other⟩
        rw [kept_raise_iff refusal, same]

theorem DMMModel.kept_iff (spec : WorldSpec) {text : Text} (plain : Ascii text)
    (trimmed : Trimmed text) (m : DMMModel) (w : DUTWorld) :
    Kept m w (handle spec text m w) ↔ ¬ OverwritesText text (.bench .dmm) m := by
  constructor
  · rintro kept ⟨given, sampleCount, read, outside, other⟩
    have stored : handle spec text m w = raise { m with sampleCount } w
        (.command (txt "sample count must be positive")) := by
      have notConfigure : ¬(upper text = txt "CONF:VOLT:DC" ∨
          upper text = txt "CONF:VOLT:DC AUTO") := by
        rintro (exactly | exactly) <;> rw [exactly] at given <;> revert given <;> decide
      unfold handle
      dsimp only
      rw [if_neg notConfigure,
        if_neg (by simp [not_startsWith given (b := "VOLT:DC:RANG ") (by decide)]),
        if_pos given, read, eval_ok, if_pos outside]
      rfl
    rw [stored, kept_raise_iff (refusal_command (by decide))] at kept
    exact other (congrArg DMMModel.sampleCount kept)
  · intro clean
    have ended := handled spec plain trimmed m w
    generalize handle spec text m w = outcome at ended ⊢
    cases ended with
    | measured => exact kept_answer
    | refused => exact kept_raise
    | configured => exact kept_done
    | ranged => exact kept_done
    | counted => exact kept_done
    | initiated => exact kept_done
    | overwritten sampleCount refusal given read outside =>
        have same : sampleCount = m.sampleCount := by
          by_contra other
          exact clean ⟨given, sampleCount, read, outside, other⟩
        rw [kept_raise_iff refusal, same]

theorem SwitchModel.kept {text : Text} (plain : Ascii text) (m : SwitchModel) (w : DUTWorld) :
    Kept m w (handle text m w) := by
  have ended := handled plain m w
  generalize handle text m w = outcome at ended ⊢
  cases ended with
  | answered => exact kept_answer
  | refused => exact kept_raise
  | routed => exact kept_done

theorem ScopeModel.kept (spec : WorldSpec) {text : Text} (plain : Ascii text)
    (trimmed : Trimmed text) (m : ScopeModel) (w : DUTWorld) : Kept m w (handle spec text m w) := by
  have ended := handled spec plain trimmed m w
  generalize handle spec text m w = outcome at ended ⊢
  cases ended with
  | answered => exact kept_answer
  | refused => exact kept_raise
  | sourced => exact kept_done
  | encoded => exact kept_done
  | widened => exact kept_done
  | overflowed => exact kept_raise

theorem Instrument.kept_iff (spec : WorldSpec) {text : Text} (plain : Ascii text)
    (trimmed : Trimmed text) (i : Instrument) (m : i.Fields) (w : DUTWorld) :
    Kept m w (i.handle spec text m w) ↔ ¬ OverwritesText text i m := by
  cases i with
  | bench role =>
      cases role with
      | psu => exact PSUModel.kept_iff plain trimmed m w
      | switch => exact iff_of_true (SwitchModel.kept plain m w) not_false
      | awg => exact AWGModel.kept_iff spec plain trimmed m w
      | scope => exact iff_of_true (ScopeModel.kept spec plain trimmed m w) not_false
      | dmm => exact DMMModel.kept_iff spec plain trimmed m w
  | distractor => exact iff_of_true kept_raise not_false

/-! ## Exchanges -/

/-- No common command overwrites anything. -/
theorem not_overwrites_common {text : Text} {i : Instrument} {m : i.Fields}
    (common : upper text = txt "*IDN?" ∨ upper text = txt "*CLS" ∨ upper text = txt "*RST" ∨
      upper text = txt "SYST:ERR?") : ¬ OverwritesText text i m := by
  have apart : startsWith "VOLT " (upper text) = false ∧
      startsWith "SAMP:COUN " (upper text) = false := by
    rcases common with given | given | given | given <;> rw [given] <;> decide
  intro overwrites
  cases i with
  | bench role =>
      cases role with
      | psu => exact absurd overwrites.1 (by simp [apart.1])
      | switch => exact overwrites
      | awg => exact absurd overwrites.1 (by simp [apart.1])
      | scope => exact overwrites
      | dmm => exact absurd overwrites.1 (by simp [apart.2])
  | distractor => exact overwrites

/-- A command a class leaves to its `handle` is atomic where the handler is. -/
theorem exchangeOwn_atomic_iff (spec : WorldSpec) {i : Instrument} (text : Text)
    (m : InstrumentModel i) (w : DUTWorld) :
    ((m.exchangeOwn spec text w).Rejected →
      (m.exchangeOwn spec text w).model.fields = m.fields ∧
        (m.exchangeOwn spec text w).world = w) ↔
      Kept m.fields w (i.handle spec text m.fields w) := by
  unfold InstrumentModel.exchangeOwn Kept
  generalize i.handle spec text m.fields w = called
  obtain ⟨model, world, result⟩ := called
  cases result with
  | ok response =>
      constructor
      · rintro - ⟨fault, message, -, raised⟩
        cases raised
      · rintro - ⟨message, raised⟩
        cases raised
  | error fault =>
      cases refused : fault.rejected? with
      | some message =>
          simp only [refused]
          constructor
          · intro atomic _
            exact atomic ⟨message, rfl⟩
          · intro kept _
            exact kept ⟨fault, message, refused, rfl⟩
      | none =>
          simp only [refused]
          constructor
          · rintro - ⟨fault', message, known, raised⟩
            cases raised
            rw [refused] at known
            cases known
          · rintro - ⟨message, raised⟩
            cases raised
            cases refused

/-- **A rejected command is atomic exactly when it overwrites no field.** -/
theorem exchange_atomic_iff (spec : WorldSpec) {i : Instrument} (command : Bytes)
    (m : InstrumentModel i) (w : DUTWorld) :
    Atomic spec command m w ↔ ¬ Overwrites command m := by
  unfold Atomic Overwrites InstrumentModel.exchange
  cases decoded : decodeAscii command with
  | none =>
      refine iff_of_true (fun _ => ⟨rfl, rfl⟩) ?_
      rintro ⟨text, given, -⟩
      cases given
  | some text =>
      have own : (¬ ∃ other, some text = some other ∧ OverwritesText (strip other) i m.fields) ↔
          ¬ OverwritesText (strip text) i m.fields := by
        simp
      rw [own]
      dsimp only
      by_cases idn : upper (strip text) = txt "*IDN?"
      · refine iff_of_true ?_ (not_overwrites_common (.inl idn))
        rw [if_pos idn]
        split <;> (rintro ⟨message, raised⟩; cases raised)
      rw [if_neg idn]
      by_cases cls : upper (strip text) = txt "*CLS"
      · refine iff_of_true ?_ (not_overwrites_common (.inr (.inl cls)))
        rw [if_pos cls]
        rintro ⟨message, raised⟩
        cases raised
      rw [if_neg cls]
      by_cases rst : upper (strip text) = txt "*RST"
      · refine iff_of_true ?_ (not_overwrites_common (.inr (.inr (.inl rst))))
        rw [if_pos rst]
        rintro ⟨message, raised⟩
        rw [reset_result] at raised
        cases raised
      rw [if_neg rst]
      by_cases err : upper (strip text) = txt "SYST:ERR?"
      · refine iff_of_true ?_ (not_overwrites_common (.inr (.inr (.inr err))))
        rw [if_pos err]
        split
        · rintro ⟨message, raised⟩
          cases raised
        · split <;> (rintro ⟨message, raised⟩; cases raised)
      rw [if_neg err, exchangeOwn_atomic_iff,
        Instrument.kept_iff spec (ascii_strip decoded) (trimmed_strip text)]

/-- The supply rejects seven volts, and holds seven volts afterwards. -/
theorem rejected_voltage_stays :
    ¬ Atomic (.nominal 1) (ascii "VOLT 7") ((InstrumentRack.new (.nominal 1)).models (.bench .psu))
      (DUTWorld.new (.nominal 1)) := by
  intro atomic
  have kept := (atomic ⟨txt "PSU voltage must be between 0 and 6 V", by decide⟩).1
  revert kept
  have voltage : (((InstrumentRack.new (.nominal 1)).models (.bench .psu)).exchange (.nominal 1)
      (ascii "VOLT 7") (DUTWorld.new (.nominal 1))).model.fields.voltage = 7.0 := by
    decide
  intro kept
  rw [kept] at voltage
  revert voltage
  decide

end InstrumentBench.Gateway
