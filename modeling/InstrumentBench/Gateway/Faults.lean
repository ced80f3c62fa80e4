/-
# Gateway.Faults -- what escapes an exchange

`exchange` turns the refusals of a handler into a `CommandError`, and `KeyError` is
handled further up.  What is left over escapes both: the `UnicodeEncodeError` of an
identity outside ASCII and the `OverflowError` of a curve with an infinite sample
(`Fails`).  The third encoder, of the error queue, cannot fail: every message that is
queued is ASCII (`QueueAscii`).
-/
import InstrumentBench.Gateway.Handlers

namespace InstrumentBench.Gateway

set_option autoImplicit false

open InstrumentBench.Theory InstrumentBench.Theory.PyText Outcome

/-! ## Handlers -/

/-- The oscilloscope is asked for a curve with a sample that scales to infinity, and no
sample before it scales to a NaN. -/
def CurveOverflows (spec : WorldSpec) (text : Text) (w : DUTWorld) : Prop :=
  upper text = txt "CURVE?" ∧ ∃ values, w.scopeSamples spec = .ok values ∧
    values.mapM ScopeModel.curveCode = .error (.other (txt "OverflowError"))

/-- What a handler can raise: a refusal, the `KeyError` of a waveform, or the overflow
of a curve. -/
inductive HandlerFault (spec : WorldSpec) (text : Text) (i : Instrument) (w : DUTWorld) :
    Fault → Prop
  | refusal {fault : Fault} (refusal : fault.Refusal) : HandlerFault spec text i w fault
  | missing (name : Text) : HandlerFault spec text i w (.key name)
  | overflow (scope : i = .bench .scope) (overflows : CurveOverflows spec text w) :
      HandlerFault spec text i w (.other (txt "OverflowError"))

theorem Instrument.handle_fault (spec : WorldSpec) {text : Text} (plain : Ascii text)
    (trimmed : Trimmed text) (i : Instrument) (m : i.Fields) (w : DUTWorld) {fault : Fault}
    (raised : (i.handle spec text m w).result = .error fault) :
    HandlerFault spec text i w fault := by
  cases i with
  | bench role =>
      cases role with
      | psu =>
          change (PSUModel.handle text m w).result = .error fault at raised
          have ended := PSUModel.handled plain trimmed m w
          generalize PSUModel.handle text m w = o at ended raised
          cases ended with
          | refused refusal => cases raised; exact .refusal refusal
          | overwritten _ refusal => cases raised; exact .refusal refusal
          | _ => cases raised
      | switch =>
          change (SwitchModel.handle text m w).result = .error fault at raised
          have ended := SwitchModel.handled plain m w
          generalize SwitchModel.handle text m w = o at ended raised
          cases ended with
          | refused refusal => cases raised; exact .refusal refusal
          | _ => cases raised
      | awg =>
          change (AWGModel.handle spec text m w).result = .error fault at raised
          have ended := AWGModel.handled spec plain trimmed m w
          generalize AWGModel.handle spec text m w = o at ended raised
          cases ended with
          | refused refusal => cases raised; exact .refusal refusal
          | overwritten _ refusal => cases raised; exact .refusal refusal
          | missing name => cases raised; exact .missing name
          | _ => cases raised
      | scope =>
          change (ScopeModel.handle spec text m w).result = .error fault at raised
          have ended := ScopeModel.handled spec plain trimmed m w
          generalize ScopeModel.handle spec text m w = o at ended raised
          cases ended with
          | refused refusal => cases raised; exact .refusal refusal
          | overflowed asked values read infinite =>
              cases raised
              exact .overflow rfl ⟨asked, values, read, infinite⟩
          | _ => cases raised
      | dmm =>
          change (DMMModel.handle spec text m w).result = .error fault at raised
          have ended := DMMModel.handled spec plain trimmed m w
          generalize DMMModel.handle spec text m w = o at ended raised
          cases ended with
          | refused refusal => cases raised; exact .refusal refusal
          | overwritten _ refusal => cases raised; exact .refusal refusal
          | _ => cases raised
  | distractor =>
      cases raised
      exact .refusal (refusal_undefined plain)

theorem ScopeModel.handle_overflow {spec : WorldSpec} {text : Text} {w : DUTWorld}
    (overflows : CurveOverflows spec text w) (m : ScopeModel) :
    (handle spec text m w).result = .error (.other (txt "OverflowError")) := by
  obtain ⟨asked, values, read, infinite⟩ := overflows
  unfold handle
  dsimp only
  rw [asked, if_neg (by decide), if_neg (by decide), if_neg (by decide), if_neg (by decide),
    if_neg (by decide), if_neg (by decide), if_neg (by decide), if_pos rfl, read]
  simp only [bind, Except.bind, infinite]
  rfl

/-! ## Exchanges -/

/-- Every queued message is ASCII. -/
def QueueAscii {i : Instrument} (m : InstrumentModel i) : Prop :=
  ∀ entry ∈ m.errors, Ascii entry.2

/-- The command fails in the instrument, and not as a rejection. -/
def Fails (spec : WorldSpec) {i : Instrument} (command : Bytes) (_ : InstrumentModel i)
    (w : DUTWorld) : Prop :=
  ∃ decoded, decodeAscii command = some decoded ∧
    ((upper (strip decoded) = txt "*IDN?" ∧ ¬ Ascii (i.identity spec)) ∨
      (i = .bench .scope ∧ CurveOverflows spec (strip decoded) w))

/-- How an exchange ends: it returns, rejects, or raises what the gateway handles, or
fails. -/
inductive ExchangeResult (fails : Prop) : Except Fault Response → Prop
  | returned (response : Response) (sound : ¬ fails) : ExchangeResult fails (.ok response)
  | rejected (message : Text) (sound : ¬ fails) : ExchangeResult fails (.error (.command message))
  | missing (name : Text) (sound : ¬ fails) : ExchangeResult fails (.error (.key name))
  | escaped (typeName : Text) (failed : fails) : ExchangeResult fails (.error (.other typeName))

section Exchange

variable {spec : WorldSpec} {i : Instrument} {command : Bytes} {m : InstrumentModel i}
  {w : DUTWorld} {decoded : Text}

theorem fails_iff (read : decodeAscii command = some decoded) :
    Fails spec command m w ↔
      (upper (strip decoded) = txt "*IDN?" ∧ ¬ Ascii (i.identity spec)) ∨
        (i = .bench .scope ∧ CurveOverflows spec (strip decoded) w) := by
  unfold Fails
  rw [read]
  simp

/-- A command other than the two never fails. -/
theorem not_fails (read : decodeAscii command = some decoded)
    (idn : upper (strip decoded) ≠ txt "*IDN?") (curve : upper (strip decoded) ≠ txt "CURVE?") :
    ¬ Fails spec command m w := by
  rw [fails_iff read]
  rintro (⟨asked, -⟩ | ⟨-, asked, -⟩)
  · exact idn asked
  · exact curve asked

/-- The commands left to the handler. -/
theorem exchangeOwn_result (read : decodeAscii command = some decoded)
    (idn : upper (strip decoded) ≠ txt "*IDN?") (queued : QueueAscii m) :
    QueueAscii (m.exchangeOwn spec (strip decoded) w).model ∧
      ExchangeResult (Fails spec command m w) (m.exchangeOwn spec (strip decoded) w).result := by
  have fault : ∀ fault, (i.handle spec (strip decoded) m.fields w).result = .error fault →
      HandlerFault spec (strip decoded) i w fault := by
    intro fault raised
    exact Instrument.handle_fault spec (ascii_strip read) (trimmed_strip decoded) i m.fields w raised
  have overflow : Fails spec command m w →
      (i.handle spec (strip decoded) m.fields w).result = .error (.other (txt "OverflowError")) := by
    rw [fails_iff read]
    rintro (⟨asked, -⟩ | ⟨rfl, overflows⟩)
    · exact absurd asked idn
    · exact ScopeModel.handle_overflow overflows m.fields
  unfold InstrumentModel.exchangeOwn
  dsimp only
  generalize i.handle spec (strip decoded) m.fields w = called at fault overflow ⊢
  obtain ⟨fields, world, result⟩ := called
  cases result with
  | ok response =>
      refine ⟨queued, .returned response ?_⟩
      intro failed
      cases overflow failed
  | error raised =>
      have kind := fault raised rfl
      have sound : raised ≠ .other (txt "OverflowError") → ¬ Fails spec command m w := by
        intro other failed
        exact other (Except.error.inj (overflow failed))
      cases kind with
      | refusal refusal =>
          obtain ⟨message, refused, plain⟩ := refusal
          simp only [refused]
          refine ⟨?_, .rejected message (sound ?_)⟩
          · intro entry member
            rcases List.mem_append.1 member with old | new
            · exact queued entry old
            · cases List.mem_singleton.1 new
              exact plain
          · rintro rfl
            cases refused
      | missing name => exact ⟨queued, .missing name (sound (by simp))⟩
      | overflow scope overflows =>
          refine ⟨queued, .escaped _ ?_⟩
          rw [fails_iff read]
          exact .inr ⟨scope, overflows⟩

/-- **An exchange keeps its queue ASCII, and escapes its handlers exactly where the
command fails.** -/
theorem exchange_result (queued : QueueAscii m) :
    QueueAscii (m.exchange spec command w).model ∧
      ExchangeResult (Fails spec command m w) (m.exchange spec command w).result := by
  unfold InstrumentModel.exchange
  cases read : decodeAscii command with
  | none =>
      refine ⟨?_, .rejected _ ?_⟩
      · intro entry member
        rcases List.mem_append.1 member with old | new
        · exact queued entry old
        · cases List.mem_singleton.1 new
          decide
      · rintro ⟨decoded, given, -⟩
        rw [read] at given
        cases given
  | some decoded =>
      dsimp only
      by_cases idn : upper (strip decoded) = txt "*IDN?"
      · rw [if_pos idn]
        by_cases plain : Ascii (i.identity spec)
        · have whole : Ascii (i.identity spec ++ txt "\n") := ascii_append.2 ⟨plain, by decide⟩
          rw [encodeAscii_of_ascii whole]
          refine ⟨queued, .returned _ ?_⟩
          rw [fails_iff read]
          rintro (⟨-, outside⟩ | ⟨-, asked, -⟩)
          · exact outside plain
          · rw [idn] at asked
            revert asked
            decide
        · have outside : encodeAscii (i.identity spec ++ txt "\n") = none :=
            if_neg fun whole => plain (ascii_append.1 whole).1
          rw [outside]
          refine ⟨queued, .escaped _ ?_⟩
          rw [fails_iff read]
          exact .inl ⟨idn, plain⟩
      rw [if_neg idn]
      by_cases cls : upper (strip decoded) = txt "*CLS"
      · rw [if_pos cls]
        refine ⟨?_, .returned _ (not_fails read idn (by rw [cls]; decide))⟩
        intro entry member
        cases member
      rw [if_neg cls]
      by_cases rst : upper (strip decoded) = txt "*RST"
      · rw [if_pos rst]
        dsimp only
        rw [reset_result]
        exact ⟨queued, .returned _ (not_fails read idn (by rw [rst]; decide))⟩
      rw [if_neg rst]
      by_cases err : upper (strip decoded) = txt "SYST:ERR?"
      · rw [if_pos err]
        have sound : ¬ Fails spec command m w := not_fails read idn (by rw [err]; decide)
        cases errors : m.errors with
        | nil => exact ⟨queued, .returned _ sound⟩
        | cons entry rest =>
            obtain ⟨code, message⟩ := entry
            have plain : Ascii (intText code ++ txt ",\"" ++ message ++ txt "\"\n") := by
              have number : Ascii (intText code) := by
                unfold intText
                split
                · exact ascii_append.2 ⟨by decide, (graphic_digitText _).ascii⟩
                · exact (graphic_digitText _).ascii
              have text : Ascii message := queued (code, message) (by rw [errors]; simp)
              simp only [ascii_append]
              exact ⟨⟨⟨number, by decide⟩, text⟩, by decide⟩
            simp only [encodeAscii_of_ascii plain]
            refine ⟨?_, .returned _ sound⟩
            intro other member
            exact queued other (by rw [errors]; exact List.mem_cons_of_mem _ member)
      rw [if_neg err]
      exact exchangeOwn_result read idn queued

end Exchange

/-! ## Writes to the rack -/

namespace InstrumentRack

def QueuesAscii (rack : InstrumentRack) : Prop := ∀ i, QueueAscii (rack.models i)

theorem new_queuesAscii (spec : WorldSpec) : (new spec).QueuesAscii := by
  intro i entry member
  cases member

/-- The command reaches an instrument of the rack and fails there. -/
def WriteFails (spec : WorldSpec) (resource : Text) (payload : Bytes) (rack : InstrumentRack) :
    Prop :=
  ∃ i, spec.instruments.lookup resource = some i ∧
    rack.transientStrikes spec i payload = false ∧ Fails spec payload (rack.models i) rack.world

/-- **What a write raises besides a rejection and a `KeyError` is a failure of the
instrument.** -/
theorem write_result (spec : WorldSpec) {rack : InstrumentRack} (queued : rack.QueuesAscii)
    (resource : Text) (payload : Bytes) :
    (rack.write spec resource payload).1.QueuesAscii ∧
      ExchangeResult (rack.WriteFails spec resource payload)
        (rack.write spec resource payload).2 := by
  unfold write
  cases known : spec.instruments.lookup resource with
  | none =>
      refine ⟨queued, .missing _ ?_⟩
      rintro ⟨i, found, -⟩
      rw [known] at found
      cases found
  | some i =>
      dsimp only
      have fails_iff : rack.transientStrikes spec i payload = false →
          (rack.WriteFails spec resource payload ↔
            Fails spec payload (rack.models i) rack.world) := by
        intro spared
        unfold WriteFails
        rw [known]
        constructor
        · rintro ⟨j, found, -, failed⟩
          cases found
          exact failed
        · intro failed
          exact ⟨i, rfl, spared, failed⟩
      by_cases strikes : rack.transientStrikes spec i payload = true
      · rw [if_pos strikes]
        refine ⟨queued, .rejected _ ?_⟩
        rintro ⟨j, found, spared, -⟩
        cases known.symm.trans found
        rw [strikes] at spared
        cases spared
      · rw [if_neg strikes]
        have ended : QueueAscii ((rack.models i).exchange spec payload rack.world).model ∧
            ExchangeResult (Fails spec payload (rack.models i) rack.world)
              ((rack.models i).exchange spec payload rack.world).result :=
          exchange_result (queued i)
        obtain ⟨still, result⟩ := ended
        constructor
        · intro j
          by_cases same : j = i
          · subst same
            show QueueAscii (Function.update rack.models j _ j)
            rw [Function.update_self]
            exact still
          · show QueueAscii (Function.update rack.models i _ j)
            rw [Function.update_of_ne same]
            exact queued j
        · rw [fails_iff (Bool.eq_false_iff.2 strikes)]
          exact result

end InstrumentRack

end InstrumentBench.Gateway
