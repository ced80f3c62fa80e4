/-
# Gateway.World -- the shared physical state of the gateway's bench

`DUTWorld` is what the five instruments of the gateway's simulator act on: closed
routes, the supply, the stimulus and a clock that only the gateway advances.  An
instrument reaches it through semantic actions (`apply`), each of which checks its
arguments before it assigns anything, and reads it through samples and snapshots.
-/
import InstrumentBench.Theory.PyDict
import InstrumentBench.Theory.PyText
import InstrumentBench.Theory.Sha256

namespace InstrumentBench.Gateway

set_option autoImplicit false

open InstrumentBench.Theory InstrumentBench.Theory.PyText

/-! ## Exceptions -/

/-- An exception, by what its handlers distinguish: `CommandError`,
`WorldStateError`, `ValueError`, `KeyError` and everything no handler names. -/
inductive Fault where
  | command (message : Text)
  | worldState (message : Text)
  | value (message : Text)
  | key (argument : Text)
  | other (typeName : Text)
deriving DecidableEq

/-! ## Worlds -/

/-- The roles of the bench, in the order `InstrumentRack` builds their models. -/
inductive Role where
  | psu
  | switch
  | awg
  | scope
  | dmm
deriving DecidableEq

def Role.name : Role → Text
  | .psu => txt "psu"
  | .switch => txt "switch"
  | .awg => txt "awg"
  | .scope => txt "scope"
  | .dmm => txt "dmm"

/-- What the rack and the gateway read of a `WorldSpec`. -/
structure WorldSpec where
  worldId : Text
  seed : Int
  gain : Float
  offsetV : Float
  dmmNoiseV : Float
  scopeNoiseV : Float
  settleMs : Int
  requiredRoutes : List Text
  dmmFormat : Text
  binaryLengthDigits : Nat
  initialPsuOutput : Bool
  initialAwgOutput : Bool
  initialClosedRoutes : List Text
  resourceMap : List (Role × Text)
  distractors : List (Text × Text)
  transientErrorRole : Option Text
  /-- `transient_error_command.upper()`: the command is only compared in upper case -/
  transientErrorCommand : Option Text
  transientErrorCount : Int

namespace WorldSpec

/-- `WorldSpec.nominal` -/
def nominal (seed : Int) : WorldSpec where
  worldId := txt "nominal"
  seed
  gain := 2.0
  offsetV := 0.0
  dmmNoiseV := 0.001
  scopeNoiseV := 0.002
  settleMs := 250
  requiredRoutes := [txt "1101", txt "1102"]
  dmmFormat := txt "decimal"
  binaryLengthDigits := 2
  initialPsuOutput := false
  initialAwgOutput := false
  initialClosedRoutes := []
  resourceMap :=
    [(.psu, txt "TCPIP0::192.0.2.10::inst0::INSTR"), (.switch, txt "GPIB0::9::INSTR"),
     (.awg, txt "USB0::0x0957::0x2C07::MY000001::0::INSTR"),
     (.scope, txt "TCPIP0::192.0.2.20::inst0::INSTR"),
     (.dmm, txt "USB0::0x05E6::0x7510::MY000002::0::INSTR")]
  distractors := []
  transientErrorRole := none
  transientErrorCommand := none
  transientErrorCount := 0

/-- `_validate`: what a world directory is accepted with. -/
structure Accepted (spec : WorldSpec) : Prop where
  roles : ∀ r : Role, r ∈ spec.resourceMap.map Prod.fst
  five : spec.resourceMap.length = 5
  unique : (spec.resourceMap.map Prod.snd ++ spec.distractors.map Prod.fst).Nodup
  few : spec.distractors.length ≤ 3
  format : spec.dmmFormat = txt "decimal" ∨ spec.dmmFormat = txt "scientific"
  digits : 1 ≤ spec.binaryLengthDigits ∧ spec.binaryLengthDigits ≤ 3
  settle : 1 ≤ spec.settleMs

end WorldSpec

/-- `WorldSnapshot` -/
structure WorldSnapshot where
  clockMs : Int
  closedRoutes : List Text
  psuVoltageV : Float
  psuOutput : Bool
  awgWaveformName : Option Text
  awgPoints : List Float
  awgAmplitudeVpp : Float
  awgOutput : Bool
  stimulusStartedMs : Option Int
  safe : Bool

/-- `DUTWorld` -/
structure DUTWorld where
  clockMs : Int
  closedRoutes : List Text
  psuVoltageV : Float
  psuOutput : Bool
  awgWaveformName : Option Text
  awgPoints : List Float
  awgAmplitudeVpp : Float
  awgOutput : Bool
  stimulusStartedMs : Option Int
  sessionReopens : List (Text × Nat)

namespace DUTWorld

/-- `DUTWorld(spec)` -/
def new (spec : WorldSpec) : DUTWorld where
  clockMs := 0
  closedRoutes := spec.initialClosedRoutes.dedup
  psuVoltageV := 0.0
  psuOutput := spec.initialPsuOutput
  awgWaveformName := none
  awgPoints := []
  awgAmplitudeVpp := 0.0
  awgOutput := spec.initialAwgOutput
  stimulusStartedMs := if spec.initialAwgOutput then some 0 else none
  sessionReopens := []

/-- `advance_ms` -/
def advanceMs (milliseconds : Nat) (w : DUTWorld) : DUTWorld :=
  { w with clockMs := w.clockMs + milliseconds }

/-- `note_session_reopen` -/
def noteSessionReopen (role : Text) (w : DUTWorld) : DUTWorld :=
  { w with
    sessionReopens :=
      PyDict.set role ((w.sessionReopens.lookup role).getD 0 + 1) w.sessionReopens }

def snapshot (w : DUTWorld) : WorldSnapshot where
  clockMs := w.clockMs
  closedRoutes := sorted w.closedRoutes
  psuVoltageV := w.psuVoltageV
  psuOutput := w.psuOutput
  awgWaveformName := w.awgWaveformName
  awgPoints := w.awgPoints
  awgAmplitudeVpp := w.awgAmplitudeVpp
  awgOutput := w.awgOutput
  stimulusStartedMs := w.stimulusStartedMs
  safe := !w.awgOutput && !w.psuOutput && w.closedRoutes.isEmpty

end DUTWorld

/-! ## Semantic actions -/

/-- `SemanticAction`, with the arguments the instruments pass. -/
inductive SemanticAction where
  | switchClose (routes : List Text)
  | switchOpen (routes : List Text)
  | switchOpenAll
  | psuConfigure (voltageV : Float)
  | psuOutput (enabled : Bool)
  | awgWaveform (name : Text) (points : List Float) (amplitudeVpp : Float)
  | awgOutput (enabled : Bool)

namespace DUTWorld

/-- `str.isdigit()` of ASCII text. -/
def isDigits (t : Text) : Bool := !t.isEmpty && t.all fun c => (digitOf? c).isSome

/-- `_routes` -/
def routes (arguments : List Text) : Except Fault (List Text) :=
  if arguments.isEmpty then .error (.value (txt "routes must be a non-empty sequence"))
  else if arguments.all isDigits then .ok arguments
  else .error (.value (txt "route identifiers must contain only digits"))

def closeRoutes (arguments : List Text) (w : DUTWorld) : Except Fault DUTWorld :=
  if w.psuOutput || w.awgOutput then
    .error (.worldState (txt "source outputs must be disabled before closing routes"))
  else (routes arguments).map fun closed => { w with closedRoutes := w.closedRoutes ∪ closed }

def openRoutes (arguments : List Text) (w : DUTWorld) : Except Fault DUTWorld :=
  (routes arguments).map fun opened =>
    { w with closedRoutes := w.closedRoutes.filter fun route => !opened.contains route }

def configurePsu (voltage : Float) (w : DUTWorld) : Except Fault DUTWorld :=
  if 0.0 ≤ voltage ∧ voltage ≤ 6.0 then .ok { w with psuVoltageV := voltage }
  else .error (.value (txt "PSU voltage must be between 0 and 6 V"))

def setPsuOutput (enabled : Bool) (w : DUTWorld) : Except Fault DUTWorld :=
  if enabled ∧ w.psuVoltageV ≤ 0 then
    .error (.worldState (txt "power cannot be enabled before voltage configuration"))
  else .ok { w with psuOutput := enabled }

def setAwgWaveform (name : Text) (points : List Float) (amplitude : Float) (w : DUTWorld) :
    Except Fault DUTWorld :=
  if name.isEmpty then .error (.value (txt "waveform name is required"))
  else if points.length < 2 then
    .error (.value (txt "waveform points must contain at least two values"))
  else if amplitude ≤ 0 then .error (.value (txt "amplitude_vpp must be positive"))
  else
    .ok { w with
      awgWaveformName := some name, awgPoints := points, awgAmplitudeVpp := amplitude }

def setAwgOutput (enabled : Bool) (w : DUTWorld) : Except Fault DUTWorld :=
  if enabled ∧ w.awgPoints = [] then
    .error (.worldState (txt "stimulus waveform must be configured first"))
  else
    .ok { w with
      awgOutput := enabled, stimulusStartedMs := if enabled then some w.clockMs else none }

def apply : SemanticAction → DUTWorld → Except Fault DUTWorld
  | .switchClose routes => closeRoutes routes
  | .switchOpen routes => openRoutes routes
  | .switchOpenAll => fun w => .ok { w with closedRoutes := [] }
  | .psuConfigure voltage => configurePsu voltage
  | .psuOutput enabled => setPsuOutput enabled
  | .awgWaveform name points amplitude => setAwgWaveform name points amplitude
  | .awgOutput enabled => setAwgOutput enabled

/-- Switching an output off is never refused. -/
theorem apply_psuOutput_false (w : DUTWorld) :
    w.apply (.psuOutput false) = .ok { w with psuOutput := false } := rfl

theorem apply_awgOutput_false (w : DUTWorld) :
    w.apply (.awgOutput false) =
      .ok { w with awgOutput := false, stimulusStartedMs := none } := rfl

/-- A stored stimulus can be switched on. -/
theorem apply_awgOutput_true {w : DUTWorld} (stored : w.awgPoints ≠ []) :
    w.apply (.awgOutput true) =
      .ok { w with awgOutput := true, stimulusStartedMs := some w.clockMs } := by
  show (if _ then _ else _) = _
  rw [if_neg (by simp [stored])]
  rfl

/-! ## Samples -/

/-- `_require_ready` -/
def requireReady (spec : WorldSpec) (w : DUTWorld) : Except Fault Unit :=
  if ¬ spec.requiredRoutes.all (w.closedRoutes.contains ·) then
    .error (.worldState (txt "required DUT route is open"))
  else if ¬ w.psuOutput then .error (.worldState (txt "DUT power is disabled"))
  else if ¬ w.awgOutput ∨ w.awgPoints = [] then
    .error (.worldState (txt "stimulus is disabled"))
  else
    match w.stimulusStartedMs with
    | none => .error (.worldState (txt "DUT has not settled"))
    | some started =>
        if w.clockMs - started < spec.settleMs then
          .error (.worldState (txt "DUT has not settled"))
        else .ok ()

/-- `_noise` -/
def noise (spec : WorldSpec) (channel : Text) (index : Nat) (amplitude : Float) : Float :=
  if amplitude == 0 then 0.0
  else
    let material := encodeUtf8 (intText spec.seed ++ txt ":" ++ channel ++ txt ":" ++ natText index)
    let digest := Sha256.digest material
    let unit := intDivide (digest.a.toNat * 2 ^ 32 + digest.b.toNat) (2 ^ 64 - 1)
    (2.0 * unit - 1.0) * amplitude

/-- `_ideal_samples` -/
def idealSamples (spec : WorldSpec) (w : DUTWorld) : List Float :=
  w.awgPoints.map fun point => spec.offsetV + spec.gain * point

def noisySamples (spec : WorldSpec) (channel : Text) (amplitude : Float) (w : DUTWorld) :
    Except Fault (List Float) :=
  (w.requireReady spec).map fun _ =>
    (w.idealSamples spec).zipIdx.map fun (value, index) =>
      value + noise spec channel index amplitude

def dmmSamples (spec : WorldSpec) (w : DUTWorld) : Except Fault (List Float) :=
  w.noisySamples spec (txt "dmm") spec.dmmNoiseV

def scopeSamples (spec : WorldSpec) (w : DUTWorld) : Except Fault (List Float) :=
  w.noisySamples spec (txt "scope") spec.scopeNoiseV

end DUTWorld

end InstrumentBench.Gateway
