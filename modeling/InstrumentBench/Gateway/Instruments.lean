/-
# Gateway.Instruments -- the five instrument models and the rack

An `InstrumentModel` exchanges one command for a response: the common commands are
its own, every other command goes to the `handle` of its class.  A handler can raise
half way, so what a call leaves is kept beside its result (`Outcome`): the fields of
the model and the shared world as they stand when it returns or raises.

`InstrumentRack` holds one model for each role and one for each distractor over a
single world.
-/
import Mathlib.Logic.Function.Basic
import InstrumentBench.Theory.Json
import InstrumentBench.Gateway.World

namespace InstrumentBench.Gateway

set_option autoImplicit false

open InstrumentBench.Theory InstrumentBench.Theory.PyText

/-! ## Error texts -/

/-- A character as `repr` escapes it inside the given quotes.  `printable` is the
interpreter's table of printable characters outside ASCII. -/
def reprChar (printable : CodePoint → Bool) (quote : Char) (c : CodePoint) : Text :=
  let n := c.val
  if c = CodePoint.ofChar quote ∨ c = CodePoint.ofChar '\\' then [CodePoint.ofChar '\\', c]
  else if c = CodePoint.ofChar '\n' then txt "\\n"
  else if c = CodePoint.ofChar '\r' then txt "\\r"
  else if c = CodePoint.ofChar '\t' then txt "\\t"
  else if (0x20 ≤ n ∧ n < 0x7F) ∨ (0x7F < n ∧ printable c) then [c]
  else if n < 0x100 then txt "\\x" ++ [Json.hexDigit (n / 16), Json.hexDigit n]
  else if n < 0x10000 then txt "\\u" ++ Json.hex4 n
  else txt "\\U" ++ Json.hex4 (n / 65536) ++ Json.hex4 n

/-- `repr(text)` -/
def repr (printable : CodePoint → Bool) (t : Text) : Text :=
  let quote :=
    if t.contains (CodePoint.ofChar '\'') && !t.contains (CodePoint.ofChar '"') then '"' else '\''
  [CodePoint.ofChar quote] ++ t.flatMap (reprChar printable quote) ++ [CodePoint.ofChar quote]

/-- `repr` of ASCII text, which no table decides. -/
def reprAscii : Text → Text := repr fun _ => false

/-- `float(text)` -/
def parseFloat (t : Text) : Except Fault Float :=
  match float? t with
  | some x => .ok x
  | none => .error (.value (txt "could not convert string to float: " ++ reprAscii t))

/-- `sys.get_int_max_str_digits()` -/
def maxStrDigits : Nat := 4300

/-- The digits `int` scans before anything else can be wrong with the text. -/
def scannedDigits (t : Text) : Nat :=
  let body := (signed (strip t)).2
  ((dropUnderscores false
    (body.takeWhile fun c => (digitOf? c).isSome || c = CodePoint.ofChar '_')).getD []).length

/-- `int(text)` -/
def parseInt (t : Text) : Except Fault Int :=
  if maxStrDigits < scannedDigits t then
    .error (.value (txt "Exceeds the limit (4300 digits) for integer string conversion: value has "
      ++ natText (scannedDigits t)
      ++ txt " digits; use sys.set_int_max_str_digits() to increase the limit"))
  else
    match int? t with
    | some n => .ok n
    | none =>
        .error (.value (txt "invalid literal for int() with base 10: " ++ (reprAscii t).take 200))

/-- `text.split(None, 1)[1]` -/
def argument (t : Text) : Except Fault Text :=
  match secondWord t with
  | some rest => .ok rest
  | none => .error (.other (txt "IndexError"))

def commandError {α : Type} (message : Text) : Except Fault α := .error (.command message)

def startsWith (pre : String) (t : Text) : Bool := (txt pre).isPrefixOf t

/-- `_parse_bool` -/
def parseBool (value : Text) : Except Fault Bool :=
  let normalized := upper (strip value)
  if normalized = txt "1" ∨ normalized = txt "ON" then .ok true
  else if normalized = txt "0" ∨ normalized = txt "OFF" then .ok false
  else commandError (txt "invalid boolean " ++ reprAscii value)

/-- `[0-9,\s]` -/
def isRouteChar (c : CodePoint) : Bool :=
  (digitOf? c).isSome || c = CodePoint.ofChar ',' || isSpace c

/-- The group of `\(@([0-9,\s]+)\)` where the pattern matches at the start. -/
def routeGroup (t : Text) : Option Text :=
  match t with
  | p :: a :: rest =>
      if p = CodePoint.ofChar '(' ∧ a = CodePoint.ofChar '@' then
        match rest.takeWhile isRouteChar, rest.dropWhile isRouteChar with
        | [], _ => none
        | _, [] => none
        | group, c :: _ => if c = CodePoint.ofChar ')' then some group else none
      else none
  | _ => none

def searchRoutes : Text → Option Text
  | [] => none
  | c :: t =>
      match routeGroup (c :: t) with
      | some group => some group
      | none => searchRoutes t

/-- `_parse_routes` -/
def parseRoutes (t : Text) : Except Fault (List Text) :=
  match searchRoutes t with
  | none => commandError (txt "route list must use (@channel,...) syntax")
  | some group =>
      let routes := (group.splitOn (CodePoint.ofChar ',')).map strip
      if routes.all DUTWorld.isDigits then .ok routes
      else commandError (txt "route values must be numeric")

/-- The name and the points of a `DATA:ARB` command. -/
def parseWaveform (t : Text) : Except Fault (Text × List Float) := do
  let body ← argument t
  match splitOnce (CodePoint.ofChar ',') body with
  | none => .error (.value (txt "not enough values to unpack (expected 2, got 1)"))
  | some (name, rawPoints) =>
      let points ← (rawPoints.splitOn (CodePoint.ofChar ',')).mapM parseFloat
      if points.length < 2 then
        commandError (txt "arbitrary waveform needs at least two points")
      else pure (upper name, points)

/-! ## What a call leaves -/

/-- A response; `none` is a command that answers nothing. -/
abbrev Response := Option Bytes

/-- The model and the world as a call leaves them, and its result. -/
structure Outcome (σ : Type) where
  model : σ
  world : DUTWorld
  result : Except Fault Response

namespace Outcome

variable {σ : Type}

/-- `return None` -/
def done (m : σ) (w : DUTWorld) : Outcome σ := ⟨m, w, .ok none⟩

def answer (m : σ) (w : DUTWorld) (response : Bytes) : Outcome σ := ⟨m, w, .ok (some response)⟩

def raise (m : σ) (w : DUTWorld) (fault : Fault) : Outcome σ := ⟨m, w, .error fault⟩

/-- `raise CommandError(message)` -/
def reject (m : σ) (w : DUTWorld) (message : Text) : Outcome σ := raise m w (.command message)

/-- Evaluate an expression that changes nothing, and go on with its value. -/
def eval {α : Type} (m : σ) (w : DUTWorld) (x : Except Fault α) (next : α → Outcome σ) :
    Outcome σ :=
  match x with
  | .error fault => raise m w fault
  | .ok a => next a

/-- `self.world.apply(action)`, and go on in the world it leaves. -/
def applying (m : σ) (w : DUTWorld) (action : SemanticAction) (next : DUTWorld → Outcome σ) :
    Outcome σ :=
  eval m w (w.apply action) next

end Outcome

open Outcome

/-- The base class's `handle`. -/
def undefinedHeader {σ : Type} (text : Text) (m : σ) (w : DUTWorld) : Outcome σ :=
  reject m w (txt "undefined header: " ++ text)

def line (t : Text) : Bytes := encodeUtf8 t ++ ascii "\n"

def flag (b : Bool) : Bytes := if b then ascii "1\n" else ascii "0\n"

/-! ## The supply -/

structure PSUModel where
  channel : Int
  voltage : Float
  output : Bool

namespace PSUModel

def identity : Text := txt "IAB,Virtual-E36312A,PSU001,1.0"

def new : PSUModel := ⟨1, 0.0, false⟩

def reset (m : PSUModel) (w : DUTWorld) : Outcome PSUModel :=
  let cleared (w : DUTWorld) : Outcome PSUModel :=
    applying new w (.psuConfigure 0.0) fun w => done new w
  if w.psuOutput then applying m w (.psuOutput false) cleared else cleared w

def handle (text : Text) (m : PSUModel) (w : DUTWorld) : Outcome PSUModel :=
  let up := upper text
  if startsWith "INST:NSEL " up then
    eval m w (argument text >>= parseInt) fun channel =>
      if channel ≠ 1 then reject m w (txt "only DUT supply channel 1 is available")
      else done { m with channel } w
  else if startsWith "VOLT " up then
    eval m w (argument text >>= parseFloat) fun voltage =>
      -- the model takes the value before the world has checked it
      let m := { m with voltage }
      applying m w (.psuConfigure voltage) fun w => done m w
  else if up = txt "VOLT?" ∨ up = txt "MEAS:VOLT?" then
    answer m w (line (fixed false 6 m.voltage))
  else if startsWith "OUTP " up then
    eval m w (argument text >>= parseBool) fun enabled =>
      applying m w (.psuOutput enabled) fun w => done { m with output := enabled } w
  else if up = txt "OUTP?" then answer m w (flag m.output)
  else undefinedHeader text m w

end PSUModel

/-! ## The switch -/

/-- The switch keeps nothing of its own. -/
structure SwitchModel where

namespace SwitchModel

def identity : Text := txt "IAB,Virtual-34980A,SW001,1.0"

def reset (m : SwitchModel) (w : DUTWorld) : Outcome SwitchModel :=
  applying m w .switchOpenAll fun w => done m w

def handle (text : Text) (m : SwitchModel) (w : DUTWorld) : Outcome SwitchModel :=
  let up := upper text
  if startsWith "ROUT:CLOS " up then
    eval m w (parseRoutes text) fun routes =>
      applying m w (.switchClose routes) fun w => done m w
  else if startsWith "ROUT:OPEN " up ∧ up ≠ txt "ROUT:OPEN:ALL" then
    eval m w (parseRoutes text) fun routes =>
      applying m w (.switchOpen routes) fun w => done m w
  else if up = txt "ROUT:OPEN:ALL" then applying m w .switchOpenAll fun w => done m w
  else if up = txt "ROUT:CLOS?" then
    answer m w (line (txt "(@" ++ join (txt ",") w.snapshot.closedRoutes ++ txt ")"))
  else undefinedHeader text m w

end SwitchModel

/-! ## The generator -/

structure AWGModel where
  waveforms : List (Text × List Float)
  selected : Option Text
  amplitudeVpp : Float
  offsetV : Float
  output : Bool

namespace AWGModel

def identity : Text := txt "IAB,Virtual-33512B,AWG001,1.0"

def new : AWGModel := ⟨[], none, 1.0, 0.0, false⟩

def reset (m : AWGModel) (w : DUTWorld) : Outcome AWGModel :=
  if w.awgOutput then applying m w (.awgOutput false) fun w => done new w else done new w

/-- Store the selected waveform as the world's stimulus. -/
def loadStimulus (m : AWGModel) (w : DUTWorld) (next : DUTWorld → Outcome AWGModel) :
    Outcome AWGModel :=
  match m.selected with
  | none => reject m w (txt "waveform must be selected before output")
  | some name =>
      match m.waveforms.lookup name with
      | none => raise m w (.key name)
      | some points => applying m w (.awgWaveform name points m.amplitudeVpp) next

/-- Whether the output has been on for as long as the world takes to settle. -/
def ready (spec : WorldSpec) (m : AWGModel) (w : DUTWorld) : Bool :=
  m.output &&
    match w.snapshot.stimulusStartedMs with
    | none => false
    | some started => spec.settleMs ≤ w.snapshot.clockMs - started

def handle (spec : WorldSpec) (text : Text) (m : AWGModel) (w : DUTWorld) : Outcome AWGModel :=
  let up := upper text
  if startsWith "DATA:ARB " up then
    eval m w (parseWaveform text) fun (name, points) =>
      done { m with waveforms := PyDict.set name points m.waveforms } w
  else if startsWith "FUNC:ARB " up then
    eval m w (argument text) fun given =>
      if (m.waveforms.lookup (upper given)).isNone then
        reject m w (txt "waveform has not been uploaded")
      else done { m with selected := some (upper given) } w
  else if startsWith "VOLT:OFFS " up then
    eval m w (argument text >>= parseFloat) fun offsetV => done { m with offsetV } w
  else if startsWith "VOLT " up then
    eval m w (argument text >>= parseFloat) fun amplitudeVpp =>
      -- the model takes the value before it is checked
      let m := { m with amplitudeVpp }
      if amplitudeVpp ≤ 0 then reject m w (txt "amplitude must be positive") else done m w
  else if startsWith "OUTP " up then
    eval m w (argument text >>= parseBool) fun enabled =>
      let switched (w : DUTWorld) : Outcome AWGModel :=
        applying m w (.awgOutput enabled) fun w => done { m with output := enabled } w
      if enabled then loadStimulus m w switched else switched w
  else if up = txt "OUTP?" then answer m w (flag m.output)
  else if up = txt "FUNC:ARB?" then answer m w (line (m.selected.getD []))
  else if up = txt "STAT:OPER:COND?" ∨ up = txt "*OPC?" then
    answer m w (flag (ready spec m w))
  else undefinedHeader text m w

end AWGModel

/-! ## The multimeter -/

structure DMMModel where
  configured : Bool
  rangeV : Float
  sampleCount : Int
  initiated : Bool

/-- `_resize` -/
def resize (values : List Float) (count : Int) : List Float :=
  if values.isEmpty then []
  else (List.range count.toNat).map fun index => values.getD (index % values.length) 0

namespace DMMModel

def identity : Text := txt "IAB,Virtual-DMM7510,DMM001,1.0"

def new : DMMModel := ⟨false, 10.0, 1, false⟩

def reset (_ : DMMModel) (w : DUTWorld) : Outcome DMMModel := done new w

/-- The fields of a reading. -/
def format (spec : WorldSpec) (values : List Float) : Bytes :=
  line (join (txt ",") (values.map fun value =>
    if spec.dmmFormat = txt "scientific" then scientific 8 value else fixed true 8 value))

def handle (spec : WorldSpec) (text : Text) (m : DMMModel) (w : DUTWorld) : Outcome DMMModel :=
  let up := upper text
  if up = txt "CONF:VOLT:DC" ∨ up = txt "CONF:VOLT:DC AUTO" then
    done { m with configured := true } w
  else if startsWith "VOLT:DC:RANG " up then
    eval m w (argument text >>= parseFloat) fun rangeV => done { m with rangeV } w
  else if startsWith "SAMP:COUN " up then
    eval m w (argument text >>= parseInt) fun sampleCount =>
      -- the model takes the value before it is checked
      let m := { m with sampleCount }
      if sampleCount < 1 then reject m w (txt "sample count must be positive") else done m w
  else if up = txt "INIT" then
    if ¬ m.configured then reject m w (txt "DMM function is not configured")
    else done { m with initiated := true } w
  else if up = txt "READ?" ∨ up = txt "FETC?" then
    if ¬ m.initiated then reject m w (txt "DMM acquisition has not been initiated")
    else
      eval m w (w.dmmSamples spec) fun samples =>
        answer { m with initiated := false } w (format spec (resize samples m.sampleCount))
  else undefinedHeader text m w

end DMMModel

/-! ## The oscilloscope -/

structure ScopeModel where
  source : Text
  encoding : Text
  width : Int

namespace ScopeModel

def identity : Text := txt "IAB,Virtual-MSO44,SCOPE001,1.0"

def new : ScopeModel := ⟨txt "CH1", txt "RIBINARY", 1⟩

def ymult : Float := 0.02

def yoff : Float := 0.0

def yzero : Float := 0.0

def reset (_ : ScopeModel) (w : DUTWorld) : Outcome ScopeModel := done new w

/-- `round((value - yzero) / ymult + yoff)` clipped to a byte, and packed. -/
def curveCode (value : Float) : Except Fault UInt8 :=
  let scaled := (value - yzero) / ymult + yoff
  match round? scaled with
  | some code => .ok (UInt8.ofNat ((max (-128) (min 127 code) + 256) % 256).toNat)
  | none =>
      if scaled.isNaN then .error (.value (txt "cannot convert float NaN to integer"))
      else .error (.other (txt "OverflowError"))

/-- The definite-length block of `CURVE?`. -/
def curveBlock (spec : WorldSpec) (payload : Bytes) : Bytes :=
  let length := natText payload.length
  let digits := max spec.binaryLengthDigits length.length
  ascii "#" ++ encodeUtf8 (natText digits) ++ encodeUtf8 (zfill digits length) ++ payload

def handle (spec : WorldSpec) (text : Text) (m : ScopeModel) (w : DUTWorld) :
    Outcome ScopeModel :=
  let up := upper text
  if startsWith "DATA:SOURCE " up then
    eval m w (argument text) fun given =>
      if upper given ≠ txt "CH1" then reject m w (txt "only CH1 observes the DUT")
      else done { m with source := upper given } w
  else if startsWith "DATA:ENC " up then
    eval m w (argument text) fun given =>
      if upper given ≠ txt "RIBINARY" then reject m w (txt "RIBINARY encoding is required")
      else done { m with encoding := upper given } w
  else if startsWith "DATA:WIDTH " up then
    eval m w (argument text >>= parseInt) fun width =>
      if width ≠ 1 then reject m w (txt "only one-byte samples are supported")
      else done { m with width } w
  else if up = txt "WFMOUTPRE:YMULT?" then answer m w (line (Json.renderFloat ymult))
  else if up = txt "WFMOUTPRE:YOFF?" then answer m w (line (Json.renderFloat yoff))
  else if up = txt "WFMOUTPRE:YZERO?" then answer m w (line (Json.renderFloat yzero))
  else if up = txt "WFMOUTPRE:NR_PT?" then
    eval m w (w.scopeSamples spec) fun samples => answer m w (line (natText samples.length))
  else if up = txt "CURVE?" then
    eval m w (w.scopeSamples spec >>= fun values => values.mapM curveCode) fun payload =>
      answer m w (curveBlock spec payload)
  else undefinedHeader text m w

end ScopeModel

/-! ## One exchange -/

/-- A simulated device: one for each role, and the distractors of the world. -/
inductive Instrument where
  | bench (role : Role)
  | distractor (index : Nat)
deriving DecidableEq

namespace Instrument

/-- What the class of the instrument keeps beside its identity and error queue. -/
abbrev Fields : Instrument → Type
  | bench .psu => PSUModel
  | bench .switch => SwitchModel
  | bench .awg => AWGModel
  | bench .scope => ScopeModel
  | bench .dmm => DMMModel
  | distractor _ => Unit

/-- The identity the constructor passes on; a distractor's is its world's. -/
def identity (spec : WorldSpec) : Instrument → Text
  | bench .psu => PSUModel.identity
  | bench .switch => SwitchModel.identity
  | bench .awg => AWGModel.identity
  | bench .scope => ScopeModel.identity
  | bench .dmm => DMMModel.identity
  | distractor n => (spec.distractors.getD n ([], [])).2

/-- The fields `__init__` sets. -/
def initial : (i : Instrument) → i.Fields
  | bench .psu => PSUModel.new
  | bench .switch => ⟨⟩
  | bench .awg => AWGModel.new
  | bench .scope => ScopeModel.new
  | bench .dmm => DMMModel.new
  | distractor _ => ()

def reset : (i : Instrument) → i.Fields → DUTWorld → Outcome i.Fields
  | bench .psu => PSUModel.reset
  | bench .switch => SwitchModel.reset
  | bench .awg => AWGModel.reset
  | bench .scope => ScopeModel.reset
  | bench .dmm => DMMModel.reset
  | distractor _ => done

def handle (spec : WorldSpec) (text : Text) :
    (i : Instrument) → i.Fields → DUTWorld → Outcome i.Fields
  | bench .psu => PSUModel.handle text
  | bench .switch => SwitchModel.handle text
  | bench .awg => AWGModel.handle spec text
  | bench .scope => ScopeModel.handle spec text
  | bench .dmm => DMMModel.handle spec text
  | distractor _ => undefinedHeader text

end Instrument

/-- `InstrumentModel`: the error queue, and the fields of the class. -/
structure InstrumentModel (i : Instrument) where
  errors : List (Int × Text)
  fields : i.Fields

/-- The message of an exception `exchange` turns into a `CommandError`. -/
def Fault.rejected? : Fault → Option Text
  | .command message => some message
  | .worldState message => some message
  | .value message => some message
  | .key _ => none
  | .other _ => none

namespace InstrumentModel

variable {i : Instrument}

/-- The commands every class leaves to its own `handle`: a fault that is a rejection
is queued. -/
def exchangeOwn (spec : WorldSpec) (text : Text) (m : InstrumentModel i) (w : DUTWorld) :
    Outcome (InstrumentModel i) :=
  let called := i.handle spec text m.fields w
  let m := { m with fields := called.model }
  match called.result with
  | .ok response => ⟨m, called.world, .ok response⟩
  | .error fault =>
      match fault.rejected? with
      | some message =>
          reject { m with errors := m.errors ++ [(-113, message)] } called.world message
      | none => raise m called.world fault

/-- `exchange` -/
def exchange (spec : WorldSpec) (command : Bytes) (m : InstrumentModel i) (w : DUTWorld) :
    Outcome (InstrumentModel i) :=
  match decodeAscii command with
  | none =>
      reject { m with errors := m.errors ++ [(-101, txt "Invalid character")] } w
        (txt "command must be ASCII")
  | some decoded =>
      let text := strip decoded
      let up := upper text
      if up = txt "*IDN?" then
        match encodeAscii (i.identity spec ++ txt "\n") with
        | some identity => answer m w identity
        | none => raise m w (.other (txt "UnicodeEncodeError"))
      else if up = txt "*CLS" then done { m with errors := [] } w
      else if up = txt "*RST" then
        let called := i.reset m.fields w
        ⟨{ m with fields := called.model }, called.world, called.result⟩
      else if up = txt "SYST:ERR?" then
        match m.errors with
        | [] => answer m w (ascii "0,\"No error\"\n")
        | (code, message) :: rest =>
            match encodeAscii (intText code ++ txt ",\"" ++ message ++ txt "\"\n") with
            | some queued => answer { m with errors := rest } w queued
            | none => raise { m with errors := rest } w (.other (txt "UnicodeEncodeError"))
      else exchangeOwn spec text m w

end InstrumentModel

/-! ## The rack -/

/-- `InstrumentRack` -/
structure InstrumentRack where
  world : DUTWorld
  models : (i : Instrument) → InstrumentModel i
  transientErrorsRemaining : Int

namespace WorldSpec

/-- `_models`: the instrument at a resource, a distractor over a target of the same
name. -/
def instruments (spec : WorldSpec) : List (Text × Instrument) :=
  let targets := spec.resourceMap.foldl
    (fun models (role, resource) => PyDict.set resource (Instrument.bench role) models) []
  spec.distractors.zipIdx.foldl
    (fun models ((resource, _), n) => PyDict.set resource (Instrument.distractor n) models) targets

end WorldSpec

/-- A value of `_roles`. -/
def Instrument.role : Instrument → Text
  | .bench r => r.name
  | .distractor _ => txt "distractor"

namespace InstrumentRack

/-- `InstrumentRack(spec)` -/
def new (spec : WorldSpec) : InstrumentRack where
  world := DUTWorld.new spec
  models i := ⟨[], i.initial⟩
  transientErrorsRemaining := spec.transientErrorCount

/-- `role_for` -/
def roleFor (spec : WorldSpec) (resource : Text) : Except Fault Text :=
  match spec.instruments.lookup resource with
  | some i => .ok i.role
  | none => .error (.key (txt "unknown resource " ++ reprAscii resource))

/-- `payload.decode("ascii", errors="ignore")` -/
def decodeIgnoring (payload : Bytes) : Text :=
  (payload.filter fun x => x.toNat < 0x80).map CodePoint.ofByte

/-- Whether the world's transient error strikes the command. -/
def transientStrikes (spec : WorldSpec) (i : Instrument) (payload : Bytes)
    (rack : InstrumentRack) : Bool :=
  0 < rack.transientErrorsRemaining && spec.transientErrorRole == some i.role &&
    match spec.transientErrorCommand with
    | none => false
    | some struck => upper (strip (decodeIgnoring payload)) = struck

/-- `model.exchange(payload)` of one model of the rack. -/
def exchange (spec : WorldSpec) (i : Instrument) (payload : Bytes) (rack : InstrumentRack) :
    InstrumentRack × Except Fault Response :=
  let called := (rack.models i).exchange spec payload rack.world
  ({ rack with world := called.world, models := Function.update rack.models i called.model },
    called.result)

/-- `write` -/
def write (spec : WorldSpec) (resource : Text) (payload : Bytes) (rack : InstrumentRack) :
    InstrumentRack × Except Fault Response :=
  match spec.instruments.lookup resource with
  | none => (rack, .error (.key (txt "unknown resource " ++ reprAscii resource)))
  | some i =>
      if rack.transientStrikes spec i payload then
        ({ rack with transientErrorsRemaining := rack.transientErrorsRemaining - 1 },
          commandError (txt "transient communication error"))
      else rack.exchange spec i payload

/-- `force_safe` -/
def forceSafe (rack : InstrumentRack) : Except Fault InstrumentRack := do
  let stopped ← if rack.world.snapshot.awgOutput then rack.world.apply (.awgOutput false)
    else pure rack.world
  let off ← if rack.world.snapshot.psuOutput then stopped.apply (.psuOutput false)
    else pure stopped
  let opened ← if off.snapshot.closedRoutes.isEmpty then pure off else off.apply .switchOpenAll
  pure { rack with world := opened }

end InstrumentRack

end InstrumentBench.Gateway
