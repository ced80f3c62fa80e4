/-
# Visa.Bench -- the bench around the instruments

`BenchContext` hooks into the matching of every command: it journals the command
before native matching and refuses what the bench is not ready for, replaces the
responses that depend on the bench as a whole, and journals the command's
completion.  `matchCommand` is the vendored `Device._match` with these hooks.
-/
import InstrumentBench.Visa.Instruments

namespace InstrumentBench.Visa

set_option autoImplicit false

open InstrumentBench.Theory InstrumentBench.Theory.PyText

/-! ## Worlds and bench state -/

/-- What the bench reads of a `WorldSpec`. -/
structure WorldSpec where
  seed : Int
  gain : Float
  offsetV : Float
  dmmNoiseV : Float
  scopeNoiseV : Float
  settleMs : Int
  requiredRoutes : List Text
  dmmFormat : Text
  binaryLengthDigits : Nat
  initialPsuOutput : Bool
  initialAwgOutput : Bool
  initialClosedRoutes : List Text
  resourceMap : Role → Text
  distractors : List (Text × Text)
  transientErrorRole : Option Role
  /-- `transient_error_command.upper()`: the command is only compared in upper case -/
  transientErrorCommand : Option Text
  transientErrorCount : Nat

namespace WorldSpec

/-- The resource an instrument answers at. -/
def resourceName (spec : WorldSpec) : Instrument → Text
  | .bench r => spec.resourceMap r
  | .distractor n => (spec.distractors.getD n ([], [])).1

def identity (spec : WorldSpec) (n : Nat) : Text := (spec.distractors.getD n ([], [])).2

/-- `WorldSpec.nominal` -/
def nominal (seed : Int) : WorldSpec where
  seed
  gain := 2.0
  offsetV := 0.0
  dmmNoiseV := 0.001
  scopeNoiseV := 0.002
  settleMs := 250
  requiredRoutes := [txt "1101", txt "1102"]
  dmmFormat := txt "decimal"
  binaryLengthDigits := 2
  initialPsuOutput := false
  initialAwgOutput := false
  initialClosedRoutes := []
  resourceMap
    | .psu => txt "TCPIP0::192.0.2.10::inst0::INSTR"
    | .switch => txt "GPIB0::9::INSTR"
    | .awg => txt "USB0::0x0957::0x2C07::MY000001::0::INSTR"
    | .scope => txt "TCPIP0::192.0.2.20::inst0::INSTR"
    | .dmm => txt "USB0::0x05E6::0x7510::MY000002::0::INSTR"
  distractors := []
  transientErrorRole := none
  transientErrorCommand := none
  transientErrorCount := 0

end WorldSpec

/-- The mapping `final_state` builds. -/
structure FinalState where
  psuVoltage : Float
  psuOutput : Bool
  closedRoutes : List Text
  awgSelected : Text
  awgAmplitude : Float
  awgOutput : Bool
  awgWaveforms : List (Text × List Float)
  dmmConfigured : Bool
  dmmInitiated : Bool
  dmmSampleCount : Int
  scopeSource : Text
  scopeEncoding : Text
  scopeWidth : Int

/-- `BenchContext`, with the devices of its library. -/
structure Bench where
  devices : Devices
  routes : List Text
  waveforms : List (Text × List Float)
  stimulusStartedNs : Option Int
  dmmConfigured : Bool
  dmmInitiated : Bool
  snapshots : List (Nat × FinalState)
  transientErrorsRemaining : Nat

/-- The hook records of one command. -/
inductive HookEvent where
  | before (sessionDigest resource role command : Text) (stateBefore : FinalState)
  | native (resource role command : Text) (nativeResponse : Response)
  | dynamic (resource role command : Text) (response : Response)
  | after (resource role command : Text) (response : Response)
      (stateBefore stateAfter : FinalState)
  | error (resource role command : Text) (errorCode : Int) (errorMessage : Text)
      (stateBefore stateAfter : FinalState)

/-- `CommandContext`, under the identity the interpreter gives the object, with what the
random module answers while the command runs. -/
structure CommandContext where
  id : Nat
  instrument : Instrument
  command : Bytes
  random : Random

namespace Bench

/-- The bench a `BenchContext` is constructed with. -/
def initial (spec : WorldSpec) : Bench where
  devices :=
    let devices : Devices := ⟨Property.default, fun _ => [], fun _ => [], fun _ => []⟩
    let devices := if spec.initialPsuOutput then devices.set .psuOutput (txt "ON") else devices
    if spec.initialAwgOutput then devices.set .awgOutput (txt "ON") else devices
  routes := spec.initialClosedRoutes
  waveforms := []
  stimulusStartedNs := none
  dmmConfigured := false
  dmmInitiated := false
  snapshots := []
  transientErrorsRemaining := spec.transientErrorCount

/-- `_property` -/
def property (b : Bench) (p : Property) : p.kind.Value := b.devices.values p

def psuOutput (b : Bench) : Bool := upper (b.property .psuOutput) = txt "ON"

def awgOutput (b : Bench) : Bool := upper (b.property .awgOutput) = txt "ON"

def finalState (b : Bench) : FinalState where
  psuVoltage := b.property .voltage
  psuOutput := b.psuOutput
  closedRoutes := sorted b.routes
  awgSelected := b.property .selected
  awgAmplitude := b.property .amplitude
  awgOutput := b.awgOutput
  awgWaveforms := b.waveforms
  dmmConfigured := b.dmmConfigured
  dmmInitiated := b.dmmInitiated
  dmmSampleCount := b.property .sampleCount
  scopeSource := b.property .source
  scopeEncoding := b.property .encoding
  scopeWidth := b.property .width

/-- The upper-cased name of the selected waveform. -/
def selectedName (b : Bench) : Text := upper (b.property .selected)

/-- `_selected_points` -/
def selectedPoints (b : Bench) : Except Raise (List Float) :=
  match b.waveforms.lookup b.selectedName with
  | some points => .ok points
  | none => .error .keyError

/-- `_is_ready` at a reading of the clock. -/
def isReady (spec : WorldSpec) (now : Int) (b : Bench) : Bool :=
  spec.requiredRoutes.all (b.routes.contains ·) && b.psuOutput && b.awgOutput &&
    match b.stimulusStartedNs with
    | none => false
    | some started => spec.settleMs ≤ (now - started) / 1000000

/-- `snapshots[id] = state` and `snapshots.pop(id, default)`. -/
def store (b : Bench) (id : Nat) (state : FinalState) : Bench :=
  { b with snapshots := (id, state) :: b.snapshots.filter (·.1 ≠ id) }

def release (b : Bench) (id : Nat) : Bench :=
  { b with snapshots := b.snapshots.filter (·.1 ≠ id) }

def withDevices (b : Bench) (devices : Devices) : Bench := { b with devices }

end Bench

/-! ## Reading commands -/

def reject {α : Type} (code : Int) (message : String) : Except Raise α :=
  .error (.commandRejected code (txt message))

def startsWith (pre : String) (t : Text) : Bool := (txt pre).isPrefixOf t

def isRouteChar (c : CodePoint) : Bool := (digitOf? c).isSome || c = CodePoint.ofChar ','

/-- The group of `\(@([0-9,]+)\)` where the pattern matches at the start. -/
def routeGroup (t : Text) : Option Text :=
  match t with
  | p :: a :: rest =>
      if p = CodePoint.ofChar '(' ∧ a = CodePoint.ofChar '@' then
        match rest.takeWhile isRouteChar, rest.dropWhile isRouteChar with
        | [], _ => none
        | _, [] => none
        | group, c :: _ => if c = CodePoint.ofChar ')' then some group else none
      else none
  | _ => none

def searchRoutes : Text → Option Text
  | [] => none
  | c :: t =>
      match routeGroup (c :: t) with
      | some group => some group
      | none => searchRoutes t

/-- `_parse_routes` -/
def parseRoutes (command : Text) : Except Raise (List Text) :=
  match searchRoutes command with
  | some group => .ok (group.splitOn (CodePoint.ofChar ',')).dedup
  | none => reject (-222) "Invalid route list"

/-- The name and the points of a `DATA:ARB` command; `none` is the `ValueError` or
`IndexError` that reading them raises. -/
def parseWaveform (command : Text) : Option (Text × List Float) := do
  let argument ← secondWord command
  let (name, raw) ← splitOnce (CodePoint.ofChar ',') argument
  let points ← (raw.splitOn (CodePoint.ofChar ',')).mapM float?
  pure (upper (strip name), points)

def maxWaveformPoints : Nat := 64

def maxWaveforms : Nat := 8

def maxWaveformNameBytes : Nat := 64

/-- The bounds `before_command` sets an uploaded waveform. -/
def waveformAllowed (b : Bench) (name : Text) (points : List Float) : Bool :=
  !name.isEmpty && name.length ≤ maxWaveformNameBytes && 2 ≤ points.length &&
    points.length ≤ maxWaveformPoints && points.all Float.isFinite &&
    ((b.waveforms.lookup name).isSome || b.waveforms.length < maxWaveforms)

/-! ## Before a command -/

def requireReady (spec : WorldSpec) (now : Int) (b : Bench) : Except Raise Unit :=
  if b.isReady spec now then .ok () else reject (-221) "DUT is not ready"

/-- What `before_command` requires of the bench, by role and command. -/
def precondition (spec : WorldSpec) (now : Int) (b : Bench) (i : Instrument) (command : Text) :
    Except Raise Unit :=
  match i with
  | .bench .switch =>
      if startsWith "ROUT:CLOS " (upper command) || startsWith "ROUT:OPEN " (upper command) then
        match parseRoutes command with
        | .error e => .error e
        | .ok _ =>
            if b.psuOutput || b.awgOutput then reject (-221) "Settings conflict" else .ok ()
      else .ok ()
  | .bench .psu =>
      if upper command = txt "OUTP ON" then
        if b.property .voltage ≤ 0 then
          reject (-221) "Voltage must be configured before output"
        else .ok ()
      else .ok ()
  | .bench .awg =>
      if startsWith "FUNC:ARB " (upper command) then
        match secondWord command with
        | none => .error (.other (txt "IndexError"))
        | some name =>
            if (b.waveforms.lookup (upper name)).isSome then .ok ()
            else reject (-221) "Waveform has not been uploaded"
      else if startsWith "DATA:ARB " (upper command) then
        match parseWaveform command with
        | none => reject (-221) "Invalid arbitrary waveform"
        | some (name, points) =>
            if waveformAllowed b name points then .ok ()
            else reject (-221) "Invalid arbitrary waveform"
      else if upper command = txt "OUTP ON" then
        if b.selectedName.isEmpty || (b.waveforms.lookup b.selectedName).isNone
            || !spec.requiredRoutes.all (b.routes.contains ·) || !b.psuOutput then
          reject (-221) "Bench is not ready for AWG output"
        else .ok ()
      else .ok ()
  | .bench .dmm =>
      if upper command = txt "INIT" && !b.dmmConfigured then
        reject (-221) "DMM function is not configured"
      else if upper command = txt "READ?" || upper command = txt "FETC?" then
        if b.dmmInitiated then requireReady spec now b
        else reject (-221) "DMM acquisition has not been initiated"
      else .ok ()
  | .bench .scope => if upper command = txt "CURVE?" then requireReady spec now b else .ok ()
  | .distractor _ => .ok ()

/-- Whether the world's transient error strikes this command. -/
def transientStrikes (spec : WorldSpec) (b : Bench) (i : Instrument) (command : Text) : Bool :=
  0 < b.transientErrorsRemaining && (spec.transientErrorRole.map Role.name == some i.role) &&
    match spec.transientErrorCommand with
    | none => false
    | some struck => upper command = struck

/-! ## The response -/

/-- `DynamicDUT._noise` -/
def noise (seed : Int) (channel : Text) (index : Nat) (amplitude : Float) : Float :=
  if amplitude == 0 then 0
  else
    let material := encodeUtf8 (intText seed ++ txt ":" ++ channel ++ txt ":" ++ natText index)
    let digest := Sha256.digest material
    let unit := intDivide (digest.a.toNat * 2 ^ 32 + digest.b.toNat) (2 ^ 64 - 1)
    (2.0 * unit - 1.0) * amplitude

/-- `DynamicDUT._samples` -/
def samples (spec : WorldSpec) (channel : Text) (noiseV : Float) (points : List Float) :
    Except Raise (List Float) :=
  if points.length < 2 then .error .valueError
  else if !points.all Float.isFinite then .error .valueError
  else .ok (points.zipIdx.map fun (point, index) =>
    spec.offsetV + spec.gain * point + noise spec.seed channel index noiseV)

def dmmSamples (spec : WorldSpec) (points : List Float) : Except Raise (List Float) :=
  samples spec (txt "dmm") spec.dmmNoiseV points

def scopeSamples (spec : WorldSpec) (points : List Float) : Except Raise (List Float) :=
  samples spec (txt "scope") spec.scopeNoiseV points

/-- `_resize` -/
def resize (values : List Float) (count : Nat) : List Float :=
  (List.range count).map fun index => values.getD (index % values.length) 0

/-- `struct.pack("b", max(-128, min(127, round(value / 0.02))))` -/
def curvePoint (value : Float) : Except Raise UInt8 :=
  let scaled := value / 0.02
  match round? scaled with
  | some code => .ok (UInt8.ofNat ((max (-128) (min 127 code) + 256) % 256).toNat)
  | none => if scaled.isNaN then .error .valueError else .error (.other (txt "OverflowError"))

def curvePoints : List Float → Except Raise Bytes
  | [] => .ok []
  | value :: rest =>
      match curvePoint value with
      | .error e => .error e
      | .ok x =>
          match curvePoints rest with
          | .error e => .error e
          | .ok xs => .ok (x :: xs)

/-- The definite-length block of `CURVE?`. -/
def curveBlock (spec : WorldSpec) (payload : Bytes) : Bytes :=
  let length := natText payload.length
  let digits := max spec.binaryLengthDigits length.length
  ascii "#" ++ encodeUtf8 (natText digits) ++ encodeUtf8 (zfill digits length) ++ payload

def dmmText (spec : WorldSpec) (values : List Float) : Text :=
  join (txt ",") (values.map fun x =>
    if spec.dmmFormat = txt "scientific" then scientific 8 x else fixed true 8 x)

def flag (b : Bool) : Response := some (if b then ascii "1" else ascii "0")

/-- The response `dynamic_response` returns. -/
def dynamicValue (spec : WorldSpec) (now : Int) (b : Bench) (i : Instrument) (command : Text)
    (response : Response) : Except Raise Response :=
  match i with
  | .bench .psu => .ok (if upper command = txt "OUTP?" then flag b.psuOutput else response)
  | .bench .switch =>
      if upper command = txt "ROUT:CLOS?" then
        match encodeAscii (txt "(@" ++ join (txt ",") (sorted b.routes) ++ txt ")") with
        | some listed => .ok (some listed)
        | none => .error .valueError
      else .ok response
  | .bench .awg =>
      if upper command = txt "OUTP?" then .ok (flag b.awgOutput)
      else if upper command = txt "STAT:OPER:COND?" then .ok (flag (b.isReady spec now))
      else .ok response
  | .bench .dmm =>
      if upper command = txt "READ?" || upper command = txt "FETC?" then
        match b.selectedPoints with
        | .error e => .error e
        | .ok points =>
            match dmmSamples spec points with
            | .error e => .error e
            | .ok values =>
                .ok (some (encodeUtf8
                  (dmmText spec (resize values (b.property .sampleCount).toNat))))
      else .ok response
  | .bench .scope =>
      if upper command = txt "WFMOUTPRE:NR_PT?" then
        match b.selectedPoints with
        | .error e => .error e
        | .ok points => .ok (some (encodeUtf8 (natText points.length)))
      else if upper command = txt "CURVE?" then
        match b.selectedPoints with
        | .error e => .error e
        | .ok points =>
            match scopeSamples spec points with
            | .error e => .error e
            | .ok values =>
                match curvePoints values with
                | .error e => .error e
                | .ok payload => .ok (some (curveBlock spec payload))
      else .ok response
  | .distractor _ => .ok response

/-! ## After a command -/

/-- `waveforms[name] = points` -/
def setWaveform (name : Text) (points : List Float) :
    List (Text × List Float) → List (Text × List Float)
  | [] => [(name, points)]
  | (n, old) :: rest =>
      if n = name then (n, points) :: rest else (n, old) :: setWaveform name points rest

/-- The properties `_reset_role` restores. -/
def Role.resetProperties : Role → List Property
  | .psu => [.channel, .voltage, .psuOutput]
  | .switch => [.closeRequest, .openRequest]
  | .awg => [.waveformData, .selected, .amplitude, .offset, .awgOutput]
  | .dmm => [.range, .sampleCount]
  | .scope => [.source, .encoding, .width]

/-- `_reset_role` -/
def resetRole (r : Role) (b : Bench) : Bench :=
  let b := b.withDevices
    (r.resetProperties.foldl (fun (d : Devices) p => d.set p p.default) b.devices)
  match r with
  | .switch => { b with routes := [] }
  | .awg => { b with waveforms := [], stimulusStartedNs := none }
  | .dmm => { b with dmmConfigured := false, dmmInitiated := false }
  | .psu => b
  | .scope => b

/-- What `after_command` does to the bench for a role's own commands. -/
def roleUpdate (now : Int) (i : Instrument) (command : Text) (b : Bench) : Except Raise Bench :=
  match i with
  | .bench .switch =>
      if startsWith "ROUT:CLOS " (upper command) then
        (parseRoutes command).map fun closed => { b with routes := b.routes ∪ closed }
      else if startsWith "ROUT:OPEN " (upper command) then
        (parseRoutes command).map fun opened =>
          { b with routes := b.routes.filter fun route => !opened.contains route }
      else if upper command = txt "ROUT:OPEN:ALL" || upper command = txt "*RST" then
        .ok { b with routes := [] }
      else .ok b
  | .bench .awg =>
      if startsWith "DATA:ARB " (upper command) then
        match parseWaveform command with
        | none => .error .valueError
        | some (name, points) => .ok { b with waveforms := setWaveform name points b.waveforms }
      else if upper command = txt "OUTP ON" then .ok { b with stimulusStartedNs := some now }
      else if upper command = txt "OUTP OFF" then .ok { b with stimulusStartedNs := none }
      else if upper command = txt "*RST" then
        .ok { b with stimulusStartedNs := none, waveforms := [] }
      else .ok b
  | .bench .dmm =>
      if upper command = txt "CONF:VOLT:DC" then .ok { b with dmmConfigured := true }
      else if upper command = txt "INIT" then .ok { b with dmmInitiated := true }
      else if upper command = txt "READ?" || upper command = txt "FETC?" then
        .ok { b with dmmInitiated := false }
      else .ok b
  | _ => .ok b

/-- The common commands: `*RST` and `*CLS`. -/
def commonUpdate (i : Instrument) (command : Text) (b : Bench) : Bench :=
  if upper command = txt "*RST" then
    match i with
    | .bench r => resetRole r b
    | .distractor _ => b
  else if upper command = txt "*CLS" then b.withDevices (b.devices.clearErrors i)
  else b

/-! ## One command -/

/-- The simulator: the world, and the template parser its setters are built on. -/
structure Simulator where
  spec : WorldSpec
  parser : Stringparser

/-- What matching one command leaves: the records it journals, and the response
(`none` where nothing matches) or the exception. -/
structure Matched where
  bench : Bench
  events : List HookEvent
  result : Except Raise (Option Response)

namespace Simulator

variable (sim : Simulator)

/-- `before_command` -/
def beforeCommand (digest : Text) (now : Int) (x : CommandContext) (b : Bench) :
    Bench × List HookEvent × Except Raise Text :=
  let before := b.finalState
  let b := b.store x.id before
  match decodeAscii x.command with
  | none => (b, [], .error .valueError)
  | some decoded =>
      let command := strip decoded
      let record := .before digest (sim.spec.resourceName x.instrument) x.instrument.role
        command before
      if transientStrikes sim.spec b x.instrument command then
        ({ b with transientErrorsRemaining := b.transientErrorsRemaining - 1 }, [record],
          reject (-350) "Transient communication error")
      else
        (b, [record], (precondition sim.spec now b x.instrument command).map fun _ => command)

/-- `dynamic_response` -/
def dynamicResponse (now : Int) (x : CommandContext) (command : Text) (response : Response)
    (b : Bench) : List HookEvent × Except Raise Response :=
  let resource := sim.spec.resourceName x.instrument
  let native := .native resource x.instrument.role command response
  match dynamicValue sim.spec now b x.instrument command response with
  | .error e => ([native], .error e)
  | .ok dynamic =>
      ([native, .dynamic resource x.instrument.role command dynamic], .ok dynamic)

/-- `after_command` -/
def afterCommand (now : Int) (x : CommandContext) (command : Text) (response : Response)
    (b : Bench) : Bench × List HookEvent × Except Raise Unit :=
  match roleUpdate now x.instrument command b with
  | .error e => (b, [], .error e)
  | .ok updated =>
      let b := commonUpdate x.instrument command updated
      match b.snapshots.lookup x.id with
      | none => (b, [], .error .keyError)
      | some before =>
          let b := b.release x.id
          (b, [.after (sim.spec.resourceName x.instrument) x.instrument.role command response
            before b.finalState], .ok ())

/-- `enqueue_error` and `on_error`, for a rejection whose command decodes. -/
def onError (x : CommandContext) (command : Text) (code : Int) (message : Text) (b : Bench) :
    Bench × List HookEvent :=
  let escaped := message.map fun c => if c = CodePoint.ofChar '"' then CodePoint.ofChar '\'' else c
  let queued := encodeUtf8 (intText code ++ txt ",\"" ++ escaped ++ txt "\"")
  let b := b.withDevices (b.devices.pushError x.instrument queued)
  let before := (b.snapshots.lookup x.id).getD b.finalState
  let b := b.release x.id
  (b, [.error (sim.spec.resourceName x.instrument) x.instrument.role command code message
    before b.finalState])

/-- The rest of `_match` once `before_command` let the command through: the native
setter check, native matching and the two response hooks. -/
def matchAccepted (now : Int) (x : CommandContext) (decoded command : Text) (b : Bench) :
    Matched :=
  match validateNativeSetter sim.parser decoded x.instrument.setters with
  | .error (.commandRejected code message) =>
      let (b, records) := sim.onError x command code message b
      ⟨b, records, .error (.commandRejected code message)⟩
  | .error e => ⟨b, [], .error e⟩
  | .ok () =>
      match b.devices.matchNative sim.parser sim.spec.identity x.random x.instrument x.command
          decoded with
      | .error e => ⟨b, [], .error e⟩
      | .ok none => ⟨b, [], .ok none⟩
      | .ok (some (response, devices)) =>
          let b := b.withDevices devices
          match sim.dynamicResponse now x command response b with
          | (records, .error e) => ⟨b, records, .error e⟩
          | (records, .ok dynamic) =>
              match sim.afterCommand now x command dynamic b with
              | (b, closing, .error e) => ⟨b, records ++ closing, .error e⟩
              | (b, closing, .ok ()) => ⟨b, records ++ closing, .ok (some dynamic)⟩

/-- `Device._match` -/
def matchCommand (digest : Text) (now : Int) (x : CommandContext) (b : Bench) : Matched :=
  match sim.beforeCommand digest now x b with
  | (b, opening, .error (.commandRejected code message)) =>
      let (b, records) := sim.onError x
        (strip ((decodeAscii x.command).getD [])) code message b
      ⟨b, opening ++ records, .error (.commandRejected code message)⟩
  | (b, opening, .error e) => ⟨b, opening, .error e⟩
  | (b, opening, .ok command) =>
      let m := sim.matchAccepted now x ((decodeAscii x.command).getD []) command b
      ⟨m.bench, opening ++ m.events, m.result⟩

end Simulator

end InstrumentBench.Visa
