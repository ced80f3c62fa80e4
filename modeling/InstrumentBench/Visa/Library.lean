/-
# Visa.Library -- the simulated VISA library

How a device frames the bytes written to it, how a session reads and writes, and
the library calls the broker makes.  PyVISA itself (resource names, attribute
tables, enumerations) is a package of its own and stays a parameter, and so is
what the interpreter and the clock decide during one call.
-/
import InstrumentBench.Visa.Bench

namespace InstrumentBench.Visa

set_option autoImplicit false

open InstrumentBench.Theory InstrumentBench.Theory.PyText

/-! ## Framing -/

def newline : UInt8 := 10

def semicolon : UInt8 := 59

/-- The commands a device runs when `data` reaches its input buffer; `none` while no
end of message has arrived. -/
def commandsOf (buffer data : Bytes) : Option (List Bytes) :=
  if (buffer ++ data).getLast? = some newline then
    some ((buffer ++ data).dropLast.splitOn semicolon)
  else none

/-- What the interpreter and the clock decide while one command runs: the identity of
the context object, the one reading of the clock its hooks take, and what the random
module answers. -/
structure Moment where
  contextId : Nat
  now : Int
  random : Random

/-- A hook record, under the bytes of the command the device was running. -/
structure Ran where
  command : Bytes
  event : HookEvent

structure Written where
  bench : Bench
  ran : List Ran
  result : Except Raise Unit

namespace Devices

/-- What the device queues for a matched command: `command_error` where nothing
matched, else the response and the end of message. -/
def answer (d : Devices) (i : Instrument) : Option Response → Devices
  | none => d.pushError i i.commandError
  | some none => d
  | some (some response) => d.pushOutput i (response ++ [newline])

/-- `Device.read`: the next byte, and whether it ends its message. -/
def readByte (d : Devices) (i : Instrument) : Bytes × Bool × Devices :=
  match d.outputBuffers i with
  | [] => ([], false, d)
  | [] :: _ => ([], false, d)
  | [x] :: rest =>
      ([x], true, { d with outputBuffers := Function.update d.outputBuffers i rest })
  | (x :: y :: xs) :: rest =>
      ([x], false, { d with outputBuffers := Function.update d.outputBuffers i ((y :: xs) :: rest) })

end Devices

namespace Simulator

variable (sim : Simulator)

/-- The commands of one message; the first that raises ends it. -/
def runQueries (digest : Text) (i : Instrument) :
    (Nat → Moment) → List Bytes → Bench → Written
  | _, [], b => ⟨b, [], .ok ()⟩
  | moments, query :: rest, b =>
      let x : CommandContext := ⟨(moments 0).contextId, i, query, (moments 0).random⟩
      let m := sim.matchCommand digest (moments 0).now x b
      let ran := m.events.map (Ran.mk query)
      match m.result with
      | .error e => ⟨m.bench, ran, .error e⟩
      | .ok response =>
          let b := m.bench.withDevices (m.bench.devices.answer i response)
          let w := runQueries digest i (fun n => moments (n + 1)) rest b
          ⟨w.bench, ran ++ w.ran, w.result⟩

/-- `Device.write` -/
def deviceWrite (digest : Text) (i : Instrument) (moments : Nat → Moment) (data : Bytes)
    (b : Bench) : Written :=
  match commandsOf (b.devices.inputBuffers i) data with
  | none =>
      ⟨b.withDevices (b.devices.setInput i (b.devices.inputBuffers i ++ data)), [], .ok ()⟩
  | some queries =>
      let w := sim.runQueries digest i moments queries b
      ⟨w.bench.withDevices (w.bench.devices.setInput i []), w.ran, w.result⟩

/-- Successive `Device.write` calls; the first that raises ends them. -/
def deliver (digest : Text) (i : Instrument) :
    (Nat → Moment) → List Bytes → Bench → Written
  | _, [], b => ⟨b, [], .ok ()⟩
  | moments, data :: rest, b =>
      let w := sim.deviceWrite digest i moments data b
      match w.result with
      | .error e => ⟨w.bench, w.ran, .error e⟩
      | .ok () =>
          let next := deliver digest i (fun n => moments (n + data.length + 1)) rest w.bench
          ⟨next.bench, w.ran ++ next.ran, next.result⟩

end Simulator

/-! ## PyVISA -/

/-- An attribute's value: what the wire can carry, or some other object. -/
inductive AttributeValue where
  | wire (v : WireValue)
  | object

/-- The registered session classes, by interface type and resource class. -/
inductive SessionType where
  | tcpipInstr
  | tcpipSocket
  | gpibInstr
  | usbInstr
  | usbRaw
  | asrlInstr
deriving DecidableEq

/-- An entry of `attributes.AttributesByID`. -/
structure Attribute where
  default : AttributeValue
  read : Bool
  write : Bool
  inResource : SessionType → Bool

/-- What `rname.parse_resource_name` returns, as far as the session classes read it.
`sessionType` is `none` where no class is registered. -/
structure ParsedName where
  canonical : Text
  interfaceType : Int
  resourceClass : Text
  sessionType : Option SessionType
  board : Text
  hostAddress : Text
  lanDeviceName : Text
  port : Text
  primaryAddress : Text
  secondaryAddress : Option Text
  manufacturerId : Text
  modelCode : Text
  serialNumber : Text

structure Pyvisa where
  parseResourceName : Text → Option ParsedName
  attributesByID : Int → Option Attribute
  isResourceAttribute : Int → Bool
  isAccessMode : Int → Bool
  isEventType : Int → Bool
  isEventMechanism : Int → Bool
  /-- The least shift count the interpreter has no memory for. -/
  shiftLimit : Nat

namespace ResourceAttribute

def resourceManagerSession : Int := 0x3FFF00C4
def resourceName : Int := 0xBFFF0002
def resourceClass : Int := 0xBFFF0001
def interfaceType : Int := 0x3FFF0171
def interfaceNumber : Int := 0x3FFF0176
def tcpipAddress : Int := 0xBFFF0195
def tcpipPort : Int := 0x3FFF0197
def tcpipDeviceName : Int := 0xBFFF0199
def gpibPrimaryAddress : Int := 0x3FFF0172
def gpibSecondaryAddress : Int := 0x3FFF0173
def manufacturerId : Int := 0x3FFF00D9
def modelCode : Int := 0x3FFF00DF
def usbSerialNumber : Int := 0xBFFF01A0
def usbInterfaceNumber : Int := 0x3FFF01A1
def timeoutValue : Int := 0x3FFF001A
def termchar : Int := 0x3FFF0018
def termcharEnabled : Int := 0x3FFF0038
def suppressEndEnabled : Int := 0x3FFF0036
def sendEndEnabled : Int := 0x3FFF0016
def asrlDataBits : Int := 0x3FFF0022
def asrlEndIn : Int := 0x3FFF00B3
def asrlEndOut : Int := 0x3FFF00B4

end ResourceAttribute

namespace StatusCode

def success : Int := 0
def successTerminationCharacterRead : Int := 0x3FFF0005
def successMaxCountRead : Int := 0x3FFF0006
def errorInvalidObject : Int := -1073807346
def errorInvalidExpression : Int := -1073807344
def errorResourceNotFound : Int := -1073807343
def errorInvalidResourceName : Int := -1073807342
def errorTimeout : Int := -1073807339
def errorNonsupportedAttribute : Int := -1073807331
def errorAttributeReadOnly : Int := -1073807329
def errorAbort : Int := -1073807312
def errorNonsupportedOperation : Int := -1073807257

end StatusCode

/-! ## Values in expressions -/

namespace AttributeValue

/-- `bool(value)` -/
def truthy : AttributeValue → Bool
  | .wire .none => false
  | .wire (.bool b) => b
  | .wire (.int i) => i ≠ 0
  | .wire (.float x) => !(x == 0)
  | .wire (.str t) => !t.isEmpty
  | .wire (.bytes b) => !b.isEmpty
  | .wire (.tuple items) => !items.isEmpty
  | .object => true

/-- The integer a `bool` or an `int` is. -/
def asInt : AttributeValue → Option Int
  | .wire (.bool b) => some (if b then 1 else 0)
  | .wire (.int i) => some i
  | _ => none

/-- `value == member` of an integer enumeration. -/
def equals (member : Int) : AttributeValue → Bool
  | .wire (.float x) => x == Float.ofInt member
  | v => v.asInt = some member

/-- `int_to_byte(value)` -/
def toByte (v : AttributeValue) : Except Raise UInt8 :=
  match v.asInt with
  | some i => if 0 ≤ i ∧ i < 256 then .ok (UInt8.ofNat i.toNat) else .error .valueError
  | none => .error .typeError

/-- `value / 1000`: the quotient of an integer is correctly rounded, and refused past
the range. -/
def perMille : AttributeValue → Except Raise Float
  | .wire (.float x) => .ok (x / 1000)
  | v =>
      match v.asInt with
      | none => .error .typeError
      | some i =>
          let magnitude := intDivide i.natAbs 1000
          if magnitude.isFinite then .ok (if i < 0 then -magnitude else magnitude)
          else .error (.other (txt "OverflowError"))

end AttributeValue

/-! ## Sessions -/

structure Session where
  instrument : Instrument
  sessionType : SessionType
  attrs : List (Int × AttributeValue)

/-- `self.attrs[id] = value` -/
def setAttr (id : Int) (value : AttributeValue) :
    List (Int × AttributeValue) → List (Int × AttributeValue)
  | [] => [(id, value)]
  | (a, old) :: rest => if a = id then (a, value) :: rest else (a, old) :: setAttr id value rest

/-- `after_parsing` of the session's class: what the resource name fixes. -/
def parsedAttributes (p : ParsedName) : SessionType → Option (List (Int × AttributeValue))
  | .tcpipInstr => do
      let board ← int? p.board
      pure [(ResourceAttribute.interfaceNumber, .wire (.int board)),
        (ResourceAttribute.tcpipAddress, .wire (.str p.hostAddress)),
        (ResourceAttribute.tcpipDeviceName, .wire (.str p.lanDeviceName))]
  | .tcpipSocket => do
      let board ← int? p.board
      let port ← int? p.port
      pure [(ResourceAttribute.interfaceNumber, .wire (.int board)),
        (ResourceAttribute.tcpipAddress, .wire (.str p.hostAddress)),
        (ResourceAttribute.tcpipPort, .wire (.int port))]
  | .gpibInstr => do
      let board ← int? p.board
      let primary ← int? p.primaryAddress
      let secondary ←
        match p.secondaryAddress with
        | none => some (0xFFFF : Int)
        | some t => int? t
      pure [(ResourceAttribute.termchar, .wire (.int board)),
        (ResourceAttribute.gpibPrimaryAddress, .wire (.int primary)),
        (ResourceAttribute.gpibSecondaryAddress, .wire (.int secondary))]
  | .usbInstr | .usbRaw => do
      let board ← int? p.board
      pure [(ResourceAttribute.interfaceNumber, .wire (.int board)),
        (ResourceAttribute.manufacturerId, .wire (.str p.manufacturerId)),
        (ResourceAttribute.modelCode, .wire (.str p.modelCode)),
        (ResourceAttribute.usbSerialNumber, .wire (.str p.serialNumber)),
        (ResourceAttribute.usbInterfaceNumber, .wire (.int board))]
  | .asrlInstr => do
      let board ← int? p.board
      pure [(ResourceAttribute.interfaceNumber, .wire (.int board))]

namespace Session

variable (py : Pyvisa)

/-- `get_attribute`.  Remembering a default that was read changes no later read, so it
is not recorded. -/
def getAttribute (s : Session) (id : Int) : Except Raise (AttributeValue × Int) :=
  match py.attributesByID id with
  | none => .ok (.wire (.int 0), StatusCode.errorNonsupportedAttribute)
  | some attr =>
      if !attr.inResource s.sessionType then
        .ok (.wire (.int 0), StatusCode.errorNonsupportedAttribute)
      else if !attr.read then .error (.other (txt "Exception"))
      else .ok ((s.attrs.lookup id).getD attr.default, StatusCode.success)

/-- `set_attribute` -/
def setAttribute (s : Session) (id : Int) (value : WireValue) : Session × Int :=
  match py.attributesByID id with
  | none => (s, StatusCode.errorNonsupportedAttribute)
  | some attr =>
      if !attr.inResource s.sessionType then (s, StatusCode.errorNonsupportedAttribute)
      else if !attr.write then (s, StatusCode.errorAttributeReadOnly)
      else ({ s with attrs := setAttr id (.wire value) s.attrs }, StatusCode.success)

/-- The value alone. -/
def valueOf (s : Session) (id : Int) : Except Raise AttributeValue :=
  (s.getAttribute py id).map Prod.fst

/-! ### Reading -/

/-- One turn of the polling loop: the time since the call, and whether the host is
cancelling operations. -/
structure Poll where
  elapsed : Float
  cancelled : Bool

/-- The end-of-message rule of a serial session: `asrl_end_in`, and the bit that marks
the last byte, where the session has one. -/
structure SerialEnd where
  endIn : AttributeValue
  lastBit : Option Nat

/-- What `read` fixes before it polls. -/
structure ReadSettings where
  timeout : Float
  suppressEnd : Bool
  termchar : UInt8
  termcharEnabled : Bool
  serial : Option SerialEnd
  count : Int

/-- `1 << (asrl_last_bit - 1)`, by its exponent. -/
def lastBitOf (dataBits : AttributeValue) : Except Raise (Option Nat) :=
  if !dataBits.truthy then .ok none
  else
    match dataBits.asInt with
    | none => .error .typeError
    | some bits =>
        if bits - 1 < 0 then .error .valueError
        else if py.shiftLimit ≤ (bits - 1).toNat then .error (.other (txt "OverflowError"))
        else .ok (some (bits - 1).toNat)

def readSettings (s : Session) (count : Int) : Except Raise ReadSettings := do
  let timeout ← (← s.valueOf py ResourceAttribute.timeoutValue).perMille
  let suppressEnd ← s.valueOf py ResourceAttribute.suppressEndEnabled
  let termchar ← (← s.valueOf py ResourceAttribute.termchar).toByte
  let termcharEnabled ← s.valueOf py ResourceAttribute.termcharEnabled
  let interfaceType ← s.valueOf py ResourceAttribute.interfaceType
  if interfaceType.equals 4 then
    let endIn ← s.valueOf py ResourceAttribute.asrlEndIn
    let lastBit ← lastBitOf py (← s.valueOf py ResourceAttribute.asrlDataBits)
    pure ⟨timeout, suppressEnd.truthy, termchar, termcharEnabled.truthy, some ⟨endIn, lastBit⟩,
      count⟩
  else
    pure ⟨timeout, suppressEnd.truthy, termchar, termcharEnabled.truthy, none, count⟩

/-- The end indicator of a serial session after `out`, whose last byte was just read or
was not. -/
def SerialEnd.indicator (e : SerialEnd) (out : Bytes) (isTermchar : Bool) : Except Raise Bool :=
  if e.endIn.equals 0 then .ok false
  else if e.endIn.equals 2 && isTermchar then .ok true
  else if e.endIn.equals 1 then
    match out.getLast?, e.lastBit with
    | none, _ => .error (.other (txt "IndexError"))
    | some _, none => .error (.other (txt "UnboundLocalError"))
    | some last, some bit => .ok (last.toNat.testBit bit)
  else .ok false

/-- The end indicator: the device's, unless the session is serial. -/
def ReadSettings.ends (settings : ReadSettings) (ends : Bool) (out : Bytes) (isTermchar : Bool) :
    Except Raise Bool :=
  match settings.serial with
  | none => .ok ends
  | some serial => serial.indicator out isTermchar

/-- The polling loop.  When the polls run out the timeout has passed. -/
def readLoop (settings : ReadSettings) (i : Instrument) :
    List Poll → Bytes → Devices → Except Raise (Bytes × Int) × Devices
  | [], out, d => (.ok (out, StatusCode.errorTimeout), d)
  | poll :: rest, out, d =>
      if poll.elapsed ≤ settings.timeout then
        if poll.cancelled then (.ok (out, StatusCode.errorAbort), d)
        else
          let (last, ends, d) := d.readByte i
          let out := out ++ last
          let isTermchar : Bool := last = [settings.termchar]
          match settings.ends ends out isTermchar with
          | .error e => (.error e, d)
          | .ok ends =>
              if ends && !settings.suppressEnd then (.ok (out, StatusCode.success), d)
              else if isTermchar && settings.termcharEnabled then
                (.ok (out, StatusCode.successTerminationCharacterRead), d)
              else if (out.length : Int) = settings.count then
                (.ok (out, StatusCode.successMaxCountRead), d)
              else readLoop settings i rest out d
      else (.ok (out, StatusCode.errorTimeout), d)

/-! ### Writing -/

/-- The bits `iter_bytes` keeps of every byte: `none` keeps all. -/
def effectiveBits (dataBits : AttributeValue) : Except Raise (Option Nat) :=
  match dataBits with
  | .wire .none => .ok none
  | .wire (.float x) =>
      if x ≤ 0 then .error .valueError else if 8 < x then .ok (some 8) else .error .typeError
  | v =>
      match v.asInt with
      | none => .error .typeError
      | some bits =>
          if bits ≤ 0 then .error .valueError else .ok (some (min bits 8).toNat)

def maskByte (bits : Nat) (x : UInt8) : UInt8 := UInt8.ofNat (x.toNat % 2 ^ bits)

/-- `b"".join(iter_bytes(data, data_bits, send_end))` -/
def iterBytes (data : Bytes) (dataBits sendEnd : AttributeValue) : Except Raise Bytes :=
  match effectiveBits dataBits with
  | .error e => .error e
  | .ok none => if sendEnd.truthy then .error .valueError else .ok data
  | .ok (some bits) =>
      match sendEnd with
      | .wire .none => .ok (data.map (maskByte bits))
      | sendEnd =>
          if !sendEnd.truthy then .ok (data.map (maskByte (bits - 1)))
          else
            match data.getLast? with
            | none => .error (.other (txt "IndexError"))
            | some last =>
                .ok (data.dropLast.map (maskByte (bits - 1)) ++
                  [maskByte (bits - 1) last ||| UInt8.ofNat (2 ^ (bits - 1))])

/-- What a session's `write` hands its device: the chunks in order, then the count it
answers or the exception it raises. -/
structure Delivery where
  chunks : List Bytes
  result : Except Raise Nat

/-- `SerialInstrumentSession.write` -/
def serialDelivery (data : Bytes) (sendEnd asrlEnd dataBits : AttributeValue) (endChar : UInt8) :
    Delivery :=
  if asrlEnd.equals 1 then
    match iterBytes data dataBits sendEnd with
    | .error e => ⟨[], .error e⟩
    | .ok val => ⟨[val], .ok data.length⟩
  else
    match iterBytes data dataBits (.wire .none) with
    | .error e => ⟨[], .error e⟩
    | .ok val =>
        if asrlEnd.equals 2 then
          if sendEnd.truthy then ⟨[val, [endChar]], .ok (data.length + 1)⟩
          else ⟨[val], .ok data.length⟩
        else if asrlEnd.equals 3 || asrlEnd.equals 0 then ⟨[val], .ok data.length⟩
        else ⟨[val], .error .valueError⟩

/-- The delivery of `write(data)`. -/
def delivery (s : Session) (data : Bytes) : Delivery :=
  match s.sessionType with
  | .asrlInstr =>
      match (do
        let sendEnd ← s.valueOf py ResourceAttribute.sendEndEnabled
        let asrlEnd ← s.valueOf py ResourceAttribute.asrlEndOut
        let dataBits ← s.valueOf py ResourceAttribute.asrlDataBits
        let endChar ← (← s.valueOf py ResourceAttribute.termchar).toByte
        pure (serialDelivery data sendEnd asrlEnd dataBits endChar)) with
      | .error e => ⟨[], .error e⟩
      | .ok delivery => delivery
  | _ =>
      match s.valueOf py ResourceAttribute.sendEndEnabled with
      | .error e => ⟨[], .error e⟩
      | .ok _ => ⟨[data], .ok data.length⟩

end Session

/-! ## The library -/

/-- What a handle stands for: the library itself as resource manager, or a session. -/
inductive Registered where
  | manager
  | session (s : Session)

/-- What a call tells the library or gets from it: an open answers a handle, for the
resource it names or for the resource manager, the others pass one, and `close` closes
it. -/
inductive LibraryCall where
  | opened (handle : Nat) (resource : Option Text)
  | passed (handle : Nat)
  | closed (handle : Nat)
deriving DecidableEq

/-- `SimVisaLibrary`, with the bench hooked into it.  `calls` is what its methods were
called with, each entry made by the method itself. -/
structure Library where
  bench : Bench
  sessions : List (Nat × Registered)
  calls : List LibraryCall

namespace Library

/-- A method of the library notes what it is called with. -/
def heard (lib : Library) (call : LibraryCall) : Library :=
  { lib with calls := lib.calls ++ [call] }

variable (sim : Simulator) (py : Pyvisa)

/-- `_register`, under a handle that is free. -/
def register (lib : Library) (handle : Nat) (r : Registered) : Library :=
  { lib with sessions := lib.sessions ++ [(handle, r)] }

/-- `self.devices[name]` -/
def deviceAt (spec : WorldSpec) (name : Text) : Option Instrument :=
  let roles : List Role := [.psu, .switch, .awg, .dmm, .scope]
  match roles.find? fun r => spec.resourceMap r = name with
  | some r => some (.bench r)
  | none =>
      (List.range spec.distractors.length).findSome? fun n =>
        if spec.resourceName (.distractor n) = name then some (.distractor n) else none

/-- `open_default_resource_manager` -/
def openDefaultResourceManager (lib : Library) (handle : Nat) : (Nat × Int) × Library :=
  ((handle, StatusCode.success), (lib.register handle .manager).heard (.opened handle none))

/-- `open` -/
def openSession (lib : Library) (handle manager : Nat) (resourceName : Text) :
    Except Raise (Nat × Int) × Library :=
  let lib := lib.heard (.passed manager)
  match py.parseResourceName resourceName with
  | none => (.ok (0, StatusCode.errorInvalidResourceName), lib.heard (.opened 0 resourceName))
  | some parsed =>
      match parsed.sessionType with
      | none => (.error .valueError, lib)
      | some sessionType =>
          match parsedAttributes parsed sessionType with
          | none => (.error .valueError, lib)
          | some attributes =>
              match deviceAt sim.spec parsed.canonical with
              | none => (.ok (0, StatusCode.errorResourceNotFound), lib.heard (.opened 0 resourceName))
              | some i =>
                  let base : List (Int × AttributeValue) :=
                    [(ResourceAttribute.resourceManagerSession, .wire (.int manager)),
                     (ResourceAttribute.resourceName, .wire (.str parsed.canonical)),
                     (ResourceAttribute.resourceClass, .wire (.str parsed.resourceClass)),
                     (ResourceAttribute.interfaceType, .wire (.int parsed.interfaceType))]
                  let session : Registered := .session ⟨i, sessionType, base ++ attributes⟩
                  (.ok (handle, StatusCode.success),
                    (lib.register handle session).heard (.opened handle resourceName))

/-- `close` -/
def close (lib : Library) (handle : Nat) : Int × Library :=
  let lib := (lib.heard (.passed handle)).heard (.closed handle)
  if (lib.sessions.lookup handle).isSome then
    (StatusCode.success, { lib with sessions := lib.sessions.filter (·.1 ≠ handle) })
  else (StatusCode.errorInvalidObject, lib)

/-- `read` -/
def read (lib : Library) (polls : List Session.Poll) (handle : Nat) (count : Int) :
    Except Raise (Bytes × Int) × Library :=
  let lib := lib.heard (.passed handle)
  match lib.sessions.lookup handle with
  | none => (.ok ([], StatusCode.errorInvalidObject), lib)
  | some .manager => (.error .typeError, lib)
  | some (.session s) =>
      match s.readSettings py count with
      | .error e => (.error e, lib)
      | .ok settings =>
          match Session.readLoop settings s.instrument polls [] lib.bench.devices with
          | (.error e, devices) => (.error e, { lib with bench := lib.bench.withDevices devices })
          | (.ok (chunk, status), devices) =>
              let lib := { lib with bench := lib.bench.withDevices devices }
              if status = StatusCode.errorTimeout then
                (.error (.visaError StatusCode.errorTimeout), lib)
              else (.ok (chunk, status), lib)

/-- `write`, with the hook records of the commands the device ran. -/
def write (lib : Library) (digest : Text) (moments : Nat → Moment) (handle : Nat) (data : Bytes) :
    Except Raise (Nat × Int) × List Ran × Library :=
  let lib := lib.heard (.passed handle)
  match lib.sessions.lookup handle with
  | none => (.ok (0, StatusCode.errorInvalidObject), [], lib)
  | some .manager => (.error .typeError, [], lib)
  | some (.session s) =>
      let delivery := s.delivery py data
      let w := sim.deliver digest s.instrument moments delivery.chunks lib.bench
      let lib := { lib with bench := w.bench }
      match w.result with
      | .error e => (.error e, w.ran, lib)
      | .ok () => (delivery.result.map fun count => (count, StatusCode.success), w.ran, lib)

/-- `get_attribute` -/
def getAttribute (lib : Library) (handle : Nat) (id : Int) :
    Except Raise (AttributeValue × Int) × Library :=
  let lib := lib.heard (.passed handle)
  match lib.sessions.lookup handle with
  | none => (.ok (.wire (.int 0), StatusCode.errorInvalidObject), lib)
  | some .manager => (.error .typeError, lib)
  | some (.session s) => (s.getAttribute py id, lib)

/-- `set_attribute` -/
def setAttribute (lib : Library) (handle : Nat) (id : Int) (value : WireValue) :
    Except Raise Int × Library :=
  let lib := lib.heard (.passed handle)
  match lib.sessions.lookup handle with
  | none => (.ok StatusCode.errorInvalidObject, lib)
  | some .manager => (.error .typeError, lib)
  | some (.session s) =>
      let (s, status) := s.setAttribute py id value
      let put (entry : Nat × Registered) : Nat × Registered :=
        if entry.1 = handle then (handle, .session s) else entry
      (.ok status, { lib with sessions := lib.sessions.map put })

/-- `disable_event` and `discard_events`, which do nothing. -/
def eventOperation (lib : Library) (handle : Nat) : Library := lib.heard (.passed handle)

end Library

end InstrumentBench.Visa
