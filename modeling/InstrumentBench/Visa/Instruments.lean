/-
# Visa.Instruments -- the simulated instruments and how they match a command

The instrument definitions of `simulator.yaml` as tables, and the vendored
component machinery that matches one command against them: dialogues, getters,
error queues and setters, in that order.  The template parser behind the setters
is a package of its own and stays a parameter.
-/
import Mathlib.Logic.Function.Basic
import InstrumentBench.Visa.Wire

namespace InstrumentBench.Visa

set_option autoImplicit false

open InstrumentBench.Theory InstrumentBench.Theory.PyText

/-! ## Instruments and properties -/

inductive Role where
  | psu
  | switch
  | awg
  | dmm
  | scope
deriving DecidableEq

/-- A simulated device: one for each role, and the distractors of the world. -/
inductive Instrument where
  | bench (role : Role)
  | distractor (index : Nat)
deriving DecidableEq

def Role.name : Role → Text
  | .psu => txt "psu"
  | .switch => txt "switch"
  | .awg => txt "awg"
  | .dmm => txt "dmm"
  | .scope => txt "scope"

/-- `_role` -/
def Instrument.role : Instrument → Text
  | .bench r => r.name
  | .distractor _ => txt "distractor"

/-- The `type` of a property's specification. -/
inductive Kind where
  | int
  | float
  | str

namespace Kind

/-- What a property of the kind holds. -/
abbrev Value : Kind → Type
  | .int => Int
  | .float => Float
  | .str => Text

/-- What a setter template of the kind captures: `{:d}` an integer, `{}` a text. -/
abbrev Captured : Kind → Type
  | .int => Int
  | .float => Text
  | .str => Text

/-- `specs.type(captured)`; `none` is the `ValueError`. -/
def convert : (k : Kind) → k.Captured → Option k.Value
  | .int, i => some i
  | .float, t => float? t
  | .str, t => some t

def below : (k : Kind) → k.Value → k.Value → Bool
  | .int, a, b => a < b
  | .float, a, b => a < b
  | .str, a, b => a < b

def equal : (k : Kind) → k.Value → k.Value → Bool
  | .int, a, b => a = b
  | .float, a, b => a == b
  | .str, a, b => a = b

end Kind

/-- The properties of the five instruments, the PSU's and the AWG's outputs apart. -/
inductive Property where
  | channel
  | voltage
  | psuOutput
  | closeRequest
  | openRequest
  | waveformData
  | selected
  | amplitude
  | offset
  | awgOutput
  | range
  | sampleCount
  | source
  | encoding
  | width
deriving DecidableEq

namespace Property

abbrev kind : Property → Kind
  | channel | sampleCount | width => .int
  | voltage | amplitude | offset | range => .float
  | psuOutput | closeRequest | openRequest | waveformData | selected | awgOutput | source
  | encoding => .str

end Property

structure Specs (k : Kind) where
  minimum : Option k.Value
  maximum : Option k.Value
  valid : List k.Value

/-- No `min`, no `max`, no `valid`. -/
def Specs.unbounded {k : Kind} : Specs k := ⟨none, none, []⟩

namespace Property

def specs : (p : Property) → Specs p.kind
  | channel => ⟨none, none, [(1 : Int)]⟩
  | voltage => ⟨some (0 : Float), some (6 : Float), []⟩
  | psuOutput => ⟨none, none, [txt "ON", txt "OFF"]⟩
  | closeRequest => .unbounded
  | openRequest => .unbounded
  | waveformData => .unbounded
  | selected => .unbounded
  | amplitude => ⟨some (0.000001 : Float), none, []⟩
  | offset => .unbounded
  | awgOutput => ⟨none, none, [txt "ON", txt "OFF"]⟩
  | range => ⟨some (0.000001 : Float), none, []⟩
  | sampleCount => ⟨some (1 : Int), some (10000 : Int), []⟩
  | source => ⟨none, none, [txt "CH1"]⟩
  | encoding => ⟨none, none, [txt "RIBINARY"]⟩
  | width => ⟨none, none, [(1 : Int)]⟩

/-- The value a definition starts with, which `*RST` restores. -/
def default : (p : Property) → p.kind.Value
  | channel => (1 : Int)
  | voltage => (0 : Float)
  | psuOutput => txt "OFF"
  | closeRequest => txt "(@)"
  | openRequest => txt "(@)"
  | waveformData => []
  | selected => []
  | amplitude => (1 : Float)
  | offset => (0 : Float)
  | awgOutput => txt "OFF"
  | range => (10 : Float)
  | sampleCount => (1 : Int)
  | source => txt "CH1"
  | encoding => txt "RIBINARY"
  | width => (1 : Int)

/-- `validate_value`; `none` is the `ValueError`. -/
def validateValue (p : Property) (captured : p.kind.Captured) : Option p.kind.Value :=
  match p.kind.convert captured with
  | none => none
  | some value =>
      if p.specs.minimum.any (p.kind.below value) then none
      else if p.specs.maximum.any fun most => p.kind.below most value then none
      else if !p.specs.valid.isEmpty && !p.specs.valid.any (p.kind.equal value) then none
      else some value

/-- A property's value as its getter's response template formats it. -/
def format : (p : Property) → p.kind.Value → Text
  | voltage, x => fixed false 6 x
  | channel, i | sampleCount, i | width, i => intText i
  | psuOutput, t | closeRequest, t | openRequest, t | waveformData, t | selected, t
  | awgOutput, t | source, t | encoding, t => t
  | amplitude, x | offset, x | range, x => Json.renderFloat x

end Property

/-- A response; `none` is `NoResponse`. -/
abbrev Response := Option Bytes

/-- `string_to_value`: what a compiled template captures; `none` is the
`ValueError` of a text that does not match. -/
structure Stringparser where
  int : Text → Text → Option Int
  text : Text → Text → Option Text

/-- The parser that matches no template. -/
def Stringparser.unmatched : Stringparser := ⟨fun _ _ => none, fun _ _ => none⟩

def Stringparser.parse (parser : Stringparser) (p : Property) (template t : Text) :
    Option p.kind.Captured :=
  match p.kind with
  | .int => parser.int template t
  | .float => parser.text template t
  | .str => parser.text template t

/-! ## Random responses -/

/-- `needle in t` -/
def occursIn (needle t : Text) : Bool := t.tails.any needle.isPrefixOf

/-- What `random_response` takes from the interpreter while one command runs: the digits
of `\d`, and what the numbers it draws make of a response with a directive. -/
structure Random where
  isdecimal : CodePoint → Bool
  fill : Text → Except Raise Text

namespace Random

/-- The interpreter that reads the ten ASCII digits and whose drawn numbers no response
formats. -/
def unfilled : Random := ⟨fun c => (digitOf? c).isSome, fun _ => .error .valueError⟩

variable (random : Random)

/-- What is left of a text behind a literal. -/
def literal (word t : Text) : List Text :=
  if word.isPrefixOf t then [t.drop word.length] else []

/-- `\d*`: what is left behind any number of digits. -/
def digits : Text → List Text
  | [] => [[]]
  | c :: t => (c :: t) :: if random.isdecimal c then digits t else []

/-- `.` -/
def anyChar : Text → List Text
  | [] => []
  | c :: t => if c = CodePoint.ofChar '\n' then [] else [t]

/-- `\d*.\d*` -/
def number (t : Text) : List Text :=
  ((random.digits t).flatMap anyChar).flatMap random.digits

/-- `\{RANDOM\((\d*.\d*), (\d*.\d*), (\d*)\).*\}` at the head of a text. -/
def directiveHere (t : Text) : Bool :=
  let least := (literal (txt "\x7bRANDOM(") t).flatMap random.number
  let most := (least.flatMap (literal (txt ", "))).flatMap random.number
  let count := (most.flatMap (literal (txt ", "))).flatMap random.digits
  (count.flatMap (literal (txt ")"))).any fun rest =>
    (rest.takeWhile (· ≠ CodePoint.ofChar '\n')).contains (CodePoint.ofChar '\x7d')

/-- `random_response`: a response without a directive raises. -/
def response (t : Text) : Except Raise Text :=
  if t.tails.any random.directiveHere then random.fill t else .error (.other (txt "Exception"))

end Random

/-! ## The definitions -/

/-- `t.strip(" ")` -/
def stripSpaces (t : Text) : Text :=
  ((t.dropWhile (· = CodePoint.ofChar ' ')).reverse.dropWhile (· = CodePoint.ofChar ' ')).reverse

/-- `t.replace("\\x", char)` for the escape of one letter. -/
def replaceEscape (letter char : CodePoint) : Text → Text
  | a :: b :: t =>
      if a = CodePoint.ofChar '\\' ∧ b = letter then char :: replaceEscape letter char t
      else a :: replaceEscape letter char (b :: t)
  | t => t

/-- `to_bytes` -/
def toBytes (t : Text) : Bytes :=
  encodeUtf8 (replaceEscape (CodePoint.ofChar 'n') (CodePoint.ofChar '\n')
    (replaceEscape (CodePoint.ofChar 'r') (CodePoint.ofChar '\r') t))

def commonDialogues (identity : Text) : List (Bytes × Response) :=
  [(ascii "*IDN?", some (toBytes (stripSpaces identity))), (ascii "*RST", none),
   (ascii "*CLS", none)]

/-- The `dialogues` of a role. -/
def Role.dialogues : Role → List (Bytes × Response)
  | .psu => commonDialogues (txt "IAB,Virtual-E36312A,PSU001,2.0")
  | .switch => commonDialogues (txt "IAB,Virtual-34980A,SW001,2.0") ++
      [(ascii "ROUT:OPEN:ALL", none), (ascii "ROUT:CLOS?", some (ascii "DYNAMIC"))]
  | .awg => commonDialogues (txt "IAB,Virtual-33512B,AWG001,2.0") ++
      [(ascii "STAT:OPER:COND?", some (ascii "DYNAMIC"))]
  | .dmm => commonDialogues (txt "IAB,Virtual-DMM7510,DMM001,2.0") ++
      [(ascii "CONF:VOLT:DC", none), (ascii "INIT", none), (ascii "READ?", some (ascii "DYNAMIC")),
       (ascii "FETC?", some (ascii "DYNAMIC"))]
  | .scope => commonDialogues (txt "IAB,Virtual-MSO44,SCOPE001,2.0") ++
      [(ascii "WFMOUTPRE:YMULT?", some (ascii "0.02")),
       (ascii "WFMOUTPRE:YOFF?", some (ascii "0.0")),
       (ascii "WFMOUTPRE:YZERO?", some (ascii "0.0")),
       (ascii "WFMOUTPRE:NR_PT?", some (ascii "DYNAMIC")), (ascii "CURVE?", some (ascii "DYNAMIC"))]

namespace Instrument

/-- `_dialogues`; a distractor answers with the identity its world gives it. -/
def dialogues (identity : Nat → Text) : Instrument → List (Bytes × Response)
  | .bench r => r.dialogues
  | .distractor i => commonDialogues (identity i)

/-- `_getters` -/
def getters : Instrument → List (Bytes × Property)
  | .bench .psu => [(ascii "VOLT?", .voltage), (ascii "OUTP?", .psuOutput)]
  | .bench .awg => [(ascii "FUNC:ARB?", .selected), (ascii "OUTP?", .awgOutput)]
  | _ => []

/-- `_setters`: a property and its query template. -/
def setters : Instrument → List (Property × Text)
  | .bench .psu =>
      [(.channel, txt "INST:NSEL {:d}"), (.voltage, txt "VOLT {}"), (.psuOutput, txt "OUTP {}")]
  | .bench .switch => [(.closeRequest, txt "ROUT:CLOS {}"), (.openRequest, txt "ROUT:OPEN {}")]
  | .bench .awg =>
      [(.waveformData, txt "DATA:ARB {}"), (.selected, txt "FUNC:ARB {}"),
       (.amplitude, txt "VOLT {}"), (.offset, txt "VOLT:OFFS {}"), (.awgOutput, txt "OUTP {}")]
  | .bench .dmm => [(.range, txt "VOLT:DC:RANG {}"), (.sampleCount, txt "SAMP:COUN {:d}")]
  | .bench .scope =>
      [(.source, txt "DATA:SOURCE {}"), (.encoding, txt "DATA:ENC {}"),
       (.width, txt "DATA:WIDTH {:d}")]
  | .distractor _ => []

/-- The query of the error queue, of which every definition has one. -/
def errorQuery : Bytes := ascii "SYST:ERR?"

def errorDefault : Bytes := ascii "0,\"No error\""

/-- The queue's message for `command_error`. -/
def commandError : Instrument → Bytes
  | .bench _ => ascii "-221,\"Settings conflict\""
  | .distractor _ => ascii "-113,\"Undefined header\""

end Instrument

/-! ## Device state and native matching -/

/-- What the vendored device objects hold. -/
structure Devices where
  values : (p : Property) → p.kind.Value
  errorQueues : Instrument → List Bytes
  inputBuffers : Instrument → Bytes
  outputBuffers : Instrument → List Bytes

namespace Devices

/-- `set_value` -/
def set (d : Devices) (p : Property) (value : p.kind.Value) : Devices :=
  { d with values := Function.update d.values p value }

/-- `error_response("command_error")` and `enqueue_error` append to the queue. -/
def pushError (d : Devices) (i : Instrument) (message : Bytes) : Devices :=
  { d with errorQueues := Function.update d.errorQueues i (d.errorQueues i ++ [message]) }

/-- `clear_errors` -/
def clearErrors (d : Devices) (i : Instrument) : Devices :=
  { d with errorQueues := Function.update d.errorQueues i [] }

/-- `_output_buffers.append` -/
def pushOutput (d : Devices) (i : Instrument) (message : Bytes) : Devices :=
  { d with outputBuffers := Function.update d.outputBuffers i (d.outputBuffers i ++ [message]) }

def setInput (d : Devices) (i : Instrument) (buffer : Bytes) : Devices :=
  { d with inputBuffers := Function.update d.inputBuffers i buffer }

/-- `ErrorQueue.value`: the oldest message, or the default of an empty queue. -/
def popError (d : Devices) (i : Instrument) : Bytes × Devices :=
  match d.errorQueues i with
  | [] => (Instrument.errorDefault, d)
  | message :: rest =>
      (message, { d with errorQueues := Function.update d.errorQueues i rest })

/-- `_match_setters` over the setters that remain.  A value that does not validate
leaves the search going: no definition gives an error response. -/
def matchSetters (parser : Stringparser) (query : Text) (d : Devices) :
    List (Property × Text) → Option Devices
  | [] => none
  | (p, template) :: rest =>
      match parser.parse p template query with
      | none => matchSetters parser query d rest
      | some captured =>
          match p.validateValue captured with
          | none => matchSetters parser query d rest
          | some value => some (d.set p value)

/-- `_match_dialog`: a response that holds `RANDOM` is drawn anew. -/
def matchDialog (identity : Nat → Text) (random : Random) (i : Instrument) (query : Bytes) :
    Except Raise (Option Response) :=
  match (i.dialogues identity).lookup query with
  | none => .ok none
  | some none => .ok (some none)
  | some (some response) =>
      match decodeUtf8 false response with
      | none => .error .valueError
      | some t =>
          if occursIn (txt "RANDOM") t then
            (random.response t).map fun made => some (some (encodeUtf8 made))
          else .ok (some (some response))

/-- `_match_native` behind the dialogues: getters, error queues and setters.  There are
no status registers and no channels. -/
def matchTables (parser : Stringparser) (i : Instrument) (query : Bytes) (decoded : Text)
    (d : Devices) : Option (Response × Devices) :=
  match i.getters.lookup query with
  | some p => some (some (encodeUtf8 (p.format (d.values p))), d)
  | none =>
      if query = Instrument.errorQuery then
        let (message, d) := d.popError i
        some (some message, d)
      else (matchSetters parser decoded d i.setters).map fun d => (none, d)

/-- `_match_native` of a command that decodes: the response, `none` where nothing
matches. -/
def matchNative (parser : Stringparser) (identity : Nat → Text) (random : Random)
    (i : Instrument) (query : Bytes) (decoded : Text) (d : Devices) :
    Except Raise (Option (Response × Devices)) :=
  match matchDialog identity random i query with
  | .error e => .error e
  | .ok (some response) => .ok (some (response, d))
  | .ok none => .ok (d.matchTables parser i query decoded)

end Devices

/-- `_validate_native_setter`: the first template that matches decides, and its
value must validate. -/
def validateNativeSetter (parser : Stringparser) (query : Text) :
    List (Property × Text) → Except Raise Unit
  | [] => .ok ()
  | (p, template) :: rest =>
      match parser.parse p template query with
      | none => validateNativeSetter parser query rest
      | some captured =>
          match p.validateValue captured with
          | none => .error (.commandRejected (-222) (txt "Data out of range"))
          | some _ => .ok ()

end InstrumentBench.Visa
