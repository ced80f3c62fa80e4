/-
# Gateway.Loop -- one frame of a client

`_serve_client` receives a frame, validates the request in it, dispatches it and sends
the response.  `recv_frame` and the dispatch each stand before a list of exceptions; what
is on neither list ends the thread, and so does a response that does not fit a frame.
-/
import InstrumentBench.Gateway.WriteRecords

namespace InstrumentBench.Gateway

set_option autoImplicit false

open InstrumentBench.Theory InstrumentBench.Theory.PyText

/-! ## Loading JSON -/

/-- A JSON document, as `json.loads` scans it. -/
inductive Document where
  | null
  | bool (b : Bool)
  | number (literal : NumberLiteral)
  | constant (x : Float)
  | string (t : Text)
  | array (items : List Document)
  | object (members : List (Text × Document))

namespace Document

mutual

/-- The nesting of arrays and objects. -/
def depth : Document → Nat
  | array items => depthItems items + 1
  | object members => depthMembers members + 1
  | _ => 0

def depthItems : List Document → Nat
  | [] => 0
  | d :: ds => max d.depth (depthItems ds)

def depthMembers : List (Text × Document) → Nat
  | [] => 0
  | (_, d) :: ms => max d.depth (depthMembers ms)

end

mutual

/-- No integer literal is longer than `int` converts. -/
def withinDigits : Document → Bool
  | number literal => literal.isFloat || (decimalDigits literal.whole).length ≤ maxStrDigits
  | array items => withinDigitsItems items
  | object members => withinDigitsMembers members
  | _ => true

def withinDigitsItems : List Document → Bool
  | [] => true
  | d :: ds => d.withinDigits && withinDigitsItems ds

def withinDigitsMembers : List (Text × Document) → Bool
  | [] => true
  | (_, d) :: ms => d.withinDigits && withinDigitsMembers ms

end

mutual

/-- The loaded value; of two members with one key the later counts. -/
def value : Document → Json
  | null => .null
  | bool b => .bool b
  | number literal => if literal.isFloat then .float literal.toFloat else .int literal.toInt
  | constant x => .float x
  | string t => .str t
  | array items => .arr (values items)
  | object members => .obj (valueMembers [] members)

def values : List Document → List Json
  | [] => []
  | d :: ds => d.value :: values ds

def valueMembers (loaded : List (Text × Json)) : List (Text × Document) → List (Text × Json)
  | [] => loaded
  | (key, d) :: ms => valueMembers (PyDict.set key d.value loaded) ms

end

end Document

/-- A frame whose JSON is an object. -/
structure Frame where
  size : Nat
  members : List (Text × Document)

def MAX_FRAME_BYTES : Nat := 1048576

/-- What `recv_frame` ends in: a request, the `ProtocolError` of a frame that is too
large, or an exception the loop does not name: a plain `ValueError` or a
`RecursionError` of `json.loads`. -/
inductive Received where
  | request (fields : List (Text × Json))
  | refused
  | escaped

/-- The document loads within the limits of the interpreter. -/
def Frame.Loads (it : Interpreter) (frame : Frame) : Prop :=
  (Document.object frame.members).depth ≤ it.nesting ∧
    (Document.object frame.members).withinDigits = true

instance (it : Interpreter) (frame : Frame) : Decidable (frame.Loads it) := by
  unfold Frame.Loads
  infer_instance

/-- `recv_frame` -/
def recvFrame (it : Interpreter) (frame : Frame) : Received :=
  if MAX_FRAME_BYTES < frame.size then .refused
  else if frame.Loads it then .request (Document.valueMembers [] frame.members)
  else .escaped

/-! ## `str` of a loaded value -/

/-- `float.__repr__` -/
def floatText (x : Float) : Text :=
  if x.isFinite then (reprLiteral x).render
  else if x.isNaN then txt "nan" else if x < 0 then txt "-inf" else txt "inf"

mutual

/-- `repr(value)` -/
def pyRepr (printable : CodePoint → Bool) : Json → Text
  | .null => txt "None"
  | .bool b => if b then txt "True" else txt "False"
  | .int i => intText i
  | .float x => floatText x
  | .str t => repr printable t
  | .arr items => txt "[" ++ pyReprItems printable items ++ txt "]"
  | .obj fields => txt "\x7b" ++ pyReprFields printable fields ++ txt "\x7d"

def pyReprItems (printable : CodePoint → Bool) : List Json → Text
  | [] => []
  | [v] => pyRepr printable v
  | v :: vs => pyRepr printable v ++ txt ", " ++ pyReprItems printable vs

def pyReprFields (printable : CodePoint → Bool) : List (Text × Json) → Text
  | [] => []
  | [(k, v)] => repr printable k ++ txt ": " ++ pyRepr printable v
  | (k, v) :: fs =>
      repr printable k ++ txt ": " ++ pyRepr printable v ++ txt ", " ++ pyReprFields printable fs

end

/-- `str(value)` -/
def pyStr (printable : CodePoint → Bool) : Json → Text
  | .str t => t
  | v => pyRepr printable v

/-! ## Requests and responses -/

/-- `value == PROTOCOL_VERSION`, for which `True` and `1.0` are the version too. -/
def isVersion : Option Json → Bool
  | some (.int i) => i = GatewayServer.PROTOCOL_VERSION
  | some (.bool b) => b
  | some (.float x) => x == 1
  | _ => false

/-- `validate_request`: the parts of a request, or the code of the `ProtocolError`. -/
def validateRequest (fields : List (Text × Json)) : Except Text (Text × Text × Arguments) :=
  if ¬ isVersion (fields.lookup (txt "version")) then .error (txt "unsupported_version")
  else
    match fields.lookup (txt "request_id") with
    | some (.str (c :: id)) =>
        match fields.lookup (txt "operation") with
        | some (.str (o :: operation)) =>
            match fields.lookup (txt "arguments") with
            | none => .ok (c :: id, o :: operation, [])
            | some (.obj arguments) => .ok (c :: id, o :: operation, arguments)
            | some _ => .error (txt "invalid_arguments")
        | _ => .error (txt "invalid_operation")
    | _ => .error (txt "invalid_request_id")

/-- The response to a request that went well. -/
def okResponse (requestId : Text) (result : Json) : Json :=
  .obj [(txt "version", .int GatewayServer.PROTOCOL_VERSION), (txt "request_id", .str requestId),
    (txt "ok", .bool true), (txt "result", result)]

/-- `_error` -/
def errorResponse (requestId code message : Text) : Json :=
  .obj [(txt "version", .int GatewayServer.PROTOCOL_VERSION), (txt "request_id", .str requestId),
    (txt "ok", .bool false),
    (txt "error", .obj [(txt "code", .str code), (txt "message", .str message)])]

/-- The id an error response carries. -/
def errorId (it : Interpreter) (fields : List (Text × Json)) : Text :=
  match fields.lookup (txt "request_id") with
  | some v => pyStr it.printable v
  | none => txt "invalid"

/-- What serving a frame ends in: a response on the wire, the loop left without one, or
an exception out of the loop. -/
inductive Served where
  | responded (response : Json)
  | silent
  | escaped

/-- `send_frame` -/
def sendFrame (response : Json) : Served :=
  if MAX_FRAME_BYTES < (Json.dumps response).length then .silent else .responded response

/-- The code and the message of an exception that is answered. -/
def Raised.told (it : Interpreter) : Raised → Text × Text
  | .operation code message => (code, message)
  | .fault (.command message) => (txt "instrument_error", message)
  | .fault (.key argument) => (txt "instrument_error", repr it.printable argument)
  | _ => ([], [])

/-- The response to what a dispatch ended in; `none` is an exception that escapes. -/
def respond (it : Interpreter) (fields : List (Text × Json)) (requestId : Text) :
    Except Raised Json → Option Json
  | .ok result => some (okResponse requestId result)
  | .error raised =>
      if raised.escapes then none
      else
        let (code, message) := raised.told it
        some (errorResponse (errorId it fields) code message)

/-- A frame of a client, and what its dispatch finds. -/
structure Arrival where
  owner : Text
  reading : Reading
  frame : Frame

/-- The request in a frame. -/
def Arrival.request (a : Arrival) (operation : Text) (arguments : Arguments) : Request :=
  ⟨a.owner, a.reading, operation, arguments⟩

namespace GatewayServer

/-- A request that has been received. -/
def answer (it : Interpreter) (spec : WorldSpec) (g : GatewayServer) (a : Arrival)
    (fields : List (Text × Json)) : GatewayServer × Option Json :=
  match validateRequest fields with
  | .error code => (g, some (errorResponse (errorId it fields) code code))
  | .ok (requestId, operation, arguments) =>
      let (g, reply) := g.request it spec (a.request operation arguments)
      (g, respond it fields requestId reply)

/-- One round of `_serve_client`. -/
def serveFrame (it : Interpreter) (spec : WorldSpec) (g : GatewayServer) (a : Arrival) :
    GatewayServer × Served :=
  match recvFrame it a.frame with
  | .refused => (g, .silent)
  | .escaped => (g, .escaped)
  | .request fields =>
      match g.answer it spec a fields with
      | (g, some response) => (g, sendFrame response)
      | (g, none) => (g, .escaped)

/-- A round, and the end of the thread unless it goes on. -/
def serveStep (it : Interpreter) (spec : WorldSpec) (g : GatewayServer) (a : Arrival) :
    GatewayServer :=
  match g.serveFrame it spec a with
  | (g, .responded _) => g
  | (g, _) => g.forceCloseOwner spec a.owner

end GatewayServer

end InstrumentBench.Gateway
