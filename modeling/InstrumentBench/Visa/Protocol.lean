/-
# Visa.Protocol -- the frames between the candidate and the broker

A message is a JSON object in a frame: four bytes of length, then its text.  Arguments
and results are wire values; byte strings and tuples travel as tagged objects.  The
encoder checks the kinds of values, the receiver the limits: the digits of integers when
the text is loaded, the nesting and the number of nodes when wire values are decoded.
-/
import InstrumentBench.Theory.Chunks
import InstrumentBench.Theory.JsonUnicode
import InstrumentBench.Theory.PyDict
import InstrumentBench.Visa.Wire

namespace InstrumentBench.Visa.Protocol

set_option autoImplicit false

open InstrumentBench.Theory InstrumentBench.Theory.PyText

def PROTOCOL_VERSION : Int := 1
def MAX_FRAME_BYTES : Nat := 1048576
def MAX_WIRE_DEPTH : Nat := 16
def MAX_WIRE_ITEMS : Nat := 4096
def MAX_JSON_INTEGER_DIGITS : Nat := 4096

/-- The exceptions of the protocol. -/
inductive Failure where
  | protocolError (message : Text)
  | connectionClosed
  | remoteVisaError (kind : Text) (code : Int) (message : Text)
deriving DecidableEq

def protocolError {α : Type} (message : String) : Except Failure α :=
  .error (.protocolError (txt message))

/-- The members of a JSON object. -/
abbrev Message := List (Text × Json)

/-- `set(message) == names` -/
def hasKeys (message : Message) (names : List String) : Bool :=
  (Json.keys message).all (fun k => (names.map txt).contains k) &&
    names.all fun name => (Json.keys message).contains (txt name)

/-- `message[name]` of a name that is there. -/
def member (message : Message) (name : String) : Json := (message.lookup (txt name)).getD .null

/-! ## Wire values -/

/-- `_require_utf8` -/
def requireUtf8 (t : Text) : Except Failure Unit :=
  if (encodeUtf8? t).isSome then .ok () else protocolError "wire strings must be valid UTF-8"

mutual

/-- `encode_wire_value` -/
def encodeWireValue : WireValue → Except Failure Json
  | .none => .ok .null
  | .bool b => .ok (.bool b)
  | .int i => .ok (.int i)
  | .str t => (requireUtf8 t).map fun _ => .str t
  | .float x => if x.isFinite then .ok (.float x) else protocolError "wire floats must be finite"
  | .bytes b => .ok (.obj [(txt "type", .str (txt "bytes")), (txt "base64", .str (base64 b))])
  | .tuple items =>
      (encodeWireItems items).map fun items =>
        .obj [(txt "type", .str (txt "list")), (txt "items", .arr items)]

def encodeWireItems : List WireValue → Except Failure (List Json)
  | [] => .ok []
  | v :: vs =>
      match encodeWireValue v with
      | .error e => .error e
      | .ok w =>
          match encodeWireItems vs with
          | .error e => .error e
          | .ok ws => .ok (w :: ws)

end

/-- What `decode_wire_value` checks of every value: its depth, then the budget, from
which it takes one. -/
def spend (depth budget : Nat) : Except Failure Nat :=
  if MAX_WIRE_DEPTH < depth then protocolError "wire value nesting is too deep"
  else
    match budget with
    | 0 => protocolError "wire value contains too many items"
    | budget + 1 => .ok budget

mutual

/-- `decode_wire_value`, and what is left of the budget. -/
def decodeWireValue (v : Json) (depth budget : Nat) : Except Failure (WireValue × Nat) :=
  match spend depth budget with
  | .error e => .error e
  | .ok budget =>
      match v with
      | .null => .ok (.none, budget)
      | .bool b => .ok (.bool b, budget)
      | .int i => .ok (.int i, budget)
      | .str t => (requireUtf8 t).map fun _ => (.str t, budget)
      | .float x =>
          if x.isFinite then .ok (.float x, budget) else protocolError "wire floats must be finite"
      | .arr _ => protocolError "unsupported wire value"
      | .obj fields =>
          match fields.lookup (txt "type") with
          | some (.str tag) =>
              if tag = txt "bytes" then
                if hasKeys fields ["type", "base64"] then
                  match fields.lookup (txt "base64") with
                  | some (.str t) =>
                      match base64Decode t with
                      | some b => .ok (.bytes b, budget)
                      | none => protocolError "invalid base64 value"
                  | _ => protocolError "invalid bytes value"
                else protocolError "invalid bytes value"
              else if tag = txt "list" then
                if hasKeys fields ["type", "items"] then
                  match found : fields.lookup (txt "items") with
                  | some (.arr items) =>
                      match decodeWireItems items (depth + 1) budget with
                      | .error e => .error e
                      | .ok (items, budget) => .ok (.tuple items, budget)
                  | _ => protocolError "invalid list value"
                else protocolError "invalid list value"
              else protocolError "unknown wire value tag"
          | _ => protocolError "unknown wire value tag"
termination_by sizeOf v
decreasing_by
  have smaller := List.sizeOf_lt_of_mem (PyDict.mem_of_lookup found)
  simp only [Prod.mk.sizeOf_spec, Json.arr.sizeOf_spec, Json.obj.sizeOf_spec] at smaller ⊢
  omega

/-- The items of a tuple, one after the other with one budget. -/
def decodeWireItems (vs : List Json) (depth budget : Nat) :
    Except Failure (List WireValue × Nat) :=
  match vs with
  | [] => .ok ([], budget)
  | v :: vs =>
      match decodeWireValue v depth budget with
      | .error e => .error e
      | .ok (w, budget) =>
          match decodeWireItems vs depth budget with
          | .error e => .error e
          | .ok (ws, budget) => .ok (w :: ws, budget)
termination_by sizeOf vs

end

/-! ## Frames -/

/-- `len(payload).to_bytes(4, "big")` -/
def lengthHeader (n : Nat) : Bytes :=
  [UInt8.ofNat (n / 16777216), UInt8.ofNat (n / 65536), UInt8.ofNat (n / 256), UInt8.ofNat n]

/-- `int.from_bytes(header, "big")` -/
def headerLength (header : Bytes) : Nat := header.foldl (fun n b => n * 256 + b.toNat) 0

/-- `json.dumps(message, ...).encode("utf-8")` -/
def payloadOf (message : Message) : Except Failure Bytes :=
  if (Json.obj message).finite && (Json.obj message).withinDigits then
    match encodeUtf8? (Json.obj message).dumpsUnicode with
    | some payload => .ok payload
    | none => protocolError "message is not canonical JSON"
  else protocolError "message is not canonical JSON"

/-- `encode_message` -/
def encodeMessage (message : Message) : Except Failure Bytes :=
  match payloadOf message with
  | .error e => .error e
  | .ok payload =>
      if payload = [] ∨ MAX_FRAME_BYTES < payload.length then protocolError "invalid frame length"
      else .ok (lengthHeader payload.length ++ payload)

/-- `_recv_exact` -/
def recvExact (stream : ChunkStream) (count : Nat) (allowCleanEof : Bool) :
    Except Failure (Bytes × ChunkStream) :=
  match stream.readExact count with
  | .ok received => .ok received
  | .error got =>
      if allowCleanEof && got.isEmpty then .error .connectionClosed
      else protocolError "truncated frame"

/-- The object in a payload.  An integer token has no leading zeros, so that the digits
`_parse_json_int` counts are those of its value, and every refusal of the loader has one
message. -/
def loadPayload (payload : Bytes) : Except Failure Message :=
  match decodeUtf8 false payload with
  | none => protocolError "invalid JSON payload"
  | some text =>
      match Json.loads text with
      | .error _ => protocolError "invalid JSON payload"
      | .ok v =>
          if v.integersWithin MAX_JSON_INTEGER_DIGITS then
            match v with
            | .obj message => .ok message
            | _ => protocolError "message must be a JSON object"
          else protocolError "invalid JSON payload"

/-- `recv_message`, and the stream after the frame. -/
def recvMessage (stream : ChunkStream) : Except Failure (Message × ChunkStream) :=
  match recvExact stream 4 true with
  | .error e => .error e
  | .ok (header, stream) =>
      let length := headerLength header
      if length = 0 ∨ MAX_FRAME_BYTES < length then protocolError "invalid frame length"
      else
        match recvExact stream length false with
        | .error e => .error e
        | .ok (payload, stream) => (loadPayload payload).map fun message => (message, stream)

/-! ## Requests -/

/-- An argument map. -/
structure ArgumentMap where
  entries : Args
  distinct : (entries.map Prod.fst).Nodup

/-- `_require_utf8` of every key. -/
def requireKeysUtf8 : List Text → Except Failure Unit
  | [] => .ok ()
  | k :: ks =>
      match requireUtf8 k with
      | .error e => .error e
      | .ok _ => requireKeysUtf8 ks

def encodeArguments : Args → Except Failure Message
  | [] => .ok []
  | (k, v) :: rest =>
      match encodeWireValue v with
      | .error e => .error e
      | .ok w => (encodeArguments rest).map fun encoded => (k, w) :: encoded

/-- `encode_request` -/
def encodeRequest (requestId : Int) (operation : Text) (args : ArgumentMap) :
    Except Failure Bytes :=
  if ¬ 0 < requestId then protocolError "invalid request ID"
  else if operation = [] then protocolError "invalid operation"
  else
    match requireUtf8 operation with
    | .error e => .error e
    | .ok _ =>
        if ¬ ∀ entry ∈ args.entries, entry.1 ≠ [] then protocolError "invalid request arguments"
        else
          match requireKeysUtf8 (args.entries.map Prod.fst) with
          | .error e => .error e
          | .ok _ =>
              match encodeArguments args.entries with
              | .error e => .error e
              | .ok encoded =>
                  encodeMessage [(txt "version", .int PROTOCOL_VERSION),
                    (txt "request_id", .int requestId), (txt "operation", .str operation),
                    (txt "args", .obj encoded)]

/-- The decoded arguments; each takes one from the budget besides its nodes. -/
def decodeArguments : Message → Nat → Except Failure Args
  | [], _ => .ok []
  | (k, v) :: rest, budget =>
      match budget with
      | 0 => protocolError "request contains too many argument items"
      | budget + 1 =>
          match decodeWireValue v 0 budget with
          | .error e => .error e
          | .ok (w, budget) => (decodeArguments rest budget).map fun decoded => (k, w) :: decoded

/-- The request id of a message, if it is valid. -/
def validRequestId : Json → Option Int
  | .int requestId => if 0 < requestId then some requestId else none
  | _ => none

/-- `decode_request` -/
def decodeRequest (message : Message) : Except Failure (Int × Text × Args) :=
  if ¬ hasKeys message ["version", "request_id", "operation", "args"] then
    protocolError "invalid request shape"
  else if member message "version" ≠ .int PROTOCOL_VERSION then
    protocolError "unsupported protocol version"
  else
    match validRequestId (member message "request_id") with
    | none => protocolError "invalid request ID"
    | some requestId =>
        match member message "operation" with
        | .str (c :: operation) =>
            match requireUtf8 (c :: operation) with
            | .error e => .error e
            | .ok _ =>
                match member message "args" with
                | .obj args =>
                    if ¬ ∀ entry ∈ args, entry.1 ≠ [] then
                      protocolError "invalid request arguments"
                    else
                      match requireKeysUtf8 (Json.keys args) with
                      | .error e => .error e
                      | .ok _ =>
                          (decodeArguments args MAX_WIRE_ITEMS).map fun decoded =>
                            (requestId, c :: operation, decoded)
                | _ => protocolError "invalid request arguments"
        | _ => protocolError "invalid operation"

/-! ## Responses -/

/-- `success_response` -/
def successResponse (requestId : Int) (result : WireValue) (status : Option Int) :
    Except Failure Message :=
  if ¬ 0 < requestId then protocolError "invalid request ID"
  else
    (encodeWireValue result).map fun result =>
      [(txt "version", .int PROTOCOL_VERSION), (txt "request_id", .int requestId),
        (txt "ok", .bool true), (txt "result", result),
        (txt "status", match status with
          | some code => .int code
          | none => .null)]

/-- The error of an error response. -/
def decodeError (error : Json) : Failure :=
  match error with
  | .obj fields =>
      if hasKeys fields ["kind", "code", "message"] then
        match member fields "kind", member fields "code", member fields "message" with
        | .str (k :: kind), .int code, .str (m :: message) =>
            .remoteVisaError (k :: kind) code (m :: message)
        | _, _, _ => .protocolError (txt "invalid remote error")
      else .protocolError (txt "invalid remote error")
  | _ => .protocolError (txt "invalid remote error")

/-- `decode_response` -/
def decodeResponse (message : Message) (expectedRequestId : Int) :
    Except Failure (WireValue × Option Int) :=
  if ¬ ["version", "request_id", "ok"].all fun name => (Json.keys message).contains (txt name) then
    protocolError "invalid response shape"
  else if member message "version" ≠ .int PROTOCOL_VERSION then
    protocolError "unsupported protocol version"
  else if validRequestId (member message "request_id") ≠ some expectedRequestId then
    protocolError "response request ID mismatch"
  else
    match member message "ok" with
    | .bool true =>
        if ¬ hasKeys message ["version", "request_id", "ok", "result", "status"] then
          protocolError "invalid success response shape"
        else
          match member message "status" with
          | .null => (decodeWireValue (member message "result") 0 MAX_WIRE_ITEMS).map fun decoded =>
              (decoded.1, none)
          | .int status =>
              (decodeWireValue (member message "result") 0 MAX_WIRE_ITEMS).map fun decoded =>
                (decoded.1, some status)
          | _ => protocolError "invalid VISA status"
    | .bool false =>
        if ¬ hasKeys message ["version", "request_id", "ok", "error"] then
          protocolError "invalid error response shape"
        else .error (decodeError (member message "error"))
    | _ => protocolError "invalid response outcome"

end InstrumentBench.Visa.Protocol
