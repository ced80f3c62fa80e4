/-
# Gateway.Server -- the gateway's requests

`GatewayServer` serves the rack to clients: it owns the sessions they open, checks
who may use one, hands their commands to the rack and appends an evidence record for
what it did.  A request is dispatched in a reading of its surroundings: the
milliseconds since the last one, and the token `secrets` draws next.
-/
import InstrumentBench.Gateway.Instruments

namespace InstrumentBench.Gateway

set_option autoImplicit false

open InstrumentBench.Theory InstrumentBench.Theory.PyText

/-! ## Sessions and evidence -/

/-- `_Session` -/
structure Session where
  owner : Text
  resource : Text
  timeoutMs : Int
  readTermination : Option Text
  writeTermination : Option Text
  pending : Option Bytes
deriving DecidableEq

def Session.new (owner resource : Text) : Session := ⟨owner, resource, 5000, none, none, none⟩

/-- `EvidenceEvent`, with what `append` was given; the digests, the base64 forms and
the byte counts of a record are functions of these. -/
structure EvidenceEvent where
  sequence : Nat
  operation : Text
  session : Option Text
  resource : Option Text
  role : Option Text
  request : Option Bytes
  response : Option Bytes
  stateBefore : WorldSnapshot
  stateAfter : WorldSnapshot
  outcome : Text
  errorCode : Option Text
  cleanupSource : Option Text

namespace EvidenceEvent

def sessionDigest (e : EvidenceEvent) : Option Text :=
  e.session.map fun session => hexdigest (encodeUtf8 session)

def requestB64 (e : EvidenceEvent) : Option Text := e.request.map base64

def responseB64 (e : EvidenceEvent) : Option Text := e.response.map base64

def requestSha256 (e : EvidenceEvent) : Text := hexdigest (e.request.getD [])

def responseSha256 (e : EvidenceEvent) : Text := hexdigest (e.response.getD [])

def requestBytes (e : EvidenceEvent) : Nat := (e.request.getD []).length

def responseBytes (e : EvidenceEvent) : Nat := (e.response.getD []).length

end EvidenceEvent

/-- What a request raises: `_GatewayOperationError`, an exception of the rack, or the
`TypeError` of a value that cannot be a dictionary key. -/
inductive Raised where
  | operation (code message : Text)
  | fault (fault : Fault)
  | typeError
deriving DecidableEq

/-- The exception is none that `_serve_client` answers. -/
def Raised.escapes : Raised → Bool
  | .operation _ _ => false
  | .fault (.command _) | .fault (.key _) => false
  | .fault _ => true
  | .typeError => true

def refuse {α : Type} (code message : String) : Except Raised α :=
  .error (.operation (txt code) (txt message))

/-- What the gateway takes from its interpreter: the table of printable characters
outside ASCII, and the nesting of JSON that the recursion limit admits. -/
structure Interpreter where
  printable : CodePoint → Bool
  nesting : Nat

/-- What a request finds besides the server's own state. -/
structure Reading where
  elapsedMs : Nat
  token : Text

/-- The arguments of a request. -/
abbrev Arguments := List (Text × Json)

/-- `GatewayServer`, with its rack and its journal. -/
structure GatewayServer where
  rack : InstrumentRack
  sessions : List (Text × Session)
  journal : List EvidenceEvent

namespace GatewayServer

/-- `GatewayServer(socket_path, InstrumentRack(spec))` -/
def new (spec : WorldSpec) : GatewayServer := ⟨.new spec, [], []⟩

/-! ## Arguments -/

/-- `_required_str` -/
def requiredStr (arguments : Arguments) (key : String) : Except Raised Text :=
  match arguments.lookup (txt key) with
  | some (.str (c :: t)) => .ok (c :: t)
  | _ => .error (.operation (txt "invalid_argument") (txt key ++ txt " is required"))

def terminations : List (Text × Text) :=
  [(txt "LF", txt "\n"), (txt "CR", txt "\r"), (txt "CRLF", txt "\r\n"), (txt "\n", txt "\n"),
   (txt "\r", txt "\r"), (txt "\r\n", txt "\r\n")]

/-- `_termination` -/
def termination (arguments : Arguments) : Except Raised (Option Text) :=
  match arguments.lookup (txt "termination") with
  | none | some .null => .ok none
  | some (.arr _) | some (.obj _) => .error .typeError
  | some (.str t) =>
      match terminations.lookup t with
      | some normalized => .ok (some normalized)
      | none => refuse "invalid_argument"
          "termination must be LF, CR, CRLF, newline, carriage return, or both"
  | some _ => refuse "invalid_argument"
      "termination must be LF, CR, CRLF, newline, carriage return, or both"

def MAX_PAYLOAD_BYTES : Nat := 262144

/-- `_decode_payload` -/
def decodePayload (arguments : Arguments) : Except Raised Bytes :=
  match arguments.lookup (txt "payload_b64") with
  | some (.str t) =>
      match base64Decode t with
      | none => refuse "invalid_argument" "payload_b64 is invalid"
      | some payload =>
          if MAX_PAYLOAD_BYTES < payload.length then
            refuse "payload_too_large" "payload exceeds 262144 bytes"
          else .ok payload
  | _ => refuse "invalid_argument" "payload_b64 is required"

/-- The checked `timeout_ms`, and its `str`; a boolean is an integer. -/
def timeoutArgument (arguments : Arguments) : Except Raised (Int × Text) :=
  let checked (timeoutMs : Int) (text : Text) : Except Raised (Int × Text) :=
    if timeoutMs < 1 ∨ timeoutMs > 120000 then
      refuse "invalid_argument" "timeout_ms must be between 1 and 120000"
    else .ok (timeoutMs, text)
  match arguments.lookup (txt "timeout_ms") with
  | some (.int timeoutMs) => checked timeoutMs (intText timeoutMs)
  | some (.bool true) => checked 1 (txt "True")
  | _ => refuse "invalid_argument" "timeout_ms must be between 1 and 120000"

/-! ## The journal -/

/-- `journal.append` -/
def append (g : GatewayServer) (record : Nat → EvidenceEvent) : GatewayServer :=
  { g with journal := g.journal ++ [record (g.journal.length + 1)] }

/-- `_record_session`, whose remaining arguments default to a record without request,
response and error. -/
def recordSession (g : GatewayServer) (spec : WorldSpec) (operation id : Text) (session : Session)
    (before : WorldSnapshot) (request response : Option Bytes) (outcome : Text)
    (errorCode cleanupSource : Option Text) : GatewayServer :=
  g.append fun sequence =>
    { sequence, operation, session := some id, resource := some session.resource
      role := (InstrumentRack.roleFor spec session.resource).toOption
      request, response, stateBefore := before, stateAfter := g.rack.world.snapshot
      outcome, errorCode, cleanupSource }

/-- A record of something that went well. -/
def recordOk (g : GatewayServer) (spec : WorldSpec) (operation id : Text) (session : Session)
    (before : WorldSnapshot) (request response : Option Bytes) : GatewayServer :=
  g.recordSession spec operation id session before request response (txt "ok") none none

/-- The close record of a session. -/
def recordClose (g : GatewayServer) (spec : WorldSpec) (id : Text) (session : Session)
    (before : WorldSnapshot) (source : String) : GatewayServer :=
  g.recordSession spec (txt "close") id session before none none (txt "ok") none
    (some (txt source))

/-! ## Operations -/

/-- `_sync_clock` -/
def syncClock (g : GatewayServer) (elapsedMs : Nat) : GatewayServer :=
  { g with rack := { g.rack with world := g.rack.world.advanceMs elapsedMs } }

/-- `rack.list_resources()` -/
def listResources (spec : WorldSpec) : List Text :=
  spec.resourceMap.map Prod.snd ++ spec.distractors.map Prod.fst

/-- `session.field = value` of the session the table holds. -/
def setSession (g : GatewayServer) (id : Text) (session : Session) : GatewayServer :=
  { g with
    sessions := g.sessions.map fun entry => if entry.1 = id then (id, session) else entry }

/-- `_owned_session` -/
def ownedSession (g : GatewayServer) (owner id : Text) : Except Raised Session :=
  match g.sessions.lookup id with
  | some session =>
      if session.owner = owner then .ok session
      else refuse "invalid_session" "invalid or foreign session"
  | none => refuse "invalid_session" "invalid or foreign session"

/-- `list_resources` -/
def list (g : GatewayServer) (spec : WorldSpec) : GatewayServer × Except Raised Json :=
  let snapshot := g.rack.world.snapshot
  (g.append fun sequence =>
    { sequence, operation := txt "list_resources", session := none, resource := none, role := none
      request := none, response := some (encodeUtf8 (join (txt "\n") (listResources spec)))
      stateBefore := snapshot, stateAfter := snapshot, outcome := txt "ok", errorCode := none
      cleanupSource := none },
    .ok (.arr ((listResources spec).map .str)))

/-- The resource an `open_resource` names. -/
def openArgument (it : Interpreter) (spec : WorldSpec) (arguments : Arguments) :
    Except Raised Text :=
  match requiredStr arguments "resource" with
  | .error raised => .error raised
  | .ok resource =>
      if (listResources spec).contains resource then .ok resource
      else .error (.operation (txt "resource_not_found")
        (txt "unknown resource " ++ repr it.printable resource))

/-- The first half of `open_resource`: the session is in the table. -/
def insertSession (g : GatewayServer) (owner token resource : Text) : GatewayServer :=
  { g with sessions := PyDict.set token (Session.new owner resource) g.sessions }

/-- The second half: its reopening is counted and it is recorded. -/
def recordOpen (g : GatewayServer) (spec : WorldSpec) (token resource : Text) : GatewayServer :=
  let role := (InstrumentRack.roleFor spec resource).toOption
  let g := { g with
    rack := { g.rack with world := g.rack.world.noteSessionReopen (role.getD []) } }
  let snapshot := g.rack.world.snapshot
  g.append fun sequence =>
    { sequence, operation := txt "open_resource", session := some token, resource := some resource
      role, request := some (encodeUtf8 resource), response := none, stateBefore := snapshot
      stateAfter := snapshot, outcome := txt "ok", errorCode := none, cleanupSource := none }

/-- `set_timeout` -/
def setTimeout (g : GatewayServer) (spec : WorldSpec) (id : Text) (session : Session)
    (arguments : Arguments) : GatewayServer × Except Raised Json :=
  match timeoutArgument arguments with
  | .error raised => (g, .error raised)
  | .ok (timeoutMs, text) =>
      let session := { session with timeoutMs }
      ((g.setSession id session).recordOk spec (txt "set_timeout") id session g.rack.world.snapshot
        (some (encodeUtf8 text)) none, .ok (.bool true))

/-- `set_read_termination` and `set_write_termination`. -/
def setTermination (g : GatewayServer) (spec : WorldSpec) (operation id : Text)
    (assign : Option Text → Session) (arguments : Arguments) :
    GatewayServer × Except Raised Json :=
  match termination arguments with
  | .error raised => (g, .error raised)
  | .ok normalized =>
      let session := assign normalized
      ((g.setSession id session).recordOk spec operation id session g.rack.world.snapshot
        (some (encodeUtf8 (normalized.getD (txt "None")))) none, .ok (.bool true))

/-- The bytes of a write: the payload, ended by the session's write termination. -/
def terminated (session : Session) (payload : Bytes) : Bytes :=
  match session.writeTermination with
  | none => payload
  | some ending =>
      let ending := (encodeAscii ending).getD []
      if ending <:+ payload then payload else payload ++ ending

/-- `write` -/
def write (g : GatewayServer) (spec : WorldSpec) (id : Text) (session : Session)
    (arguments : Arguments) : GatewayServer × Except Raised Json :=
  match decodePayload arguments with
  | .error raised => (g, .error raised)
  | .ok payload =>
      let before := g.rack.world.snapshot
      let payload := terminated session payload
      let written : Except Raised Json :=
        .ok (.obj [(txt "bytes_written", .int payload.length)])
      let recorded (g : GatewayServer) (session : Session) (response : Option Bytes) :=
        g.recordOk spec (txt "write") id session before (some payload) response
      let refused (g : GatewayServer) :=
        g.recordSession spec (txt "write") id session before (some payload) none (txt "error")
          (some (txt "instrument_error")) none
      match g.rack.write spec session.resource payload with
      | (rack, .error fault) =>
          let g := { g with rack }
          match fault with
          | .command _ | .key _ => (refused g, .error (.fault fault))
          | _ => (g, .error (.fault fault))
      | (rack, .ok none) =>
          let g := { g with rack }
          (recorded g session none, written)
      | (rack, .ok (some response)) =>
          let g := { g with rack }
          -- the command has run when the pending response is looked at
          if session.pending.isSome then
            (g, refuse "pending_response" "read the pending response before another query")
          else
            let session := { session with pending := some response }
            (recorded (g.setSession id session) session (some response), written)

/-- `read` -/
def read (g : GatewayServer) (spec : WorldSpec) (id : Text) (session : Session) :
    GatewayServer × Except Raised Json :=
  match session.pending with
  | none => (g, refuse "no_pending_response" "session has no pending response")
  | some payload =>
      let session := { session with pending := none }
      ((g.setSession id session).recordOk spec (txt "read") id session g.rack.world.snapshot none
        (some payload), .ok (.obj [(txt "payload_b64", .str (base64 payload))]))

/-- `del self._sessions[session_id]` -/
def deleteSession (g : GatewayServer) (id : Text) : GatewayServer × Except Raised Json :=
  match g.sessions.lookup id with
  | some _ => ({ g with sessions := PyDict.pop id g.sessions }, .ok (.bool true))
  | none => (g, .error (.fault (.key id)))

/-- An operation on a session its owner named. -/
def perform (g : GatewayServer) (it : Interpreter) (spec : WorldSpec) (operation id : Text)
    (session : Session) (arguments : Arguments) : GatewayServer × Except Raised Json :=
  if operation = txt "set_timeout" then g.setTimeout spec id session arguments
  else if operation = txt "set_read_termination" then
    g.setTermination spec operation id
      (fun readTermination => { session with readTermination }) arguments
  else if operation = txt "set_write_termination" then
    g.setTermination spec operation id
      (fun writeTermination => { session with writeTermination }) arguments
  else if operation = txt "write" then g.write spec id session arguments
  else if operation = txt "read" then g.read spec id session
  else if operation = txt "close" then
    (g.recordClose spec id session g.rack.world.snapshot "candidate").deleteSession id
  else
    (g, .error (.operation (txt "unsupported_operation")
      (txt "unsupported operation " ++ repr it.printable operation)))

def PROTOCOL_VERSION : Int := 1

/-- `_dispatch` -/
def dispatch (g : GatewayServer) (it : Interpreter) (spec : WorldSpec) (owner : Text)
    (reading : Reading) (operation : Text) (arguments : Arguments) :
    GatewayServer × Except Raised Json :=
  let g := g.syncClock reading.elapsedMs
  if operation = txt "protocol_version" then (g, .ok (.int PROTOCOL_VERSION))
  else if operation = txt "list_resources" then g.list spec
  else if operation = txt "open_resource" then
    match openArgument it spec arguments with
    | .error raised => (g, .error raised)
    | .ok resource =>
        ((g.insertSession owner reading.token resource).recordOpen spec reading.token resource,
          .ok (.str reading.token))
  else
    match requiredStr arguments "session" with
    | .error raised => (g, .error raised)
    | .ok id =>
        match g.ownedSession owner id with
        | .error raised => (g, .error raised)
        | .ok session => g.perform it spec operation id session arguments

/-- `_force_close_owner` -/
def forceCloseOwner (g : GatewayServer) (spec : WorldSpec) (owner : Text) : GatewayServer :=
  let leaked := g.sessions.filter fun entry => entry.2.owner = owner
  leaked.foldl (fun g (id, session) =>
    let g := g.recordClose spec id session g.rack.world.snapshot "forced"
    { g with sessions := PyDict.pop id g.sessions }) g

/-- What `stop` does to the sessions that are left. -/
def clearSessions (g : GatewayServer) : GatewayServer := { g with sessions := [] }

end GatewayServer

end InstrumentBench.Gateway
