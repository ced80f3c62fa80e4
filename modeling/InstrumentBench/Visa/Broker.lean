/-
# Visa.Broker -- the remote VISA broker

The broker serves many candidate connections over one library.  This module is its
request handling: the records it journals, `_invoke` with its ten operations, the
checks `dispatch` makes before it, and the rejections exceptions are turned into.
`Visa.System` interleaves it.
-/
import InstrumentBench.Visa.Library

namespace InstrumentBench.Visa

set_option autoImplicit false

open InstrumentBench.Theory InstrumentBench.Theory.PyText

/-! ## Records -/

/-- Where a hook record comes from: the connection and the session token of the write
that delivered the command, and the bytes of the command.  The journal does not hold
it; it is kept for what is proved about hook records. -/
structure Origin where
  connection : Nat
  token : Text
  command : Bytes
deriving DecidableEq

/-- The body of a journal event: its kind with its fields.  Connections are numbered
in the order they were created. -/
inductive Body where
  | connectionOpen (connection : Nat)
  | connectionReject (connection : Option Nat) (reason : Text)
  | connectionClose (connection leakedSessions : Nat)
  | rpcRequest (connection : Nat) (operation : AuditedOperation) (args : AuditedArgs)
  | rpcResult (connection : Nat) (operation : Text) (result : WireValue) (status : Option Int)
  | rpcReject (connection : Nat) (operation : AuditedOperation) (errorKind : Text) (code : Int)
  | sessionOpen (connection : Nat) (session : Option AuditedToken) (sessionKind : Text)
      (parentSession : Option AuditedToken) (resourceName : Option Text)
  | sessionClose (connection : Nat) (session : Option AuditedToken) (sessionKind : Text)
      (status : Int)
  | sessionForcedCleanup (connection : Nat) (session : Option AuditedToken) (sessionKind : Text)
      (status : Int)
  | sessionInvalidAccess (connection : Nat) (session : Option AuditedToken)
  | resourceQueryRequest (connection queryLength : Nat) (querySha256 : Text)
  | resourceQueryResult (connection matched : Nat)
  | resourceQueryReject (connection : Nat) (reason : Text) (code : Int)
  | scpiRead (connection : Nat) (session : Option AuditedToken) (count : Int)
  | scpiReadResult (connection : Nat) (session : Option AuditedToken) (payload : Bytes)
      (status : Int)
  | scpiWrite (connection : Nat) (session : Option AuditedToken) (payload : Bytes)
  | scpiWriteResult (connection : Nat) (session : Option AuditedToken) (count : Nat)
      (status : Int)
  | hook (origin : Origin) (event : HookEvent)
  | forceSafe (stateBefore stateAfter : FinalState)
  | trustedFailure (component : Text)
  | other (kind : Text)

/-- The kinds the accounting and the verifier tell apart. -/
inductive EventKind where
  | connectionOpen
  | connectionClose
  | rpcRequest
  | rpcResult
  | rpcReject
  | sessionOpen
  | sessionClose
  | sessionForcedCleanup
  | resourceQueryRequest
  | resourceQueryResult
  | resourceQueryReject
  | scpiRead
  | scpiReadResult
  | scpiWrite
  | scpiWriteResult
  | untracked
deriving DecidableEq

namespace Body

def kind : Body → EventKind
  | connectionOpen _ => .connectionOpen
  | connectionClose _ _ => .connectionClose
  | rpcRequest _ _ _ => .rpcRequest
  | rpcResult _ _ _ _ => .rpcResult
  | rpcReject _ _ _ _ => .rpcReject
  | sessionOpen _ _ _ _ _ => .sessionOpen
  | sessionClose _ _ _ _ => .sessionClose
  | sessionForcedCleanup _ _ _ _ => .sessionForcedCleanup
  | resourceQueryRequest _ _ _ => .resourceQueryRequest
  | resourceQueryResult _ _ => .resourceQueryResult
  | resourceQueryReject _ _ _ => .resourceQueryReject
  | scpiRead _ _ _ => .scpiRead
  | scpiReadResult _ _ _ _ => .scpiReadResult
  | scpiWrite _ _ _ => .scpiWrite
  | scpiWriteResult _ _ _ _ => .scpiWriteResult
  | connectionReject _ _ | sessionInvalidAccess _ _ | hook _ _ | forceSafe _ _ | trustedFailure _
  | other _ => .untracked

/-- The `connection_id` of a record that has one. -/
def connection : Body → Option Nat
  | connectionOpen c | connectionClose c _ | rpcRequest c _ _ | rpcResult c _ _ _
  | rpcReject c _ _ _ | sessionOpen c _ _ _ _ | sessionClose c _ _ _
  | sessionForcedCleanup c _ _ _ | sessionInvalidAccess c _ | resourceQueryRequest c _ _
  | resourceQueryResult c _ | resourceQueryReject c _ _ | scpiRead c _ _ | scpiReadResult c _ _ _
  | scpiWrite c _ _ | scpiWriteResult c _ _ _ => some c
  | connectionReject c _ => c
  | hook _ _ | forceSafe _ _ | trustedFailure _ | other _ => none

end Body

/-! ## Operations and arguments -/

/-- `OPERATIONS` -/
inductive Operation where
  | openDefaultResourceManager
  | listResources
  | openSession
  | close
  | read
  | write
  | getAttribute
  | setAttribute
  | disableEvent
  | discardEvents
deriving DecidableEq

namespace Operation

def name : Operation → Text
  | openDefaultResourceManager => txt "open_default_resource_manager"
  | listResources => txt "list_resources"
  | openSession => txt "open"
  | close => txt "close"
  | read => txt "read"
  | write => txt "write"
  | getAttribute => txt "get_attribute"
  | setAttribute => txt "set_attribute"
  | disableEvent => txt "disable_event"
  | discardEvents => txt "discard_events"

def all : List Operation :=
  [openDefaultResourceManager, listResources, openSession, close, read, write, getAttribute,
    setAttribute, disableEvent, discardEvents]

def ofText? (t : Text) : Option Operation := all.find? fun op => op.name = t

theorem name_of_ofText? {t : Text} {op : Operation} (found : ofText? t = some op) : op.name = t := by
  simpa using List.find?_some found

end Operation

/-- `_exact`: the argument map has exactly these keys. -/
def exactly (args : Args) (keys : List Text) : Bool :=
  args.all (fun kv => keys.contains kv.1) && keys.all fun k => (args.lookup k).isSome

def invalidArguments : Raise := .candidate (txt "invalid_arguments") StatusCode.errorInvalidObject

/-- `_integer(args[key], minimum)`; an absent key cannot happen after `_exact`. -/
def integerArg (args : Args) (key : String) (minimum : Option Int) : Except Raise Int :=
  match args.lookup (txt key) with
  | none => .error .keyError
  | some (.int i) => if minimum.any (i < ·) then .error .valueError else .ok i
  | some _ => .error .valueError

/-- `_string(args[key])` -/
def stringArg (args : Args) (key : String) : Except Raise Text :=
  match args.lookup (txt key) with
  | none => .error .keyError
  | some (.str t) => if t.isEmpty then .error .valueError else .ok t
  | some _ => .error .valueError

/-- `Enumeration(value)` -/
def memberOf (isMember : Int → Bool) (value : Int) : Except Raise Int :=
  if isMember value then .ok value else .error .valueError

structure RemoteSession where
  realSession : Nat
  sessionKind : Text

/-- `ConnectionState.sessions`, in the order the tokens were issued. -/
abbrev Sessions := List (Text × RemoteSession)

/-- What the resource-query worker answers. -/
inductive WorkerReply where
  | resources (filtered : List Text)
  | invalidExpression (code : Int)
  | timedOut
  | failed

/-- What the interpreter, the clock, the random generators and the query worker decide
during one invocation. -/
structure Env where
  moments : Nat → Moment
  polls : List Session.Poll
  handle : Nat
  token : Text
  worker : WorkerReply

/-- The setup of a broker: the simulator and PyVISA. -/
structure Setup where
  simulator : Simulator
  pyvisa : Pyvisa

/-! ## Invocation -/

/-- What `_invoke` leaves: the records it journals, the connection's sessions, the
library, and the result or the exception. -/
structure Invocation where
  events : List Body
  sessions : Sessions
  library : Library
  result : Except Raise (WireValue × Option Int)

/-- `list(self.bench.visalib.devices.list_resources())` -/
def WorldSpec.resources (spec : WorldSpec) : List Text :=
  ([.psu, .switch, .awg, .scope, .dmm] : List Role).map spec.resourceMap ++
    spec.distractors.map Prod.fst

def maxQueryBytes : Nat := 256

/-- `filter_resources` -/
def filterResources (reply : WorkerReply) (resources : List Text) (query : Text) :
    Except Raise (List Text) :=
  if maxQueryBytes < (encodeUtf8 query).length then
    .error (.queryRejected (txt "query_length") StatusCode.errorInvalidExpression)
  else
    match reply with
    | .timedOut => .error (.queryRejected (txt "query_timeout") StatusCode.errorInvalidExpression)
    | .failed => .error (.other (txt "RuntimeError"))
    | .invalidExpression code => .error (.queryRejected (txt "invalid_expression") code)
    | .resources filtered =>
        if filtered.all (resources.contains ·) then .ok filtered
        else .error (.other (txt "RuntimeError"))

/-- `_wire_value` -/
def wireValue : AttributeValue → Except Raise WireValue
  | .wire v => .ok v
  | .object => .error (.other (txt "RuntimeError"))

/-- What every operation on a session is given. -/
structure Call where
  connection : Nat
  env : Env
  args : Args
  sessions : Sessions
  library : Library

namespace Call

/-- The invocation that journals nothing more and raises. -/
def raises (x : Call) (events : List Body) (e : Raise) : Invocation :=
  ⟨events, x.sessions, x.library, .error e⟩

/-- `_token` and the status the library answered. -/
def grant (x : Call) (library : Library) (handle : Nat) (status : Int) (sessionKind : Text)
    (parent : Option Text) (resourceName : Option Text) : Invocation :=
  ⟨[.sessionOpen x.connection (auditToken (some (.str x.env.token))) sessionKind
      (parent.bind fun t => auditToken (some (.str t))) resourceName],
    x.sessions ++ [(x.env.token, ⟨handle, sessionKind⟩)], library,
    .ok (.str x.env.token, some status)⟩

def openDefaultResourceManager (x : Call) : Invocation :=
  if !exactly x.args [] then x.raises [] invalidArguments
  else
    let ((session, status), library) := x.library.openDefaultResourceManager x.env.handle
    x.grant library session status (txt "resource_manager") none none

def close (x : Call) (token : Text) (session : RemoteSession) : Invocation :=
  if !exactly x.args [txt "session"] then x.raises [] invalidArguments
  else
    let (status, library) := x.library.close session.realSession
    ⟨[.sessionClose x.connection (auditToken (some (.str token))) session.sessionKind status],
      x.sessions.eraseP (·.1 = token), library, .ok (.none, some status)⟩

end Call

namespace Setup

variable (setup : Setup)

def listResources (x : Call) : Invocation :=
  if !exactly x.args [txt "session", txt "query"] then x.raises [] invalidArguments
  else
    match stringArg x.args "query" with
    | .error e => x.raises [] e
    | .ok query =>
        let request : Body := .resourceQueryRequest x.connection query.length
          (hexdigest (encodeUtf8 query))
        match filterResources x.env.worker setup.simulator.spec.resources query with
        | .error (.queryRejected reason code) =>
            x.raises [request, .resourceQueryReject x.connection reason code]
              (.queryRejected reason code)
        | .error e => x.raises [request] e
        | .ok [] =>
            x.raises [request, .resourceQueryReject x.connection (txt "no_match")
              StatusCode.errorResourceNotFound] (.visaError StatusCode.errorResourceNotFound)
        | .ok filtered =>
            ⟨[request, .resourceQueryResult x.connection filtered.length], x.sessions, x.library,
              .ok (.tuple (filtered.map .str), none)⟩

def openSession (x : Call) (token : Text) (handle : Nat) : Invocation :=
  if !exactly x.args [txt "session", txt "resource_name", txt "access_mode", txt "open_timeout"] then
    x.raises [] invalidArguments
  else
    match (do
      let name ← stringArg x.args "resource_name"
      let _ ← memberOf setup.pyvisa.isAccessMode (← integerArg x.args "access_mode" (some 0))
      let _ ← integerArg x.args "open_timeout" (some 0)
      pure name : Except Raise Text) with
    | .error e => x.raises [] e
    | .ok name =>
        match x.library.openSession setup.simulator setup.pyvisa x.env.handle handle name with
        | (.error e, library) => ⟨[], x.sessions, library, .error e⟩
        | (.ok (opened, status), library) =>
            x.grant library opened status (txt "resource") (some token) (some name)

def read (x : Call) (token : Text) (handle : Nat) : Invocation :=
  if !exactly x.args [txt "session", txt "count"] then x.raises [] invalidArguments
  else
    match integerArg x.args "count" (some 1) with
    | .error e => x.raises [] e
    | .ok count =>
        let audited := auditToken (some (.str token))
        let attempt : Body := .scpiRead x.connection audited count
        match x.library.read setup.pyvisa x.env.polls handle count with
        | (.error e, library) => ⟨[attempt], x.sessions, library, .error e⟩
        | (.ok (chunk, status), library) =>
            ⟨[attempt, .scpiReadResult x.connection audited chunk status], x.sessions, library,
              .ok (.bytes chunk, some status)⟩

def write (x : Call) (token : Text) (handle : Nat) : Invocation :=
  if !exactly x.args [txt "session", txt "data"] then x.raises [] invalidArguments
  else
    match x.args.lookup (txt "data") with
    | some (.bytes data) =>
        let audited := auditToken (some (.str token))
        let attempt : Body := .scpiWrite x.connection audited data
        let hooked (r : Ran) : Body := .hook ⟨x.connection, token, r.command⟩ r.event
        match x.library.write setup.simulator setup.pyvisa (tokenDigest token) x.env.moments handle
            data with
        | (.error e, ran, library) =>
            ⟨attempt :: ran.map hooked, x.sessions, library, .error e⟩
        | (.ok (count, status), ran, library) =>
            ⟨attempt :: ran.map hooked ++ [.scpiWriteResult x.connection audited count status],
              x.sessions, library, .ok (.int count, some status)⟩
    | _ => x.raises [] .valueError

def getAttribute (x : Call) (handle : Nat) : Invocation :=
  if !exactly x.args [txt "session", txt "attribute"] then x.raises [] invalidArguments
  else
    match (do
      memberOf setup.pyvisa.isResourceAttribute (← integerArg x.args "attribute" none) :
        Except Raise Int) with
    | .error e => x.raises [] e
    | .ok id =>
        let (answer, library) := x.library.getAttribute setup.pyvisa handle id
        ⟨[], x.sessions, library, do
          let (value, status) ← answer
          pure (← wireValue value, some status)⟩

def setAttribute (x : Call) (handle : Nat) : Invocation :=
  if !exactly x.args [txt "session", txt "attribute", txt "attribute_state"] then
    x.raises [] invalidArguments
  else
    match (do
      memberOf setup.pyvisa.isResourceAttribute (← integerArg x.args "attribute" none) :
        Except Raise Int) with
    | .error e => x.raises [] e
    | .ok id =>
        match x.library.setAttribute setup.pyvisa handle id
            ((x.args.lookup (txt "attribute_state")).getD .none) with
        | (.error e, library) => ⟨[], x.sessions, library, .error e⟩
        | (.ok status, library) => ⟨[], x.sessions, library, .ok (.none, some status)⟩

/-- `disable_event` and `discard_events`. -/
def eventOperation (x : Call) (handle : Nat) : Invocation :=
  if !exactly x.args [txt "session", txt "event_type", txt "mechanism"] then
    x.raises [] invalidArguments
  else
    match (do
      let _ ← memberOf setup.pyvisa.isEventType (← integerArg x.args "event_type" none)
      memberOf setup.pyvisa.isEventMechanism (← integerArg x.args "mechanism" none) :
        Except Raise Int) with
    | .error e => x.raises [] e
    | .ok _ => ⟨[], x.sessions, x.library.eventOperation handle, .ok (.none, none)⟩

/-- The operations on a session. -/
def onSession (x : Call) (token : Text) (session : RemoteSession) : Operation → Invocation
  | .openDefaultResourceManager => x.openDefaultResourceManager
  | .listResources => setup.listResources x
  | .openSession => setup.openSession x token session.realSession
  | .close => x.close token session
  | .read => setup.read x token session.realSession
  | .write => setup.write x token session.realSession
  | .getAttribute => setup.getAttribute x session.realSession
  | .setAttribute => setup.setAttribute x session.realSession
  | .disableEvent => setup.eventOperation x session.realSession
  | .discardEvents => setup.eventOperation x session.realSession

/-- `_session`: the token the arguments name, where the connection holds it. -/
def sessionOf (x : Call) : Option (Text × RemoteSession) :=
  match x.args.lookup (txt "session") with
  | some (.str token) => (x.sessions.lookup token).map (token, ·)
  | _ => none

/-- `_invoke` -/
def invoke (x : Call) (op : Operation) : Invocation :=
  if op = .openDefaultResourceManager then x.openDefaultResourceManager
  else
    match sessionOf x with
    | none =>
        x.raises [.sessionInvalidAccess x.connection (auditToken (x.args.lookup (txt "session")))]
          (.candidate (txt "invalid_session") StatusCode.errorInvalidObject)
    | some (token, session) => setup.onSession x token session op

end Setup

/-! ## Around the invocation -/

/-- The rejection `dispatch` records for an exception; `none` is a trusted failure. -/
def rejection : Raise → Option (Text × Int)
  | .candidate kind code => some (kind, code)
  | .visaError code => some (txt "visa_error", code)
  | .commandRejected code _ => some (txt "visa_error", code)
  | .queryRejected _ code => some (txt "invalid_resource_query", code)
  | .typeError | .valueError | .keyError =>
      some (txt "invalid_arguments", StatusCode.errorInvalidObject)
  | .other _ => none

/-- What `dispatch` settles before it takes the operation lock. -/
inductive Decision where
  | answer (result : Except Raise (WireValue × Option Int))
  | invoke (op : Operation)

def helloResult : WireValue := .tuple ((sorted (Operation.all.map Operation.name)).map .str)

/-- The checks of `dispatch`, in its order. -/
def decide? (exceeded closed : Bool) (peerUid : Nat) (operation : Text) (args : Args) : Decision :=
  if exceeded then
    .answer (.error (.candidate (txt "request_limit") StatusCode.errorNonsupportedOperation))
  else if closed then
    .answer (.error (.candidate (txt "closed_connection") StatusCode.errorInvalidObject))
  else if operation = txt "hello" then
    if !exactly args [] then .answer (.error invalidArguments)
    else if peerUid ≠ 10001 ∧ peerUid ≠ 11001 then
      .answer (.error (.candidate (txt "unauthorized") StatusCode.errorInvalidObject))
    else .answer (.ok (helloResult, none))
  else if peerUid ≠ 10001 then
    .answer (.error (.candidate (txt "unauthorized") StatusCode.errorInvalidObject))
  else
    match Operation.ofText? operation with
    | none =>
        .answer (.error (.candidate (txt "unknown_operation")
          StatusCode.errorNonsupportedOperation))
    | some op => .invoke op

end InstrumentBench.Visa
