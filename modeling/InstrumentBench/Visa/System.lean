/-
# Visa.System -- the broker's connections, interleaved

One step is one of the broker's own: a journal append, a section under the state lock,
the entry to or exit from the operation lock.  Any number of connections take their
steps in any order; the operation lock keeps `_invoke` and the clean-up of `disconnect`
apart, and nothing else does.
-/
import InstrumentBench.Visa.Broker

namespace InstrumentBench.Visa

set_option autoImplicit false

open InstrumentBench.Theory InstrumentBench.Theory.PyText

/-! ## State -/

/-- A journal event; the run and world identity and the hash chain are left out. -/
structure JournalEvent where
  sequence : Nat
  monotonicNs : Int
  body : Body

/-- A decoded request. -/
structure Request where
  operation : Text
  args : Args

/-- The answer a dispatch has settled on. -/
abbrev Answer := Except Raise (WireValue × Option Int)

/-- Where a connection's worker stands.  `holding` and `cleaning` hold the operation
lock, with the records still to be journaled. -/
inductive Phase where
  | opening
  | idle
  | counted (request : Request) (exceeded : Bool)
  | requested (request : Request) (exceeded : Bool)
  | waiting (request : Request) (op : Operation)
  | holding (request : Request) (pending : List Body) (answer : Answer)
  | answering (request : Request) (exceeded : Bool) (answer : Answer)
  | failing
  | ending
  | cleaning (pending : List Body) (leaked : Nat)
  | cleaned (leaked : Nat)
  | closed (leaked : Nat)
  | removed (leaked : Nat)

/-- `ConnectionState`, with its worker. -/
structure Connection where
  peerUid : Nat
  sessions : Sessions
  requestCount : Nat
  closed : Bool
  phase : Phase

structure BrokerSummary where
  connections : Nat
  leakedSessions : Nat
deriving DecidableEq

/-- `RemoteVisaBroker`, with its journal and its library.  `minted` lists the tokens the
random generator has given out. -/
structure Broker where
  library : Library
  journal : List JournalEvent
  connections : List Connection
  connectionCount : Nat
  requestCount : Nat
  argumentBytes : Nat
  leakedSessionCount : Nat
  operationLock : Option Nat
  frozen : Bool
  fatalError : Bool
  summary : Option BrokerSummary
  minted : List Text

namespace Broker

def maxConnections : Nat := 16
def maxTotalConnections : Nat := 64
def maxRequestsPerConnection : Nat := 256
def maxTotalRequests : Nat := 256
def maxTotalArgumentBytes : Nat := 512 * 1024

def initial (spec : WorldSpec) : Broker where
  library := ⟨.initial spec, [], []⟩
  journal := []
  connections := []
  connectionCount := 0
  requestCount := 0
  argumentBytes := 0
  leakedSessionCount := 0
  operationLock := none
  frozen := false
  fatalError := false
  summary := none
  minted := []

/-- `journal.append` -/
def append (b : Broker) (now : Int) (body : Body) : Broker :=
  { b with journal := b.journal ++ [⟨b.journal.length + 1, now, body⟩] }

def setConnection (b : Broker) (c : Nat) (conn : Connection) : Broker :=
  { b with connections := b.connections.set c conn }

end Broker

def Phase.isRemoved : Phase → Bool
  | .removed _ => true
  | _ => false

/-- `disconnect` has journaled `connection.close`. -/
def Phase.isClosed : Phase → Bool
  | .closed _ | .removed _ => true
  | _ => false

/-! ## Steps -/

inductive Action where
  | connect (peerUid : Nat)
  | receive (c : Nat) (operation : Text) (args : Args)
  | malformed (c : Nat)
  | advance (c : Nat) (env : Env)
  | disconnect (c : Nat)
  | freeze
  | finish
  | note (kind : Text)
  | forceSafe

/-- What `secrets.token_urlsafe` and `_register` may pick. -/
def freshEnv (b : Broker) (env : Env) : Bool :=
  !env.token.isEmpty && Ascii env.token &&
    b.minted.all (fun t => tokenDigest t ≠ tokenDigest env.token) && env.handle ≠ 0 &&
    (b.library.sessions.lookup env.handle).isNone

/-- The forced clean-ups of `disconnect`, the latest session first. -/
def cleanUp (c : Nat) : Sessions → Library → List Body × Library
  | [], lib => ([], lib)
  | (token, remote) :: rest, lib =>
      let (status, lib) := lib.close remote.realSession
      let (events, lib) := cleanUp c rest lib
      (.sessionForcedCleanup c (auditToken (some (.str token))) remote.sessionKind status :: events,
        lib)

/-- The next step of a connection's worker, from its phase. -/
def advance (setup : Setup) (b : Broker) (now : Int) (c : Nat) (conn : Connection) (env : Env) :
    Option Broker :=
  match conn.phase with
  | .opening =>
      some ((b.append now (.connectionOpen c)).setConnection c { conn with phase := .idle })
  | .idle => none
  | .counted request exceeded =>
      some ((b.append now (.rpcRequest c (auditOperation request.operation exceeded)
        (auditArgs request.args exceeded))).setConnection c
          { conn with phase := .requested request exceeded })
  | .requested request exceeded =>
      match decide? exceeded conn.closed conn.peerUid request.operation request.args with
      | .answer answer =>
          some (b.setConnection c { conn with phase := .answering request exceeded answer })
      | .invoke op => some (b.setConnection c { conn with phase := .waiting request op })
  | .waiting request op =>
      if b.operationLock.isNone && freshEnv b env then
        let inv := setup.invoke ⟨c, env, request.args, conn.sessions, b.library⟩ op
        some ({ b with
          library := inv.library, operationLock := some c,
          minted := env.token :: b.minted }.setConnection c
            { conn with sessions := inv.sessions, phase := .holding request inv.events inv.result })
      else none
  | .holding request (body :: rest) answer =>
      some ((b.append now body).setConnection c { conn with phase := .holding request rest answer })
  | .holding request [] answer =>
      some ({ b with operationLock := none }.setConnection c
        { conn with phase := .answering request false answer })
  | .answering request exceeded (.ok (result, status)) =>
      some ((b.append now (.rpcResult c request.operation result status)).setConnection c
        { conn with phase := if exceeded then .ending else .idle })
  | .answering request exceeded (.error e) =>
      match rejection e with
      | some (kind, code) =>
          some ((b.append now (.rpcReject c (auditOperation request.operation exceeded) kind
            code)).setConnection c { conn with phase := if exceeded then .ending else .idle })
      | none =>
          if b.fatalError then some (b.setConnection c { conn with phase := .ending })
          else some ({ b with fatalError := true }.setConnection c { conn with phase := .failing })
  | .failing =>
      some ((b.append now (.trustedFailure (txt "broker"))).setConnection c
        { conn with phase := .ending })
  | .ending => none
  | .cleaning (body :: rest) leaked =>
      some ((b.append now body).setConnection c { conn with phase := .cleaning rest leaked })
  | .cleaning [] leaked =>
      some ({ b with
        operationLock := none,
        leakedSessionCount := b.leakedSessionCount + leaked }.setConnection c
          { conn with phase := .cleaned leaked })
  | .cleaned leaked =>
      some ((b.append now (.connectionClose c leaked)).setConnection c
        { conn with phase := .closed leaked })
  | .closed leaked => some (b.setConnection c { conn with phase := .removed leaked })
  | .removed _ => none

/-- `new_connection` -/
def connect (b : Broker) (now : Int) (peerUid : Nat) : Option Broker :=
  if b.frozen then none
  else if Broker.maxTotalConnections ≤ b.connectionCount ∨
      Broker.maxConnections ≤ b.connections.countP (fun conn => !conn.phase.isRemoved) then
    some (b.append now (.connectionReject none (txt "connection_limit")))
  else
    some { b with
      connections := b.connections ++ [⟨peerUid, [], 0, false, .opening⟩]
      connectionCount := b.connectionCount + 1 }

/-- A complete frame arrives: what `dispatch` accounts under the state lock. -/
def receive (b : Broker) (c : Nat) (conn : Connection) (request : Request) : Option Broker :=
  match conn.phase with
  | .idle =>
      let requestCount := conn.requestCount + 1
      let b := { b with
        requestCount := b.requestCount + 1
        argumentBytes := b.argumentBytes + argumentBytes request.operation request.args }
      let exceeded : Bool := Broker.maxRequestsPerConnection < requestCount ||
        Broker.maxTotalRequests < b.requestCount ||
        Broker.maxTotalArgumentBytes < b.argumentBytes
      some (b.setConnection c { conn with requestCount, phase := .counted request exceeded })
  | _ => none

/-- `disconnect`, by the worker whose loop has ended or by the finalizer. -/
def disconnect (b : Broker) (c : Nat) (conn : Connection) : Option Broker :=
  if b.operationLock.isSome then none
  else
    match conn.phase with
    | .idle | .ending =>
        let (events, library) := cleanUp c conn.sessions.reverse b.library
        some ({ b with library, operationLock := some c }.setConnection c
          { conn with
            sessions := [], closed := true, phase := .cleaning events conn.sessions.length })
    | _ => none

/-- `force_safe` -/
def forceSafe (b : Bench) : Bench :=
  { b with
    devices := (b.devices.set .psuOutput (txt "OFF")).set .awgOutput (txt "OFF")
    routes := []
    stimulusStartedNs := none
    dmmInitiated := false }

/-- One step of the broker, at a reading of the journal's clock. -/
def step (setup : Setup) (b : Broker) (now : Int) : Action → Option Broker
  | .connect peerUid => connect b now peerUid
  | .receive c operation args => do receive b c (← b.connections[c]?) ⟨operation, args⟩
  | .malformed c => do
      let conn ← b.connections[c]?
      match conn.phase with
      | .idle =>
          some ((b.append now (.connectionReject (some c) (txt "malformed_frame"))).setConnection c
            { conn with phase := .ending })
      | _ => none
  | .advance c env => do advance setup b now c (← b.connections[c]?) env
  | .disconnect c => do disconnect b c (← b.connections[c]?)
  | .freeze =>
      if b.frozen then none
      else some ({ b with frozen := true }.append now (.other (txt "broker.cancellation_requested")))
  | .finish =>
      if b.frozen && b.summary.isNone && b.connections.all (fun conn => conn.phase.isClosed) then
        some ({ b with
          summary := some ⟨b.connectionCount, b.leakedSessionCount⟩ }.append now
            (.other (txt "broker.frozen")))
      else none
  | .note kind => some (b.append now (.other kind))
  | .forceSafe =>
      if b.summary.isNone then none
      else
        let bench := b.library.bench
        let safe := forceSafe bench
        some ({ b with library := { b.library with bench := safe } }.append now
          (.forceSafe bench.finalState safe.finalState))

/-- A broker state is reached from a fresh broker by finitely many steps. -/
inductive Reachable (setup : Setup) : Broker → Prop where
  | initial : Reachable setup (.initial setup.simulator.spec)
  | step {b b' : Broker} {now : Int} {action : Action} (before : Reachable setup b)
      (stepped : step setup b now action = some b') : Reachable setup b'

/-- The steps of `steps`, in order. -/
def run (setup : Setup) (b : Broker) (steps : List (Int × Action)) : Option Broker :=
  steps.foldlM (fun b s => step setup b s.1 s.2) b

theorem Reachable.run {setup : Setup} {b b' : Broker} {steps : List (Int × Action)}
    (before : Reachable setup b) (ran : Visa.run setup b steps = some b') :
    Reachable setup b' := by
  induction steps generalizing b with
  | nil =>
      cases ran
      exact before
  | cons s rest ih =>
      obtain ⟨next, stepped, ran⟩ := Option.bind_eq_some_iff.1 ran
      exact ih (before.step stepped) ran

/-! ## A concrete bench -/

namespace Pyvisa

/-- PyVISA, as far as a client of the nominal world's power supply meets it. -/
def lan : Pyvisa where
  parseResourceName t :=
    if t = txt "TCPIP0::192.0.2.10::inst0::INSTR" then
      some {
        canonical := t
        interfaceType := 6
        resourceClass := txt "INSTR"
        sessionType := some .tcpipInstr
        board := txt "0"
        hostAddress := txt "192.0.2.10"
        lanDeviceName := txt "inst0"
        port := []
        primaryAddress := []
        secondaryAddress := none
        manufacturerId := []
        modelCode := []
        serialNumber := [] }
    else none
  attributesByID id :=
    if id = ResourceAttribute.sendEndEnabled then
      some ⟨.wire (.bool true), true, true, fun _ => true⟩
    else if id = ResourceAttribute.timeoutValue then
      some ⟨.wire (.int 2000), true, true, fun _ => true⟩
    else none
  isResourceAttribute id :=
    id = ResourceAttribute.sendEndEnabled || id = ResourceAttribute.timeoutValue
  isAccessMode mode := mode = 0
  isEventType _ := false
  isEventMechanism _ := false
  shiftLimit := 2 ^ 63

end Pyvisa

/-- The nominal world behind it. -/
def nominalBench : Setup := ⟨⟨.nominal 1, .unmatched⟩, .lan⟩

/-- An invocation in which nothing but the token and the handle is used. -/
def Env.issuing (token : Text) (handle : Nat) : Env :=
  ⟨fun n => ⟨n, 0, .unfilled⟩, [], handle, token, .failed⟩

end InstrumentBench.Visa
