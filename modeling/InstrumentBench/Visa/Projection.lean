/-
# Visa.Projection -- evidence events from the raw journal

`project_events` reads the broker's journal once, record by record, and rebuilds from
it what the scoring wants to see: one event an operation, with the world before and
after it.  It keeps a stimulus clock of its own, which it restarts by comparing the
generator's output before and after a command.

Records here carry typed bodies, so the shape checks of the source that no body fails
are not repeated; the ones a body can fail are.
-/
import InstrumentBench.Theory.PyDict
import InstrumentBench.Visa.Snapshot

namespace InstrumentBench.Visa

set_option autoImplicit false

open InstrumentBench.Theory InstrumentBench.Theory.PyText

/-! ## Faults -/

/-- What `project_events` ends in where it does not return: a `ProjectionError`, or the
`UnicodeEncodeError` of an attribute text that is not ASCII. -/
inductive ProjectionFault where
  | error (message : Text)
  | unicodeEncode
deriving DecidableEq

def inconsistent {α : Type} (message : String) : Except ProjectionFault α :=
  .error (.error (txt message))

/-- `_text(fields, key)` of a field that is text. -/
def requiredText (key : String) (t : Text) : Except ProjectionFault Text :=
  if t.isEmpty then .error (.error (txt "raw event " ++ txt key ++ txt " must be text")) else .ok t

/-- `_optional_text` -/
def optionalText (t : Text) : Option Text := if t.isEmpty then none else some t

/-- `_finite_float` -/
def finiteFloat (x : Float) : Except ProjectionFault Float :=
  if x.isFinite then .ok x else inconsistent "simulator state number is not finite"

/-! ## Snapshots of the journaled state -/

/-- `_finite_float` of every point. -/
def finitePoints : List Float → Except ProjectionFault (List Float)
  | [] => .ok []
  | x :: rest =>
      match finiteFloat x with
      | .error e => .error e
      | .ok x => (finitePoints rest).map (x :: ·)

/-- `_snapshot` -/
def FinalState.snapshot (state : FinalState) (clockMs : Int) (stimulusStartedMs : Option Int) :
    Except ProjectionFault WorldSnapshot :=
  let selected := if state.awgSelected.isEmpty then none else some (upper state.awgSelected)
  match finitePoints ((state.awgWaveforms.lookup (selected.getD [])).getD []) with
  | .error e => .error e
  | .ok points =>
      match finiteFloat state.psuVoltage with
      | .error e => .error e
      | .ok voltage =>
          match finiteFloat state.awgAmplitude with
          | .error e => .error e
          | .ok amplitude =>
              .ok {
                clockMs
                closedRoutes := sorted state.closedRoutes
                psuVoltageV := voltage
                psuOutput := state.psuOutput
                awgWaveformName := selected
                awgPoints := points
                awgAmplitudeVpp := amplitude
                awgOutput := state.awgOutput
                stimulusStartedMs
                safe := !state.psuOutput && !state.awgOutput && state.closedRoutes.isEmpty }

/-- `_clocked` -/
def WorldSnapshot.clocked (s : WorldSnapshot) (clockMs : Int) (stimulusStartedMs : Option Int) :
    WorldSnapshot :=
  { s with clockMs, stimulusStartedMs }

/-! ## Drafts and sessions -/

/-- The operations of evidence events. -/
inductive ProjectedOperation where
  | setWriteTermination
  | setReadTermination
  | setTimeout
  | openResource
  | write
  | close
  | visaError
  | rpcReject
  | protocolReject
  | forceSafe
deriving DecidableEq

def ProjectedOperation.name : ProjectedOperation → Text
  | setWriteTermination => txt "set_write_termination"
  | setReadTermination => txt "set_read_termination"
  | setTimeout => txt "set_timeout"
  | openResource => txt "open_resource"
  | write => txt "write"
  | close => txt "close"
  | visaError => txt "visa_error"
  | rpcReject => txt "rpc_reject"
  | protocolReject => txt "protocol_reject"
  | forceSafe => txt "force_safe"

inductive CleanupSource where
  | candidate
  | forced
deriving DecidableEq

/-- `_Session` -/
structure ProjectedSession where
  digest : Text
  connection : Nat
  resource : Option Text
  role : Option Text
  closed : Bool
  termcharSeen : Bool
  termcharEnabled : Bool

def ProjectedSession.opened (digest : Text) (connection : Nat) (resource : Option Text) :
    ProjectedSession :=
  ⟨digest, connection, resource, none, false, false, false⟩

/-- `_Draft`.  `errorCode` is `none` where the outcome is `ok`. -/
structure Draft where
  raw : JournalEvent
  operation : ProjectedOperation
  sessionDigest : Option Text
  request : Option Bytes
  response : Option Bytes
  stateBefore : WorldSnapshot
  stateAfter : WorldSnapshot
  role : Option Text
  resource : Option Text
  errorCode : Option Text
  cleanupSource : Option CleanupSource
  offset : Nat

/-- A draft that leaves the world and names neither role nor resource. -/
def Draft.still (raw : JournalEvent) (operation : ProjectedOperation) (sessionDigest : Option Text)
    (state : WorldSnapshot) : Draft where
  raw
  operation
  sessionDigest
  request := none
  response := none
  stateBefore := state
  stateAfter := state
  role := none
  resource := none
  errorCode := none
  cleanupSource := none
  offset := 0

/-- The audited operation and arguments of a request that has no answer yet. -/
structure PendingRequest where
  operation : AuditedOperation
  args : AuditedArgs

/-- What the loop of `project_events` carries. -/
structure Projection where
  startNs : Int
  sessions : List (Text × ProjectedSession)
  requests : List (Nat × PendingRequest)
  writes : List (Text × JournalEvent × Bytes)
  inferredWriteTermination : List Text
  inferredReadTermination : List Text
  drafts : List Draft
  lastState : WorldSnapshot
  activeHook : Option Text
  stimulusStartedMs : Option Int

/-! ## Audited arguments -/

namespace AuditedArgs

/-- `args.get(key)`, for a value that is not audited as a token. -/
def get (args : AuditedArgs) (key : String) : Option WireValue :=
  match args with
  | .full args => args.lookup (txt key)
  | .redacted _ _ => none

/-- `_optional_token_digest(args.get("session"))` -/
def tokenDigest? (args : AuditedArgs) : Option Text :=
  (auditToken (args.get "session")).map AuditedToken.sha256

/-- `_token_digest(args.get("session"))` -/
def requiredDigest (args : AuditedArgs) : Except ProjectionFault Text :=
  match args.tokenDigest? with
  | some digest => .ok digest
  | none => inconsistent "invalid audited session token"

/-- `_audited_bytes(args.get("data"))` -/
def data? (args : AuditedArgs) : Option Bytes :=
  match args.get "data" with
  | some (.bytes data) => some data
  | _ => none

/-- `_integer(args, "attribute")` -/
def attributeId (args : AuditedArgs) : Except ProjectionFault Int :=
  match args.get "attribute" with
  | some (.int i) => .ok i
  | _ => inconsistent "raw event attribute must be an integer"

/-- `_text(args, "resource_name")` -/
def resourceName (args : AuditedArgs) : Except ProjectionFault Text :=
  match args.get "resource_name" with
  | some (.str t) => requiredText "resource_name" t
  | _ => inconsistent "raw event resource_name must be text"

end AuditedArgs

/-- `value == 10` -/
def isTen : Option WireValue → Bool
  | some (.int i) => i = 10
  | some (.float x) => x == 10
  | _ => false

/-- `value is True` -/
def isTrue : Option WireValue → Bool
  | some (.bool b) => b
  | _ => false

/-! ## One record -/

/-- `str` of an audited attribute state.  `repr` is the interpreter's own, for the
values whose text it decides. -/
def strOf (repr : WireValue → Text) : Option WireValue → Text
  | none => txt "None"
  | some .none => txt "None"
  | some (.bool b) => if b then txt "True" else txt "False"
  | some (.int i) => intText i
  | some (.str t) => t
  | some v => repr v

namespace Projection

/-- The state the loop starts in. -/
def start (startNs : Int) (lastState : WorldSnapshot) : Projection :=
  ⟨startNs, [], [], [], [], [], [], lastState, none, none⟩

/-- `max(0, (event.monotonic_ns - start_ns) // 1_000_000)` -/
def clockMs (p : Projection) (event : JournalEvent) : Int :=
  max 0 ((event.monotonicNs - p.startNs) / 1000000)

/-- The world as the projection knows it, at the time of a record. -/
def currentState (p : Projection) (event : JournalEvent) : WorldSnapshot :=
  p.lastState.clocked (p.clockMs event) p.stimulusStartedMs

def draft (p : Projection) (d : Draft) : Projection := { p with drafts := p.drafts ++ [d] }

/-- `rpc.request` -/
def request (p : Projection) (event : JournalEvent) (c : Nat) (operation : AuditedOperation)
    (args : AuditedArgs) : Projection :=
  let p := { p with requests := PyDict.set c ⟨operation, args⟩ p.requests }
  if operation = .plain (txt "write") then
    match args.tokenDigest?, args.data? with
    | some digest, some payload => { p with writes := PyDict.set digest (event, payload) p.writes }
    | _, _ => p
  else p

/-- What a hook record says of the session it ran on. -/
def noteHook (p : Projection) (digest resource role : Text) : Except ProjectionFault Projection :=
  match p.sessions.lookup digest with
  | none => .ok p
  | some session =>
      match requiredText "resource" resource, requiredText "role" role with
      | .ok resource, .ok role =>
          .ok { p with
            sessions := PyDict.set digest { session with resource, role } p.sessions }
      | .error e, _ => .error e
      | _, .error e => .error e

/-- `hook.before` -/
def hookBefore (p : Projection) (event : JournalEvent) (digest resource role : Text)
    (stateBefore : FinalState) : Except ProjectionFault Projection := do
  let digest ← requiredText "session_digest" digest
  let p ← p.noteHook digest resource role
  if p.activeHook.isSome then inconsistent "nested hook command is invalid"
  else
    let lastState ← stateBefore.snapshot (p.clockMs event) p.stimulusStartedMs
    pure { p with activeHook := some digest, lastState }

/-- The stimulus clock after a command: restarted where the output came on, gone where
it is off, else kept. -/
def nextStimulus (clockMs : Int) (before after : Bool) (stimulusStartedMs : Option Int) :
    Option Int :=
  if !before && after then some clockMs
  else if !after then none
  else stimulusStartedMs

/-- The first write of a session that ends in a newline shows its termination. -/
def inferWriteTermination (p : Projection) (digest : Text) (writeEvent : JournalEvent)
    (request : Bytes) (before : WorldSnapshot) (role resource : Text) : Projection :=
  if request.getLast? = some newline ∧ digest ∉ p.inferredWriteTermination then
    { p.draft { Draft.still writeEvent .setWriteTermination (some digest) before with
        request := some [newline]
        role := optionalText role
        resource := optionalText resource
        offset := 1 } with
      inferredWriteTermination := p.inferredWriteTermination ++ [digest] }
  else p

/-- The draft of a completed write. -/
def writeDraft (event : JournalEvent) (digest : Text) (request : Bytes) (response : Option Bytes)
    (errorCode : Option Text) (before after : WorldSnapshot) (role resource : Text) : Draft where
  raw := event
  operation := .write
  sessionDigest := some digest
  request := some request
  response
  stateBefore := before
  stateAfter := after
  role := optionalText role
  resource := optionalText resource
  errorCode
  cleanupSource := none
  offset := 0

/-- `hook.after` and `hook.error`: the write that was pending is complete. -/
def hookCompletion (p : Projection) (event : JournalEvent) (resource role : Text)
    (response : Option Bytes) (errorCode : Option Text) (stateBefore stateAfter : FinalState) :
    Except ProjectionFault Projection := do
  match p.activeHook with
  | none => inconsistent "hook completion has no matching hook start"
  | some digest =>
      let p ← p.noteHook digest resource role
      let before ← stateBefore.snapshot (p.clockMs event) p.stimulusStartedMs
      let stimulusStartedMs := nextStimulus (p.clockMs event) before.awgOutput
        stateAfter.awgOutput p.stimulusStartedMs
      let after ← stateAfter.snapshot (p.clockMs event) stimulusStartedMs
      match p.writes.lookup digest with
      | none => inconsistent "hook completion has no raw write request"
      | some (writeEvent, request) =>
          let p := p.inferWriteTermination digest writeEvent request before role resource
          let p := p.draft (writeDraft event digest request response errorCode before after role
            resource)
          pure { p with
            writes := PyDict.pop digest p.writes
            stimulusStartedMs
            lastState := after
            activeHook := none }

/-- A hook record.  `hook.native` and `hook.dynamic` are not read. -/
def hook (p : Projection) (event : JournalEvent) : HookEvent → Except ProjectionFault Projection
  | .before digest resource role _ stateBefore =>
      p.hookBefore event digest resource role stateBefore
  | .native _ _ _ _ => .ok p
  | .dynamic _ _ _ _ => .ok p
  | .after resource role _ response stateBefore stateAfter =>
      p.hookCompletion event resource role response none stateBefore stateAfter
  | .error resource role _ errorCode _ stateBefore stateAfter =>
      p.hookCompletion event resource role none (some (intText errorCode)) stateBefore stateAfter

/-- `_required_session` -/
def requiredSession (p : Projection) (digest : Text) : Except ProjectionFault ProjectedSession :=
  match p.sessions.lookup digest with
  | some session => .ok session
  | none => inconsistent "RPC refers to an unknown session"

/-- `_text(fields, "result")` -/
def resultToken : WireValue → Except ProjectionFault Text
  | .str t => requiredText "result" t
  | _ => inconsistent "raw event result must be text"

/-- The answer of a `set_attribute`. -/
def attributeSet (repr : WireValue → Text) (p : Projection) (event : JournalEvent)
    (args : AuditedArgs) : Except ProjectionFault Projection := do
  let digest ← args.requiredDigest
  let session ← p.requiredSession digest
  let id ← args.attributeId
  let state := args.get "attribute_state"
  let session :=
    if id = ResourceAttribute.timeoutValue then session
    else if id = ResourceAttribute.termchar then { session with termcharSeen := isTen state }
    else if id = ResourceAttribute.termcharEnabled then
      { session with termcharEnabled := isTrue state }
    else session
  let p := { p with sessions := PyDict.set digest session p.sessions }
  let still := Draft.still event .setTimeout (some digest) (p.currentState event)
  if digest ∉ p.inferredReadTermination ∧ session.termcharSeen = true ∧
      session.termcharEnabled = true then
    pure { p.draft { still with
        operation := .setReadTermination
        request := some [newline] } with
      inferredReadTermination := p.inferredReadTermination ++ [digest] }
  else if id = ResourceAttribute.timeoutValue then
    match encodeAscii (strOf repr state) with
    | none => .error .unicodeEncode
    | some payload => pure (p.draft { still with request := some payload })
  else pure p

/-- `rpc.result` -/
def result (repr : WireValue → Text) (p : Projection) (event : JournalEvent) (c : Nat)
    (operation : Text) (value : WireValue) : Except ProjectionFault Projection :=
  match p.requests.lookup c with
  | none => inconsistent "RPC result has no request"
  | some request =>
      let p := { p with requests := PyDict.pop c p.requests }
      if request.operation ≠ .plain operation then inconsistent "RPC result operation mismatch"
      else if operation = txt "open_default_resource_manager" then do
        let token ← resultToken value
        let digest := tokenDigest token
        pure { p with sessions := PyDict.set digest (.opened digest c none) p.sessions }
      else if operation = txt "open" then do
        let token ← resultToken value
        let digest := tokenDigest token
        let resource ← request.args.resourceName
        let p := { p with sessions := PyDict.set digest (.opened digest c (some resource)) p.sessions }
        pure (p.draft { Draft.still event .openResource (some digest) (p.currentState event) with
          request := some (encodeUtf8 resource) })
      else if operation = txt "set_attribute" then p.attributeSet repr event request.args
      else if operation = txt "close" then do
        let digest ← request.args.requiredDigest
        let session ← p.requiredSession digest
        let closed := { p with
          sessions := PyDict.set digest { session with closed := true } p.sessions }
        if session.resource.isSome ∧ session.closed = false then
          pure (closed.draft { Draft.still event .close (some digest) (p.currentState event) with
            cleanupSource := some .candidate })
        else pure closed
      else pure p

/-- `rpc.reject`; without a pending request it stands for itself. -/
def rejected (p : Projection) (event : JournalEvent) (c : Nat) (operation : AuditedOperation)
    (errorKind : Text) (code : Int) : Projection :=
  let request := p.requests.lookup c
  let digest := request.bind fun r => r.args.tokenDigest?
  let p := { p with
    requests := PyDict.pop c p.requests
    writes := digest.elim p.writes fun digest => PyDict.pop digest p.writes }
  if errorKind = txt "visa_error" ∧
      request.elim operation PendingRequest.operation = .plain (txt "write") then p
  else
    p.draft { Draft.still event
        (if errorKind = txt "visa_error" then .visaError else .rpcReject) digest
        (p.currentState event) with
      errorCode := some (errorKind ++ txt ":" ++ intText code) }

/-- The forced closes of a `connection.close`, over the sessions in the order they were
opened: one draft for each role or resource. -/
def forcedCloses (event : JournalEvent) (state : WorldSnapshot) (c : Nat) :
    List (Text × ProjectedSession) → List Text → Nat → List (Text × ProjectedSession) × List Draft
  | [], _, _ => ([], [])
  | (digest, session) :: rest, keys, offset =>
      match session.resource with
      | none =>
          let (sessions, drafts) := forcedCloses event state c rest keys offset
          ((digest, session) :: sessions, drafts)
      | some resource =>
          if session.connection = c ∧ session.closed = false then
            let key := session.role.getD resource
            let ended := { session with closed := true }
            if key ∈ keys then
              let (sessions, drafts) := forcedCloses event state c rest keys offset
              ((digest, ended) :: sessions, drafts)
            else
              let (sessions, drafts) := forcedCloses event state c rest (key :: keys) (offset + 1)
              ((digest, ended) :: sessions,
                { Draft.still event .close (some session.digest) state with
                  cleanupSource := some .forced, offset } :: drafts)
          else
            let (sessions, drafts) := forcedCloses event state c rest keys offset
            ((digest, session) :: sessions, drafts)

/-- `connection.close` -/
def connectionClosed (p : Projection) (event : JournalEvent) (c : Nat) : Projection :=
  let (sessions, drafts) := forcedCloses event (p.currentState event) c p.sessions [] 0
  { p with sessions, drafts := p.drafts ++ drafts }

/-- `state.force_safe` -/
def forcedSafe (p : Projection) (event : JournalEvent) (stateBefore stateAfter : FinalState) :
    Except ProjectionFault Projection := do
  let before ← stateBefore.snapshot (p.clockMs event) p.stimulusStartedMs
  let after ← stateAfter.snapshot (p.clockMs event) none
  pure { p.draft { Draft.still event .forceSafe none before with
      stateAfter := after
      cleanupSource := some .forced } with
    stimulusStartedMs := none
    lastState := after }

/-- One turn of the loop of `project_events`. -/
def next (repr : WireValue → Text) (p : Projection) (event : JournalEvent) :
    Except ProjectionFault Projection :=
  match event.body with
  | .rpcRequest c operation args => .ok (p.request event c operation args)
  | .hook _ record => p.hook event record
  | .rpcResult c operation value _ => p.result repr event c operation value
  | .rpcReject c operation errorKind code => .ok (p.rejected event c operation errorKind code)
  | .connectionReject _ reason =>
      .ok (p.draft { Draft.still event .protocolReject none (p.currentState event) with
        errorCode := some reason })
  | .connectionClose c _ => .ok (p.connectionClosed event c)
  | .forceSafe stateBefore stateAfter => p.forcedSafe event stateBefore stateAfter
  | _ => .ok p

/-- The loop, from a state on. -/
def replay (repr : WireValue → Text) (p : Projection) (records : List JournalEvent) :
    Except ProjectionFault Projection :=
  records.foldlM (next repr) p

end Projection

/-! ## The whole journal -/

/-- The state a record shows as the one before it. -/
def Body.stateBefore : Body → Option FinalState
  | .hook _ (.before _ _ _ _ stateBefore) => some stateBefore
  | .forceSafe stateBefore _ => some stateBefore
  | _ => none

/-- `_initial_state` -/
def initialState (records : List JournalEvent) : Except ProjectionFault WorldSnapshot :=
  match records.findSome? fun event => event.body.stateBefore with
  | some state => state.snapshot 0 none
  | none => inconsistent "raw journal has no trusted simulator state"

/-- `_validate_records`: the sequence numbers are 1, 2, and so on. -/
def validRecords (records : List JournalEvent) : Bool :=
  records.map JournalEvent.sequence = (List.range records.length).map (· + 1)

/-- `EvidenceEvent`; its hashes and lengths are those of the payloads and states it
holds. -/
structure EvidenceEvent where
  sequence : Nat
  monotonicNs : Int
  operation : Text
  sessionDigest : Option Text
  resource : Option Text
  role : Option Text
  request : Option Bytes
  response : Option Bytes
  stateBefore : WorldSnapshot
  stateAfter : WorldSnapshot
  outcome : Text
  errorCode : Option Text
  cleanupSource : Option CleanupSource
  sourceSequence : Nat

namespace EvidenceEvent

def requestB64 (e : EvidenceEvent) : Option Text := e.request.map base64

def responseB64 (e : EvidenceEvent) : Option Text := e.response.map base64

def requestSha256 (e : EvidenceEvent) : Text := hexdigest (e.request.getD [])

def responseSha256 (e : EvidenceEvent) : Text := hexdigest (e.response.getD [])

/-- `_digest_state` -/
def digestState (state : WorldSnapshot) : Text := hexdigest (encodeUtf8 (Json.dumps state.asJson))

end EvidenceEvent

/-- `_materialize` -/
def Draft.materialize (sessions : List (Text × ProjectedSession)) (d : Draft) : EvidenceEvent :=
  let session := d.sessionDigest.bind fun digest => sessions.lookup digest
  { sequence := d.raw.sequence * 10 + d.offset
    monotonicNs := d.raw.monotonicNs
    operation := d.operation.name
    sessionDigest := d.sessionDigest
    resource := d.resource.or (session.bind ProjectedSession.resource)
    role := d.role.or (session.bind ProjectedSession.role)
    request := d.request
    response := d.response
    stateBefore := d.stateBefore
    stateAfter := d.stateAfter
    outcome := if d.errorCode.isSome then txt "error" else txt "ok"
    errorCode := d.errorCode
    cleanupSource := d.cleanupSource
    sourceSequence := d.raw.sequence }

/-- The sessions at the end: a session without a role takes the one its resource was
last seen with. -/
def completeRoles (sessions : List (Text × ProjectedSession)) : List (Text × ProjectedSession) :=
  let roleOf (resource : Option Text) : Option Text :=
    sessions.reverse.findSome? fun entry =>
      if entry.2.resource = resource ∧ resource.isSome then entry.2.role else none
  sessions.map fun entry =>
    (entry.1, { entry.2 with role := entry.2.role.or (roleOf entry.2.resource) })

/-- What the drafts become. -/
def numberedEvents (sessions : List (Text × ProjectedSession)) (drafts : List Draft) :
    List EvidenceEvent :=
  (drafts.map (Draft.materialize sessions)).mergeSort fun a b => a.sequence ≤ b.sequence

theorem mem_numberedEvents {sessions : List (Text × ProjectedSession)} {drafts : List Draft}
    {e : EvidenceEvent} :
    e ∈ numberedEvents sessions drafts ↔ ∃ d ∈ drafts, d.materialize sessions = e := by
  unfold numberedEvents
  rw [(List.mergeSort_perm _ _).mem_iff, List.mem_map]

/-- `project_events` -/
def projectEvents (repr : WireValue → Text) (records : List JournalEvent) :
    Except ProjectionFault (List EvidenceEvent) :=
  match records with
  | [] => .ok []
  | first :: _ => do
      if !validRecords records then inconsistent "raw journal order is invalid"
      else
        let lastState ← initialState records
        let p ← (Projection.start first.monotonicNs lastState).replay repr records
        let projected := numberedEvents (completeRoles p.sessions) p.drafts
        if ¬ (projected.map EvidenceEvent.sequence).Nodup then
          inconsistent "projected event sequence collision"
        else if p.activeHook.isSome ∨ p.writes ≠ [] ∨ p.requests ≠ [] then
          inconsistent "raw journal contains incomplete operations"
        else pure projected

/-- **What `project_events` returns**: the events of the drafts of a journal it has read to
the end, with nothing left over. -/
theorem projectEvents_ok {repr : WireValue → Text} {records : List JournalEvent}
    {events : List EvidenceEvent} (returned : projectEvents repr records = .ok events) :
    records = [] ∧ events = [] ∨ ∃ first world p, records.head? = some first ∧
      (Projection.start first.monotonicNs world).replay repr records = .ok p ∧
      validRecords records = true ∧
      events = numberedEvents (completeRoles p.sessions) p.drafts ∧ p.requests = [] := by
  cases records with
  | nil =>
      cases returned
      exact Or.inl ⟨rfl, rfl⟩
  | cons first rest =>
      right
      simp only [projectEvents, bind, Except.bind] at returned
      split at returned
      · cases returned
      · rename_i valid
        split at returned
        · cases returned
        · split at returned
          · cases returned
          · rename_i p read
            split at returned
            · cases returned
            · split at returned
              · cases returned
              · rename_i complete
                cases returned
                refine ⟨first, _, p, rfl, read, by simpa using valid, rfl, ?_⟩
                by_contra left
                exact complete (Or.inr (Or.inr left))

end InstrumentBench.Visa
