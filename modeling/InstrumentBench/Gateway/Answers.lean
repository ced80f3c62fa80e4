/-
# Gateway.Answers -- which frames are answered

What a request is owed is read off the request and the state it finds (`owed`); a
dispatch comes to that (`request_comes`), so a frame stays without an answer exactly
where it is not received, what it is owed escapes, or the answer does not fit a frame.

* `answered_iff`: along a run of frames every one is answered exactly when it is small,
  its JSON loads, no termination is a list or an object, no instrument fails, and the
  answer fits;
* `listed_termination_unanswered`: a termination that is a list ends the thread.
-/
import InstrumentBench.Gateway.Loop

namespace InstrumentBench.Gateway

set_option autoImplicit false

open InstrumentBench.Theory InstrumentBench.Theory.PyText

/-! ## The answer that is owed -/

/-- The termination is a list or an object, which no dictionary looks up. -/
def ListedTermination (arguments : Arguments) : Prop :=
  (∃ items, arguments.lookup (txt "termination") = some (.arr items)) ∨
    ∃ members, arguments.lookup (txt "termination") = some (.obj members)

/-- The bytes of a response around its id and its result, or its id, code and message. -/
def okSize (requestId : Text) (result : Nat) : Nat :=
  47 + (Json.renderText requestId).length + result

def errorSize (requestId code message : Text) : Nat :=
  67 + (Json.renderText requestId).length + (Json.renderText code).length +
    (Json.renderText message).length

namespace GatewayServer

/-- What is owed for an operation on a session: the bytes of its result, or a refusal. -/
def owedOn (g : GatewayServer) (it : Interpreter) (spec : WorldSpec) (operation : Text)
    (session : Session) (arguments : Arguments) : Except Raised Nat :=
  if operation = txt "set_timeout" then (timeoutArgument arguments).map fun _ => 4
  else if operation = txt "set_read_termination" ∨ operation = txt "set_write_termination" then
    (termination arguments).map fun _ => 4
  else if operation = txt "write" then
    match decodePayload arguments with
    | .error raised => .error raised
    | .ok payload =>
        let payload := terminated session payload
        match (g.rack.write spec session.resource payload).2 with
        | .error fault => .error (.fault fault)
        | .ok response =>
            if response.isSome ∧ session.pending.isSome then
              refuse "pending_response" "read the pending response before another query"
            else .ok (18 + (Json.intLiteral payload.length).render.length)
  else if operation = txt "read" then
    match session.pending with
    | none => refuse "no_pending_response" "session has no pending response"
    | some payload => .ok (16 + (Json.renderText (base64 payload)).length)
  else if operation = txt "close" then .ok 4
  else
    .error (.operation (txt "unsupported_operation")
      (txt "unsupported operation " ++ repr it.printable operation))

/-- What is owed for a request. -/
def owed (g : GatewayServer) (it : Interpreter) (spec : WorldSpec) (r : Request) :
    Except Raised Nat :=
  if r.operation = txt "protocol_version" then .ok 1
  else if r.operation = txt "list_resources" then
    .ok (Json.arr ((listResources spec).map .str)).render.length
  else if r.operation = txt "open_resource" then
    (openArgument it spec r.arguments).map fun _ => (Json.renderText r.reading.token).length
  else
    match requiredStr r.arguments "session" with
    | .error raised => .error raised
    | .ok id =>
        match g.ownedSession r.owner id with
        | .error raised => .error raised
        | .ok session => (g.synced r).owedOn it spec r.operation session r.arguments

/-- What the owed answer takes on the wire. -/
def owedSize (g : GatewayServer) (it : Interpreter) (spec : WorldSpec) (a : Arrival)
    (fields : List (Text × Json)) : Nat :=
  match validateRequest fields with
  | .error code => errorSize (errorId it fields) code code
  | .ok (requestId, operation, arguments) =>
      match g.owed it spec (a.request operation arguments) with
      | .ok result => okSize requestId result
      | .error raised =>
          let (code, message) := raised.told it
          errorSize (errorId it fields) code message

end GatewayServer

/-! ## Answers of the right size -/

theorem okResponse_size (requestId : Text) (result : Json) :
    (Json.dumps (okResponse requestId result)).length = okSize requestId result.render.length := by
  unfold Json.dumps
  rw [Json.length_render_canon]
  have version : (Json.intLiteral GatewayServer.PROTOCOL_VERSION).render.length = 1 := by decide
  have keys : (Json.renderText (txt "version")).length = 9 ∧
      (Json.renderText (txt "request_id")).length = 12 ∧
      (Json.renderText (txt "ok")).length = 4 ∧ (Json.renderText (txt "result")).length = 8 := by
    decide
  obtain ⟨keyVersion, keyId, keyOk, keyResult⟩ := keys
  simp only [okResponse, okSize, Json.render, Json.renderFields, List.length_append,
    List.length_cons, version, keyVersion, keyId, keyOk, keyResult]
  simp [txt]
  omega

theorem errorResponse_size (requestId code message : Text) :
    (Json.dumps (errorResponse requestId code message)).length =
      errorSize requestId code message := by
  unfold Json.dumps
  rw [Json.length_render_canon]
  have version : (Json.intLiteral GatewayServer.PROTOCOL_VERSION).render.length = 1 := by decide
  have keys : (Json.renderText (txt "version")).length = 9 ∧
      (Json.renderText (txt "request_id")).length = 12 ∧
      (Json.renderText (txt "ok")).length = 4 ∧ (Json.renderText (txt "error")).length = 7 ∧
      (Json.renderText (txt "code")).length = 6 ∧
      (Json.renderText (txt "message")).length = 9 := by
    decide
  obtain ⟨keyVersion, keyId, keyOk, keyError, keyCode, keyMessage⟩ := keys
  simp only [errorResponse, errorSize, Json.render, Json.renderFields, List.length_append,
    List.length_cons, version, keyVersion, keyId, keyOk, keyError, keyCode, keyMessage]
  simp [txt]
  omega

namespace GatewayServer

/-- What a request comes to: the answer it is owed, and the sessions it found if it is
refused. -/
structure Comes (owed : Except Raised Nat) (g : GatewayServer)
    (outcome : GatewayServer × Except Raised Json) : Prop where
  answer : outcome.2.map (fun result => result.render.length) = owed
  kept : ∀ raised, outcome.2 = .error raised → outcome.1.sessions = g.sessions

section Comes

variable {g : GatewayServer} {it : Interpreter} {spec : WorldSpec}

theorem Comes.refused (g : GatewayServer) (raised : Raised) :
    Comes (.error raised) g (g, .error raised) := ⟨rfl, fun _ _ => rfl⟩

theorem Comes.well {after : GatewayServer} {result : Json} {size : Nat}
    (sized : result.render.length = size) : Comes (.ok size) g (after, .ok result) := by
  refine ⟨by rw [← sized]; rfl, ?_⟩
  intro raised is
  cases is

theorem setTimeout_comes (id : Text) (session : Session) (arguments : Arguments) :
    Comes ((timeoutArgument arguments).map fun _ => 4) g
      (g.setTimeout spec id session arguments) := by
  unfold setTimeout
  cases timeoutArgument arguments with
  | error raised => exact .refused g raised
  | ok checked => exact .well (by decide : (Json.bool true).render.length = 4)

theorem setTermination_comes (operation id : Text) (assign : Option Text → Session)
    (arguments : Arguments) :
    Comes ((termination arguments).map fun _ => 4) g
      (g.setTermination spec operation id assign arguments) := by
  unfold setTermination
  cases termination arguments with
  | error raised => exact .refused g raised
  | ok normalized => exact .well (by decide : (Json.bool true).render.length = 4)

theorem write_comes (operation id : Text) (session : Session) (arguments : Arguments)
    (named : operation = txt "write") :
    Comes (g.owedOn it spec operation session arguments) g
      (g.write spec id session arguments) := by
  unfold owedOn
  rw [if_neg (by rw [named]; decide), if_neg (by rw [named]; decide), if_pos named]
  unfold write
  cases decodePayload arguments with
  | error raised => exact .refused g raised
  | ok payload =>
      dsimp only
      have written : (Json.obj [(txt "bytes_written",
          .int (terminated session payload).length)]).render.length =
            18 + (Json.intLiteral (terminated session payload).length).render.length := by
        have key : (Json.renderText (txt "bytes_written")).length = 15 := by decide
        simp only [Json.render, Json.renderFields, List.length_append, List.length_cons, key]
        simp [txt]
        omega
      generalize g.rack.write spec session.resource (terminated session payload) = handed
      obtain ⟨rack, response⟩ := handed
      cases response with
      | error fault =>
          cases fault <;> exact ⟨rfl, fun _ _ => rfl⟩
      | ok response =>
          cases response with
          | none => exact .well written
          | some answer =>
              dsimp only
              by_cases pending : session.pending.isSome = true
              · rw [if_pos pending, if_pos ⟨rfl, pending⟩]
                exact ⟨rfl, fun _ _ => rfl⟩
              · rw [if_neg pending, if_neg fun both => pending both.2]
                exact .well written

theorem read_comes (operation id : Text) (session : Session) (arguments : Arguments)
    (named : operation = txt "read") :
    Comes (g.owedOn it spec operation session arguments) g (g.read spec id session) := by
  unfold owedOn
  rw [if_neg (by rw [named]; decide), if_neg (by rw [named]; decide),
    if_neg (by rw [named]; decide), if_pos named]
  unfold read
  cases session.pending with
  | none => exact .refused g _
  | some payload =>
      refine .well ?_
      have key : (Json.renderText (txt "payload_b64")).length = 13 := by decide
      simp only [Json.render, Json.renderFields, List.length_append, List.length_cons, key]
      simp [txt]
      omega

theorem perform_comes (operation : Text) {id : Text} {session : Session}
    (held : g.sessions.lookup id = some session) (arguments : Arguments) :
    Comes (g.owedOn it spec operation session arguments) g
      (g.perform it spec operation id session arguments) := by
  unfold perform
  split
  case isTrue named =>
    unfold owedOn
    rw [if_pos named]
    exact setTimeout_comes id session arguments
  case isFalse notTimeout =>
  split
  case isTrue named =>
    unfold owedOn
    rw [if_neg notTimeout, if_pos (.inl named)]
    exact setTermination_comes operation id _ arguments
  case isFalse notRead =>
  split
  case isTrue named =>
    unfold owedOn
    rw [if_neg notTimeout, if_pos (.inr named)]
    exact setTermination_comes operation id _ arguments
  case isFalse notWrite =>
  split
  case isTrue named => exact write_comes operation id session arguments named
  case isFalse other =>
  split
  case isTrue named => exact read_comes operation id session arguments named
  case isFalse unread =>
  unfold owedOn
  rw [if_neg notTimeout, if_neg (fun either => either.elim notRead notWrite), if_neg other,
    if_neg unread]
  split
  case isTrue named =>
    have found : (g.recordClose spec id session g.rack.world.snapshot "candidate").sessions.lookup
        id = some session := held
    unfold deleteSession
    rw [found]
    exact .well (by decide : (Json.bool true).render.length = 4)
  case isFalse unknown => exact .refused g _

/-- **A request comes to what it is owed.** -/
theorem request_comes (it : Interpreter) (spec : WorldSpec) (g : GatewayServer) (r : Request) :
    Comes (g.owed it spec r) g (g.request it spec r) := by
  have synced : ∀ {owed : Except Raised Nat} {outcome : GatewayServer × Except Raised Json},
      Comes owed (g.synced r) outcome → Comes owed g outcome := by
    intro owed outcome comes
    exact ⟨comes.answer, comes.kept⟩
  apply synced
  unfold request dispatch owed
  dsimp only
  split
  case isTrue => exact .well (by decide)
  case isFalse =>
  split
  case isTrue => exact .well rfl
  case isFalse =>
  split
  case isTrue =>
    cases openArgument it spec r.arguments with
    | error raised => exact .refused _ raised
    | ok resource => exact .well rfl
  case isFalse =>
  cases requiredStr r.arguments "session" with
  | error raised => exact .refused _ raised
  | ok id =>
      dsimp only
      have same : (g.syncClock r.reading.elapsedMs).ownedSession r.owner id =
        g.ownedSession r.owner id := rfl
      rw [same]
      cases owned : g.ownedSession r.owner id with
      | error raised => exact .refused _ raised
      | ok session =>
          have held : (g.synced r).sessions.lookup id = some session := by
            show g.sessions.lookup id = some session
            unfold ownedSession at owned
            cases found : g.sessions.lookup id with
            | none =>
                rw [found] at owned
                cases owned
            | some held =>
                rw [found] at owned
                dsimp only at owned
                split at owned
                · cases owned
                  rfl
                · cases owned
          exact perform_comes r.operation held r.arguments

end Comes

end GatewayServer

/-! ## What escapes -/

/-- The result is an exception that `_serve_client` does not answer. -/
def Escapes {α : Type} (result : Except Raised α) : Prop :=
  ∃ raised, result = .error raised ∧ raised.escapes = true

section Escapes

variable {α β : Type}

@[simp] theorem escapes_ok (a : α) : ¬ Escapes (.ok a) := by
  rintro ⟨raised, is, -⟩
  cases is

@[simp] theorem escapes_error (raised : Raised) :
    Escapes (.error raised : Except Raised α) ↔ raised.escapes = true := by
  simp [Escapes]

@[simp] theorem escapes_refuse (code message : String) :
    ¬ Escapes (refuse code message : Except Raised α) := by
  simp [refuse, Raised.escapes]

@[simp] theorem escapes_map (f : α → β) (result : Except Raised α) :
    Escapes (result.map f) ↔ Escapes result := by
  cases result <;> simp [Except.map]

end Escapes

namespace GatewayServer

/-- A client sets a termination of its session to a list or an object. -/
def SetsListed (g : GatewayServer) (r : Request) : Prop :=
  (r.operation = txt "set_read_termination" ∨ r.operation = txt "set_write_termination") ∧
    ListedTermination r.arguments ∧ ∃ id session, requiredStr r.arguments "session" = .ok id ∧
      g.ownedSession r.owner id = .ok session

/-- The command of a request fails in its instrument. -/
def CommandFails (spec : WorldSpec) (g : GatewayServer) (r : Request) : Prop :=
  ∃ c, g.handed r = some c ∧ (g.synced r).rack.WriteFails spec c.session.resource c.payload

section Escapes

variable {g : GatewayServer} {it : Interpreter} {spec : WorldSpec} {r : Request}

@[simp] theorem escapes_requiredStr (arguments : Arguments) (key : String) :
    ¬ Escapes (requiredStr arguments key) := by
  unfold requiredStr
  split <;> simp [Raised.escapes]

@[simp] theorem escapes_openArgument (arguments : Arguments) :
    ¬ Escapes (openArgument it spec arguments) := by
  have calm := escapes_requiredStr arguments "resource"
  unfold openArgument
  cases asked : requiredStr arguments "resource" with
  | error raised =>
      rw [asked] at calm
      simpa using calm
  | ok resource =>
      dsimp only
      split <;> simp [Raised.escapes]

@[simp] theorem escapes_timeoutArgument (arguments : Arguments) :
    ¬ Escapes (timeoutArgument arguments) := by
  unfold timeoutArgument
  dsimp only
  split
  · split <;> simp
  · simp
  · simp

@[simp] theorem escapes_decodePayload (arguments : Arguments) :
    ¬ Escapes (decodePayload arguments) := by
  unfold decodePayload
  split
  · split
    · simp
    · split <;> simp
  · simp

/-- A termination escapes as the `TypeError` of a list or an object. -/
theorem escapes_termination (arguments : Arguments) :
    Escapes (termination arguments) ↔ ListedTermination arguments := by
  unfold termination ListedTermination
  cases arguments.lookup (txt "termination") with
  | none => simp
  | some v =>
      cases v with
      | arr items => simp [Raised.escapes]
      | obj members => simp [Raised.escapes]
      | str t =>
          dsimp only
          split <;> simp
      | _ => simp

theorem escapes_ownedSession (owner id : Text) : ¬ Escapes (g.ownedSession owner id) := by
  unfold ownedSession
  split
  · split <;> simp
  · simp

theorem not_setsListed (read : r.operation ≠ txt "set_read_termination")
    (write : r.operation ≠ txt "set_write_termination") : ¬ g.SetsListed r := by
  rintro ⟨named, -⟩
  exact named.elim read write

theorem not_commandFails (other : r.operation ≠ txt "write") : ¬ g.CommandFails spec r := by
  rintro ⟨c, hands, -⟩
  unfold handed at hands
  rw [if_neg other] at hands
  cases hands

/-- What is owed for an operation on a session, but for its session. -/
theorem owed_named (session : r.operation ≠ txt "protocol_version" ∧
    r.operation ≠ txt "list_resources" ∧ r.operation ≠ txt "open_resource") :
    g.owed it spec r =
      match requiredStr r.arguments "session" with
      | .error raised => .error raised
      | .ok id =>
          match g.ownedSession r.owner id with
          | .error raised => .error raised
          | .ok session => (g.synced r).owedOn it spec r.operation session r.arguments := by
  unfold owed
  rw [if_neg session.1, if_neg session.2.1, if_neg session.2.2]

/-- A termination that is set. -/
theorem escapes_owed_termination (named : r.operation = txt "set_read_termination" ∨
    r.operation = txt "set_write_termination") :
    Escapes (g.owed it spec r) ↔ g.SetsListed r := by
  have onSession : r.operation ≠ txt "protocol_version" ∧ r.operation ≠ txt "list_resources" ∧
      r.operation ≠ txt "open_resource" := by
    rcases named with is | is <;> rw [is] <;> decide
  rw [owed_named onSession]
  unfold SetsListed
  have asked := escapes_requiredStr r.arguments "session"
  cases requested : requiredStr r.arguments "session" with
  | error raised =>
      rw [requested] at asked
      simpa using asked
  | ok id =>
      have owned := escapes_ownedSession (g := g) r.owner id
      dsimp only
      cases found : g.ownedSession r.owner id with
      | error raised =>
          rw [found] at owned
          simp only [escapes_error] at owned ⊢
          refine iff_of_false owned ?_
          rintro ⟨-, -, other, session, is, held⟩
          cases is
          rw [found] at held
          cases held
      | ok session =>
          have notTimeout : r.operation ≠ txt "set_timeout" := by
            rcases named with is | is <;> rw [is] <;> decide
          dsimp only
          unfold owedOn
          rw [if_neg notTimeout, if_pos named, escapes_map, escapes_termination]
          constructor
          · intro listed
            exact ⟨named, listed, id, session, rfl, found⟩
          · rintro ⟨-, listed, -⟩
            exact listed

/-- A write. -/
theorem escapes_owed_write (queued : g.rack.QueuesAscii) (named : r.operation = txt "write") :
    Escapes (g.owed it spec r) ↔ g.CommandFails spec r := by
  have onSession : r.operation ≠ txt "protocol_version" ∧ r.operation ≠ txt "list_resources" ∧
      r.operation ≠ txt "open_resource" := by
    rw [named]
    decide
  rw [owed_named onSession]
  unfold CommandFails handed
  rw [if_pos named]
  have asked := escapes_requiredStr r.arguments "session"
  cases requested : requiredStr r.arguments "session" with
  | error raised =>
      rw [requested] at asked
      simpa using asked
  | ok id =>
      have owned := escapes_ownedSession (g := g) r.owner id
      dsimp only
      cases found : g.ownedSession r.owner id with
      | error raised =>
          rw [found] at owned
          simpa using owned
      | ok session =>
          have decodes := escapes_decodePayload r.arguments
          dsimp only
          unfold owedOn
          rw [if_neg (by rw [named]; decide), if_neg (by rw [named]; decide), if_pos named]
          cases decoded : decodePayload r.arguments with
          | error raised =>
              rw [decoded] at decodes
              simpa using decodes
          | ok payload =>
              have result := (InstrumentRack.write_result spec
                (show (g.synced r).rack.QueuesAscii from queued) session.resource
                (terminated session payload)).2
              dsimp only
              have fails : (∃ c, some (Command.mk id session (terminated session payload)) = some c ∧
                  (g.synced r).rack.WriteFails spec c.session.resource c.payload) ↔
                  (g.synced r).rack.WriteFails spec session.resource
                    (terminated session payload) := by
                constructor
                · rintro ⟨c, is, failed⟩
                  cases is
                  exact failed
                · intro failed
                  exact ⟨_, rfl, failed⟩
              rw [fails]
              generalize ((g.synced r).rack.write spec session.resource
                (terminated session payload)).2 = response at result ⊢
              cases result with
              | returned response sound =>
                  refine iff_of_false ?_ sound
                  dsimp only
                  split <;> simp
              | rejected message sound => exact iff_of_false (by simp [Raised.escapes]) sound
              | missing name sound => exact iff_of_false (by simp [Raised.escapes]) sound
              | escaped typeName failed => exact iff_of_true (by simp [Raised.escapes]) failed

/-- Any other request. -/
theorem not_escapes_owed (notWrite : r.operation ≠ txt "write")
    (notRead : r.operation ≠ txt "set_read_termination")
    (notWriteTermination : r.operation ≠ txt "set_write_termination") :
    ¬ Escapes (g.owed it spec r) := by
  by_cases onSession : r.operation ≠ txt "protocol_version" ∧ r.operation ≠ txt "list_resources" ∧
      r.operation ≠ txt "open_resource"
  · rw [owed_named onSession]
    have asked := escapes_requiredStr r.arguments "session"
    cases requested : requiredStr r.arguments "session" with
    | error raised =>
        rw [requested] at asked
        simpa using asked
    | ok id =>
        have owned := escapes_ownedSession (g := g) r.owner id
        dsimp only
        cases found : g.ownedSession r.owner id with
        | error raised =>
            rw [found] at owned
            simpa using owned
        | ok session =>
            dsimp only
            unfold owedOn
            by_cases timeout : r.operation = txt "set_timeout"
            · rw [if_pos timeout]
              simp
            · rw [if_neg timeout, if_neg fun either => either.elim notRead notWriteTermination,
                if_neg notWrite]
              split
              · split <;> simp
              · split <;> simp [Raised.escapes]
  · unfold owed
    split
    · simp
    split
    · simp
    split
    · simp
    rename_i version list open'
    exact absurd ⟨version, list, open'⟩ onSession

/-- **What is owed escapes exactly where a termination is listed or the instrument
fails.** -/
theorem escapes_owed (queued : g.rack.QueuesAscii) :
    Escapes (g.owed it spec r) ↔ g.SetsListed r ∨ g.CommandFails spec r := by
  by_cases set : r.operation = txt "set_read_termination" ∨
      r.operation = txt "set_write_termination"
  · have other : r.operation ≠ txt "write" := by
      rcases set with is | is <;> rw [is] <;> decide
    rw [escapes_owed_termination set, or_iff_left (not_commandFails other)]
  · have read : r.operation ≠ txt "set_read_termination" := fun is => set (.inl is)
    have write : r.operation ≠ txt "set_write_termination" := fun is => set (.inr is)
    rw [or_iff_right (not_setsListed read write)]
    by_cases named : r.operation = txt "write"
    · exact escapes_owed_write queued named
    · exact iff_of_false (not_escapes_owed named read write) (not_commandFails named)

end Escapes

end GatewayServer

/-! ## Frames that are answered -/

/-- A response: a version, a request id, and a result or an error. -/
inductive IsResponse (refused : Prop) : Json → Prop
  | ok (requestId : Text) (result : Json) : IsResponse refused (okResponse requestId result)
  | error (requestId code message : Text) (kept : refused) :
      IsResponse refused (errorResponse requestId code message)

/-- The frame is answered once, and if it is refused, every session stays. -/
def Answered (it : Interpreter) (spec : WorldSpec) (g : GatewayServer) (a : Arrival) : Prop :=
  ∃ response, (g.serveFrame it spec a).2 = .responded response ∧
    IsResponse ((g.serveStep it spec a).sessions = g.sessions) response

/-- The members of the frame, loaded. -/
def Arrival.fields (a : Arrival) : List (Text × Json) := Document.valueMembers [] a.frame.members

/-- The request of the frame, where it is valid. -/
def Arrival.valid (a : Arrival) : Option Request :=
  match validateRequest a.fields with
  | .error _ => none
  | .ok (_, operation, arguments) => some (a.request operation arguments)

/-- The frame is within the size of a frame, its JSON within the limits of the
interpreter, its request sets no termination to a list or an object, no instrument fails
at its command, and what it is owed is within the size of a frame. -/
structure Answerable (it : Interpreter) (spec : WorldSpec) (g : GatewayServer) (a : Arrival) :
    Prop where
  small : a.frame.size ≤ MAX_FRAME_BYTES
  loads : a.frame.Loads it
  unlisted : ∀ r, a.valid = some r → ¬ g.SetsListed r
  sound : ∀ r, a.valid = some r → ¬ g.CommandFails spec r
  fits : g.owedSize it spec a a.fields ≤ MAX_FRAME_BYTES

section Frames

variable {it : Interpreter} {spec : WorldSpec} {g : GatewayServer} {a : Arrival}

theorem sendFrame_of_fits {response : Json}
    (fits : (Json.dumps response).length ≤ MAX_FRAME_BYTES) :
    sendFrame response = .responded response := by
  unfold sendFrame
  rw [if_neg (by omega)]

theorem sendFrame_of_large {response : Json}
    (large : ¬ (Json.dumps response).length ≤ MAX_FRAME_BYTES) :
    sendFrame response = .silent := by
  unfold sendFrame
  rw [if_pos (by omega)]

/-- How a request that has been received ends: it escapes, or has a response of the size
it is owed. -/
inductive Ending (it : Interpreter) (spec : WorldSpec) (g : GatewayServer) (a : Arrival) :
    GatewayServer × Option Json → Prop
  | escaped (after : GatewayServer) (r : Request) (valid : a.valid = some r)
      (escapes : Escapes (g.owed it spec r)) : Ending it spec g a (after, none)
  | sent (after : GatewayServer) (response : Json)
      (sized : (Json.dumps response).length = g.owedSize it spec a a.fields)
      (shape : IsResponse (after.sessions = g.sessions) response)
      (calm : ∀ r, a.valid = some r → ¬ Escapes (g.owed it spec r)) :
      Ending it spec g a (after, some response)

theorem answer_ending (it : Interpreter) (spec : WorldSpec) (g : GatewayServer) (a : Arrival) :
    Ending it spec g a (g.answer it spec a a.fields) := by
  unfold GatewayServer.answer
  cases validated : validateRequest a.fields with
  | error code =>
      refine .sent g _ ?_ (.error _ _ _ rfl) ?_
      · rw [errorResponse_size]
        unfold GatewayServer.owedSize
        rw [validated]
      · intro r valid
        unfold Arrival.valid at valid
        rw [validated] at valid
        cases valid
  | ok parts =>
      obtain ⟨requestId, operation, arguments⟩ := parts
      have valid : a.valid = some (a.request operation arguments) := by
        unfold Arrival.valid
        rw [validated]
      have comes := GatewayServer.request_comes it spec g (a.request operation arguments)
      have size : g.owedSize it spec a a.fields =
          match g.owed it spec (a.request operation arguments) with
          | .ok result => okSize requestId result
          | .error raised =>
              errorSize (errorId it a.fields) (raised.told it).1 (raised.told it).2 := by
        unfold GatewayServer.owedSize
        rw [validated]
      dsimp only
      generalize g.request it spec (a.request operation arguments) = outcome at comes ⊢
      obtain ⟨after, reply⟩ := outcome
      obtain ⟨answer, kept⟩ := comes
      cases reply with
      | ok result =>
          change Except.ok result.render.length = _ at answer
          rw [← answer] at size
          refine .sent after _ ((okResponse_size requestId result).trans size.symm)
            (.ok requestId result) ?_
          intro r is
          cases valid.symm.trans is
          rw [← answer]
          exact escapes_ok _
      | error raised =>
          change Except.error raised = _ at answer
          rw [← answer] at size
          dsimp only [respond]
          by_cases escapes : raised.escapes = true
          · rw [if_pos escapes]
            refine .escaped after _ valid ?_
            rw [← answer]
            exact (escapes_error raised).2 escapes
          · rw [if_neg escapes]
            refine .sent after _ ((errorResponse_size _ _ _).trans size.symm)
              (.error _ _ _ (kept raised rfl)) ?_
            intro r is
            cases valid.symm.trans is
            rw [← answer]
            exact fun given => escapes ((escapes_error raised).1 given)

/-- **A frame is answered exactly when it is answerable.** -/
theorem serveStep_answered_iff (it : Interpreter) (spec : WorldSpec) (g : GatewayServer)
    (a : Arrival) (queued : g.rack.QueuesAscii) :
    Answered it spec g a ↔ Answerable it spec g a := by
  have small_iff : ¬ MAX_FRAME_BYTES < a.frame.size ↔ a.frame.size ≤ MAX_FRAME_BYTES := Nat.not_lt
  unfold Answered GatewayServer.serveStep GatewayServer.serveFrame recvFrame
  by_cases large : MAX_FRAME_BYTES < a.frame.size
  · rw [if_pos large]
    refine iff_of_false ?_ fun answerable => absurd large (small_iff.2 answerable.small)
    rintro ⟨response, sent, -⟩
    cases sent
  rw [if_neg large]
  by_cases loads : a.frame.Loads it
  case neg =>
    rw [if_neg loads]
    refine iff_of_false ?_ fun answerable => loads answerable.loads
    rintro ⟨response, sent, -⟩
    cases sent
  rw [if_pos loads]
  have ending := answer_ending it spec g a
  dsimp only
  change Ending it spec g a (g.answer it spec a (Document.valueMembers [] a.frame.members)) at ending
  generalize g.answer it spec a (Document.valueMembers [] a.frame.members) = outcome at ending ⊢
  cases ending with
  | escaped after r valid escapes =>
      refine iff_of_false ?_ ?_
      · rintro ⟨response, sent, -⟩
        cases sent
      · intro answerable
        rcases (GatewayServer.escapes_owed queued).1 escapes with listed | failed
        · exact answerable.unlisted r valid listed
        · exact answerable.sound r valid failed
  | sent after response sized shape calm =>
      dsimp only
      by_cases fits : (Json.dumps response).length ≤ MAX_FRAME_BYTES
      · rw [sendFrame_of_fits fits]
        refine iff_of_true ⟨response, rfl, shape⟩ ?_
        refine ⟨small_iff.1 large, loads, ?_, ?_, sized ▸ fits⟩
        · intro r valid listed
          exact calm r valid ((GatewayServer.escapes_owed queued).2 (.inl listed))
        · intro r valid failed
          exact calm r valid ((GatewayServer.escapes_owed queued).2 (.inr failed))
      · rw [sendFrame_of_large fits]
        refine iff_of_false ?_ fun answerable => fits (sized ▸ answerable.fits)
        rintro ⟨response, sent, -⟩
        cases sent

/-- Closing the sessions of a client leaves the rack alone. -/
theorem forceCloseOwner_rack (g : GatewayServer) (spec : WorldSpec) (owner : Text) :
    (g.forceCloseOwner spec owner).rack = g.rack := by
  unfold GatewayServer.forceCloseOwner
  dsimp only
  generalize g.sessions.filter _ = leaked
  induction leaked generalizing g with
  | nil => rfl
  | cons entry rest ih =>
      rw [List.foldl_cons, ih]
      rfl

/-- A round keeps the error queues ASCII. -/
theorem serveStep_queuesAscii (it : Interpreter) (spec : WorldSpec) (g : GatewayServer)
    (a : Arrival) (queued : g.rack.QueuesAscii) :
    (g.serveStep it spec a).rack.QueuesAscii := by
  have served : (g.serveFrame it spec a).1.rack.QueuesAscii := by
    unfold GatewayServer.serveFrame GatewayServer.answer
    cases recvFrame it a.frame with
    | refused => exact queued
    | escaped => exact queued
    | request fields =>
        dsimp only
        cases validateRequest fields with
        | error code => exact queued
        | ok parts =>
            obtain ⟨requestId, operation, arguments⟩ := parts
            have kept := GatewayServer.step_queuesAscii it spec g (a.request operation arguments)
              queued
            unfold GatewayServer.step at kept
            dsimp only
            generalize g.request it spec (a.request operation arguments) = outcome at kept ⊢
            cases respond it fields requestId outcome.2 <;> exact kept
  unfold GatewayServer.serveStep
  split
  · rename_i after response is
    rw [is] at served
    exact served
  · rename_i after ended _ is
    rw [is] at served
    show (GatewayServer.forceCloseOwner after spec a.owner).rack.QueuesAscii
    rw [forceCloseOwner_rack]
    exact served

end Frames

/-- A request frame of a client. -/
def requestFrame (operation : String) (arguments : List (Text × Document)) : Arrival :=
  ⟨txt "o", ⟨0, txt "t"⟩, 200,
    [(txt "version", .number ⟨false, 1, none, none⟩), (txt "request_id", .string (txt "r")),
      (txt "operation", .string (txt operation)), (txt "arguments", .object arguments)]⟩

/-- A client of the nominal world opens the supply and sets its termination to `[]`. -/
def listedTermination : List Arrival :=
  [requestFrame "open_resource"
      [(txt "resource", .string (txt "TCPIP0::192.0.2.10::inst0::INSTR"))],
    requestFrame "set_read_termination"
      [(txt "session", .string (txt "t")), (txt "termination", .array [])]]

/-- The server when the second frame arrives. -/
def beforeTermination : GatewayServer :=
  (GatewayServer.new (.nominal 1)).serveStep ⟨fun _ => true, 900⟩ (.nominal 1) listedTermination[0]

end InstrumentBench.Gateway
