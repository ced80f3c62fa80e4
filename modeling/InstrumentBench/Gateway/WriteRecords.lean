/-
# Gateway.WriteRecords -- every command leaves a record

A `write` request hands a command to the rack once its session, its payload and its
terminator have been checked.  The pending response is looked at afterwards, and only
two kinds of exception are recorded, so a command can run and leave no record.

* `evident_iff`: along a run of requests every command is run once and recorded once, with
  its bytes, session and outcome, a request that hands none over runs none, and every
  refused write has changed nothing, exactly when no command answers while a response is
  pending and no instrument fails;
* `unread_query_unrecorded`: the second of two queries runs and is not recorded.
-/
import InstrumentBench.Theory.Run
import InstrumentBench.Gateway.Faults
import InstrumentBench.Gateway.Server

namespace InstrumentBench.Gateway

set_option autoImplicit false

open InstrumentBench.Theory InstrumentBench.Theory.PyText

/-! ## Requests -/

/-- A request of a client, as it is dispatched. -/
structure Request where
  owner : Text
  reading : Reading
  operation : Text
  arguments : Arguments

/-- A command handed to `rack.write`, with the session it was written to. -/
structure Command where
  id : Text
  session : Session
  payload : Bytes

namespace GatewayServer

/-- What a request ends in. -/
def request (it : Interpreter) (spec : WorldSpec) (g : GatewayServer) (r : Request) :
    GatewayServer × Except Raised Json :=
  g.dispatch it spec r.owner r.reading r.operation r.arguments

def step (it : Interpreter) (spec : WorldSpec) (g : GatewayServer) (r : Request) : GatewayServer :=
  (g.request it spec r).1

/-- The server once the request has synchronized the clock. -/
def synced (g : GatewayServer) (r : Request) : GatewayServer := g.syncClock r.reading.elapsedMs

/-- The command a request hands to the rack. -/
def handed (g : GatewayServer) (r : Request) : Option Command :=
  if r.operation = txt "write" then
    match requiredStr r.arguments "session" with
    | .error _ => none
    | .ok id =>
        match g.ownedSession r.owner id, decodePayload r.arguments with
        | .ok session, .ok payload => some ⟨id, session, terminated session payload⟩
        | _, _ => none
  else none

end GatewayServer

/-! ## The property -/

def EvidenceEvent.isWrite (e : EvidenceEvent) : Bool := e.operation = txt "write"

/-- The record tells the bytes, the session and the outcome of the command. -/
structure EvidenceEvent.Tells (e : EvidenceEvent) (c : Command) (result : Except Fault Response) :
    Prop where
  operation : e.operation = txt "write"
  session : e.session = some c.id
  request : e.request = some c.payload
  outcome : e.outcome = match result with
    | .ok _ => txt "ok"
    | .error _ => txt "error"
  response : e.response = match result with
    | .ok response => response
    | .error _ => none

/-- The request leaves the rack as the command it hands over does, run once, and records
that command once and as it went.  A request that hands none over runs none: it leaves the
rack alone, but that an opened session is noted in the world.  A write that the gateway
refuses has changed nothing. -/
def Evident (it : Interpreter) (spec : WorldSpec) (g : GatewayServer) (r : Request) : Prop :=
  (match g.handed r with
    | some c =>
        (g.step it spec r).rack = ((g.synced r).rack.write spec c.session.resource c.payload).1 ∧
          ∃ record, (g.step it spec r).journal = g.journal ++ [record] ∧
            record.Tells c ((g.synced r).rack.write spec c.session.resource c.payload).2
    | none =>
        (g.step it spec r).rack.models = g.rack.models ∧
          (r.operation ≠ txt "open_resource" → (g.step it spec r).rack = (g.synced r).rack) ∧
          (g.step it spec r).journal.filter EvidenceEvent.isWrite =
            g.journal.filter EvidenceEvent.isWrite) ∧
  (r.operation = txt "write" → ∀ code message,
    (g.request it spec r).2 = .error (.operation code message) → g.step it spec r = g.synced r)

/-- The rack answers the command. -/
def InstrumentRack.Answers (spec : WorldSpec) (resource : Text) (payload : Bytes)
    (rack : InstrumentRack) : Prop :=
  ∃ response, (rack.write spec resource payload).2 = .ok (some response)

/-- A command that is handed over does not fail in its instrument, and is answered only
on a session that holds no pending response. -/
def Recordable (spec : WorldSpec) (g : GatewayServer) (r : Request) : Prop :=
  ∀ c, g.handed r = some c →
    ¬ (g.synced r).rack.WriteFails spec c.session.resource c.payload ∧
      (c.session.pending.isSome → ¬ (g.synced r).rack.Answers spec c.session.resource c.payload)

namespace GatewayServer

/-! ## Other requests -/

section Records

variable {g : GatewayServer} {spec : WorldSpec} {it : Interpreter}

@[simp] theorem append_rack (record : Nat → EvidenceEvent) : (g.append record).rack = g.rack := rfl

@[simp] theorem recordOk_rack (operation id : Text) (session : Session) (before : WorldSnapshot)
    (request response : Option Bytes) :
    (g.recordOk spec operation id session before request response).rack = g.rack := rfl

@[simp] theorem setSession_rack (id : Text) (session : Session) :
    (g.setSession id session).rack = g.rack := rfl

@[simp] theorem setSession_journal (id : Text) (session : Session) :
    (g.setSession id session).journal = g.journal := rfl

/-- The write records. -/
def writes (g : GatewayServer) : List EvidenceEvent := g.journal.filter EvidenceEvent.isWrite

theorem writes_append {record : Nat → EvidenceEvent}
    (other : ∀ n, (record n).operation ≠ txt "write") : (g.append record).writes = g.writes := by
  unfold writes append
  rw [List.filter_append, List.filter_cons_of_neg, List.filter_nil, List.append_nil]
  simpa [EvidenceEvent.isWrite] using other _

theorem deleteSession_journal (id : Text) :
    (g.deleteSession id).1.journal = g.journal ∧ (g.deleteSession id).1.rack = g.rack := by
  unfold deleteSession
  split <;> exact ⟨rfl, rfl⟩

theorem setTimeout_kept (id : Text) (session : Session) (arguments : Arguments) :
    (g.setTimeout spec id session arguments).1.writes = g.writes ∧
      (g.setTimeout spec id session arguments).1.rack = g.rack := by
  unfold setTimeout
  split
  · exact ⟨rfl, rfl⟩
  · exact ⟨writes_append fun _ => (by decide : txt "set_timeout" ≠ txt "write"), rfl⟩

theorem setTermination_kept {operation : Text} (other : operation ≠ txt "write") (id : Text)
    (assign : Option Text → Session) (arguments : Arguments) :
    (g.setTermination spec operation id assign arguments).1.writes = g.writes ∧
      (g.setTermination spec operation id assign arguments).1.rack = g.rack := by
  unfold setTermination
  split
  · exact ⟨rfl, rfl⟩
  · exact ⟨writes_append fun _ => other, rfl⟩

theorem read_kept (id : Text) (session : Session) :
    (g.read spec id session).1.writes = g.writes ∧ (g.read spec id session).1.rack = g.rack := by
  unfold read
  split
  · exact ⟨rfl, rfl⟩
  · exact ⟨writes_append fun _ => (by decide : txt "read" ≠ txt "write"), rfl⟩

/-- The operations on a session but `write` record no write and leave the rack alone. -/
theorem perform_kept (it : Interpreter) (spec : WorldSpec) {operation : Text} (other : operation ≠ txt "write") (id : Text)
    (session : Session) (arguments : Arguments) :
    (g.perform it spec operation id session arguments).1.writes = g.writes ∧
      (g.perform it spec operation id session arguments).1.rack = g.rack := by
  unfold perform
  split
  case isTrue => exact setTimeout_kept id session arguments
  case isFalse =>
  split
  case isTrue => exact setTermination_kept other id _ arguments
  case isFalse =>
  split
  case isTrue => exact setTermination_kept other id _ arguments
  case isFalse =>
  split
  case isTrue => exact read_kept id session
  case isFalse =>
  split
  case isTrue =>
    have deleted := deleteSession_journal
      (g := g.recordClose spec id session g.rack.world.snapshot "candidate") id
    refine ⟨?_, deleted.2⟩
    unfold writes
    rw [deleted.1]
    exact writes_append fun _ => (by decide : txt "close" ≠ txt "write")
  case isFalse => exact ⟨rfl, rfl⟩

theorem dispatch_kept (g : GatewayServer) {r : Request} (other : r.operation ≠ txt "write") :
    (g.step it spec r).writes = g.writes ∧
      (g.step it spec r).rack.models = g.rack.models ∧
      (r.operation ≠ txt "open_resource" → (g.step it spec r).rack = (g.synced r).rack) := by
  unfold step request dispatch
  dsimp only
  split
  case isTrue => exact ⟨rfl, rfl, fun _ => rfl⟩
  case isFalse =>
  split
  case isTrue =>
    exact ⟨writes_append fun _ => (by decide : txt "list_resources" ≠ txt "write"), rfl,
      fun _ => rfl⟩
  case isFalse =>
  split
  case isTrue opens =>
    split
    · exact ⟨rfl, rfl, fun _ => rfl⟩
    · exact ⟨writes_append fun _ => (by decide : txt "open_resource" ≠ txt "write"), rfl,
        fun other => absurd opens other⟩
  case isFalse =>
  split
  · exact ⟨rfl, rfl, fun _ => rfl⟩
  · split
    · exact ⟨rfl, rfl, fun _ => rfl⟩
    · obtain ⟨writes, rack⟩ := perform_kept (g := g.syncClock r.reading.elapsedMs) it spec other
        _ _ r.arguments
      exact ⟨writes, by rw [rack]; rfl, fun _ => rack⟩

end Records

/-! ## Writes -/

section Writes

variable {it : Interpreter} {spec : WorldSpec} {g : GatewayServer} {r : Request}

/-- A write request, up to where its session is found. -/
theorem request_write (named : r.operation = txt "write") :
    g.request it spec r =
      match requiredStr r.arguments "session" with
      | .error raised => (g.synced r, .error raised)
      | .ok id =>
          match g.ownedSession r.owner id with
          | .error raised => (g.synced r, .error raised)
          | .ok session => (g.synced r).write spec id session r.arguments := by
  unfold request dispatch
  dsimp only
  rw [if_neg (by rw [named]; decide), if_neg (by rw [named]; decide),
    if_neg (by rw [named]; decide)]
  have same : ∀ id, (g.syncClock r.reading.elapsedMs).ownedSession r.owner id =
      g.ownedSession r.owner id := fun _ => rfl
  cases requiredStr r.arguments "session" with
  | error raised => rfl
  | ok id =>
      dsimp only
      rw [same]
      cases g.ownedSession r.owner id with
      | error raised => rfl
      | ok session =>
          show perform _ _ _ _ _ _ _ = (g.syncClock r.reading.elapsedMs).write _ _ _ _
          unfold perform
          rw [if_neg (by rw [named]; decide), if_neg (by rw [named]; decide),
            if_neg (by rw [named]; decide), if_pos named]

/-- A write that is not handed over changes nothing. -/
theorem request_unhanded (it : Interpreter) (spec : WorldSpec) (named : r.operation = txt "write") (unhanded : g.handed r = none) :
    g.step it spec r = g.synced r := by
  unfold step
  unfold handed at unhanded
  rw [if_pos named] at unhanded
  rw [request_write named]
  cases asked : requiredStr r.arguments "session" with
  | error raised => rfl
  | ok id =>
      rw [asked] at unhanded
      dsimp only at unhanded ⊢
      cases owned : g.ownedSession r.owner id with
      | error raised => rfl
      | ok session =>
          rw [owned] at unhanded
          dsimp only at unhanded ⊢
          unfold write
          cases decoded : decodePayload r.arguments with
          | error raised => rfl
          | ok payload =>
              rw [decoded] at unhanded
              cases unhanded

/-- A write that is handed over, once its payload is decoded. -/
theorem request_handed (it : Interpreter) (spec : WorldSpec) {c : Command} (hands : g.handed r = some c) :
    r.operation = txt "write" ∧ ∃ payload, c.payload = terminated c.session payload ∧
      decodePayload r.arguments = .ok payload ∧
      g.request it spec r = (g.synced r).write spec c.id c.session r.arguments := by
  unfold handed at hands
  split at hands
  case isFalse => cases hands
  case isTrue named =>
    refine ⟨named, ?_⟩
    rw [request_write named]
    cases asked : requiredStr r.arguments "session" with
    | error raised =>
        rw [asked] at hands
        cases hands
    | ok id =>
        rw [asked] at hands
        dsimp only at hands ⊢
        cases owned : g.ownedSession r.owner id with
        | error raised =>
            rw [owned] at hands
            cases hands
        | ok session =>
            cases decoded : decodePayload r.arguments with
            | error raised =>
                rw [owned, decoded] at hands
                cases hands
            | ok payload =>
                rw [owned, decoded] at hands
                cases hands
                exact ⟨payload, rfl, rfl, rfl⟩

/-- How a command that is handed over ends: recorded, or unrecorded because it failed or
because it answered on a session that holds a response. -/
inductive Written (spec : WorldSpec) (g : GatewayServer) (c : Command) :
    GatewayServer × Except Raised Json → Prop
  | recorded (after : GatewayServer) (reply : Except Raised Json) (record : EvidenceEvent)
      (rack : after.rack = (g.rack.write spec c.session.resource c.payload).1)
      (journal : after.journal = g.journal ++ [record])
      (tells : record.Tells c (g.rack.write spec c.session.resource c.payload).2)
      (calm : ∀ raised, reply = .error raised → ∃ fault, raised = .fault fault ∧
        raised.escapes = false)
      (sound : ¬ g.rack.WriteFails spec c.session.resource c.payload)
      (free : c.session.pending.isSome → ¬ g.rack.Answers spec c.session.resource c.payload) :
      Written spec g c (after, reply)
  | lost (after : GatewayServer) (reply : Except Raised Json)
      (rack : after.rack = (g.rack.write spec c.session.resource c.payload).1)
      (journal : after.journal = g.journal)
      (broken : (g.rack.WriteFails spec c.session.resource c.payload ∧
          ∃ raised, reply = .error raised ∧ raised.escapes = true) ∨
        (c.session.pending.isSome ∧ g.rack.Answers spec c.session.resource c.payload ∧
          ¬ g.rack.WriteFails spec c.session.resource c.payload ∧
          ∃ code message, reply = .error (.operation code message))) :
      Written spec g c (after, reply)

theorem write_written (spec : WorldSpec) (queued : g.rack.QueuesAscii) {c : Command} {arguments : Arguments}
    {payload : Bytes} (ended : c.payload = terminated c.session payload)
    (decoded : decodePayload arguments = .ok payload) :
    Written spec g c (g.write spec c.id c.session arguments) := by
  have result := (InstrumentRack.write_result spec queued c.session.resource c.payload).2
  unfold write
  rw [decoded]
  dsimp only
  rw [← ended]
  generalize written : g.rack.write spec c.session.resource c.payload = handed at result ⊢
  obtain ⟨rack, response⟩ := handed
  have answers : g.rack.Answers spec c.session.resource c.payload ↔
      ∃ answer, response = .ok (some answer) := by
    unfold InstrumentRack.Answers
    rw [written]
  have left : rack = (g.rack.write spec c.session.resource c.payload).1 := by rw [written]
  have tells : ∀ {record : EvidenceEvent}, record.Tells c response →
      record.Tells c (g.rack.write spec c.session.resource c.payload).2 := by
    intro record given
    rw [written]
    exact given
  have calm : ∀ {json : Json} (raised : Raised), Except.ok json = .error raised →
      ∃ fault, raised = .fault fault ∧ raised.escapes = false := by
    intro json raised is
    cases is
  have unanswered : (∀ answer, response ≠ .ok (some answer)) → c.session.pending.isSome →
      ¬ g.rack.Answers spec c.session.resource c.payload := by
    intro silent _ given
    obtain ⟨answer, is⟩ := answers.1 given
    exact silent answer is
  cases result with
  | returned response sound =>
      cases response with
      | none =>
          exact .recorded _ _ _ left rfl (tells ⟨rfl, rfl, rfl, rfl, rfl⟩) calm sound
            (unanswered fun answer is => by cases is)
      | some answer =>
          dsimp only
          by_cases pending : c.session.pending.isSome = true
          · rw [if_pos pending]
            exact .lost _ _ left rfl
              (.inr ⟨pending, answers.2 ⟨answer, rfl⟩, sound, _, _, rfl⟩)
          · rw [if_neg pending]
            exact .recorded _ _ _ left rfl (tells ⟨rfl, rfl, rfl, rfl, rfl⟩) calm sound
              fun held => absurd held pending
  | rejected message sound =>
      refine .recorded _ _ _ left rfl (tells ⟨rfl, rfl, rfl, rfl, rfl⟩) ?_ sound
        (unanswered fun answer is => by cases is)
      intro raised is
      cases is
      exact ⟨_, rfl, rfl⟩
  | missing name sound =>
      refine .recorded _ _ _ left rfl (tells ⟨rfl, rfl, rfl, rfl, rfl⟩) ?_ sound
        (unanswered fun answer is => by cases is)
      intro raised is
      cases is
      exact ⟨_, rfl, rfl⟩
  | escaped typeName failed => exact .lost _ _ left rfl (.inl ⟨failed, _, rfl, rfl⟩)

/-- A request keeps the error queues ASCII. -/
theorem step_queuesAscii (it : Interpreter) (spec : WorldSpec) (g : GatewayServer) (r : Request)
    (queued : g.rack.QueuesAscii) : (g.step it spec r).rack.QueuesAscii := by
  by_cases named : r.operation = txt "write"
  · cases hands : g.handed r with
    | none =>
        rw [request_unhanded it spec named hands]
        exact queued
    | some c =>
        obtain ⟨-, payload, ended, decoded, request⟩ := request_handed it spec hands
        have written := write_written (g := g.synced r) spec queued ended decoded
        have kept := (InstrumentRack.write_result spec (show (g.synced r).rack.QueuesAscii from queued)
          c.session.resource c.payload).1
        unfold step
        rw [request]
        generalize (g.synced r).write spec c.id c.session r.arguments = outcome at written ⊢
        cases written with
        | recorded after reply record rack => rw [rack]; exact kept
        | lost after reply rack => rw [rack]; exact kept
  · intro i
    rw [(dispatch_kept g named).2.1]
    exact queued i

/-- **A request is evident exactly when its command is recordable.** -/
theorem step_evident_iff (it : Interpreter) (spec : WorldSpec) (g : GatewayServer) (r : Request)
    (queued : g.rack.QueuesAscii) : Evident it spec g r ↔ Recordable spec g r := by
  unfold Evident Recordable
  cases hands : g.handed r with
  | none =>
      refine iff_of_true ?_ (fun c h => by cases h)
      by_cases named : r.operation = txt "write"
      · have same := request_unhanded it spec named hands
        refine ⟨?_, fun _ _ _ _ => same⟩
        show (g.step it spec r).rack.models = _ ∧ (_ → (g.step it spec r).rack = _) ∧
          List.filter _ (g.step it spec r).journal = _
        rw [same]
        exact ⟨rfl, fun _ => rfl, rfl⟩
      · obtain ⟨writes, models, rack⟩ := dispatch_kept g named
        refine ⟨⟨models, rack, writes⟩, ?_⟩
        intro is
        exact absurd is named
  | some c =>
      obtain ⟨named, payload, ended, decoded, request⟩ := request_handed it spec hands
      have written := write_written (g := g.synced r) spec queued ended decoded
      unfold step
      rw [request]
      generalize (g.synced r).write spec c.id c.session r.arguments = outcome at written ⊢
      cases written with
      | recorded after reply record rack journal tells calm sound free =>
          refine iff_of_true ⟨⟨rack, record, journal, tells⟩, ?_⟩ ?_
          · intro _ code message refused
            obtain ⟨fault, is, -⟩ := calm _ refused
            cases is
          · intro c' same
            cases same
            exact ⟨sound, free⟩
      | lost after reply rack journal broken =>
          refine iff_of_false ?_ ?_
          · rintro ⟨⟨-, record, appended, -⟩, -⟩
            have same : g.journal = g.journal ++ [record] := journal.symm.trans appended
            have := congrArg List.length same
            simp at this
          · intro recordable
            obtain ⟨sound, free⟩ := recordable c rfl
            rcases broken with ⟨failed, -⟩ | ⟨held, answers, -⟩
            · exact sound failed
            · exact free held answers

end Writes

end GatewayServer

/-! ## Runs -/

/-- **Every request of a run is evident exactly when every command is recordable.** -/
theorem evident_iff (it : Interpreter) (spec : WorldSpec) (run : List Request) :
    Along (GatewayServer.step it spec) (Evident it spec) (GatewayServer.new spec) run ↔
      Along (GatewayServer.step it spec) (Recordable spec) (GatewayServer.new spec) run :=
  Along.iff_of_invariant (GatewayServer.step_queuesAscii it spec)
    (GatewayServer.step_evident_iff it spec) (InstrumentRack.new_queuesAscii spec)

/-- An evident request that hands a command over records it. -/
theorem Evident.recorded {it : Interpreter} {spec : WorldSpec} {g : GatewayServer} {r : Request}
    (evident : Evident it spec g r) (hands : (g.handed r).isSome = true) :
    (g.step it spec r).journal.length = g.journal.length + 1 := by
  obtain ⟨recorded, -⟩ := evident
  split at recorded
  · obtain ⟨-, record, appended, -⟩ := recorded
    rw [appended, List.length_append]
    rfl
  · rename_i unhanded
    rw [unhanded] at hands
    cases hands

/-- A client of the nominal world asks the supply for its identity twice and reads
nothing in between. -/
def unreadQueries : List Request :=
  let query : Arguments := [(txt "session", .str (txt "t")), (txt "payload_b64", .str (txt "KklETj8="))]
  [⟨txt "o", ⟨0, txt "t"⟩, txt "open_resource",
      [(txt "resource", .str (txt "TCPIP0::192.0.2.10::inst0::INSTR"))]⟩,
    ⟨txt "o", ⟨0, txt "u"⟩, txt "write", query⟩, ⟨txt "o", ⟨0, txt "u"⟩, txt "write", query⟩]

/-- The server when the second query arrives. -/
def beforeSecondQuery : GatewayServer :=
  (unreadQueries.take 2).foldl (GatewayServer.step ⟨fun _ => true, 900⟩ (.nominal 1))
    (GatewayServer.new (.nominal 1))

theorem unread_query_unrecorded :
    ¬ Along (GatewayServer.step ⟨fun _ => true, 900⟩ (.nominal 1)) (Evident ⟨fun _ => true, 900⟩ (.nominal 1))
      (GatewayServer.new (.nominal 1)) unreadQueries := by
  rintro ⟨-, -, evident, -⟩
  have second : Evident ⟨fun _ => true, 900⟩ (.nominal 1) beforeSecondQuery unreadQueries[2] := evident
  have longer := second.recorded (by decide)
  revert longer
  decide

end InstrumentBench.Gateway
