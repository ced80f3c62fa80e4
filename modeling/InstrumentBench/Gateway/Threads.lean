/-
# Gateway.Threads -- one thread a client, and `stop`

Every client of the gateway is served by a thread of its own.  A thread holds no lock
across a request, so a request is dispatched in parts: opening a session puts it in the
table and records it afterwards, closing one records it and deletes it afterwards, and
every operation on a session follows the look at its owner.  `System.step` takes one
such part of one thread, or a part of `stop`, whose joins time out: it can clear the
table while threads are still serving.
-/
import InstrumentBench.Gateway.Server

namespace InstrumentBench.Gateway

set_option autoImplicit false

open InstrumentBench.Theory InstrumentBench.Theory.PyText

/-- Where the thread of a client stands. -/
inductive Phase where
  /-- at the top of its loop -/
  | checking
  /-- in `recv_frame` -/
  | receiving
  /-- its new session is in the table and not recorded -/
  | opening (id resource : Text)
  /-- it has found the session its request names -/
  | serving (id : Text) (session : Session) (operation : Text) (arguments : Arguments)
  /-- its close record is written, the session is still to be deleted -/
  | deleting (id : Text)
  /-- it has a response to send -/
  | responding
  /-- out of its loop, before `_force_close_owner` -/
  | leaving
  | ended

/-- A part of a thread's work, named by the owner token of its client; or the thread
that calls `stop`. -/
inductive Action where
  | accept (owner : Text)
  | look (owner : Text)
  | hangUp (owner : Text)
  | malformed (owner : Text)
  | receive (owner : Text) (elapsedMs : Nat) (token operation : Text) (arguments : Arguments)
  | proceed (owner : Text)
  | respond (owner : Text) (sent : Bool)
  | finish (owner : Text)
  | stop
  | clear

/-- The client whose thread acts. -/
def Action.client? : Action → Option Text
  | accept owner | look owner | hangUp owner | malformed owner | proceed owner | finish owner =>
      some owner
  | receive owner .. => some owner
  | respond owner _ => some owner
  | stop | clear => none

/-- The server, the phase of every client that has been accepted, the stop flag and the
session tokens that `secrets` has drawn. -/
structure System where
  server : GatewayServer
  phase : Text → Option Phase
  stopping : Bool
  drawn : List Text

namespace System

def new (spec : WorldSpec) : System := ⟨.new spec, fun _ => none, false, []⟩

def move (s : System) (owner : Text) (phase : Phase) : System :=
  { s with phase := Function.update s.phase owner (some phase) }

def serve (s : System) (server : GatewayServer) (owner : Text) (phase : Phase) : System :=
  { s with server, phase := Function.update s.phase owner (some phase) }

variable (it : Interpreter) (spec : WorldSpec)

/-- A valid request, up to where its session is found.  A token is drawn only once. -/
def begin (s : System) (owner : Text) (elapsedMs : Nat) (token operation : Text)
    (arguments : Arguments) : System :=
  let g := s.server.syncClock elapsedMs
  if operation = txt "protocol_version" then s.serve g owner .responding
  else if operation = txt "list_resources" then s.serve (g.list spec).1 owner .responding
  else if operation = txt "open_resource" then
    match GatewayServer.openArgument it spec arguments with
    | .error _ => s.serve g owner .responding
    | .ok resource =>
        if s.drawn.contains token then s
        else
          { s with
            server := g.insertSession owner token resource
            phase := Function.update s.phase owner (some (.opening token resource))
            drawn := token :: s.drawn }
  else
    match GatewayServer.requiredStr arguments "session" with
    | .error _ => s.serve g owner .responding
    | .ok id =>
        match g.ownedSession owner id with
        | .error _ => s.serve g owner .responding
        | .ok session => s.serve g owner (.serving id session operation arguments)

/-- What is left of a request. -/
def proceed (s : System) (owner : Text) : Phase → System
  | .opening id resource => s.serve (s.server.recordOpen spec id resource) owner .responding
  | .serving id session operation arguments =>
      if operation = txt "close" then
        s.serve (s.server.recordClose spec id session s.server.rack.world.snapshot "candidate")
          owner (.deleting id)
      else
        match s.server.perform it spec operation id session arguments with
        | (g, .error raised) => s.serve g owner (if raised.escapes then .leaving else .responding)
        | (g, .ok _) => s.serve g owner .responding
  | .deleting id => s.serve (s.server.deleteSession id).1 owner .responding
  | _ => s

/-- A part that its thread is not at leaves the system as it is. -/
def step (s : System) : Action → System
  | .accept owner =>
      match s.phase owner with
      | none => s.move owner .checking
      | some _ => s
  | .look owner =>
      match s.phase owner with
      | some .checking => s.move owner (if s.stopping then .leaving else .receiving)
      | _ => s
  | .hangUp owner =>
      match s.phase owner with
      | some .receiving => s.move owner .leaving
      | _ => s
  | .malformed owner =>
      match s.phase owner with
      | some .receiving => s.move owner .responding
      | _ => s
  | .receive owner elapsedMs token operation arguments =>
      match s.phase owner with
      | some .receiving => s.begin it spec owner elapsedMs token operation arguments
      | _ => s
  | .proceed owner =>
      match s.phase owner with
      | some phase => s.proceed it spec owner phase
      | none => s
  | .respond owner sent =>
      match s.phase owner with
      | some .responding => s.move owner (if sent then .checking else .leaving)
      | _ => s
  | .finish owner =>
      match s.phase owner with
      | some .leaving => s.serve (s.server.forceCloseOwner spec owner) owner .ended
      | _ => s
  | .stop => { s with stopping := true }
  | .clear => if s.stopping then { s with server := s.server.clearSessions } else s

end System

/-! ## Threads and dispatch -/

namespace System

variable {it : Interpreter} {spec : WorldSpec} {s : System} {owner : Text} {p : Phase}

theorem phase_serve (g : GatewayServer) : (s.serve g owner p).phase owner = some p :=
  Function.update_self _ _ _

theorem step_proceed (at_ : s.phase owner = some p) :
    s.step it spec (.proceed owner) = s.proceed it spec owner p := by
  show (match s.phase owner with | some phase => s.proceed it spec owner phase | none => s) = _
  rw [at_]

/-- A thread that has nothing left of its request keeps the server. -/
theorem step_proceed_idle (g : GatewayServer)
    (idle : p = .responding ∨ p = .leaving) :
    ((s.serve g owner p).step it spec (.proceed owner)).server = g := by
  rw [step_proceed (phase_serve g)]
  rcases idle with rfl | rfl <;> rfl

theorem proceed_idle_twice (g : GatewayServer) (idle : p = .responding ∨ p = .leaving) :
    (((s.serve g owner p).step it spec (.proceed owner)).step it spec (.proceed owner)).server =
      g := by
  have same : (s.serve g owner p).step it spec (.proceed owner) = s.serve g owner p := by
    rw [step_proceed (phase_serve g)]
    rcases idle with rfl | rfl <;> rfl
  rw [same]
  exact step_proceed_idle g idle

/-- **The parts of a request, taken one after the other, are its dispatch.** -/
theorem dispatch_of_parts {elapsedMs : Nat} {token operation : Text} {arguments : Arguments}
    (receiving : s.phase owner = some .receiving) (fresh : s.drawn.contains token = false) :
    (((s.step it spec (.receive owner elapsedMs token operation arguments)).step it spec
      (.proceed owner)).step it spec (.proceed owner)).server =
        (s.server.dispatch it spec owner ⟨elapsedMs, token⟩ operation arguments).1 := by
  have received : s.step it spec (.receive owner elapsedMs token operation arguments) =
      s.begin it spec owner elapsedMs token operation arguments := by
    show (match s.phase owner with | some .receiving => _ | _ => s) = _
    rw [receiving]
  rw [received]
  unfold begin GatewayServer.dispatch
  dsimp only
  by_cases version : operation = txt "protocol_version"
  · rw [if_pos version, if_pos version]
    exact proceed_idle_twice _ (.inl rfl)
  rw [if_neg version, if_neg version]
  by_cases listing : operation = txt "list_resources"
  · rw [if_pos listing, if_pos listing]
    exact proceed_idle_twice _ (.inl rfl)
  rw [if_neg listing, if_neg listing]
  by_cases opening : operation = txt "open_resource"
  · rw [if_pos opening, if_pos opening]
    cases GatewayServer.openArgument it spec arguments with
    | error raised => exact proceed_idle_twice _ (.inl rfl)
    | ok resource =>
        have parts : ∀ opened : System, opened.phase owner = some (.opening token resource) →
            ((opened.step it spec (.proceed owner)).step it spec (.proceed owner)).server =
              opened.server.recordOpen spec token resource := by
          intro opened at_
          rw [step_proceed at_]
          exact step_proceed_idle _ (.inl rfl)
        dsimp only
        rw [fresh, if_neg (by simp)]
        exact parts _ (Function.update_self _ _ _)
  rw [if_neg opening, if_neg opening]
  cases GatewayServer.requiredStr arguments "session" with
  | error raised => exact proceed_idle_twice _ (.inl rfl)
  | ok id =>
      dsimp only
      cases (s.server.syncClock elapsedMs).ownedSession owner id with
      | error raised => exact proceed_idle_twice _ (.inl rfl)
      | ok session =>
          dsimp only
          rw [step_proceed (phase_serve _)]
          unfold proceed
          dsimp only
          by_cases closing : operation = txt "close"
          · rw [if_pos closing, step_proceed (phase_serve _)]
            unfold GatewayServer.perform
            rw [if_neg (by rw [closing]; decide), if_neg (by rw [closing]; decide),
              if_neg (by rw [closing]; decide), if_neg (by rw [closing]; decide),
              if_neg (by rw [closing]; decide), if_pos closing]
            rfl
          · rw [if_neg closing]
            have same : (s.serve (s.server.syncClock elapsedMs) owner
                (.serving id session operation arguments)).server =
                s.server.syncClock elapsedMs := rfl
            rw [same]
            generalize (s.server.syncClock elapsedMs).perform it spec operation id session arguments
              = outcome
            obtain ⟨g, reply⟩ := outcome
            cases reply with
            | error raised =>
                apply step_proceed_idle
                split
                · exact .inr rfl
                · exact .inl rfl
            | ok result => exact step_proceed_idle _ (.inl rfl)

end System

end InstrumentBench.Gateway
