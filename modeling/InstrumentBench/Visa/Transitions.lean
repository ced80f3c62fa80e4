/-
# Visa.Transitions -- what one step of the broker can do

`step` is inverted once.  A step either moves one connection (`Moves` lists how a phase
may be left, what is journaled and what becomes of the library) or leaves every
connection as it is (`Stands`).  Invariants of runs are proved by cases on these, and no
later proof unfolds `step`.
-/
import InstrumentBench.Visa.Invocation

namespace InstrumentBench.Visa

set_option autoImplicit false

open InstrumentBench.Theory InstrumentBench.Theory.PyText

/-! ## The call of a step -/

/-- The invocation a step makes: its connection, with the call and the operation. -/
def Broker.call? (b : Broker) : Action → Option (Call × Operation)
  | .advance c env =>
      match b.connections[c]? with
      | none => none
      | some conn =>
          match conn.phase with
          | .waiting request op => some (⟨c, env, request.args, conn.sessions, b.library⟩, op)
          | _ => none
  | _ => none

/-- The sessions of a connection; none where it does not exist. -/
def Broker.sessionsOf (b : Broker) (c : Nat) : Sessions :=
  (b.connections[c]?).elim [] Connection.sessions

/-- The records of a step, under the clock reading it takes. -/
def Broker.records (b : Broker) (now : Int) (bodies : List Body) : List JournalEvent :=
  bodies.mapIdx fun n body => ⟨b.journal.length + 1 + n, now, body⟩

/-! ## One connection moves -/

/-- **How a step moves connection `c`.**  What becomes of the connection and of the
library, what is journaled, and the tokens issued. -/
inductive Moves (setup : Setup) (b : Broker) (c : Nat) (conn : Connection) :
    Action → Connection → Library → List Body → List Text → Prop where
  | opening (env : Env) (phase : conn.phase = .opening) :
      Moves setup b c conn (.advance c env) { conn with phase := .idle } b.library
        [.connectionOpen c] []
  | received (request : Request) (exceeded : Bool) (requestCount : Nat)
      (phase : conn.phase = .idle) :
      Moves setup b c conn (.receive c request.operation request.args)
        { conn with requestCount, phase := .counted request exceeded } b.library [] []
  | malformed (phase : conn.phase = .idle) :
      Moves setup b c conn (.malformed c) { conn with phase := .ending } b.library
        [.connectionReject (some c) (txt "malformed_frame")] []
  | requested (env : Env) {request : Request} {exceeded : Bool}
      (phase : conn.phase = .counted request exceeded) :
      Moves setup b c conn (.advance c env) { conn with phase := .requested request exceeded }
        b.library
        [.rpcRequest c (auditOperation request.operation exceeded)
          (auditArgs request.args exceeded)] []
  | settled (env : Env) {request : Request} {exceeded : Bool} {answer : Answer}
      (phase : conn.phase = .requested request exceeded)
      (decided : decide? exceeded conn.closed conn.peerUid request.operation request.args =
        .answer answer) :
      Moves setup b c conn (.advance c env)
        { conn with phase := .answering request exceeded answer } b.library [] []
  | admitted (env : Env) {request : Request} {exceeded : Bool} {op : Operation}
      (phase : conn.phase = .requested request exceeded)
      (decided : decide? exceeded conn.closed conn.peerUid request.operation request.args =
        .invoke op) :
      Moves setup b c conn (.advance c env) { conn with phase := .waiting request op } b.library
        [] []
  | invoked {env : Env} {request : Request} {op : Operation} {inv : Invocation}
      (phase : conn.phase = .waiting request op) (free : b.operationLock = none)
      (fresh : freshEnv b env = true)
      (made : setup.invoke ⟨c, env, request.args, conn.sessions, b.library⟩ op = inv) :
      Moves setup b c conn (.advance c env)
        { conn with sessions := inv.sessions, phase := .holding request inv.events inv.result }
        inv.library [] [env.token]
  | emitted (env : Env) {request : Request} {body : Body} {rest : List Body} {answer : Answer}
      (phase : conn.phase = .holding request (body :: rest) answer) :
      Moves setup b c conn (.advance c env) { conn with phase := .holding request rest answer }
        b.library [body] []
  | released (env : Env) {request : Request} {answer : Answer}
      (phase : conn.phase = .holding request [] answer) :
      Moves setup b c conn (.advance c env) { conn with phase := .answering request false answer }
        b.library [] []
  | replied (env : Env) {request : Request} {exceeded : Bool} {result : WireValue}
      {status : Option Int} (phase : conn.phase = .answering request exceeded (.ok (result, status))) :
      Moves setup b c conn (.advance c env)
        { conn with phase := if exceeded then .ending else .idle } b.library
        [.rpcResult c request.operation result status] []
  | refused (env : Env) {request : Request} {exceeded : Bool} {e : Raise} {kind : Text} {code : Int}
      (phase : conn.phase = .answering request exceeded (.error e))
      (rejects : rejection e = some (kind, code)) :
      Moves setup b c conn (.advance c env)
        { conn with phase := if exceeded then .ending else .idle } b.library
        [.rpcReject c (auditOperation request.operation exceeded) kind code] []
  | failed (env : Env) {request : Request} {exceeded : Bool} {e : Raise} {phase' : Phase}
      (phase : conn.phase = .answering request exceeded (.error e)) (trusted : rejection e = none)
      (next : phase' = .ending ∨ phase' = .failing) :
      Moves setup b c conn (.advance c env) { conn with phase := phase' } b.library [] []
  | failing (env : Env) (phase : conn.phase = .failing) :
      Moves setup b c conn (.advance c env) { conn with phase := .ending } b.library
        [.trustedFailure (txt "broker")] []
  | disconnected {events : List Body} {library : Library} (free : b.operationLock = none)
      (phase : conn.phase = .idle ∨ conn.phase = .ending)
      (cleans : cleanUp c conn.sessions.reverse b.library = (events, library)) :
      Moves setup b c conn (.disconnect c)
        { conn with sessions := [], closed := true,
                    phase := .cleaning events conn.sessions.length } library [] []
  | swept (env : Env) {body : Body} {rest : List Body} {leaked : Nat}
      (phase : conn.phase = .cleaning (body :: rest) leaked) :
      Moves setup b c conn (.advance c env) { conn with phase := .cleaning rest leaked } b.library
        [body] []
  | cleaned (env : Env) {leaked : Nat} (phase : conn.phase = .cleaning [] leaked) :
      Moves setup b c conn (.advance c env) { conn with phase := .cleaned leaked } b.library [] []
  | closed (env : Env) {leaked : Nat} (phase : conn.phase = .cleaned leaked) :
      Moves setup b c conn (.advance c env) { conn with phase := .closed leaked } b.library
        [.connectionClose c leaked] []
  | removed (env : Env) {leaked : Nat} (phase : conn.phase = .closed leaked) :
      Moves setup b c conn (.advance c env) { conn with phase := .removed leaked } b.library [] []

/-- **A step that moves no connection.**  The records are of kinds that nothing is read
from, and the library keeps its sessions. -/
inductive Stands (b b' : Broker) : Action → List Body → Prop where
  | connected (peerUid : Nat) (same : b'.library = b.library)
      (connections : b'.connections = b.connections ++ [⟨peerUid, [], 0, false, .opening⟩]) :
      Stands b b' (.connect peerUid) []
  | turnedAway (peerUid : Nat) (reason : Text) (same : b'.library = b.library)
      (connections : b'.connections = b.connections) :
      Stands b b' (.connect peerUid) [.connectionReject none reason]
  | noted {action : Action} (kind : Text) (quiet : b.call? action = none)
      (stays : ∀ c, action ≠ .disconnect c) (same : b'.library = b.library)
      (connections : b'.connections = b.connections) : Stands b b' action [.other kind]
  | safe (sessions : b'.library.sessions = b.library.sessions)
      (calls : b'.library.calls = b.library.calls)
      (connections : b'.connections = b.connections) :
      Stands b b' .forceSafe
        [.forceSafe b.library.bench.finalState b'.library.bench.finalState]

/-- What a step does. -/
structure Steps (setup : Setup) (b : Broker) (now : Int) (action : Action) (b' : Broker)
    (bodies : List Body) (issued : List Text) : Prop where
  journal : b'.journal = b.journal ++ b.records now bodies
  minted : b'.minted = issued ++ b.minted
  does : (∃ c conn conn', b.connections[c]? = some conn ∧ b'.connections = b.connections.set c conn' ∧
      Moves setup b c conn action conn' b'.library bodies issued) ∨
    issued = [] ∧ Stands b b' action bodies

/-! ## The step function, inverted -/

theorem advance_cases {setup : Setup} {b b' : Broker} {now : Int} {c : Nat} {conn : Connection}
    {env : Env} (at_ : b.connections[c]? = some conn)
    (stepped : advance setup b now c conn env = some b') :
    ∃ bodies issued, Steps setup b now (.advance c env) b' bodies issued := by
  have moved {bodies : List Body} {issued : List Text} {conn' : Connection}
      (journal : b'.journal = b.journal ++ b.records now bodies)
      (minted : b'.minted = issued ++ b.minted)
      (connections : b'.connections = b.connections.set c conn')
      (moves : Moves setup b c conn (.advance c env) conn' b'.library bodies issued) :
      ∃ bodies issued, Steps setup b now (.advance c env) b' bodies issued :=
    ⟨bodies, issued, journal, minted, Or.inl ⟨c, conn, conn', at_, connections, moves⟩⟩
  have quiet : b.journal = b.journal ++ b.records now [] := by simp [Broker.records]
  unfold advance at stepped
  split at stepped
  · rename_i phase
    cases stepped
    exact moved rfl rfl rfl (.opening env phase)
  · cases stepped
  · rename_i request exceeded phase
    cases stepped
    exact moved rfl rfl rfl (.requested env phase)
  · rename_i request exceeded phase
    split at stepped
    · rename_i answer decided
      cases stepped
      exact moved quiet rfl rfl (.settled env phase decided)
    · rename_i op decided
      cases stepped
      exact moved quiet rfl rfl (.admitted env phase decided)
  · rename_i request op phase
    split at stepped
    · rename_i guard
      cases stepped
      rw [Bool.and_eq_true, Option.isNone_iff_eq_none] at guard
      exact moved quiet rfl rfl (.invoked phase guard.1 guard.2 rfl)
    · cases stepped
  · rename_i request body rest answer phase
    cases stepped
    exact moved rfl rfl rfl (.emitted env phase)
  · rename_i request answer phase
    cases stepped
    exact moved quiet rfl rfl (.released env phase)
  · rename_i request exceeded result status phase
    cases stepped
    exact moved rfl rfl rfl (.replied env phase)
  · rename_i request exceeded e phase
    split at stepped
    · rename_i kind code rejects
      cases stepped
      exact moved rfl rfl rfl (.refused env phase rejects)
    · rename_i trusted
      split at stepped
      · cases stepped
        exact moved quiet rfl rfl (.failed env phase trusted (Or.inl rfl))
      · cases stepped
        exact moved quiet rfl rfl (.failed env phase trusted (Or.inr rfl))
  · rename_i phase
    cases stepped
    exact moved rfl rfl rfl (.failing env phase)
  · cases stepped
  · rename_i body rest leaked phase
    cases stepped
    exact moved rfl rfl rfl (.swept env phase)
  · rename_i leaked phase
    cases stepped
    exact moved quiet rfl rfl (.cleaned env phase)
  · rename_i leaked phase
    cases stepped
    exact moved rfl rfl rfl (.closed env phase)
  · rename_i leaked phase
    cases stepped
    exact moved quiet rfl rfl (.removed env phase)
  · cases stepped

/-- **Every step moves one connection or leaves them all.** -/
theorem step_cases {setup : Setup} {b b' : Broker} {now : Int} {action : Action}
    (stepped : step setup b now action = some b') :
    ∃ bodies issued, Steps setup b now action b' bodies issued := by
  have quiet : b.journal = b.journal ++ b.records now [] := by simp [Broker.records]
  cases action with
  | connect peerUid =>
      simp only [step, connect] at stepped
      split at stepped
      · cases stepped
      · split at stepped
        · cases stepped
          exact ⟨_, [], rfl, rfl, Or.inr ⟨rfl, .turnedAway peerUid _ rfl rfl⟩⟩
        · cases stepped
          exact ⟨[], [], quiet, rfl, Or.inr ⟨rfl, .connected peerUid rfl rfl⟩⟩
  | receive c operation args =>
      obtain ⟨conn, at_, stepped⟩ := Option.bind_eq_some_iff.1 stepped
      unfold receive at stepped
      split at stepped
      · rename_i phase
        cases stepped
        exact ⟨[], [], quiet, rfl, Or.inl ⟨c, conn, _, at_, rfl,
          .received ⟨operation, args⟩ _ _ phase⟩⟩
      · cases stepped
  | malformed c =>
      obtain ⟨conn, at_, stepped⟩ := Option.bind_eq_some_iff.1 stepped
      split at stepped
      · rename_i phase
        cases stepped
        exact ⟨_, [], rfl, rfl, Or.inl ⟨c, conn, _, at_, rfl, .malformed phase⟩⟩
      · cases stepped
  | advance c env =>
      obtain ⟨conn, at_, stepped⟩ := Option.bind_eq_some_iff.1 stepped
      exact advance_cases at_ stepped
  | disconnect c =>
      obtain ⟨conn, at_, stepped⟩ := Option.bind_eq_some_iff.1 stepped
      unfold disconnect at stepped
      split at stepped
      · cases stepped
      · rename_i free
        rw [Option.not_isSome_iff_eq_none] at free
        split at stepped
        · rename_i phase
          cases stepped
          exact ⟨[], [], quiet, rfl, Or.inl ⟨c, conn, _, at_, rfl,
            .disconnected free (Or.inl phase) rfl⟩⟩
        · rename_i phase
          cases stepped
          exact ⟨[], [], quiet, rfl, Or.inl ⟨c, conn, _, at_, rfl,
            .disconnected free (Or.inr phase) rfl⟩⟩
        · cases stepped
  | freeze =>
      simp only [step] at stepped
      split at stepped
      · cases stepped
      · cases stepped
        exact ⟨_, [], rfl, rfl, Or.inr ⟨rfl, .noted _ rfl (by simp) rfl rfl⟩⟩
  | finish =>
      simp only [step] at stepped
      split at stepped
      · cases stepped
        exact ⟨_, [], rfl, rfl, Or.inr ⟨rfl, .noted _ rfl (by simp) rfl rfl⟩⟩
      · cases stepped
  | note kind =>
      cases stepped
      exact ⟨_, [], rfl, rfl, Or.inr ⟨rfl, .noted kind rfl (by simp) rfl rfl⟩⟩
  | forceSafe =>
      simp only [step] at stepped
      split at stepped
      · cases stepped
      · cases stepped
        exact ⟨_, [], rfl, rfl, Or.inr ⟨rfl, .safe rfl rfl rfl⟩⟩

/-- **A connection after a step has moved, is as it was, or is new.** -/
theorem Steps.found {setup : Setup} {b b' : Broker} {now : Int} {action : Action}
    {bodies : List Body} {issued : List Text} (steps : Steps setup b now action b' bodies issued)
    {c : Nat} {conn : Connection} (at_ : b'.connections[c]? = some conn) :
    (∃ before, b.connections[c]? = some before ∧
      Moves setup b c before action conn b'.library bodies issued) ∨
    (b.connections[c]? = some conn ∧
      ((∃ d old new, d ≠ c ∧ b.connections[d]? = some old ∧
        Moves setup b d old action new b'.library bodies issued) ∨ Stands b b' action bodies)) ∨
    ∃ peerUid, conn = ⟨peerUid, [], 0, false, .opening⟩ ∧ c = b.connections.length := by
  rcases steps.does with ⟨d, before, after, there, connections, moves⟩ | ⟨-, stands⟩
  · rw [connections, List.getElem?_set] at at_
    by_cases same : d = c
    · subst same
      left
      rw [if_pos rfl, if_pos (List.getElem?_eq_some_iff.1 there).1] at at_
      cases at_
      exact ⟨before, there, moves⟩
    · rw [if_neg same] at at_
      exact Or.inr (Or.inl ⟨at_, Or.inl ⟨d, before, after, same, there, moves⟩⟩)
  · right
    have stood := stands
    cases stands with
    | connected peerUid same connections =>
        rw [connections, List.getElem?_append] at at_
        split at at_
        · exact Or.inl ⟨at_, Or.inr stood⟩
        · rename_i past
          right
          refine ⟨peerUid, List.mem_singleton.1 (List.mem_of_getElem? at_), ?_⟩
          have short := (List.getElem?_eq_some_iff.1 at_).1
          rw [List.length_singleton] at short
          omega
    | turnedAway peerUid reason same connections =>
        rw [connections] at at_
        exact Or.inl ⟨at_, Or.inr stood⟩
    | noted kind quiet stays same connections =>
        rw [connections] at at_
        exact Or.inl ⟨at_, Or.inr stood⟩
    | safe sessions calls connections =>
        rw [connections] at at_
        exact Or.inl ⟨at_, Or.inr stood⟩

end InstrumentBench.Visa
