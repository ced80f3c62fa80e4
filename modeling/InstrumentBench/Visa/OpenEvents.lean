/-
# Visa.OpenEvents -- what the projection emits for an open

An `open` that the library answered with a session is granted a token, answered and
journaled, and `project_events` makes one `open_resource` event of the answer.  Here the
events it returns are followed back: along a sound run they are those of the opens the
library was heard to make, and no others.
-/
import InstrumentBench.Visa.SequenceLaw

namespace InstrumentBench.Visa

set_option autoImplicit false

open InstrumentBench.Theory InstrumentBench.Theory.PyText

/-! ## What the library hears of an open -/

namespace Setup

variable {setup : Setup} {x : Call}

/-- What the library hears of an open that is granted. -/
theorem traffic_of_opening {manager handle : Nat} {name : Text} {status : Int} {library : Library}
    {kind : Text} {parent resource : Option Text}
    (answer : setup.opening x manager name = (.ok (handle, status), library))
    (made : setup.invoke x .openSession = x.grant library handle status kind parent resource) :
    setup.traffic x .openSession = [.passed manager, .opened x.env.token handle (some name)] := by
  have heard : library.calls = x.library.calls ++ [.passed manager, .opened handle (some name)] := by
    rcases setup.opening_cases x manager name with ⟨e, other⟩ | ⟨status', -, -, other⟩ |
      ⟨s, -, other⟩
    · rw [answer] at other
      cases other
    · rw [answer] at other
      cases other
      simp
    · rw [answer] at other
      cases other
      simp [Library.register]
  rw [traffic, made]
  show (library.calls.drop _).map _ = _
  rw [heard, List.drop_left]
  rfl

/-- **The library is heard to open a resource exactly when the open is granted.** -/
theorem granted_iff_opened (setup : Setup) (x : Call) (op : Operation) (token : Text) :
    (∃ handle name, .opened token handle (some name) ∈ setup.traffic x op) ↔
      op = .openSession ∧ ∃ status, (setup.invoke x op).result = .ok (.str token, status) := by
  constructor
  · rintro ⟨handle, name, listed⟩
    have serves := setup.invoke_serves x op
    have opens : op = .openSession ∧
        (setup.invoke x op).sessions.length ≠ x.sessions.length := by
      generalize (setup.invoke x op).library.handles = handles at serves
      generalize (setup.invoke x op).sessions = left at serves ⊢
      generalize setup.traffic x op = traffic at serves listed
      cases serves with
      | opened kind named => exact ⟨rfl, by simp⟩
      | unopened kind named opens fails => exact ⟨rfl, by simp⟩
      | _ => simp at listed
    obtain ⟨rfl, grown⟩ := opens
    refine ⟨rfl, ?_⟩
    rcases @invoke_open setup x with ⟨-, kept, -, -⟩ |
      ⟨manager, name', held, handle', status, library, -, answer, made⟩
    · exact absurd (congrArg List.length kept) grown
    · rw [traffic_of_opening answer made] at listed
      simp only [List.mem_cons, reduceCtorEq, Traffic.opened.injEq, List.not_mem_nil, or_false,
        false_or] at listed
      obtain ⟨rfl, -, -⟩ := listed
      exact ⟨some status, by rw [made]; rfl⟩
  · rintro ⟨rfl, status, accepted⟩
    rcases @invoke_open setup x with ⟨⟨e, failed⟩, -⟩ |
      ⟨manager, name, held, handle, status', library, -, answer, made⟩
    · rw [failed] at accepted
      cases accepted
    · refine ⟨handle, name, ?_⟩
      rw [traffic_of_opening answer made]
      rw [made] at accepted
      cases accepted
      simp

end Setup

/-! ## Answers on their way -/

/-- The answer a phase has yet to journal. -/
def Phase.answer? : Phase → Option (Request × Answer)
  | .holding request _ answer => some (request, answer)
  | .answering request _ answer => some (request, answer)
  | _ => none

/-- An answer that is owed has its request awaited. -/
theorem Phase.awaits_of_answer {phase : Phase} {request : Request} {answer : Answer}
    (owed : phase.answer? = some (request, answer)) :
    ∃ exceeded, phase.awaits = some (request, exceeded) := by
  cases phase <;> cases owed <;> exact ⟨_, rfl⟩

/-- An answer a connection owes it owes on, or journals. -/
theorem Moves.owed {setup : Setup} {b : Broker} {c : Nat} {conn conn' : Connection}
    {action : Action} {library : Library} {events : List Body} {issued : List Text}
    (moves : Moves setup b c conn action conn' library events issued) {request : Request}
    {value : WireValue} {status : Option Int}
    (owed : conn.phase.answer? = some (request, .ok (value, status))) :
    conn'.phase.answer? = some (request, .ok (value, status)) ∨
      events = [.rpcResult c request.operation value status] := by
  cases moves with
  | emitted env phase =>
      rw [phase] at owed
      exact Or.inl owed
  | released env phase =>
      rw [phase] at owed
      exact Or.inl owed
  | replied env phase =>
      rw [phase] at owed
      cases owed
      exact Or.inr rfl
  | disconnected free phase cleans =>
      rcases phase with phase | phase <;> rw [phase] at owed <;> cases owed
  | _ phase =>
      simp_all [Phase.answer?]

/-- Where an answered `open` comes from: it was owed before, or the step made the
invocation. -/
theorem Moves.granted {setup : Setup} {b : Broker} {c : Nat} {conn conn' : Connection}
    {action : Action} {library : Library} {events : List Body} {issued : List Text}
    (moves : Moves setup b c conn action conn' library events issued) (sane : conn.Sane)
    (at_ : b.connections[c]? = some conn) {request : Request} {v : WireValue × Option Int}
    (owed : conn'.phase.answer? = some (request, .ok v)) (opens : request.operation = txt "open") :
    conn.phase.answer? = some (request, .ok v) ∨
      ∃ x, b.call? action = some (x, .openSession) ∧ x.connection = c ∧ freshEnv b x.env = true ∧
        (setup.invoke x .openSession).result = .ok v := by
  have answers := sane.answers
  cases moves with
  | settled env phase decided =>
      cases owed
      have hello := (decide?_ok decided rfl).2
      rw [opens] at hello
      exact absurd hello (by decide)
  | @invoked env request' op inv phase free fresh made =>
      subst made
      obtain ⟨rfl, accepted⟩ := Prod.mk.inj (Option.some.inj owed)
      rw [phase] at answers
      obtain rfl : op = .openSession := Operation.openSession_of_name (answers.trans opens)
      right
      refine ⟨_, ?_, rfl, fresh, accepted⟩
      simp only [Broker.call?, at_, phase]
  | emitted env phase =>
      rw [phase]
      exact Or.inl owed
  | released env phase =>
      rw [phase]
      exact Or.inl owed
  | @replied env request exceeded result status phase => cases exceeded <;> cases owed
  | @refused env request exceeded e kind code phase rejects => cases exceeded <;> cases owed
  | failed env phase trusted next => rcases next with rfl | rfl <;> cases owed
  | _ => cases owed

/-- A connection moves on, or stays as it was. -/
theorem Steps.onward {setup : Setup} {b b' : Broker} {now : Int} {action : Action}
    {events : List Body} {issued : List Text} (steps : Steps setup b now action b' events issued)
    {c : Nat} {conn : Connection} (at_ : b.connections[c]? = some conn) :
    (∃ conn', b'.connections[c]? = some conn' ∧
      Moves setup b c conn action conn' b'.library events issued) ∨
    b'.connections[c]? = some conn := by
  have bound := (List.getElem?_eq_some_iff.1 at_).1
  rcases steps.does with ⟨d, old, new, there, connections, moves⟩ | ⟨-, stands⟩
  · rw [connections]
    by_cases same : d = c
    · subst same
      left
      rw [at_] at there
      cases there
      exact ⟨new, List.getElem?_set_self bound, moves⟩
    · right
      rw [List.getElem?_set_ne same, at_]
  · right
    cases stands with
    | connected peerUid same connections =>
        rw [connections, List.getElem?_append_left bound, at_]
    | turnedAway peerUid reason same connections => rw [connections, at_]
    | noted kind quiet stays same connections => rw [connections, at_]
    | safe sessions calls connections => rw [connections, at_]

/-- A step that makes an invocation owes its answer. -/
theorem Steps.owes {setup : Setup} {b b' : Broker} {now : Int} {action : Action}
    {events : List Body} {issued : List Text} (steps : Steps setup b now action b' events issued)
    {x : Call} {op : Operation} (called : b.call? action = some (x, op)) :
    ∃ conn conn' request, b.connections[x.connection]? = some conn ∧
      conn.phase = .waiting request op ∧ b'.connections[x.connection]? = some conn' ∧
      conn'.phase.answer? = some (request, (setup.invoke x op).result) := by
  cases action with
  | advance c env =>
      simp only [Broker.call?] at called
      cases at_ : b.connections[c]? with
      | none =>
          rw [at_] at called
          cases called
      | some conn =>
          rw [at_] at called
          dsimp only at called
          split at called
          · rename_i request op' phase
            cases called
            rcases steps.does with ⟨d, old, new, there, connections, moves⟩ | ⟨-, stands⟩
            · generalize b'.library = library at moves
              cases moves with
              | invoked phase' free fresh made =>
                  subst made
                  rw [at_] at there
                  cases there
                  rw [phase] at phase'
                  cases phase'
                  have here := (congrArg (·[c]?) connections).trans
                    (List.getElem?_set_self (List.getElem?_eq_some_iff.1 at_).1)
                  exact ⟨conn, _, request, at_, phase, here, rfl⟩
              | _ => simp_all
            · cases stands with
              | noted kind quiet stays same connections =>
                  simp only [Broker.call?, at_, phase] at quiet
                  cases quiet
          · cases called
  | _ => cases called

/-- The record numbered `n` of the journal answers an `open` of `c` with the token. -/
def Broker.Answered (b : Broker) (c : Nat) (token : Text) (n : Nat) : Prop :=
  ∃ record ∈ b.journal, record.sequence = n ∧
    ∃ status, record.body = .rpcResult c (txt "open") (.str token) status

/-- The result a move journals is one the connection owed. -/
theorem Moves.result {setup : Setup} {b : Broker} {c : Nat} {conn conn' : Connection}
    {action : Action} {library : Library} {events : List Body} {issued : List Text}
    (moves : Moves setup b c conn action conn' library events issued) (sane : conn.Sane)
    {d : Nat} {operation : Text} {value : WireValue} {status : Option Int}
    (journaled : .rpcResult d operation value status ∈ events) :
    d = c ∧ ∃ request, request.operation = operation ∧
      conn.phase.answer? = some (request, .ok (value, status)) := by
  have quiet := sane.quiet
  cases moves with
  | emitted env phase =>
      rw [phase] at quiet
      have loud := quiet _ (List.mem_cons.2 (Or.inl (List.mem_singleton.1 journaled)))
      cases loud
  | swept env phase =>
      rw [phase] at quiet
      have loud := quiet _ (List.mem_cons.2 (Or.inl (List.mem_singleton.1 journaled)))
      cases loud
  | @replied env request exceeded result status phase =>
      cases List.mem_singleton.1 journaled
      exact ⟨rfl, request, rfl, by rw [phase]; rfl⟩
  | _ => simp at journaled

/-- The traffic of a step that makes a call is the call's. -/
theorem Broker.traffic_of_call {setup : Setup} {b : Broker} {action : Action} {x : Call}
    {op : Operation} (called : b.call? action = some (x, op)) :
    b.traffic setup action = (setup.traffic x op).map (x.connection, ·) := by
  unfold Broker.traffic
  split
  · cases called
  · rw [called]

/-- An open in the traffic of a step is granted by it. -/
theorem opened_of_step {setup : Setup} {b b' : Broker} {now : Int} {action : Action}
    (stepped : step setup b now action = some b') {c handle : Nat} {token name : Text}
    (listed : (c, .opened token handle (some name)) ∈ b.traffic setup action) :
    ∃ x, b.call? action = some (x, .openSession) ∧ x.connection = c ∧
      .opened token handle (some name) ∈ setup.traffic x .openSession ∧
      ∃ status, (setup.invoke x .openSession).result = .ok (.str token, status) := by
  rcases ledger_cases stepped with ⟨-, -, quiet, -⟩ | ⟨x, op, called, traffic, -⟩ | ⟨d, rfl, -⟩
  · rw [quiet] at listed
    cases listed
  · rw [traffic, List.mem_map] at listed
    obtain ⟨t, heard, same⟩ := listed
    cases same
    obtain ⟨rfl, granted⟩ := (setup.granted_iff_opened x op token).1 ⟨handle, name, heard⟩
    exact ⟨x, called, rfl, heard, granted⟩
  · simp [Broker.traffic] at listed

/-- **What became of every granted open.**  `answered`: a journaled result of an `open`
is a token the library opened a resource for.  `owed`: so is one on its way.  `kept`: and
every token of an open is answered or on its way. -/
structure Granted (b : Broker) (history : History) : Prop where
  answered : ∀ record ∈ b.journal, ∀ c value status,
    record.body = .rpcResult c (txt "open") value status →
      ∃ token handle name, value = .str token ∧ (c, .opened token handle (some name)) ∈ history
  owed : ∀ (c : Nat) conn request value status, b.connections[c]? = some conn →
    conn.phase.answer? = some (request, .ok (value, status)) → request.operation = txt "open" →
      ∃ token handle name, value = .str token ∧ (c, .opened token handle (some name)) ∈ history
  kept : ∀ c token handle name, (c, .opened token handle (some name)) ∈ history →
    (∃ n, b.Answered c token n) ∨ ∃ conn request status, b.connections[c]? = some conn ∧
      conn.phase.answer? = some (request, .ok (.str token, status)) ∧
      request.operation = txt "open"

/-- The value is a token the library opened a resource for. -/
def TokenHeard (history : History) (c : Nat) (value : WireValue) : Prop :=
  ∃ token handle name, value = .str token ∧ (c, .opened token handle (some name)) ∈ history

theorem TokenHeard.later {history : History} {c : Nat} {value : WireValue}
    (heard : TokenHeard history c value) (more : History) : TokenHeard (history ++ more) c value := by
  obtain ⟨token, handle, name, same, listed⟩ := heard
  exact ⟨token, handle, name, same, List.mem_append_left _ listed⟩

/-- An `open` that is answered was heard by the library. -/
theorem heard_of_invoke {setup : Setup} {x : Call} {value : WireValue} {status : Option Int}
    (made : (setup.invoke x .openSession).result = .ok (value, status)) :
    ∃ token handle name, value = .str token ∧
      .opened token handle (some name) ∈ setup.traffic x .openSession := by
  have opened : ∃ token, value = .str token := by
    rcases @Setup.invoke_open setup x with ⟨⟨e, failed⟩, -⟩ |
      ⟨manager, name, held, handle, status', library, -, answer, granted⟩
    · rw [failed] at made
      cases made
    · rw [granted] at made
      cases made
      exact ⟨_, rfl⟩
  obtain ⟨token, rfl⟩ := opened
  obtain ⟨handle, name, heard⟩ :=
    (setup.granted_iff_opened x .openSession token).2 ⟨rfl, status, made⟩
  exact ⟨token, handle, name, rfl, heard⟩

namespace Granted

variable {setup : Setup} {b b' : Broker} {now : Int} {action : Action} {history : History}
  {events : List Body} {issued : List Text}

/-- A result that a step journals was owed before it. -/
theorem answered_step (granted : Granted b history) (run : SoundRun setup b history)
    (steps : Steps setup b now action b' events issued) {record : JournalEvent}
    (listed : record ∈ b'.journal) {c : Nat} {value : WireValue} {status : Option Int}
    (body : record.body = .rpcResult c (txt "open") value status) : TokenHeard history c value := by
  rw [steps.journal, List.mem_append] at listed
  rcases listed with listed | listed
  · exact granted.answered record listed c value status body
  · have journaled : .rpcResult c (txt "open") value status ∈ events := by
      rw [← body, ← bodies_records b now events]
      exact List.mem_map_of_mem listed
    rcases steps.does with ⟨d, conn, conn', at_, connections, moves⟩ | ⟨-, stands⟩
    · obtain ⟨rfl, request, opens, owed⟩ := moves.result (SoundRun.sane run at_) journaled
      exact granted.owed c conn request value status at_ owed opens
    · cases stands <;> simp at journaled

/-- An answer owed after a step was owed before it, or the step made the invocation. -/
theorem owed_step (granted : Granted b history) (run : SoundRun setup b history)
    (steps : Steps setup b now action b' events issued) {c : Nat} {conn : Connection}
    {request : Request} {value : WireValue} {status : Option Int}
    (at_ : b'.connections[c]? = some conn)
    (owed : conn.phase.answer? = some (request, .ok (value, status)))
    (opens : request.operation = txt "open") :
    TokenHeard (history ++ b.traffic setup action) c value := by
  rcases steps.found at_ with ⟨old, there, moves⟩ | ⟨same, -⟩ | ⟨peerUid, rfl, -⟩
  · rcases moves.granted (SoundRun.sane run there) there owed opens with
      owed | ⟨x, called, rfl, -, made⟩
    · exact TokenHeard.later (granted.owed c old request value status there owed opens) _
    · obtain ⟨token, handle, name, rfl, heard⟩ := heard_of_invoke made
      refine ⟨token, handle, name, rfl, List.mem_append_right _ ?_⟩
      rw [Broker.traffic_of_call called]
      exact List.mem_map_of_mem heard
  · exact TokenHeard.later (granted.owed c conn request value status same owed opens) _
  · cases owed

/-- A token that was on its way is on its way or answered after a step. -/
theorem onward (steps : Steps setup b now action b' events issued) {c : Nat} {conn : Connection}
    {request : Request} {token : Text} {status : Option Int} (at_ : b.connections[c]? = some conn)
    (owed : conn.phase.answer? = some (request, .ok (.str token, status)))
    (opens : request.operation = txt "open") :
    (∃ n, b'.Answered c token n) ∨ ∃ conn request status, b'.connections[c]? = some conn ∧
      conn.phase.answer? = some (request, .ok (.str token, status)) ∧
      request.operation = txt "open" := by
  rcases steps.onward at_ with ⟨conn', here, moves⟩ | here
  · rcases moves.owed owed with owed | journaled
    · exact Or.inr ⟨conn', request, status, here, owed, opens⟩
    · left
      refine ⟨_, ⟨b.journal.length + 1, now, .rpcResult c (txt "open") (.str token) status⟩,
        ?_, rfl, status, rfl⟩
      rw [steps.journal, journaled, Broker.records_singleton, opens]
      exact List.mem_append_right _ List.mem_cons_self
  · exact Or.inr ⟨conn, request, status, here, owed, opens⟩

/-- **Step.**  What became of every granted open is kept. -/
theorem step (granted : Granted b history) (run : SoundRun setup b history)
    (stepped : Visa.step setup b now action = some b') :
    Granted b' (history ++ b.traffic setup action) := by
  obtain ⟨events, issued, steps⟩ := step_cases stepped
  refine ⟨?_, ?_, ?_⟩
  · intro record listed c value status body
    exact (granted.answered_step run steps listed body).later _
  · intro c conn request value status at_ owed opens
    exact granted.owed_step run steps at_ owed opens
  · intro c token handle name listed
    rcases List.mem_append.1 listed with listed | listed
    · rcases granted.kept c token handle name listed with ⟨n, record, among, same⟩ |
        ⟨conn, request, status, at_, owed, opens⟩
      · exact Or.inl ⟨n, record, by rw [steps.journal]; exact List.mem_append_left _ among, same⟩
      · exact onward steps at_ owed opens
    · right
      obtain ⟨x, called, rfl, -, status, made⟩ := opened_of_step stepped listed
      obtain ⟨conn, conn', request, at_, phase, here, owed⟩ := steps.owes called
      rw [made] at owed
      have answers := (SoundRun.sane run at_).answers
      rw [phase] at answers
      exact ⟨conn', request, status, here, owed, answers.symm.trans (by decide)⟩

end Granted

/-- **Run.**  Along a sound run every granted open is answered or on its way. -/
theorem SoundRun.granted {setup : Setup} {b : Broker} {history : History}
    (run : SoundRun setup b history) : Granted b history := by
  induction run with
  | initial =>
      refine ⟨?_, ?_, ?_⟩
      · intro record listed
        cases listed
      · intro c conn request value status at_
        cases at_
      · intro c token handle name listed
        cases listed
  | step before meets stepped ih => exact ih.step before stepped

/-- A journal that is read to the end, with no request left, has answered every open. -/
theorem SoundRun.answered {setup : Setup} {b : Broker} {history : History}
    (run : SoundRun setup b history) {repr : WireValue → Text} {startNs : Int}
    {world : WorldSnapshot} {p : Projection} (read : b.projected repr startNs world = .ok p)
    (none : p.requests = []) {c handle : Nat} {token name : Text}
    (listed : (c, .opened token handle (some name)) ∈ history) : ∃ n, b.Answered c token n := by
  rcases run.granted.kept c token handle name listed with answered |
    ⟨conn, request, status, at_, owed, -⟩
  · exact answered
  · obtain ⟨exceeded, awaits⟩ := Phase.awaits_of_answer owed
    have held := run.awaited read at_ awaits
    rw [none] at held
    cases held

/-! ## The drafts of opens -/

/-- The record answers an `open`. -/
def JournalEvent.AnswersOpen (event : JournalEvent) : Prop :=
  ∃ c value status, event.body = .rpcResult c (txt "open") value status

namespace Projection

variable {repr : WireValue → Text} {p p' : Projection} {event : JournalEvent}

/-- The new drafts are of other operations. -/
def Shut (p p' : Projection) : Prop :=
  ∃ new, p'.drafts = p.drafts ++ new ∧ ∀ d ∈ new, d.operation ≠ .openResource

theorem Shut.same (drafts : p'.drafts = p.drafts) : Shut p p' :=
  ⟨[], by rw [drafts, List.append_nil], by simp⟩

theorem Shut.one {d : Draft} (drafts : p'.drafts = p.drafts ++ [d])
    (other : d.operation ≠ .openResource) : Shut p p' :=
  ⟨[d], drafts, by simpa using other⟩

theorem attributeSet_shut {args : AuditedArgs}
    (accepted : p.attributeSet repr event args = .ok p') : p.Shut p' := by
  unfold attributeSet at accepted
  simp only [bind, Except.bind] at accepted
  repeat' split at accepted
  all_goals first | (cases accepted; done) | skip
  all_goals
    cases accepted
    first
    | exact .same rfl
    | exact .one rfl (by simp [Draft.still])

theorem inferWriteTermination_shut (digest : Text) (writeEvent : JournalEvent) (request : Bytes)
    (before : WorldSnapshot) (role resource : Text) :
    p.Shut (p.inferWriteTermination digest writeEvent request before role resource) := by
  unfold inferWriteTermination
  split
  · exact .one rfl (by simp [Draft.still])
  · exact .same rfl

theorem hookCompletion_shut {resource role : Text} {response : Option Bytes}
    {errorCode : Option Text} {before after : FinalState}
    (accepted : p.hookCompletion event resource role response errorCode before after = .ok p') :
    p.Shut p' := by
  simp only [hookCompletion, bind, Except.bind] at accepted
  split at accepted
  · cases accepted
  · rename_i digest active
    split at accepted
    · cases accepted
    · rename_i noted note
      split at accepted
      · cases accepted
      · rename_i start started
        split at accepted
        · cases accepted
        rename_i finish finished
        split at accepted
        · cases accepted
        · rename_i writeEvent request held
          cases accepted
          obtain ⟨inferred, added, shut⟩ := noted.inferWriteTermination_shut digest writeEvent
            request start role resource
          refine ⟨inferred ++ [writeDraft event digest request response errorCode start finish role
            resource], ?_, ?_⟩
          · dsimp only [draft]
            rw [added, (noteHook_keeps note).1, List.append_assoc]
          · intro d listed
            rcases List.mem_append.1 listed with listed | last
            · exact shut d listed
            · rw [List.mem_singleton.1 last]
              simp [writeDraft]

theorem hook_shut {record : HookEvent} (accepted : p.hook event record = .ok p') : p.Shut p' := by
  cases record with
  | before digest resource role command stateBefore =>
      simp only [hook, hookBefore, bind, Except.bind] at accepted
      split at accepted
      · cases accepted
      · split at accepted
        · cases accepted
        · rename_i noted note
          repeat' split at accepted
          all_goals first | (cases accepted; done) | skip
          cases accepted
          exact .same (noteHook_keeps note).1
  | native =>
      cases accepted
      exact .same rfl
  | dynamic =>
      cases accepted
      exact .same rfl
  | after => exact hookCompletion_shut accepted
  | error => exact hookCompletion_shut accepted

theorem forcedCloses_shut (event : JournalEvent) (state : WorldSnapshot) (c : Nat)
    (sessions : List (Text × ProjectedSession)) (keys : List Text) (offset : Nat) :
    ∀ d ∈ (forcedCloses event state c sessions keys offset).2, d.operation ≠ .openResource := by
  induction sessions generalizing keys offset with
  | nil => simp [forcedCloses]
  | cons entry rest ih =>
      obtain ⟨digest, session⟩ := entry
      unfold forcedCloses
      split
      · exact ih keys offset
      · split
        · dsimp only
          split
          · exact ih keys offset
          · intro d listed
            rcases List.mem_cons.1 listed with rfl | listed
            · simp [Draft.still]
            · exact ih _ _ d listed
        · exact ih keys offset

/-- What a result other than that of an `open` adds. -/
theorem result_shut {c : Nat} {operation : Text} {value : WireValue}
    (accepted : p.result repr event c operation value = .ok p') (other : operation ≠ txt "open") :
    p.Shut p' := by
  unfold result at accepted
  split at accepted
  · cases accepted
  · dsimp only at accepted
    split at accepted
    · cases accepted
    · split at accepted
      · simp only [bind, Except.bind] at accepted
        split at accepted
        · cases accepted
        · cases accepted
          exact .same rfl
      · split at accepted
        · have shut := attributeSet_shut accepted
          exact shut
        · split at accepted
          · simp only [bind, Except.bind] at accepted
            repeat' split at accepted
            all_goals first | (cases accepted; done) | skip
            all_goals
              cases accepted
              first
              | exact .same rfl
              | exact .one rfl (by simp [Draft.still])
          · cases accepted
            exact .same rfl

/-- The result of an `open` adds one draft of it. -/
theorem result_opens {c : Nat} {value : WireValue}
    (accepted : p.result repr event c (txt "open") value = .ok p') :
    ∃ d, p'.drafts = p.drafts ++ [d] ∧ d.operation = .openResource ∧ d.errorCode = none ∧
      d.raw = event ∧ d.offset = 0 := by
  unfold result at accepted
  split at accepted
  · cases accepted
  · dsimp only at accepted
    split at accepted
    · cases accepted
    · rw [if_neg (by decide), if_pos rfl] at accepted
      simp only [bind, Except.bind] at accepted
      repeat' split at accepted
      all_goals first | (cases accepted; done) | skip
      cases accepted
      exact ⟨_, rfl, rfl, rfl, rfl, rfl⟩

/-- **One record, read: it adds an open exactly if it answers one.** -/
theorem next_opens (accepted : p.next repr event = .ok p') :
    (event.AnswersOpen ∧ ∃ d, p'.drafts = p.drafts ++ [d] ∧ d.operation = .openResource ∧
      d.errorCode = none ∧ d.raw = event ∧ d.offset = 0) ∨ ¬ event.AnswersOpen ∧ p.Shut p' := by
  unfold next at accepted
  unfold JournalEvent.AnswersOpen
  cases body : event.body with
  | rpcResult c operation value status =>
      rw [body] at accepted
      by_cases opens : operation = txt "open"
      · subst opens
        exact Or.inl ⟨⟨_, _, _, rfl⟩, result_opens accepted⟩
      · right
        refine ⟨?_, result_shut accepted opens⟩
        rintro ⟨c', value', status', same⟩
        cases same
        exact opens rfl
  | hook origin record =>
      rw [body] at accepted
      exact Or.inr ⟨by simp, hook_shut accepted⟩
  | rpcRequest c operation args =>
      rw [body] at accepted
      cases accepted
      refine Or.inr ⟨by simp, .same ?_⟩
      unfold request
      dsimp only
      repeat' split
      all_goals rfl
  | rpcReject c operation errorKind code =>
      rw [body] at accepted
      cases accepted
      refine Or.inr ⟨by simp, ?_⟩
      unfold rejected
      dsimp only
      split
      · exact .same rfl
      · refine .one rfl ?_
        dsimp only [Draft.still]
        split <;> simp
  | connectionReject =>
      rw [body] at accepted
      cases accepted
      exact Or.inr ⟨by simp, .one rfl (by simp [Draft.still])⟩
  | connectionClose =>
      rw [body] at accepted
      cases accepted
      exact Or.inr ⟨by simp, _, rfl, forcedCloses_shut _ _ _ _ _ _⟩
  | forceSafe before after =>
      rw [body] at accepted
      refine Or.inr ⟨by simp, ?_⟩
      simp only [forcedSafe, bind, Except.bind] at accepted
      repeat' split at accepted
      all_goals first | (cases accepted; done) | skip
      cases accepted
      exact .one rfl (by simp [Draft.still])
  | _ =>
      rw [body] at accepted
      cases accepted
      exact Or.inr ⟨by simp, .same rfl⟩

/-- **The drafts of opens are those of the records that answer one.** -/
theorem replay_opens {records : List JournalEvent} (read : p.replay repr records = .ok p') :
    (∀ d ∈ p'.drafts, d ∈ p.drafts ∨ d.operation ≠ .openResource ∨
      d.errorCode = none ∧ d.raw ∈ records ∧ d.raw.AnswersOpen) ∧
    (∀ d ∈ p.drafts, d ∈ p'.drafts) ∧
    ∀ record ∈ records, record.AnswersOpen →
      ∃ d ∈ p'.drafts, d.operation = .openResource ∧ d.errorCode = none ∧ d.raw = record := by
  induction records generalizing p with
  | nil =>
      cases read
      exact ⟨fun d listed => Or.inl listed, fun d listed => listed, by simp⟩
  | cons event rest ih =>
      unfold replay at read
      rw [List.foldlM_cons] at read
      simp only [bind, Except.bind] at read
      cases first : p.next repr event with
      | error e =>
          rw [first] at read
          cases read
      | ok q =>
          rw [first] at read
          obtain ⟨found, kept, each⟩ := ih read
          rcases next_opens first with ⟨answers, d, drafts, opens, fine, raw, -⟩ |
            ⟨unanswered, new, drafts, other⟩
          · refine ⟨?_, ?_, ?_⟩
            · intro d' listed
              rcases found d' listed with early | other | ⟨fine', among, answered⟩
              · rw [drafts] at early
                rcases List.mem_append.1 early with early | same
                · exact Or.inl early
                · cases List.mem_singleton.1 same
                  exact Or.inr (Or.inr ⟨fine, by rw [raw]; exact List.mem_cons_self,
                    by rw [raw]; exact answers⟩)
              · exact Or.inr (Or.inl other)
              · exact Or.inr (Or.inr ⟨fine', List.mem_cons_of_mem _ among, answered⟩)
            · intro d' listed
              exact kept d' (by rw [drafts]; exact List.mem_append_left _ listed)
            · intro record listed answered
              rcases List.mem_cons.1 listed with rfl | later
              · refine ⟨d, kept d ?_, opens, fine, raw⟩
                rw [drafts]
                exact List.mem_append_right _ List.mem_cons_self
              · exact each record later answered
          · refine ⟨?_, ?_, ?_⟩
            · intro d' listed
              rcases found d' listed with early | shut | ⟨fine', among, answered⟩
              · rw [drafts] at early
                rcases List.mem_append.1 early with early | late
                · exact Or.inl early
                · exact Or.inr (Or.inl (other d' late))
              · exact Or.inr (Or.inl shut)
              · exact Or.inr (Or.inr ⟨fine', List.mem_cons_of_mem _ among, answered⟩)
            · intro d' listed
              exact kept d' (by rw [drafts]; exact List.mem_append_left _ listed)
            · intro record listed answered
              rcases List.mem_cons.1 listed with rfl | later
              · exact absurd answered unanswered
              · exact each record later answered

end Projection

/-! ## The events of opens -/

/-- An open of a sound run has answered a handle. -/
theorem SoundRun.opened_nonzero {setup : Setup} {b : Broker} {history : History}
    (run : SoundRun setup b history) : ∀ c token handle resource,
      (c, .opened token handle resource) ∈ history → handle ≠ 0 := by
  induction run with
  | initial =>
      intro c token handle resource listed
      cases listed
  | @step b b' now action history before meets stepped ih =>
      intro c token handle resource listed
      rcases List.mem_append.1 listed with listed | listed
      · exact ih c token handle resource listed
      · rcases ledger_cases stepped with ⟨-, -, quiet, -⟩ | ⟨x, op, called, traffic, here⟩ |
          ⟨d, rfl, -⟩
        · rw [quiet] at listed
          cases listed
        · rw [traffic, List.mem_map] at listed
          obtain ⟨t, heard, same⟩ := listed
          cases same
          obtain ⟨-, -, positive, -⟩ := freshEnv_spec here.fresh
          have serves := setup.invoke_serves x op
          generalize (setup.invoke x op).library.handles = handles at serves
          generalize (setup.invoke x op).sessions = left at serves
          generalize setup.traffic x op = traffic at serves heard
          cases serves with
          | managed kind =>
              cases List.mem_singleton.1 heard
              exact positive
          | opened kind named =>
              simp only [List.mem_cons, reduceCtorEq, Traffic.opened.injEq, List.not_mem_nil,
                or_false, false_or] at heard
              rw [heard.2.1]
              exact positive
          | unopened kind named opens fails =>
              rw [Setup.sound_openable meets called opens] at fails
              cases fails
          | _ => simp at heard
        · simp [Broker.traffic] at listed

theorem ProjectedOperation.name_open {operation : ProjectedOperation}
    (named : operation.name = txt "open_resource") : operation = .openResource := by
  revert named
  cases operation <;> decide

/-- An event of an `open`. -/
def EvidenceEvent.IsOpen (e : EvidenceEvent) : Prop := e.operation = txt "open_resource"

/-- **The events of opens are those of the opens the library made.**  `fine`: each is ok
and answers an `open` of the journal.  `opened`: a token is the answer behind one exactly
where the library was heard to open a resource for it. -/
structure OpensEmitted (b : Broker) (history : History) (events : List EvidenceEvent) : Prop where
  fine : ∀ e ∈ events, e.IsOpen →
    e.outcome = txt "ok" ∧ ∃ c token, b.Answered c token e.sourceSequence
  opened : ∀ c token, (∃ e ∈ events, e.IsOpen ∧ b.Answered c token e.sourceSequence) ↔
    ∃ handle name, (c, .opened token handle (some name)) ∈ history ∧ handle ≠ 0

theorem SoundRun.emitted {setup : Setup} {b : Broker} {history : History}
    (run : SoundRun setup b history) {repr : WireValue → Text} {events : List EvidenceEvent}
    (returned : projectEvents repr b.journal = .ok events) : OpensEmitted b history events := by
  have granted := run.granted
  rcases projectEvents_ok returned with ⟨empty, rfl⟩ |
    ⟨first, world, p, -, read, -, rfl, none⟩
  · refine ⟨by simp, ?_⟩
    intro c token
    constructor
    · rintro ⟨e, listed, -⟩
      cases listed
    · rintro ⟨handle, name, listed, -⟩
      let world := (Bench.initial setup.simulator.spec).snapshot 0 0
      have start : b.projected repr 0 world = .ok (.start 0 world) := by
        unfold Broker.projected
        rw [empty]
        rfl
      obtain ⟨n, record, found, -⟩ := run.answered start rfl listed
      rw [empty] at found
      cases found
  · obtain ⟨found, -, each⟩ := Projection.replay_opens read
    constructor
    · intro e listed opens
      obtain ⟨d, among, rfl⟩ := mem_numberedEvents.1 listed
      rcases found d among with early | shut | ⟨fine, raw, c, value, status, body⟩
      · cases early
      · exact absurd (ProjectedOperation.name_open opens) shut
      · refine ⟨?_, ?_⟩
        · show (if d.errorCode.isSome then txt "error" else txt "ok") = txt "ok"
          rw [fine]
          rfl
        · obtain ⟨token, handle, name, rfl, -⟩ := granted.answered d.raw raw c value status body
          exact ⟨c, token, d.raw, raw, rfl, status, body⟩
    · intro c token
      constructor
      · rintro ⟨e, -, -, record, among, -, status, body⟩
        obtain ⟨token', handle, name, same, listed⟩ :=
          granted.answered record among c _ status body
        cases same
        exact ⟨handle, name, listed, run.opened_nonzero c token handle _ listed⟩
      · rintro ⟨handle, name, listed, -⟩
        obtain ⟨n, record, among, number, status, body⟩ := run.answered read none listed
        obtain ⟨d, kept, opens, -, raw⟩ := each record among ⟨c, _, status, body⟩
        refine ⟨_, mem_numberedEvents.2 ⟨d, kept, rfl⟩, ?_, record, among, ?_, status, body⟩
        · show d.operation.name = _
          rw [opens]
          rfl
        · show record.sequence = d.raw.sequence
          rw [raw]

/-- **The accounts of every open agree, and what was opened stays open until it is
closed.**  `calls`: the history is what the library was called with.  `opens`: the
invocation grants a token, journals `session.open` and answers a result just where the
library has opened a session.  `projected`: the projection of the journal takes the answer
as an `open_resource` that is ok just where it answers a token that the connection holds.
`emitted`: the events `project_events` returns have one for each open the library made,
and for nothing else.  `live` and `closes`: the tokens held are live in the library, and
every close and forced clean-up succeeds. -/
structure OpensAgree (setup : Setup) (ok : Broker → Action → Prop) (b : Broker)
    (history : History) : Prop where
  calls : b.library.calls = heardOf history
  opens : ∀ action x, b.call? action = some (x, .openSession) → ok b action →
    ((∃ session, (setup.invoke x .openSession).sessions = x.sessions ++ [(x.env.token, session)]) ↔
      setup.Opened x) ∧
    ((∃ body ∈ (setup.invoke x .openSession).events, body.kind = .sessionOpen) ↔ setup.Opened x) ∧
    ((∃ v, (setup.invoke x .openSession).result = .ok v) ↔ setup.Opened x)
  projected : ∀ (repr : WireValue → Text) startNs world p, b.projected repr startNs world = .ok p →
    ∀ (c : Nat) conn request exceeded answer, b.connections[c]? = some conn →
      conn.phase = .answering request exceeded answer → request.operation = txt "open" →
      ∀ env now b', step setup b now (.advance c env) = some b' →
        ∃ p' more, b'.projected repr startNs world = .ok p' ∧ p'.drafts = p.drafts ++ more ∧
          ((∃ d ∈ more, d.IsOpen) ↔
            ∃ token status, answer = .ok (.str token, status) ∧ token ∈ tokensOf conn.sessions)
  emitted : ∀ (repr : WireValue → Text) events, projectEvents repr b.journal = .ok events →
    OpensEmitted b history events
  live : ∀ c, ∀ handle ∈ handlesOf (b.sessionsOf c), handle ∈ b.library.handles
  closes : ∀ body ∈ bodies b.journal, ∀ status, body.closeStatus = some status →
    status = StatusCode.success

/-- **Along every sound run the accounts of opens agree.** -/
theorem opens_agree {setup : Setup} {b : Broker} {history : History}
    (run : SoundRun setup b history) :
    OpensAgree setup (fun b action => setup.sound b action = true) b history where
  calls := run.calls
  opens := by
    intro action x called sound
    obtain ⟨granted, journaled, agreed⟩ := @Setup.open_agrees setup x
    have agree := agreed.2 fun manager name opens _ => Setup.sound_openable sound called opens
    exact ⟨granted.trans agree, journaled.trans agree, agree⟩
  projected := by
    intro repr startNs world p read c conn request exceeded answer at_ phase opens env now b' stepped
    exact run.projected read at_ phase opens stepped
  emitted := by
    intro repr events returned
    exact run.emitted returned
  live := run.live
  closes := run.wellClosed.journal

/-! ## Concrete runs -/

/-- The supply is opened, the client goes with its sessions open, and the bench is made
safe. -/
def openedRun : List (Int × Action) :=
  let idle : Env := .issuing (txt "x") 90
  supplyRun ++ [(0, .disconnect 0)] ++ List.replicate 5 (0, .advance 0 idle) ++
    [(0, .freeze), (0, .finish), (0, .forceSafe)]

/-- The supply's open, from the library to the event. -/
theorem opens_agree_supply :
    ∃ b history events, SoundRun nominalBench b history ∧
      projectEvents (fun _ => []) b.journal = .ok events ∧ (∃ e ∈ events, e.IsOpen) ∧
      (0, .opened (txt "psu") 2 (some (txt "TCPIP0::192.0.2.10::inst0::INSTR"))) ∈ history ∧
      OpensAgree nominalBench (fun b action => nominalBench.sound b action = true) b history := by
  have runs : (trace nominalBench nominalBench.sound (.initial nominalBench.simulator.spec) []
      openedRun).any (fun left =>
        (0, .opened (txt "psu") 2 (some (txt "TCPIP0::192.0.2.10::inst0::INSTR"))) ∈ left.2 &&
        settles (fun _ => []) left.1.journal fun p =>
          p.drafts.any (·.operation = .openResource)) = true := by
    decide +kernel
  obtain ⟨⟨b, history⟩, ran, ends⟩ := (Option.any_eq_true _ _).1 runs
  have traced : SoundRun nominalBench b history := Traced.initial.trace (fun _ _ sound => sound) ran
  obtain ⟨opened, settled⟩ := Bool.and_eq_true_iff.1 ends
  obtain ⟨p, opens, returned⟩ := projectEvents_of_settles settled
  obtain ⟨d, kept, opens⟩ := List.any_eq_true.1 opens
  refine ⟨b, history, _, traced, returned, ⟨_, mem_numberedEvents.2 ⟨d, kept, rfl⟩, ?_⟩,
    of_decide_eq_true opened, opens_agree traced⟩
  show d.operation.name = _
  rw [of_decide_eq_true opens]
  rfl

/-- **A failed open is granted a session all the same**: its token stands for no session
of the library. -/
theorem failed_open_is_granted :
    ¬ ∀ setup b history, Traced setup (fun _ _ => True) b history →
      OpensAgree setup (fun _ _ => True) b history := by
  intro agree
  have runs : (trace nominalBench (fun _ _ => true) (.initial nominalBench.simulator.spec) []
      unparsedRun).any (fun left => handlesOf (left.1.sessionsOf 0) = [1, 0, 0] &&
        left.1.library.handles = [1]) = true := by
    decide +kernel
  obtain ⟨⟨b, history⟩, ran, ends⟩ := (Option.any_eq_true _ _).1 runs
  rw [Bool.and_eq_true, decide_eq_true_eq, decide_eq_true_eq] at ends
  obtain ⟨granted, opened⟩ := ends
  have traced : Traced nominalBench (fun _ _ => True) b history :=
    Traced.initial.trace (fun _ _ _ => trivial) ran
  have live := (agree nominalBench b history traced).live 0 0
  rw [granted, opened] at live
  exact absurd (live (by decide)) (by decide)

end InstrumentBench.Visa
