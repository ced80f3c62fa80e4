/-
# Visa.OpenSessions -- a session exists when its open succeeded

Four places decide whether an open counted: the library by the handle and the status it
answers, the broker by the exception it does not see, the journal by `session.open`, and
the projection by the `rpc.result`.  They agree as long as every open that reaches the
library names something it can open; then each token stands for a live library session
until it is closed, and every close succeeds.  `Visa.OpenEvents` follows the opens on to
the events that the projection returns.
-/
import InstrumentBench.Visa.Accounting
import InstrumentBench.Visa.Ownership
import InstrumentBench.Visa.Projection

namespace InstrumentBench.Visa

set_option autoImplicit false

open InstrumentBench.Theory InstrumentBench.Theory.PyText

/-! ## Closes -/

/-- The status of a close, candidate or forced. -/
def Body.closeStatus : Body → Option Int
  | .sessionClose _ _ _ status => some status
  | .sessionForcedCleanup _ _ _ status => some status
  | _ => none

/-- Every close among the records has succeeded. -/
def ClosesWell (events : List Body) : Prop :=
  ∀ body ∈ events, ∀ status, body.closeStatus = some status → status = StatusCode.success

theorem Body.kind_of_closeStatus {body : Body} {status : Int}
    (closes : body.closeStatus = some status) :
    body.kind = .sessionClose ∨ body.kind = .sessionForcedCleanup := by
  cases body <;> first | cases closes; done | exact Or.inl rfl | exact Or.inr rfl

theorem Library.close_status {lib : Library} {handle : Nat} (live : handle ∈ lib.handles) :
    (lib.close handle).1 = StatusCode.success := by
  have held : (((lib.heard (.passed handle)).heard (.closed handle)).sessions.lookup
      handle).isSome = true := (lib.mem_handles handle).1 live
  unfold close
  dsimp only
  rw [if_pos held]

/-- What the connection holds is live. -/
def Live (sessions : Sessions) (lib : Library) : Prop :=
  ∀ handle ∈ handlesOf sessions, handle ∈ lib.handles

namespace Setup

variable {setup : Setup} {x : Call}

theorem invoke_closesWell (live : Live x.sessions x.library) (op : Operation) :
    ClosesWell (setup.invoke x op).events := by
  intro body listed status closes
  by_cases closing : op = .close
  · subst closing
    rw [invoke, if_neg (by decide)] at listed
    cases named : sessionOf x with
    | none =>
        rw [named] at listed
        cases List.mem_singleton.1 listed
        cases closes
    | some pair =>
        obtain ⟨token, session⟩ := pair
        rw [named] at listed
        simp only [onSession, Call.close] at listed
        split at listed
        · cases listed
        · cases List.mem_singleton.1 listed
          cases closes
          exact Library.close_status (live _ (sessionOf_handle named))
  · exfalso
    have behaves := (setup.invoke_behaves x op).1
    generalize (setup.invoke x op).sessions = left at behaves
    generalize (setup.invoke x op).result = answer at behaves
    have tracked : body.kind ∈ trackedKinds (setup.invoke x op).events := by
      apply List.mem_filter.2
      refine ⟨List.mem_map_of_mem listed, ?_⟩
      rcases Body.kind_of_closeStatus closes with kind | kind <;> rw [kind] <;> decide
    generalize trackedKinds (setup.invoke x op).events = kinds at behaves tracked
    revert tracked
    rcases Body.kind_of_closeStatus closes with kind | kind <;> rw [kind] <;>
      cases behaves <;> first | decide | exact absurd rfl closing

end Setup

theorem cleanUp_cons (c : Nat) (token : Text) (remote : RemoteSession) (rest : Sessions)
    (lib : Library) :
    (cleanUp c ((token, remote) :: rest) lib).1 =
      .sessionForcedCleanup c (auditToken (some (.str token))) remote.sessionKind
          (lib.close remote.realSession).1 ::
        (cleanUp c rest (lib.close remote.realSession).2).1 := rfl

theorem cleanUp_closesWell (c : Nat) {sessions : Sessions} {lib : Library}
    (nodup : (handlesOf sessions).Nodup) (live : Live sessions lib) :
    ClosesWell (cleanUp c sessions lib).1 := by
  induction sessions generalizing lib with
  | nil =>
      intro body listed
      cases listed
  | cons entry rest ih =>
      obtain ⟨token, remote⟩ := entry
      obtain ⟨apart, later⟩ : remote.realSession ∉ handlesOf rest ∧ (handlesOf rest).Nodup :=
        List.nodup_cons.1 nodup
      rw [cleanUp_cons]
      intro body listed status closes
      rcases List.mem_cons.1 listed with rfl | listed
      · cases closes
        exact Library.close_status (live _ List.mem_cons_self)
      · apply ih later _ body listed status closes
        intro handle held
        rw [Library.close_handles]
        apply List.mem_filter.2
        refine ⟨live handle (List.mem_cons_of_mem _ held), decide_eq_true ?_⟩
        rintro rfl
        exact apart held

/-! ## Live tables -/

/-- Sound steps grant no token for the handle 0. -/
theorem step_nonzero {setup : Setup} {b b' : Broker} {now : Int} {action : Action}
    (nonzero : ∀ c, 0 ∉ handlesOf (b.sessionsOf c)) (sound : setup.sound b action = true)
    (stepped : step setup b now action = some b') (c : Nat) :
    0 ∉ handlesOf (b'.sessionsOf c) := by
  rcases ledger_cases stepped with ⟨-, -, -, sessions, -⟩ | ⟨x, op, called, -, here⟩ |
    ⟨d, rfl, sessions, -⟩
  · rw [sessions]
    exact nonzero c
  · have serves := setup.invoke_serves x op
    have own : 0 ∉ handlesOf x.sessions := by
      rw [here.sessions]
      exact nonzero _
    have granted (kind : Text) :
        0 ∉ handlesOf (x.sessions ++ [(x.env.token, ⟨x.env.handle, kind⟩)]) := by
      unfold handlesOf
      rw [List.map_append, List.mem_append, not_or]
      refine ⟨own, ?_⟩
      intro zero
      exact (freshEnv_spec here.fresh).2.2.1 (List.mem_singleton.1 zero).symm
    rw [here.left]
    by_cases mine : c = x.connection
    · rw [mine, Function.update_self]
      generalize (setup.invoke x op).sessions = left at serves ⊢
      generalize setup.traffic x op = traffic at serves
      generalize (setup.invoke x op).library.handles = handles at serves
      cases serves with
      | refused => exact own
      | used named => exact own
      | managed kind => exact granted kind
      | opened kind named => exact granted kind
      | unopened kind named opens fails =>
          rw [Setup.sound_openable sound called opens] at fails
          cases fails
      | closed named =>
          intro zero
          exact own ((List.eraseP_sublist.map _).subset zero)
    · rw [Function.update_of_ne mine]
      exact nonzero c
  · rw [sessions]
    by_cases mine : c = d
    · rw [mine, Function.update_self]
      exact List.not_mem_nil
    · rw [Function.update_of_ne mine]
      exact nonzero c

/-- A run in which every open that reaches the library names something it can open. -/
abbrev SoundRun (setup : Setup) : Broker → History → Prop :=
  Traced setup fun b action => setup.sound b action = true

theorem Traced.weaken {setup : Setup} {ok ok' : Broker → Action → Prop}
    (weaker : ∀ b action, ok b action → ok' b action) {b : Broker} {history : History}
    (run : Traced setup ok b history) : Traced setup ok' b history := by
  induction run with
  | initial => exact .initial
  | step before meets stepped ih => exact ih.step (weaker _ _ meets) stepped

/-- **The tokens a connection holds are live.** -/
theorem SoundRun.live {setup : Setup} {b : Broker} {history : History}
    (run : SoundRun setup b history) (c : Nat) : Live (b.sessionsOf c) b.library := by
  have nonzero : ∀ c, 0 ∉ handlesOf (b.sessionsOf c) := by
    induction run with
    | initial => exact fun _ => List.not_mem_nil
    | step before meets stepped ih => exact step_nonzero ih meets stepped
  have owned := (run.weaken fun _ _ => Setup.sound_separate).owned
  intro handle listed
  rcases owned.live c handle listed with rfl | known
  · exact absurd listed (nonzero c)
  · exact known

theorem SoundRun.nodup {setup : Setup} {b : Broker} {history : History}
    (run : SoundRun setup b history) (c : Nat) : (handlesOf (b.sessionsOf c)).Nodup :=
  (run.weaken fun _ _ => Setup.sound_separate).owned.nodup c

/-! ## The journal of closes -/

theorem bodies_records (b : Broker) (now : Int) (events : List Body) :
    bodies (b.records now events) = events := by
  apply List.ext_getElem?
  intro n
  unfold bodies Broker.records
  rw [List.getElem?_map, List.getElem?_mapIdx, Option.map_map]
  exact Option.map_id'

/-- The journal and the records on their way to it. -/
structure WellClosed (b : Broker) : Prop where
  journal : ClosesWell (bodies b.journal)
  pending : ∀ (c : Nat) (conn : Connection), b.connections[c]? = some conn →
    ClosesWell conn.phase.pending

theorem ClosesWell.append {events more : List Body} (first : ClosesWell events)
    (second : ClosesWell more) : ClosesWell (events ++ more) := by
  intro body listed
  rcases List.mem_append.1 listed with listed | listed
  · exact first body listed
  · exact second body listed

theorem closesWell_nil : ClosesWell [] := by
  intro body listed
  cases listed

theorem closesWell_other {body : Body} (other : body.closeStatus = none) : ClosesWell [body] := by
  intro body' listed status closes
  cases List.mem_singleton.1 listed
  rw [other] at closes
  cases closes

/-- A move journals closes that succeeded, and leaves such. -/
theorem Moves.closesWell {setup : Setup} {b : Broker} {c : Nat} {conn conn' : Connection}
    {action : Action} {library : Library} {events : List Body} {issued : List Text}
    (moves : Moves setup b c conn action conn' library events issued)
    (pending : ClosesWell conn.phase.pending) (live : Live conn.sessions b.library)
    (nodup : (handlesOf conn.sessions).Nodup) :
    ClosesWell events ∧ ClosesWell conn'.phase.pending := by
  cases moves with
  | invoked phase free fresh made =>
      subst made
      exact ⟨closesWell_nil, Setup.invoke_closesWell live _⟩
  | disconnected free phase cleans =>
      refine ⟨closesWell_nil, ?_⟩
      have reversed : handlesOf conn.sessions.reverse = (handlesOf conn.sessions).reverse :=
        List.map_reverse
      have all : ClosesWell (cleanUp c conn.sessions.reverse b.library).1 := by
        apply cleanUp_closesWell
        · rw [reversed]
          exact List.nodup_reverse.2 nodup
        · intro handle listed
          rw [reversed] at listed
          exact live handle (List.mem_reverse.1 listed)
      rw [cleans] at all
      exact all
  | emitted env phase =>
      rw [phase] at pending
      exact ⟨fun body listed => pending body (List.mem_cons.2 (Or.inl (List.mem_singleton.1 listed))),
        fun body listed => pending body (List.mem_cons_of_mem _ listed)⟩
  | swept env phase =>
      rw [phase] at pending
      exact ⟨fun body listed => pending body (List.mem_cons.2 (Or.inl (List.mem_singleton.1 listed))),
        fun body listed => pending body (List.mem_cons_of_mem _ listed)⟩
  | replied env phase =>
      refine ⟨closesWell_other rfl, ?_⟩
      dsimp only
      split <;> exact closesWell_nil
  | refused env phase rejects =>
      refine ⟨closesWell_other rfl, ?_⟩
      dsimp only
      split <;> exact closesWell_nil
  | failed env phase trusted next =>
      refine ⟨closesWell_nil, ?_⟩
      rcases next with rfl | rfl <;> exact closesWell_nil
  | _ => first
      | exact ⟨closesWell_nil, closesWell_nil⟩
      | exact ⟨closesWell_other rfl, closesWell_nil⟩

/-- **Every close of a sound run succeeds.** -/
theorem SoundRun.wellClosed {setup : Setup} {b : Broker} {history : History}
    (run : SoundRun setup b history) : WellClosed b := by
  induction run with
  | initial => exact ⟨closesWell_nil, by intro c conn at_; cases at_⟩
  | @step b b' now action history before meets stepped ih =>
      obtain ⟨events, issued, steps⟩ := step_cases stepped
      have live (c : Nat) (conn : Connection) (at_ : b.connections[c]? = some conn) :
          Live conn.sessions b.library ∧ (handlesOf conn.sessions).Nodup := by
        have mine : b.sessionsOf c = conn.sessions := by
          unfold Broker.sessionsOf
          rw [at_]
          rfl
        rw [← mine]
        exact ⟨SoundRun.live before c, SoundRun.nodup before c⟩
      have move {c : Nat} {conn conn' : Connection} (at_ : b.connections[c]? = some conn)
          (moves : Moves setup b c conn action conn' b'.library events issued) :
          ClosesWell events ∧ ClosesWell conn'.phase.pending :=
        moves.closesWell (ih.pending c conn at_) (live c conn at_).1 (live c conn at_).2
      constructor
      case journal =>
        rw [steps.journal, bodies_append, bodies_records]
        apply ih.journal.append
        rcases steps.does with ⟨c, conn, conn', at_, -, moves⟩ | ⟨-, stands⟩
        · exact (move at_ moves).1
        · cases stands with
          | connected => exact closesWell_nil
          | _ => exact closesWell_other rfl
      case pending =>
        intro c conn at_
        rcases steps.found at_ with ⟨old, there, moves⟩ | ⟨same, -⟩ | ⟨peerUid, rfl, -⟩
        · exact (move there moves).2
        · exact ih.pending c conn same
        · exact closesWell_nil

/-! ## One open -/

namespace Setup

variable (setup : Setup)

/-- The library's open has answered a success status and a live handle. -/
def Opened (x : Call) : Prop :=
  ∃ manager name handle status library, setup.opens x = some (manager, name) ∧
    setup.opening x manager name = (.ok (handle, status), library) ∧ 0 ≤ status ∧
    handle ∈ library.handles

variable {setup}

theorem stringArg_ok {args : Args} {key : String} {t : Text}
    (accepted : stringArg args key = .ok t) : args.lookup (txt key) = some (.str t) ∧ t ≠ [] := by
  unfold stringArg at accepted
  split at accepted
  · cases accepted
  · rename_i found
    split at accepted
    · cases accepted
    · rename_i filled
      cases accepted
      exact ⟨found, by simpa using filled⟩
  · cases accepted

/-- The name an open hands the library is the one its arguments hold. -/
theorem opens_named {x : Call} {manager : Nat} {name : Text}
    (opens : setup.opens x = some (manager, name)) :
    x.args.lookup (txt "resource_name") = some (.str name) ∧ name ≠ [] := by
  unfold Setup.opens at opens
  split at opens
  · cases opens
  · split at opens
    · cases checked : setup.checkedName x.args with
      | error e =>
          rw [checked] at opens
          cases opens
      | ok name' =>
          rw [checked] at opens
          cases opens
          unfold checkedName at checked
          cases accepted : stringArg x.args "resource_name" with
          | error e =>
              rw [accepted] at checked
              cases checked
          | ok given =>
              rw [accepted] at checked
              simp only [bind, Except.bind] at checked
              repeat' split at checked
              all_goals cases checked
              exact stringArg_ok accepted
    · cases opens

/-- **An open is refused without a trace, or granted what the library answered.** -/
theorem invoke_open (x : Call) :
    ((∃ e, (setup.invoke x .openSession).result = .error e) ∧
      (setup.invoke x .openSession).sessions = x.sessions ∧
      (∀ body ∈ (setup.invoke x .openSession).events, body.kind ≠ .sessionOpen) ∧
      ¬ setup.Opened x) ∨
    ∃ manager name token handle status library, setup.opens x = some (manager, name) ∧
      setup.opening x manager name = (.ok (handle, status), library) ∧
      setup.invoke x .openSession =
        x.grant library handle status (txt "resource") (some token) (some name) := by
  rw [invoke, if_neg (by decide)]
  cases named : sessionOf x with
  | none =>
      left
      refine ⟨⟨_, rfl⟩, rfl, ?_, ?_⟩
      · intro body listed
        rw [List.mem_singleton.1 listed]
        intro same
        cases same
      · rintro ⟨manager, name, handle, status, library, opens, -⟩
        unfold Setup.opens at opens
        rw [named] at opens
        cases opens
  | some pair =>
      obtain ⟨token, session⟩ := pair
      show ((∃ e, (setup.openSession x token session.realSession).result = .error e) ∧
        (setup.openSession x token session.realSession).sessions = x.sessions ∧
        (∀ body ∈ (setup.openSession x token session.realSession).events, _) ∧ _) ∨
        ∃ manager name token' handle status library, _ ∧ _ ∧
          setup.openSession x token session.realSession = _
      rcases setup.openSession_eq named with ⟨e, made, none⟩ | ⟨name, some, made⟩
      · left
        refine ⟨⟨e, by rw [made]; rfl⟩, by rw [made]; rfl, by rw [made]; simp [Call.raises], ?_⟩
        rintro ⟨manager, name, handle, status, library, opens, -⟩
        rw [none] at opens
        cases opens
      · rw [made]
        rcases setup.opening_cases x session.realSession name with ⟨e, answer⟩ |
          ⟨status, -, -, answer⟩ | ⟨s, -, answer⟩
        · left
          rw [answer]
          refine ⟨⟨e, rfl⟩, rfl, by simp, ?_⟩
          rintro ⟨manager, name', handle, status, library, opens, answered, -⟩
          rw [some] at opens
          cases opens
          rw [answer] at answered
          cases answered
        · right
          exact ⟨_, name, token, _, _, _, some, answer, by rw [answer]⟩
        · right
          exact ⟨_, name, token, _, _, _, some, answer, by rw [answer]⟩

/-- A failed open of the library counts as a success for nobody but the broker. -/
theorem opened_iff_openable {x : Call} {manager handle : Nat} {name : Text} {status : Int}
    {library : Library} (opens : setup.opens x = some (manager, name))
    (answer : setup.opening x manager name = (.ok (handle, status), library)) :
    (setup.Opened x ↔ setup.openable name = true) ∧
      (setup.openable name = true → status = StatusCode.success) := by
  rcases setup.opening_cases x manager name with ⟨e, other⟩ |
    ⟨status', negative, fails, other⟩ | ⟨s, works, other⟩
  · rw [answer] at other
    cases other
  · rw [answer] at other
    cases other
    rw [fails]
    refine ⟨⟨?_, by intro no; cases no⟩, by intro no; cases no⟩
    rintro ⟨manager', name', handle', status', library', opens', answer', accepted, -⟩
    rw [opens] at opens'
    cases opens'
    rw [answer] at answer'
    cases answer'
    omega
  · rw [answer] at other
    cases other
    refine ⟨⟨fun _ => works, fun _ => ?_⟩, fun _ => rfl⟩
    refine ⟨manager, name, _, _, _, opens, answer, by decide, ?_⟩
    unfold Library.handles Library.register
    rw [Library.heard_sessions, List.map_append]
    exact List.mem_append_right _ List.mem_cons_self

/-- **The accounts of an open agree just where its name is openable.**  A token is
granted, `session.open` is journaled and a result is answered together; the library has
opened a session then, if and only if no failed open reached it. -/
theorem open_agrees (x : Call) :
    ((∃ session, (setup.invoke x .openSession).sessions = x.sessions ++ [(x.env.token, session)]) ↔
      ∃ v, (setup.invoke x .openSession).result = .ok v) ∧
    ((∃ body ∈ (setup.invoke x .openSession).events, body.kind = .sessionOpen) ↔
      ∃ v, (setup.invoke x .openSession).result = .ok v) ∧
    (((∃ v, (setup.invoke x .openSession).result = .ok v) ↔ setup.Opened x) ↔
      ∀ manager name, setup.opens x = some (manager, name) →
        (∃ v, (setup.invoke x .openSession).result = .ok v) → setup.openable name = true) := by
  rcases @invoke_open setup x with ⟨⟨e, made⟩, kept, unopened, refused⟩ |
    ⟨manager, name, token, handle, status, library, opens, answer, made⟩
  · have failed : ¬ ∃ v, (setup.invoke x .openSession).result = .ok v := by
      rintro ⟨v, accepted⟩
      rw [made] at accepted
      cases accepted
    refine ⟨⟨?_, fun accepted => absurd accepted failed⟩,
      ⟨?_, fun accepted => absurd accepted failed⟩, ?_⟩
    · rintro ⟨session, grown⟩
      rw [kept] at grown
      have longer := congrArg List.length grown
      simp at longer
    · rintro ⟨body, listed, kind⟩
      exact absurd kind (unopened body listed)
    · constructor
      · intro _ manager name _ accepted
        exact absurd accepted failed
      · intro _
        exact ⟨fun accepted => absurd accepted failed, fun opened => absurd opened refused⟩
  · have accepted : ∃ v, (setup.invoke x .openSession).result = .ok v := by
      rw [made]
      exact ⟨_, rfl⟩
    refine ⟨⟨fun _ => accepted, fun _ => ⟨_, by rw [made]; rfl⟩⟩,
      ⟨fun _ => accepted, fun _ => ⟨_, by rw [made]; exact List.mem_cons_self, rfl⟩⟩, ?_⟩
    have opened := (opened_iff_openable opens answer).1
    constructor
    · intro agree manager' name' opens' _
      rw [opens] at opens'
      cases opens'
      exact opened.1 (agree.1 accepted)
    · intro sound
      exact ⟨fun _ => opened.2 (sound manager name opens accepted), fun _ => accepted⟩

end Setup

/-! ## The requests of a connection -/

/-- The request a phase has journaled and not yet answered. -/
def Phase.awaits : Phase → Option (Request × Bool)
  | .requested request exceeded => some (request, exceeded)
  | .waiting request _ => some (request, false)
  | .holding request _ _ => some (request, false)
  | .answering request exceeded _ => some (request, exceeded)
  | _ => none

/-- An answered `open` answers a token the connection holds, for a name that is given. -/
def OpenAnswer (sessions : Sessions) (request : Request) (answer : Answer) : Prop :=
  request.operation = txt "open" → ∀ v, answer = .ok v →
    ∃ token name, v = (.str token, some StatusCode.success) ∧ token ∈ tokensOf sessions ∧
      token ≠ [] ∧ request.args.lookup (txt "resource_name") = some (.str name) ∧ name ≠ []

/-- What a phase knows of the answer on its way. -/
def Phase.Answers (sessions : Sessions) : Phase → Prop
  | .waiting request op => op.name = request.operation
  | .holding request _ answer => OpenAnswer sessions request answer
  | .answering request exceeded answer =>
      OpenAnswer sessions request answer ∧ (exceeded = true → answer.isOk = false)
  | _ => True

/-- A connection journals no RPC record but its own request and answer. -/
structure Connection.Sane (conn : Connection) : Prop where
  quiet : ∀ body ∈ conn.phase.pending, body.kind.isRpc = false
  answers : conn.phase.Answers conn.sessions

theorem Operation.openSession_of_name {op : Operation} (named : op.name = txt "open") :
    op = .openSession := by
  revert named
  cases op <;> decide

theorem Moves.sane {setup : Setup} {b : Broker} {c : Nat} {conn conn' : Connection}
    {action : Action} {library : Library} {events : List Body} {issued : List Text}
    (moves : Moves setup b c conn action conn' library events issued) (sane : conn.Sane)
    (at_ : b.connections[c]? = some conn) (sound : setup.sound b action = true) : conn'.Sane := by
  have quiet := sane.quiet
  have answers := sane.answers
  cases moves with
  | settled env phase decided =>
      refine ⟨by simp, ?_, ?_⟩
      · intro named v accepted
        obtain ⟨-, hello⟩ := decide?_ok decided (by rw [accepted]; rfl)
        rw [named] at hello
        exact absurd hello (by decide)
      · intro exceeded
        exact (decide?_answer decided).2 exceeded
  | admitted env phase decided => exact ⟨by simp, (decide?_invoke decided).2⟩
  | @invoked env request op inv phase free fresh made =>
      subst made
      rw [phase] at answers
      refine ⟨quiet_of_tracked (setup.invoke_behaves _ op).1.quiet, ?_⟩
      intro named v accepted
      have opens : op = .openSession := Operation.openSession_of_name (answers.trans named)
      subst opens
      have called : b.call? (.advance c env) =
          some (⟨c, env, request.args, conn.sessions, b.library⟩, .openSession) := by
        simp only [Broker.call?, at_, phase]
      rcases @Setup.invoke_open setup ⟨c, env, request.args, conn.sessions, b.library⟩ with
        ⟨⟨e, granted⟩, -, -, -⟩ |
        ⟨manager, name, token, handle, status, library, reached, answer, granted⟩
      · rw [granted] at accepted
        cases accepted
      · rw [granted] at accepted
        cases accepted
        obtain ⟨given, filled⟩ := Setup.opens_named reached
        have success := (Setup.opened_iff_openable reached answer).2
          (Setup.sound_openable sound called reached)
        subst success
        refine ⟨env.token, name, rfl, ?_, (freshEnv_spec fresh).1, given, filled⟩
        dsimp only
        rw [granted]
        unfold tokensOf
        show env.token ∈ List.map Prod.fst (conn.sessions ++ [(env.token, _)])
        rw [List.map_append]
        exact List.mem_append_right _ List.mem_cons_self
  | emitted env phase =>
      rw [phase] at quiet answers
      exact ⟨fun body listed => quiet body (List.mem_cons_of_mem _ listed), answers⟩
  | released env phase =>
      rw [phase] at answers
      exact ⟨by simp, answers, by simp⟩
  | disconnected free phase cleans =>
      refine ⟨?_, trivial⟩
      intro body listed
      have forced := cleanUp_kind c conn.sessions.reverse b.library
      rw [cleans] at forced
      rw [forced body listed]
      rfl
  | swept env phase =>
      rw [phase] at quiet
      exact ⟨fun body listed => quiet body (List.mem_cons_of_mem _ listed), trivial⟩
  | @replied env request exceeded result status phase =>
      cases exceeded <;> exact ⟨by simp, trivial⟩
  | @refused env request exceeded e kind code phase rejects =>
      cases exceeded <;> exact ⟨by simp, trivial⟩
  | failed env phase trusted next =>
      rcases next with rfl | rfl <;> exact ⟨by simp, trivial⟩
  | _ => exact ⟨by simp, trivial⟩

theorem SoundRun.sane {setup : Setup} {b : Broker} {history : History}
    (run : SoundRun setup b history) {c : Nat} {conn : Connection}
    (at_ : b.connections[c]? = some conn) : conn.Sane := by
  induction run generalizing c conn with
  | initial => cases at_
  | step before meets stepped ih =>
      obtain ⟨events, issued, steps⟩ := step_cases stepped
      rcases steps.found at_ with ⟨old, there, moves⟩ | ⟨same, -⟩ | ⟨peerUid, rfl, -⟩
      · exact moves.sane (ih there) there meets
      · exact ih same
      · exact ⟨by simp, trivial⟩

/-! ## The projection's requests -/

namespace Projection

variable {repr : WireValue → Text} {p p' : Projection} {event : JournalEvent}

theorem attributeSet_requests {args : AuditedArgs}
    (accepted : p.attributeSet repr event args = .ok p') : p'.requests = p.requests := by
  unfold attributeSet at accepted
  simp only [bind, Except.bind] at accepted
  repeat' split at accepted
  all_goals first | (cases accepted; done) | (cases accepted; rfl)

theorem result_requests {c : Nat} {operation : Text} {value : WireValue}
    (accepted : p.result repr event c operation value = .ok p') :
    p'.requests = PyDict.pop c p.requests := by
  unfold result at accepted
  split at accepted
  · cases accepted
  · dsimp only at accepted
    split at accepted
    · cases accepted
    · split at accepted
      · simp only [bind, Except.bind] at accepted
        split at accepted
        · cases accepted
        · cases accepted
          rfl
      · split at accepted
        · simp only [bind, Except.bind] at accepted
          repeat' split at accepted
          all_goals first | (cases accepted; done) | (cases accepted; rfl)
        · split at accepted
          · exact attributeSet_requests accepted
          · split at accepted
            · simp only [bind, Except.bind] at accepted
              repeat' split at accepted
              all_goals first | (cases accepted; done) | (cases accepted; rfl)
            · cases accepted
              rfl

theorem noteHook_requests {digest resource role : Text}
    (accepted : p.noteHook digest resource role = .ok p') : p'.requests = p.requests := by
  unfold noteHook at accepted
  repeat' split at accepted
  all_goals first | (cases accepted; done) | (cases accepted; rfl)

theorem inferWriteTermination_requests (digest : Text) (writeEvent : JournalEvent)
    (request : Bytes) (before : WorldSnapshot) (role resource : Text) :
    (p.inferWriteTermination digest writeEvent request before role resource).requests =
      p.requests := by
  unfold inferWriteTermination
  split <;> rfl

theorem hookCompletion_requests {resource role : Text} {response : Option Bytes}
    {errorCode : Option Text} {before after : FinalState}
    (accepted : p.hookCompletion event resource role response errorCode before after = .ok p') :
    p'.requests = p.requests := by
  simp only [hookCompletion, bind, Except.bind] at accepted
  split at accepted
  · cases accepted
  · split at accepted
    · cases accepted
    · rename_i noted note
      repeat' split at accepted
      all_goals first | (cases accepted; done) | skip
      cases accepted
      show (Projection.requests (inferWriteTermination ..)) = _
      rw [inferWriteTermination_requests]
      exact noteHook_requests note

theorem hook_requests {record : HookEvent} (accepted : p.hook event record = .ok p') :
    p'.requests = p.requests := by
  cases record with
  | before digest resource role command stateBefore =>
      simp only [hook, hookBefore, bind, Except.bind] at accepted
      split at accepted
      · cases accepted
      · split at accepted
        · cases accepted
        · rename_i noted note
          repeat' split at accepted
          all_goals first | (cases accepted; done) | skip
          cases accepted
          show noted.requests = p.requests
          exact noteHook_requests note
  | native =>
      cases accepted
      rfl
  | dynamic =>
      cases accepted
      rfl
  | after => exact hookCompletion_requests accepted
  | error => exact hookCompletion_requests accepted

/-- **Only RPC records of a connection touch its pending request.** -/
theorem next_requests (accepted : p.next repr event = .ok p') {c : Nat}
    (other : event.body.kind.isRpc = false ∨ event.body.connection ≠ some c) :
    p'.requests.lookup c = p.requests.lookup c := by
  unfold next at accepted
  cases body : event.body with
  | hook origin record =>
      rw [body] at accepted
      rw [hook_requests accepted]
  | forceSafe before after =>
      rw [body] at accepted
      simp only [forcedSafe, bind, Except.bind] at accepted
      repeat' split at accepted
      all_goals first | (cases accepted; done) | (cases accepted; rfl)
  | rpcRequest d operation args =>
      rw [body] at accepted other
      have apart : c ≠ d := by
        rintro rfl
        rcases other with other | other
        · cases other
        · exact other rfl
      cases accepted
      unfold request
      dsimp only
      repeat' split
      all_goals
        show List.lookup c (PyDict.set d _ p.requests) = _
        rw [PyDict.lookup_set, if_neg apart]
  | rpcResult d operation value status =>
      rw [body] at accepted other
      have apart : c ≠ d := by
        rintro rfl
        rcases other with other | other
        · cases other
        · exact other rfl
      rw [result_requests accepted, PyDict.lookup_pop, if_neg apart]
  | rpcReject d operation errorKind code =>
      rw [body] at accepted other
      have apart : c ≠ d := by
        rintro rfl
        rcases other with other | other
        · cases other
        · exact other rfl
      cases accepted
      unfold rejected
      dsimp only
      split
      all_goals
        show List.lookup c (PyDict.pop d p.requests) = _
        rw [PyDict.lookup_pop, if_neg apart]
  | _ =>
      rw [body] at accepted
      cases accepted
      rfl

end Projection

/-- What a projection has read of a journal it has also read of its beginning. -/
theorem Projection.replay_append {repr : WireValue → Text} {p p' : Projection}
    {records more : List JournalEvent} (read : p.replay repr (records ++ more) = .ok p') :
    ∃ q, p.replay repr records = .ok q ∧ q.replay repr more = .ok p' := by
  unfold Projection.replay at read ⊢
  rw [List.foldlM_append] at read
  simp only [bind, Except.bind] at read
  split at read
  · cases read
  · rename_i q first
    exact ⟨q, first, read⟩

theorem Projection.replay_singleton {repr : WireValue → Text} {p p' : Projection}
    {event : JournalEvent} (read : p.replay repr [event] = .ok p') :
    p.next repr event = .ok p' := by
  unfold Projection.replay at read
  rw [List.foldlM_cons] at read
  simp only [bind, Except.bind] at read
  split at read
  · cases read
  · rename_i q first
    cases read
    exact first

theorem Projection.replay_cons {repr : WireValue → Text} {p p' : Projection}
    {event : JournalEvent} {rest : List JournalEvent}
    (read : p.replay repr (event :: rest) = .ok p') :
    ∃ q, p.next repr event = .ok q ∧ q.replay repr rest = .ok p' := by
  obtain ⟨q, first, later⟩ :=
    Projection.replay_append (show p.replay repr ([event] ++ rest) = .ok p' from read)
  exact ⟨q, Projection.replay_singleton first, later⟩

/-- A move journals one record at most. -/
theorem Moves.single {setup : Setup} {b : Broker} {c : Nat} {conn conn' : Connection}
    {action : Action} {library : Library} {events : List Body} {issued : List Text}
    (moves : Moves setup b c conn action conn' library events issued) :
    events = [] ∨ ∃ body, events = [body] := by
  cases moves <;> first | exact Or.inl rfl | exact Or.inr ⟨_, rfl⟩

theorem Steps.single {setup : Setup} {b b' : Broker} {now : Int} {action : Action}
    {events : List Body} {issued : List Text} (steps : Steps setup b now action b' events issued) :
    events = [] ∨ ∃ body, events = [body] := by
  rcases steps.does with ⟨c, conn, conn', at_, connections, moves⟩ | ⟨-, stands⟩
  · exact moves.single
  · cases stands <;> first | exact Or.inl rfl | exact Or.inr ⟨_, rfl⟩

theorem Broker.records_singleton (b : Broker) (now : Int) (body : Body) :
    b.records now [body] = [⟨b.journal.length + 1, now, body⟩] := rfl

/-- The projection of the journal of a broker, where it gets that far. -/
def Broker.projected (repr : WireValue → Text) (b : Broker) (startNs : Int)
    (world : WorldSnapshot) : Except ProjectionFault Projection :=
  (Projection.start startNs world).replay repr b.journal

/-- The RPC records of a move are the connection's own. -/
theorem Moves.rpc_own {setup : Setup} {b : Broker} {c : Nat} {conn conn' : Connection}
    {action : Action} {library : Library} {events : List Body} {issued : List Text}
    (moves : Moves setup b c conn action conn' library events issued) (sane : conn.Sane) :
    ∀ body ∈ events, body.kind.isRpc = false ∨ body.connection = some c := by
  have quiet := sane.quiet
  intro body listed
  cases moves with
  | emitted env phase =>
      rw [phase] at quiet
      rw [List.mem_singleton.1 listed]
      exact Or.inl (quiet _ List.mem_cons_self)
  | swept env phase =>
      rw [phase] at quiet
      rw [List.mem_singleton.1 listed]
      exact Or.inl (quiet _ List.mem_cons_self)
  | _ => first
      | (cases listed; done)
      | (rw [List.mem_singleton.1 listed]; exact Or.inr rfl)
      | (rw [List.mem_singleton.1 listed]; exact Or.inl rfl)

/-- **The projection of a sound run has every request that is awaited.** -/
theorem SoundRun.awaited {setup : Setup} {repr : WireValue → Text} {b : Broker}
    {history : History} (run : SoundRun setup b history) {startNs : Int} {world : WorldSnapshot}
    {p : Projection} (read : b.projected repr startNs world = .ok p) {c : Nat} {conn : Connection}
    (at_ : b.connections[c]? = some conn) {request : Request} {exceeded : Bool}
    (awaits : conn.phase.awaits = some (request, exceeded)) :
    p.requests.lookup c =
      some ⟨auditOperation request.operation exceeded, auditArgs request.args exceeded⟩ := by
  induction run generalizing c conn p request exceeded with
  | initial => cases at_
  | @step b b' now action history before meets stepped ih =>
      obtain ⟨events, issued, steps⟩ := step_cases stepped
      unfold Broker.projected at read
      rw [steps.journal] at read
      obtain ⟨q, first, rest⟩ := Projection.replay_append read
      -- a connection that awaited the request already keeps it, unless the record is its own
      have kept {old : Connection} (there : b.connections[c]? = some old)
          (awaited : old.phase.awaits = some (request, exceeded))
          (other : ∀ body ∈ events, body.kind.isRpc = false ∨ body.connection ≠ some c) :
          p.requests.lookup c =
            some ⟨auditOperation request.operation exceeded, auditArgs request.args exceeded⟩ := by
        rw [← ih first there awaited]
        rcases steps.single with none | ⟨body, one⟩
        · rw [none] at rest
          cases rest
          rfl
        · rw [one, Broker.records_singleton] at rest
          apply Projection.next_requests (Projection.replay_singleton rest)
          exact other body (by rw [one]; exact List.mem_cons_self)
      rcases steps.found at_ with ⟨old, there, moves⟩ | ⟨same, elsewhere⟩ | ⟨peerUid, rfl, -⟩
      · have quiet := (SoundRun.sane before there).quiet
        generalize b'.library = library at moves
        cases moves with
        | requested env phase =>
            cases awaits
            have read := Projection.replay_singleton rest
            cases read
            unfold Projection.request
            dsimp only
            repeat' split
            all_goals
              show List.lookup c (PyDict.set c _ q.requests) = _
              rw [PyDict.lookup_set, if_pos rfl]
        | settled env phase decided =>
            refine kept there ?_ (by simp)
            rw [phase]
            exact awaits
        | admitted env phase decided =>
            refine kept there ?_ (by simp)
            rw [phase, (decide?_invoke decided).1]
            exact awaits
        | invoked phase free fresh made =>
            refine kept there ?_ (by simp)
            rw [phase]
            exact awaits
        | emitted env phase =>
            rw [phase] at quiet
            refine kept there ?_ ?_
            · rw [phase]
              exact awaits
            · intro body listed
              rw [List.mem_singleton.1 listed]
              exact Or.inl (quiet _ List.mem_cons_self)
        | released env phase =>
            refine kept there ?_ (by simp)
            rw [phase]
            exact awaits
        | @replied env request exceeded result status phase => cases exceeded <;> cases awaits
        | @refused env request exceeded e kind code phase rejects =>
            cases exceeded <;> cases awaits
        | failed env phase trusted next => rcases next with rfl | rfl <;> cases awaits
        | _ => cases awaits
      · apply kept same awaits
        intro body listed
        rcases elsewhere with ⟨d, other, new, apart, there, moves⟩ | stands
        · apply (moves.rpc_own (SoundRun.sane before there) body listed).imp id
          intro own mine
          rw [own] at mine
          exact apart (Option.some.inj mine)
        · left
          cases stands with
          | connected => cases listed
          | _ =>
              rw [List.mem_singleton.1 listed]
              rfl
      · cases awaits

theorem Projection.replay_concat {repr : WireValue → Text} {p q : Projection}
    {records : List JournalEvent} (read : p.replay repr records = .ok q) (event : JournalEvent) :
    p.replay repr (records ++ [event]) = q.next repr event := by
  unfold Projection.replay at read ⊢
  rw [List.foldlM_append, read]
  show (q.next repr event >>= pure) = _
  rw [bind_pure]

/-- A draft that counts as an open that succeeded. -/
def Draft.IsOpen (d : Draft) : Prop := d.operation = .openResource ∧ d.errorCode = none

/-- The projection reads the result of an `open` as one. -/
theorem Projection.next_opened (repr : WireValue → Text) {p : Projection} {c : Nat}
    {request : Request} {token name : Text} (sequence : Nat) (now : Int) (status : Option Int)
    (pending : p.requests.lookup c = some ⟨auditOperation request.operation false,
      auditArgs request.args false⟩) (opens : request.operation = txt "open")
    (filled : token ≠ []) (given : request.args.lookup (txt "resource_name") = some (.str name))
    (named : name ≠ []) :
    ∃ p' d, p.next repr ⟨sequence, now, .rpcResult c request.operation (.str token) status⟩ =
      .ok p' ∧ p'.drafts = p.drafts ++ [d] ∧ d.IsOpen := by
  have tokenRead : resultToken (.str token) = .ok token := if_neg (by simpa using filled)
  have nameRead : (auditArgs request.args false).resourceName = .ok name := by
    simp only [auditArgs, Bool.false_eq_true, if_false, AuditedArgs.resourceName,
      AuditedArgs.get, given]
    exact if_neg (by simpa using named)
  rw [opens] at pending ⊢
  have plain : auditOperation (txt "open") false = .plain (txt "open") := rfl
  show ∃ p' d, p.result repr _ c (txt "open") (.str token) = .ok p' ∧ _
  unfold result
  rw [pending]
  dsimp only
  rw [plain, if_neg (not_not.2 rfl), if_neg (by decide), if_pos rfl, tokenRead, nameRead]
  exact ⟨_, _, rfl, rfl, rfl, rfl⟩

theorem SoundRun.projected {setup : Setup} {b : Broker} {history : History}
    (run : SoundRun setup b history) {repr : WireValue → Text} {startNs : Int}
    {world : WorldSnapshot} {p : Projection} (read : b.projected repr startNs world = .ok p)
    {c : Nat} {conn : Connection} {request : Request} {exceeded : Bool} {answer : Answer}
    (at_ : b.connections[c]? = some conn) (phase : conn.phase = .answering request exceeded answer)
    (opens : request.operation = txt "open") {env : Env} {now : Int} {b' : Broker}
    (stepped : step setup b now (.advance c env) = some b') :
    ∃ p' more, b'.projected repr startNs world = .ok p' ∧ p'.drafts = p.drafts ++ more ∧
      ((∃ d ∈ more, d.IsOpen) ↔
        ∃ token status, answer = .ok (.str token, status) ∧ token ∈ tokensOf conn.sessions) := by
  have pending := run.awaited read at_ (show conn.phase.awaits = some (request, exceeded) by
    rw [phase]
    rfl)
  have answers := (run.sane at_).answers
  rw [phase] at answers
  obtain ⟨answered, limited⟩ := answers
  have stepped : advance setup b now c conn env = some b' := by
    rw [← stepped]
    show _ = (b.connections[c]?).bind _
    rw [at_]
    rfl
  unfold advance at stepped
  rw [phase] at stepped
  cases answer with
  | ok v =>
      have within : exceeded = false := by
        cases exceeded with
        | false => rfl
        | true => cases limited rfl
      subst within
      obtain ⟨token, name, rfl, holds, filled, given, named⟩ := answered opens v rfl
      obtain ⟨p', d, next, drafts, isOpen⟩ := Projection.next_opened repr
        (b.journal.length + 1) now (some StatusCode.success) pending opens filled given named
      cases stepped
      refine ⟨p', [d], ?_, drafts, ?_⟩
      · exact (Projection.replay_concat read _).trans next
      · constructor
        · intro _
          exact ⟨token, _, rfl, holds⟩
        · intro _
          exact ⟨d, List.mem_cons_self, isOpen⟩
  | error e =>
      have unheld (more : List Draft) (closed : ∀ d ∈ more, ¬ d.IsOpen) :
          ((∃ d ∈ more, d.IsOpen) ↔ ∃ token status,
            (Except.error e : Answer) = .ok (.str token, status) ∧
              token ∈ tokensOf conn.sessions) := by
        constructor
        · rintro ⟨d, listed, isOpen⟩
          exact absurd isOpen (closed d listed)
        · rintro ⟨token, status, impossible, -⟩
          cases impossible
      dsimp only at stepped
      split at stepped
      · rename_i kind code rejects
        cases stepped
        have next := Projection.replay_concat read
          ⟨b.journal.length + 1, now, .rpcReject c (auditOperation request.operation exceeded) kind
            code⟩
        have drafts : ∃ more, (p.rejected
            ⟨b.journal.length + 1, now, .rpcReject c (auditOperation request.operation exceeded) kind
              code⟩ c (auditOperation request.operation exceeded) kind code).drafts =
              p.drafts ++ more ∧ ∀ d ∈ more, ¬ d.IsOpen := by
          unfold Projection.rejected
          dsimp only
          split
          · exact ⟨[], (List.append_nil _).symm, by simp⟩
          · refine ⟨_, rfl, ?_⟩
            intro d listed
            rw [List.mem_singleton.1 listed]
            rintro ⟨-, fine⟩
            cases fine
        obtain ⟨more, drafts, closed⟩ := drafts
        exact ⟨_, more, next, drafts, unheld more closed⟩
      · split at stepped <;> cases stepped
        all_goals exact ⟨p, [], read, (List.append_nil _).symm, unheld [] (by simp)⟩

end InstrumentBench.Visa
