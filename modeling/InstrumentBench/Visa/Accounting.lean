/-
# Visa.Accounting -- the broker's counters agree with the verifier

The service counts the journal's records by kind, and the evaluator replays the records
of each connection.  `accounting_agrees`: when the broker is frozen and no trusted
failure was recorded, both find what the summary says, for any number of connections
and any interleaving.  The invariant is per connection: `Balanced` relates a
connection's phase to its own records, the pending ones included, and no step of
another connection touches them.
-/
import Mathlib.Algebra.BigOperators.Group.Finset.Basic
import InstrumentBench.Visa.Invocation

namespace InstrumentBench.Visa

set_option autoImplicit false

open InstrumentBench.Theory

/-! ## Counting and replaying -/

def bodies (journal : List JournalEvent) : List Body := journal.map JournalEvent.body

/-- `_event_counts`, for one kind. -/
def count (k : EventKind) (events : List Body) : Nat := events.countP fun body => body.kind = k

/-- The records of one connection. -/
def stream (c : Nat) (journal : List JournalEvent) : List Body :=
  (bodies journal).filter fun body => body.connection = some c

@[simp] def EventKind.isScpi : EventKind → Bool
  | .scpiRead | .scpiReadResult | .scpiWrite | .scpiWriteResult => true
  | _ => false

@[simp] def EventKind.isRpc : EventKind → Bool
  | .rpcRequest | .rpcResult | .rpcReject => true
  | _ => false

/-- The SCPI records an operation may have made by the time it is answered or
rejected. -/
def permits (op : AuditedOperation) (answered : Bool) (scpi : List EventKind) : Bool :=
  match op with
  | .redacted _ _ _ => scpi = []
  | .plain t =>
      if t = Operation.read.name then
        if answered then scpi = [.scpiRead, .scpiReadResult]
        else scpi = [] || scpi = [.scpiRead]
      else if t = Operation.write.name then
        if answered then scpi = [.scpiWrite, .scpiWriteResult]
        else scpi = [] || scpi = [.scpiWrite]
      else scpi = []

/-- Where the verifier stands in one connection's records. -/
inductive Boundary where
  | clear
  | inFlight (operation : AuditedOperation) (scpi : List EventKind)
  | invalid
deriving DecidableEq

namespace Boundary

/-- One turn of the verifier's loop. -/
def next : Boundary → Body → Boundary
  | .invalid, _ => .invalid
  | .clear, .rpcRequest _ operation _ => .inFlight operation []
  | .clear, body => if body.kind.isRpc || body.kind.isScpi then .invalid else .clear
  | .inFlight operation scpi, body =>
      match body with
      | .rpcRequest _ _ _ => .invalid
      | .rpcResult _ answered _ _ =>
          if AuditedOperation.plain answered = operation ∧ permits operation true scpi then .clear
          else .invalid
      | .rpcReject _ rejected _ _ =>
          if rejected = operation ∧ permits operation false scpi then .clear else .invalid
      | body => .inFlight operation (if body.kind.isScpi then scpi ++ [body.kind] else scpi)

def replay (from_ : Boundary) (events : List Body) : Boundary := events.foldl next from_

end Boundary

/-- `_valid_rpc_boundaries` -/
def validRpcBoundaries (journal : List JournalEvent) : Bool :=
  ((bodies journal).filterMap Body.connection).all fun c =>
    Boundary.clear.replay (stream c journal) = .clear

/-- **The accounting checks** of `run_service` and of the evaluator. -/
structure Agrees (journal : List JournalEvent) (summary : BrokerSummary) : Prop where
  rpc : count .rpcRequest (bodies journal) =
    count .rpcResult (bodies journal) + count .rpcReject (bodies journal)
  sessions : count .sessionOpen (bodies journal) =
    count .sessionClose (bodies journal) + count .sessionForcedCleanup (bodies journal)
  leaked : count .sessionForcedCleanup (bodies journal) = summary.leakedSessions
  opened : count .connectionOpen (bodies journal) = summary.connections
  closed : count .connectionClose (bodies journal) = count .connectionOpen (bodies journal)
  queries : count .resourceQueryRequest (bodies journal) =
    count .resourceQueryResult (bodies journal) + count .resourceQueryReject (bodies journal)
  boundaries : validRpcBoundaries journal = true

@[simp] theorem count_nil (k : EventKind) : count k [] = 0 := rfl

@[simp] theorem count_append (k : EventKind) (events more : List Body) :
    count k (events ++ more) = count k events + count k more := by
  simp [count]

@[simp] theorem count_singleton (k : EventKind) (body : Body) :
    count k [body] = if body.kind = k then 1 else 0 := by
  simp [count, List.countP_singleton]

/-- Only the tracked kinds count. -/
theorem count_eq_tracked {k : EventKind} (tracked : k ≠ .untracked) (events : List Body) :
    count k events = (trackedKinds events).count k := by
  unfold count trackedKinds
  rw [List.count_filter (by simpa using tracked), List.count_eq_countP, List.countP_map]
  congr

/-- A record of no connection is not tracked. -/
theorem kind_of_connection_none {body : Body} (none : body.connection = none) :
    body.kind = .untracked := by
  cases body <;> simp_all [Body.connection, Body.kind]

/-- A connection's own records hold every tracked one. -/
theorem trackedKinds_own {c : Nat} {events : List Body}
    (own : ∀ body ∈ events, body.connection = some c ∨ body.connection = none) :
    trackedKinds (events.filter fun body => body.connection = some c) = trackedKinds events := by
  induction events with
  | nil => rfl
  | cons body rest ih =>
      have ih := ih fun b mem => own b (by simp [mem])
      rcases own body (by simp) with mine | none
      · rw [List.filter_cons_of_pos (by simp [mine]), trackedKinds_cons, ih, ← trackedKinds_cons]
      · rw [List.filter_cons_of_neg (by simp [none]), ih, trackedKinds_cons body]
        simp [trackedKinds, kind_of_connection_none none]

theorem quiet_of_tracked {events : List Body}
    (quiet : ∀ k ∈ trackedKinds events, k.isRpc = false) :
    ∀ body ∈ events, body.kind.isRpc = false := by
  intro body mem
  by_cases untracked : body.kind = .untracked
  · rw [untracked]
    rfl
  · exact quiet _ (by simpa [trackedKinds, untracked] using ⟨body, mem, rfl⟩)

theorem bodies_append (journal more : List JournalEvent) :
    bodies (journal ++ more) = bodies journal ++ bodies more := by
  simp [bodies]

theorem stream_append (c : Nat) (journal more : List JournalEvent) :
    stream c (journal ++ more) = stream c journal ++ stream c more := by
  simp [stream, bodies_append]

@[simp] theorem Boundary.replay_append (from_ : Boundary) (events more : List Body) :
    from_.replay (events ++ more) = (from_.replay events).replay more :=
  List.foldl_append

@[simp] theorem Boundary.replay_singleton (from_ : Boundary) (body : Body) :
    from_.replay [body] = from_.next body := rfl

theorem Boundary.next_inFlight {body : Body} (op : AuditedOperation) (scpi : List EventKind)
    (other : body.kind.isRpc = false) :
    (Boundary.inFlight op scpi).next body =
      .inFlight op (scpi ++ (trackedKinds [body]).filter EventKind.isScpi) := by
  cases body with
  | rpcRequest c operation args => cases other
  | rpcResult c operation result status => cases other
  | rpcReject c operation errorKind code => cases other
  | scpiRead c session n => rfl
  | scpiReadResult c session payload status => rfl
  | scpiWrite c session payload => rfl
  | scpiWriteResult c session n status => rfl
  | _ => simp [next, trackedKinds, Body.kind, EventKind.isScpi]

/-- Records that are no RPC records leave a request in flight and add their SCPI
records. -/
theorem Boundary.replay_inFlight {events : List Body} (op : AuditedOperation)
    (quiet : ∀ body ∈ events, body.kind.isRpc = false) (scpi : List EventKind) :
    (Boundary.inFlight op scpi).replay events =
      .inFlight op (scpi ++ (trackedKinds events).filter EventKind.isScpi) := by
  induction events generalizing scpi with
  | nil => simp [replay]
  | cons body rest ih =>
      calc (Boundary.inFlight op scpi).replay (body :: rest)
          = ((Boundary.inFlight op scpi).next body).replay rest := rfl
        _ = _ := by
            rw [next_inFlight op scpi (quiet body (by simp)),
              ih (fun b mem => quiet b (by simp [mem])), trackedKinds_cons body rest,
              List.filter_append, List.append_assoc]

/-! ## Phases and their records -/

/-- No handler of `dispatch` names the exception. -/
def fatalAnswer : Answer → Bool
  | .error e => (rejection e).isNone
  | .ok _ => false

namespace Phase

/-- The records a phase has yet to journal. -/
@[simp] def pending : Phase → List Body
  | .holding _ pending _ => pending
  | .cleaning pending _ => pending
  | _ => []

@[simp] def opened : Phase → Nat
  | .opening => 0
  | _ => 1

@[simp] def closes (p : Phase) : Nat := if p.isClosed then 1 else 0

/-- Requests journaled and not yet answered. -/
@[simp] def inFlight : Phase → Nat
  | .requested _ _ | .waiting _ _ | .holding _ _ _ | .answering _ _ _ | .failing => 1
  | _ => 0

/-- The sessions `disconnect` found open. -/
@[simp] def leaked : Phase → Nat
  | .cleaning _ n | .cleaned n | .closed n | .removed n => n
  | _ => 0

/-- `disconnect` has taken the sessions. -/
@[simp] def swept : Phase → Bool
  | .cleaning _ _ | .cleaned _ | .closed _ | .removed _ => true
  | _ => false

/-- Those of them that `_leaked_session_count` holds already. -/
@[simp] def recordedLeak : Phase → Nat
  | .cleaned n | .closed n | .removed n => n
  | _ => 0

/-- The request is about to end in a trusted failure. -/
@[simp] def doomed : Phase → Bool
  | .holding _ _ answer | .answering _ _ answer => fatalAnswer answer
  | _ => false

/-- Where the verifier stands after the phase's records.  A worker that fails has
recorded the trusted failure, so no accounted connection is `failing`. -/
@[simp] def Expects : Phase → Boundary → Prop
  | .requested request exceeded, at_ =>
      at_ = .inFlight (auditOperation request.operation exceeded) []
  | .waiting request op, at_ =>
      at_ = .inFlight (.plain request.operation) [] ∧ op.name = request.operation
  | .holding request _ answer, at_ =>
      ∃ scpi, at_ = .inFlight (.plain request.operation) scpi ∧
        permits (.plain request.operation) answer.isOk scpi = true
  | .answering request exceeded answer, at_ =>
      ∃ scpi, at_ = .inFlight (auditOperation request.operation exceeded) scpi ∧
        permits (auditOperation request.operation exceeded) answer.isOk scpi = true ∧
        (exceeded = true → answer.isOk = false)
  | .failing, _ => False
  | _, at_ => at_ = .clear

end Phase

/-- What a connection's records say about it. -/
structure Balanced (conn : Connection) (records : List Body) : Prop where
  opened : count .connectionOpen records = conn.phase.opened
  closed : count .connectionClose records = conn.phase.closes
  requests : count .rpcRequest records =
    count .rpcResult records + count .rpcReject records + conn.phase.inFlight
  sessions : count .sessionOpen records =
    count .sessionClose records + count .sessionForcedCleanup records + conn.sessions.length
  emptied : conn.phase.swept = true → conn.sessions = []
  forced : count .sessionForcedCleanup records = conn.phase.leaked
  queries : conn.phase.doomed = true ∨ count .resourceQueryRequest records =
    count .resourceQueryResult records + count .resourceQueryReject records
  boundary : conn.phase.Expects (Boundary.clear.replay records)

/-- A connection's records: the journaled ones and those it is about to journal. -/
def records (b : Broker) (c : Nat) (conn : Connection) : List Body :=
  stream c b.journal ++ conn.phase.pending.filter fun body => body.connection = some c

/-- **The invariant.** -/
structure Accounted (b : Broker) : Prop where
  connectionCount : b.connectionCount = b.connections.length
  leaked : b.leakedSessionCount =
    ∑ c ∈ Finset.range b.connections.length,
      ((b.connections[c]?.map fun conn => conn.phase.recordedLeak).getD 0)
  known : ∀ e ∈ b.journal, ∀ c, e.body.connection = some c → c < b.connections.length
  owned : ∀ (c : Nat) (conn : Connection), b.connections[c]? = some conn →
    ∀ body ∈ conn.phase.pending,
    body.connection = some c ∨ body.connection = none
  balanced : ∀ (c : Nat) (conn : Connection), b.connections[c]? = some conn → Balanced conn (records b c conn)
  finished : ∀ summary, b.summary = some summary → b.frozen = true ∧
    (∀ conn ∈ b.connections, conn.phase.isClosed = true) ∧
    summary = ⟨b.connectionCount, b.leakedSessionCount⟩

theorem accounted_initial (spec : WorldSpec) : Accounted (.initial spec) := by
  constructor <;> simp [Broker.initial]

/-! ## One connection at a time -/

/-- A step of connection `c` journals only its own records and touches only its own
entry. -/
theorem Accounted.update {b b' : Broker} {c : Nat} {conn conn' : Connection}
    {more : List JournalEvent} (acc : Accounted b) (entry : b.connections[c]? = some conn)
    (connections : b'.connections = b.connections.set c conn')
    (journal : b'.journal = b.journal ++ more)
    (own : ∀ e ∈ more, e.body.connection = some c ∨ e.body.connection = none)
    (total : b'.connectionCount = b.connectionCount)
    (leak : b'.leakedSessionCount + conn.phase.recordedLeak =
      b.leakedSessionCount + conn'.phase.recordedLeak)
    (finished : b'.summary = b.summary ∧ b'.frozen = b.frozen)
    (still : conn.phase.isClosed = true →
      conn'.phase.isClosed = true ∧ conn'.phase.recordedLeak = conn.phase.recordedLeak)
    (owned : ∀ body ∈ conn'.phase.pending, body.connection = some c ∨ body.connection = none)
    (balanced : Balanced conn' (records b' c conn')) : Accounted b' := by
  have inside : c < b.connections.length := (List.getElem?_eq_some_iff.1 entry).1
  have length : b'.connections.length = b.connections.length := by simp [connections]
  have here : b'.connections[c]? = some conn' := by
    rw [connections, List.getElem?_set_self inside]
  have elsewhere : ∀ d, d ≠ c → b'.connections[d]? = b.connections[d]? := by
    intro d other
    rw [connections, List.getElem?_set_ne (Ne.symm other)]
  constructor
  · rw [total, acc.connectionCount, length]
  · have others : ∑ d ∈ (Finset.range b.connections.length).erase c,
        ((b'.connections[d]?.map fun conn => conn.phase.recordedLeak).getD 0) =
        ∑ d ∈ (Finset.range b.connections.length).erase c,
          ((b.connections[d]?.map fun conn => conn.phase.recordedLeak).getD 0) := by
      apply Finset.sum_congr rfl
      intro d mem
      rw [elsewhere d (Finset.ne_of_mem_erase mem)]
    have member : c ∈ Finset.range b.connections.length := Finset.mem_range.2 inside
    have before := acc.leaked
    rw [length]
    rw [← Finset.add_sum_erase _ _ member] at before ⊢
    rw [entry] at before
    rw [here, others]
    simp only [Option.map_some, Option.getD_some] at before ⊢
    omega
  · intro e mem d at_
    rw [journal, List.mem_append] at mem
    rw [length]
    rcases mem with mem | mem
    · exact acc.known e mem d at_
    · rcases own e mem with mine | none
      · rw [mine, Option.some.injEq] at at_
        exact at_ ▸ inside
      · rw [none] at at_
        cases at_
  · intro d conn₂ at_ body mem
    by_cases same : d = c
    · subst same
      rw [here, Option.some.injEq] at at_
      subst at_
      exact owned body mem
    · exact acc.owned d conn₂ (elsewhere d same ▸ at_) body mem
  · intro d conn₂ at_
    by_cases same : d = c
    · subst same
      rw [here, Option.some.injEq] at at_
      subst at_
      exact balanced
    · have foreign : stream d more = [] := by
        simp only [stream, bodies, List.filter_eq_nil_iff, List.mem_map]
        rintro body ⟨e, mem, rfl⟩
        rcases own e mem with mine | none <;> simp [*, Ne.symm same]
      have kept : records b' d conn₂ = records b d conn₂ := by
        simp [records, journal, stream_append, foreign]
      rw [kept]
      exact acc.balanced d conn₂ (elsewhere d same ▸ at_)
  · intro summary made
    obtain ⟨frozen, all, same⟩ := acc.finished summary (finished.1 ▸ made)
    have closed := still (all conn (List.mem_of_getElem? entry))
    refine ⟨finished.2 ▸ frozen, ?_, ?_⟩
    · intro conn₂ mem
      rw [connections] at mem
      rcases List.mem_or_eq_of_mem_set mem with mem | rfl
      · exact all conn₂ mem
      · exact closed.1
    · rw [same, total]
      have := closed.2
      congr 1
      omega

theorem records_of_pending {b : Broker} {c : Nat} {conn : Connection}
    (none : conn.phase.pending = []) : records b c conn = stream c b.journal := by
  unfold records
  rw [none]
  exact List.append_nil _

theorem stream_singleton {c : Nat} {e : JournalEvent} (mine : e.body.connection = some c) :
    stream c [e] = [e.body] := by
  simp [stream, bodies, mine]

/-- A step that journals one record of its connection. -/
theorem Accounted.journaled {b : Broker} {c : Nat} {conn conn' : Connection} {body : Body}
    {now : Int} (acc : Accounted b) (entry : b.connections[c]? = some conn)
    (mine : body.connection = some c) (emptied : conn.phase.pending = [])
    (empty : conn'.phase.pending = [])
    (leak : conn'.phase.recordedLeak = conn.phase.recordedLeak)
    (open_ : conn.phase.isClosed = false)
    (balanced : Balanced conn (stream c b.journal) →
      Balanced conn' (stream c b.journal ++ [body])) :
    Accounted ((b.append now body).setConnection c conn') := by
  have before := acc.balanced c conn entry
  rw [records_of_pending emptied] at before
  refine acc.update entry rfl rfl ?_ rfl ?_ ⟨rfl, rfl⟩ ?_ ?_ ?_
  · intro e mem
    rw [List.mem_singleton.1 mem]
    exact Or.inl mine
  · show b.leakedSessionCount + _ = _
    rw [leak]
  · intro closed
    rw [open_] at closed
    cases closed
  · rw [empty]
    simp
  · rw [records_of_pending empty]
    show Balanced conn' (stream c (b.journal ++ [_]))
    rw [stream_append, stream_singleton mine]
    exact balanced before

/-- A step that journals nothing and settles no record. -/
theorem Accounted.quietly {b : Broker} {c : Nat} {conn conn' : Connection} (acc : Accounted b)
    (entry : b.connections[c]? = some conn) (emptied : conn.phase.pending = [])
    (empty : conn'.phase.pending = [])
    (leak : conn'.phase.recordedLeak = conn.phase.recordedLeak)
    (still : conn.phase.isClosed = true → conn'.phase.isClosed = true)
    (balanced : Balanced conn (stream c b.journal) → Balanced conn' (stream c b.journal)) :
    Accounted (b.setConnection c conn') := by
  have before := acc.balanced c conn entry
  rw [records_of_pending emptied] at before
  refine acc.update entry rfl (List.append_nil _).symm ?_ rfl ?_ ⟨rfl, rfl⟩ ?_ ?_ ?_
  · simp
  · show b.leakedSessionCount + _ = _
    rw [leak]
  · exact fun closed => ⟨still closed, leak⟩
  · rw [empty]
    simp
  · rw [records_of_pending empty]
    exact balanced before

/-- A step that journals the next of a connection's pending records. -/
theorem Accounted.emitted {b : Broker} {c : Nat} {conn conn' : Connection} {body : Body}
    {rest : List Body} {now : Int} (acc : Accounted b) (entry : b.connections[c]? = some conn)
    (holding : conn.phase.pending = body :: rest) (left : conn'.phase.pending = rest)
    (leak : conn'.phase.recordedLeak = conn.phase.recordedLeak)
    (open_ : conn.phase.isClosed = false)
    (balanced : ∀ v, Balanced conn v → Balanced conn' v) :
    Accounted ((b.append now body).setConnection c conn') := by
  have owned := acc.owned c conn entry
  rw [holding] at owned
  refine acc.update entry rfl rfl ?_ rfl ?_ ⟨rfl, rfl⟩ ?_ ?_ ?_
  · intro e mem
    rw [List.mem_singleton.1 mem]
    exact owned body (by simp)
  · show b.leakedSessionCount + _ = _
    rw [leak]
  · intro closed
    rw [open_] at closed
    cases closed
  · rw [left]
    exact fun other mem => owned other (by simp [mem])
  · apply balanced
    -- the record moves from the pending ones to the journal, or belongs to no connection
    have same : records ((b.append now body).setConnection c conn') c conn' = records b c conn := by
      simp only [records, left, holding]
      show stream c (b.journal ++ [_]) ++ _ = _
      rw [stream_append, List.append_assoc]
      congr 1
      rcases owned body (by simp) with mine | none
      · rw [stream_singleton mine, List.filter_cons_of_pos (by simp [mine])]
        rfl
      · rw [List.filter_cons_of_neg (by simp [none])]
        simp [stream, bodies, none]
    rw [same]
    exact acc.balanced c conn entry

/-! ## The outcomes of an invocation -/

theorem permits_name (op : Operation) (answered : Bool) (scpi : List EventKind) :
    permits (.plain op.name) answered scpi =
      match op with
      | .read =>
          if answered then decide (scpi = [.scpiRead, .scpiReadResult])
          else decide (scpi = []) || decide (scpi = [.scpiRead])
      | .write =>
          if answered then decide (scpi = [.scpiWrite, .scpiWriteResult])
          else decide (scpi = []) || decide (scpi = [.scpiWrite])
      | _ => decide (scpi = []) := by
  have read : ∀ op : Operation, op.name = Operation.read.name ↔ op = .read := by
    intro op
    cases op <;> decide
  have write : ∀ op : Operation, op.name = Operation.write.name ↔ op = .write := by
    intro op
    cases op <;> decide
  simp only [permits, read, write]
  cases op <;> simp

theorem length_eraseP_lookup {sessions : Sessions} {token : Text} {remote : RemoteSession}
    (held : sessions.lookup token = some remote) :
    (sessions.eraseP fun entry => entry.1 = token).length + 1 = sessions.length := by
  induction sessions with
  | nil => cases held
  | cons entry rest ih =>
      obtain ⟨name, r⟩ := entry
      by_cases same : name = token
      · simp [List.eraseP_cons_of_pos, same]
      · rw [List.lookup_cons, beq_false_of_ne (Ne.symm same)] at held
        rw [List.eraseP_cons_of_neg (by simpa using same), List.length_cons, List.length_cons,
          ih held]

section Outcomes

variable {x : Call} {op : Operation} {kinds : List EventKind} {left : Sessions}
  {answer : Answer}

theorem Outcome.quiet (h : Outcome x op kinds left answer) :
    ∀ k ∈ kinds, k.isRpc = false := by
  cases h <;> simp

/-- No invocation opens or closes a connection, journals an RPC record or forces a
session closed. -/
theorem Outcome.plain (h : Outcome x op kinds left answer) (k : EventKind)
    (outer : k ∈ [.connectionOpen, .connectionClose, .rpcRequest, .rpcResult, .rpcReject,
      .sessionForcedCleanup]) : kinds.count k = 0 := by
  cases h <;> cases k <;> first | rfl | simp at outer

theorem Outcome.sessions (h : Outcome x op kinds left answer) :
    kinds.count .sessionOpen + x.sessions.length =
      kinds.count .sessionClose + left.length := by
  cases h with
  | granted remote value opens => simp [Nat.add_comm]
  | closed value held =>
      have := length_eraseP_lookup held
      simp only [List.count_singleton_self, List.count_singleton]
      simp
      omega
  | _ => simp

theorem Outcome.queries (h : Outcome x op kinds left answer) :
    fatalAnswer answer = true ∨ kinds.count .resourceQueryRequest =
      kinds.count .resourceQueryResult + kinds.count .resourceQueryReject := by
  cases h with
  | queryFailed trusted => exact Or.inl (by simp [fatalAnswer, trusted])
  | _ => exact Or.inr (by simp)

theorem Outcome.permitted (h : Outcome x op kinds left answer) :
    permits (.plain op.name) answer.isOk (kinds.filter EventKind.isScpi) = true := by
  rw [permits_name]
  cases h with
  | refused op e => cases op <;> simp [Except.isOk, Except.toBool]
  | answered value reads writes => cases op <;> simp_all
  | granted remote value opens => rcases opens with rfl | rfl <;> simp
  | _ => simp [Except.isOk, Except.toBool]

end Outcomes

/-! ## The steps of a connection -/

section Moves

variable {conn : Connection} {v : List Body}

theorem permits_nil (op : AuditedOperation) : permits op false [] = true := by
  cases op with
  | redacted n m sha => rfl
  | plain t => simp [permits]

theorem Balanced.opening (h : Balanced conn v) (c : Nat) (phase : conn.phase = .opening) :
    Balanced { conn with phase := .idle } (v ++ [.connectionOpen c]) := by
  obtain ⟨opened, closed, requests, sessions, emptied, forced, queries, boundary⟩ := h
  rw [phase] at opened closed requests emptied forced queries boundary
  constructor <;> simp_all [Body.kind, Boundary.next, Phase.isClosed]

theorem Balanced.received (h : Balanced conn v) (request : Request) (exceeded : Bool) (n : Nat)
    (phase : conn.phase = .idle) :
    Balanced { conn with requestCount := n, phase := .counted request exceeded } v := by
  obtain ⟨opened, closed, requests, sessions, emptied, forced, queries, boundary⟩ := h
  rw [phase] at opened closed requests emptied forced queries boundary
  constructor <;> simp_all [Phase.isClosed]

theorem Balanced.counted (h : Balanced conn v) (c : Nat) {request : Request} {exceeded : Bool}
    (args : AuditedArgs) (phase : conn.phase = .counted request exceeded) :
    Balanced { conn with phase := .requested request exceeded }
      (v ++ [.rpcRequest c (auditOperation request.operation exceeded) args]) := by
  obtain ⟨opened, closed, requests, sessions, emptied, forced, queries, boundary⟩ := h
  rw [phase] at opened closed requests emptied forced queries boundary
  constructor <;> simp_all [Body.kind, Boundary.next, Phase.isClosed]

theorem Balanced.decided (h : Balanced conn v) {request : Request} {exceeded : Bool}
    {answer : Answer} (phase : conn.phase = .requested request exceeded)
    (settled : permits (auditOperation request.operation exceeded) answer.isOk [] = true)
    (limited : exceeded = true → answer.isOk = false) :
    Balanced { conn with phase := .answering request exceeded answer } v := by
  obtain ⟨opened, closed, requests, sessions, emptied, forced, queries, boundary⟩ := h
  rw [phase] at opened closed requests emptied forced queries boundary
  constructor <;> simp_all [Phase.isClosed]

theorem Balanced.admitted (h : Balanced conn v) {request : Request} {op : Operation}
    (phase : conn.phase = .requested request false) (named : op.name = request.operation) :
    Balanced { conn with phase := .waiting request op } v := by
  obtain ⟨opened, closed, requests, sessions, emptied, forced, queries, boundary⟩ := h
  rw [phase] at opened closed requests emptied forced queries boundary
  constructor <;> simp_all [Phase.isClosed, auditOperation]

/-- An invocation keeps the balance, whichever of its outcomes it has. -/
theorem Balanced.invoked (h : Balanced conn v) {c : Nat} {x : Call} {request : Request}
    {op : Operation} {inv : Invocation} (phase : conn.phase = .waiting request op)
    (mine : x.connection = c) (held : x.sessions = conn.sessions) (behaves : inv.Behaves x op) :
    Balanced { conn with
        sessions := inv.sessions, phase := .holding request inv.events inv.result }
      (v ++ inv.events.filter fun body => body.connection = some c) := by
  obtain ⟨opened, closed, requests, sessions, emptied, forced, queries, boundary⟩ := h
  rw [phase] at opened closed requests emptied forced queries boundary
  obtain ⟨at_, named⟩ := boundary
  obtain ⟨outcome, own⟩ := behaves
  rw [mine] at own
  have tracked := trackedKinds_own own
  have counts : ∀ k, k ≠ .untracked →
      count k (inv.events.filter fun body => decide (body.connection = some c)) =
        (trackedKinds inv.events).count k := by
    intro k real
    rw [count_eq_tracked real, tracked]
  have quiet := quiet_of_tracked (tracked.symm ▸ outcome.quiet)
  have plain := outcome.plain
  have held_sessions := outcome.sessions
  have asked := outcome.queries
  rw [held] at held_sessions
  constructor
  case opened => simp [opened, counts, plain]
  case closed => simp_all [Phase.isClosed]
  case requests => simp_all
  case sessions =>
    have h₁ := counts .sessionOpen (by simp)
    have h₂ := counts .sessionClose (by simp)
    have h₃ := counts .sessionForcedCleanup (by simp)
    have h₄ := plain .sessionForcedCleanup (by simp)
    simp only [count_append]
    omega
  case emptied => intro swept; cases swept
  case forced => simp_all
  case queries =>
    rcases asked with fatal | balanced
    · exact Or.inl fatal
    · refine Or.inr ?_
      simp_all
      omega
  case boundary =>
    refine ⟨(trackedKinds inv.events).filter EventKind.isScpi, ?_, named ▸ outcome.permitted⟩
    rw [Boundary.replay_append, at_, Boundary.replay_inFlight _ quiet, tracked, List.nil_append]

theorem Balanced.emitted (h : Balanced conn v) {request : Request} {body : Body}
    {rest : List Body} {answer : Answer} (phase : conn.phase = .holding request (body :: rest) answer) :
    Balanced { conn with phase := .holding request rest answer } v := by
  obtain ⟨opened, closed, requests, sessions, emptied, forced, queries, boundary⟩ := h
  rw [phase] at opened closed requests emptied forced queries boundary
  exact ⟨opened, closed, requests, sessions, emptied, forced, queries, boundary⟩

theorem Balanced.swept (h : Balanced conn v) {body : Body} {rest : List Body} {leaked : Nat}
    (phase : conn.phase = .cleaning (body :: rest) leaked) :
    Balanced { conn with phase := .cleaning rest leaked } v := by
  obtain ⟨opened, closed, requests, sessions, emptied, forced, queries, boundary⟩ := h
  rw [phase] at opened closed requests emptied forced queries boundary
  exact ⟨opened, closed, requests, sessions, emptied, forced, queries, boundary⟩

theorem Balanced.released (h : Balanced conn v) {request : Request} {answer : Answer}
    (phase : conn.phase = .holding request [] answer) :
    Balanced { conn with phase := .answering request false answer } v := by
  obtain ⟨opened, closed, requests, sessions, emptied, forced, queries, boundary⟩ := h
  rw [phase] at opened closed requests emptied forced queries boundary
  constructor <;> simp_all [Phase.isClosed, auditOperation]

theorem Balanced.answered (h : Balanced conn v) (c : Nat) {request : Request} {exceeded : Bool}
    {result : WireValue} {status : Option Int}
    (phase : conn.phase = .answering request exceeded (.ok (result, status))) :
    Balanced { conn with phase := if exceeded then .ending else .idle }
      (v ++ [.rpcResult c request.operation result status]) := by
  obtain ⟨opened, closed, requests, sessions, emptied, forced, queries, boundary⟩ := h
  rw [phase] at opened closed requests emptied forced queries boundary
  obtain ⟨scpi, at_, permitted, limited⟩ := boundary
  have plain : exceeded = false := by
    cases exceeded with
    | false => rfl
    | true => exact absurd (limited rfl) (by simp [Except.isOk, Except.toBool])
  subst plain
  constructor <;>
    simp_all [Body.kind, Boundary.next, Phase.isClosed, auditOperation, fatalAnswer, Except.isOk,
      Except.toBool]
  omega

theorem Balanced.rejected (h : Balanced conn v) (c : Nat) {request : Request} {exceeded : Bool}
    {e : Raise} {kind : Text} {code : Int}
    (phase : conn.phase = .answering request exceeded (.error e))
    (handled : rejection e = some (kind, code)) :
    Balanced { conn with phase := if exceeded then .ending else .idle }
      (v ++ [.rpcReject c (auditOperation request.operation exceeded) kind code]) := by
  obtain ⟨opened, closed, requests, sessions, emptied, forced, queries, boundary⟩ := h
  rw [phase] at opened closed requests emptied forced queries boundary
  obtain ⟨scpi, at_, permitted, limited⟩ := boundary
  cases exceeded <;> constructor <;>
    simp_all [Body.kind, Boundary.next, Phase.isClosed, fatalAnswer, Except.isOk, Except.toBool]
  all_goals omega

theorem Balanced.malformed (h : Balanced conn v) (c : Nat) (phase : conn.phase = .idle)
    (reason : Text) :
    Balanced { conn with phase := .ending } (v ++ [.connectionReject (some c) reason]) := by
  obtain ⟨opened, closed, requests, sessions, emptied, forced, queries, boundary⟩ := h
  rw [phase] at opened closed requests emptied forced queries boundary
  constructor <;> simp_all [Body.kind, Boundary.next, Phase.isClosed]

theorem trackedKinds_cleanUp (c : Nat) (sessions : Sessions) (lib : Library) :
    trackedKinds (cleanUp c sessions lib).1 =
      List.replicate sessions.length .sessionForcedCleanup := by
  induction sessions generalizing lib with
  | nil => rfl
  | cons entry rest ih =>
      simp only [cleanUp]
      rw [trackedKinds_cons, ih, List.length_cons, List.replicate_succ]
      rfl

theorem cleanUp_kind (c : Nat) (sessions : Sessions) (lib : Library) :
    ∀ body ∈ (cleanUp c sessions lib).1, body.kind = .sessionForcedCleanup := by
  induction sessions generalizing lib with
  | nil => simp [cleanUp]
  | cons entry rest ih =>
      simp only [cleanUp, List.mem_cons, forall_eq_or_imp]
      exact ⟨rfl, ih _⟩

theorem cleanUp_own (c : Nat) (sessions : Sessions) (lib : Library) :
    ∀ body ∈ (cleanUp c sessions lib).1, body.connection = some c := by
  induction sessions generalizing lib with
  | nil => simp [cleanUp]
  | cons entry rest ih =>
      simp only [cleanUp, List.mem_cons, forall_eq_or_imp]
      exact ⟨rfl, ih _⟩

theorem Boundary.replay_clear {events : List Body}
    (quiet : ∀ body ∈ events, body.kind = .sessionForcedCleanup) :
    Boundary.clear.replay events = .clear := by
  induction events with
  | nil => rfl
  | cons body rest ih =>
      have forced := quiet body (by simp)
      have step : Boundary.clear.next body = .clear := by
        cases body <;> first | rfl | cases forced
      calc Boundary.clear.replay (body :: rest)
          = (Boundary.clear.next body).replay rest := rfl
        _ = .clear := by rw [step, ih fun b mem => quiet b (by simp [mem])]

theorem Balanced.disconnecting (h : Balanced conn v) (c : Nat) (lib : Library)
    (phase : conn.phase = .idle ∨ conn.phase = .ending) :
    Balanced { conn with
        sessions := [], closed := true,
        phase := .cleaning (cleanUp c conn.sessions.reverse lib).1 conn.sessions.length }
      (v ++ (cleanUp c conn.sessions.reverse lib).1) := by
  obtain ⟨opened, closed, requests, sessions, emptied, forced, queries, boundary⟩ := h
  have kinds := trackedKinds_cleanUp c conn.sessions.reverse lib
  have counts : ∀ k, k ≠ .untracked → count k (cleanUp c conn.sessions.reverse lib).1 =
      (List.replicate conn.sessions.length EventKind.sessionForcedCleanup).count k := by
    intro k real
    rw [count_eq_tracked real, kinds, List.length_reverse]
  have quiet : Boundary.clear.replay (cleanUp c conn.sessions.reverse lib).1 = .clear :=
    Boundary.replay_clear (cleanUp_kind c conn.sessions.reverse lib)
  obtain ⟨o, cl, fl, lk, dm, ex⟩ : conn.phase.opened = 1 ∧ conn.phase.closes = 0 ∧
      conn.phase.inFlight = 0 ∧ conn.phase.leaked = 0 ∧ conn.phase.doomed = false ∧
      ∀ at_, conn.phase.Expects at_ → at_ = .clear := by
    rcases phase with phase | phase <;> rw [phase] <;>
      exact ⟨rfl, rfl, rfl, rfl, rfl, fun _ clear => clear⟩
  have forcing := counts .sessionForcedCleanup (by simp)
  rw [List.count_replicate_self] at forcing
  have others : ∀ k, k ≠ .untracked → k ≠ .sessionForcedCleanup →
      count k (cleanUp c conn.sessions.reverse lib).1 = 0 := by
    intro k real other
    rw [counts k real, List.count_replicate]
    simp [Ne.symm other]
  constructor
  case opened => rw [count_append, others _ (by simp) (by simp), opened, o]; rfl
  case closed => rw [count_append, others _ (by simp) (by simp), closed, cl]; rfl
  case requests =>
    simp only [count_append, others .rpcRequest (by simp) (by simp),
      others .rpcResult (by simp) (by simp), others .rpcReject (by simp) (by simp)]
    rw [requests, fl]
    rfl
  case sessions =>
    simp only [count_append, forcing, others .sessionOpen (by simp) (by simp),
      others .sessionClose (by simp) (by simp), List.length_nil]
    omega
  case emptied => exact fun _ => rfl
  case forced =>
    rw [count_append, forcing, forced, lk]
    exact Nat.zero_add _
  case queries =>
    refine Or.inr ?_
    rcases queries with doomed | balanced
    · rw [dm] at doomed
      cases doomed
    · simp only [count_append, others .resourceQueryRequest (by simp) (by simp),
        others .resourceQueryResult (by simp) (by simp),
        others .resourceQueryReject (by simp) (by simp), balanced, Nat.add_zero]
  case boundary => rw [Boundary.replay_append, ex _ boundary, quiet]; rfl

theorem Balanced.cleaned (h : Balanced conn v) {leaked : Nat}
    (phase : conn.phase = .cleaning [] leaked) :
    Balanced { conn with phase := .cleaned leaked } v := by
  obtain ⟨opened, closed, requests, sessions, emptied, forced, queries, boundary⟩ := h
  rw [phase] at opened closed requests emptied forced queries boundary
  constructor <;> simp_all [Phase.isClosed]

theorem Balanced.closing (h : Balanced conn v) (c : Nat) {leaked : Nat}
    (phase : conn.phase = .cleaned leaked) :
    Balanced { conn with phase := .closed leaked } (v ++ [.connectionClose c leaked]) := by
  obtain ⟨opened, closed, requests, sessions, emptied, forced, queries, boundary⟩ := h
  rw [phase] at opened closed requests emptied forced queries boundary
  constructor <;> simp_all [Body.kind, Boundary.next, Phase.isClosed]

theorem Balanced.removing (h : Balanced conn v) {leaked : Nat}
    (phase : conn.phase = .closed leaked) : Balanced { conn with phase := .removed leaked } v := by
  obtain ⟨opened, closed, requests, sessions, emptied, forced, queries, boundary⟩ := h
  rw [phase] at opened closed requests emptied forced queries boundary
  constructor <;> simp_all [Phase.isClosed]

end Moves

/-! ## One step -/

/-- Of the answers settled before the operation lock, only that of `hello` is a result. -/
theorem decide?_ok {exceeded closed : Bool} {peerUid : Nat} {operation : Text} {args : Args}
    {answer : Answer} (settled : decide? exceeded closed peerUid operation args = .answer answer)
    (accepted : answer.isOk = true) : exceeded = false ∧ operation = txt "hello" := by
  unfold decide? at settled
  split at settled
  · cases settled
    cases accepted
  case isFalse within =>
    refine ⟨by simpa using within, ?_⟩
    by_contra other
    rw [if_neg other] at settled
    repeat' split at settled
    all_goals first | (cases settled; done) | (cases settled; cases accepted)

/-- An answer settled before the operation lock needs no SCPI record. -/
theorem decide?_answer {exceeded closed : Bool} {peerUid : Nat} {operation : Text} {args : Args}
    {answer : Answer} (settled : decide? exceeded closed peerUid operation args = .answer answer) :
    permits (auditOperation operation exceeded) answer.isOk [] = true ∧
      (exceeded = true → answer.isOk = false) := by
  cases accepted : answer.isOk with
  | false => exact ⟨permits_nil _, fun _ => rfl⟩
  | true =>
      obtain ⟨rfl, rfl⟩ := decide?_ok settled accepted
      exact ⟨by decide, fun limited => by cases limited⟩

theorem decide?_invoke {exceeded closed : Bool} {peerUid : Nat} {operation : Text} {args : Args}
    {op : Operation} (settled : decide? exceeded closed peerUid operation args = .invoke op) :
    exceeded = false ∧ op.name = operation := by
  unfold decide? at settled
  repeat' split at settled
  all_goals try cases settled
  rename_i found
  exact ⟨by simp_all, Operation.name_of_ofText? found⟩

/-- A worker that takes or leaves the operation lock journals nothing then; its pending
records count already. -/
theorem Accounted.locked {b b' : Broker} {c : Nat} {conn conn' : Connection} (acc : Accounted b)
    (entry : b.connections[c]? = some conn)
    (connections : b'.connections = b.connections.set c conn') (journal : b'.journal = b.journal)
    (total : b'.connectionCount = b.connectionCount)
    (leak : b'.leakedSessionCount + conn.phase.recordedLeak =
      b.leakedSessionCount + conn'.phase.recordedLeak)
    (finished : b'.summary = b.summary ∧ b'.frozen = b.frozen)
    (emptied : conn.phase.pending = []) (open_ : conn.phase.isClosed = false)
    (owned : ∀ body ∈ conn'.phase.pending, body.connection = some c ∨ body.connection = none)
    (balanced : ∀ v, Balanced conn v →
      Balanced conn' (v ++ conn'.phase.pending.filter fun body => body.connection = some c)) :
    Accounted b' := by
  have before := acc.balanced c conn entry
  rw [records_of_pending emptied] at before
  refine acc.update entry connections (journal.trans (List.append_nil _).symm) ?_ total leak
    finished ?_ owned ?_
  · simp
  · intro closed
    rw [open_] at closed
    cases closed
  · unfold records
    rw [journal]
    exact balanced _ before

theorem advance_accounted {setup : Setup} {b b' : Broker} {now : Int} {c : Nat}
    {conn : Connection} {env : Env} (acc : b.fatalError = false → Accounted b)
    (entry : b.connections[c]? = some conn)
    (stepped : advance setup b now c conn env = some b') (sound : b'.fatalError = false) :
    Accounted b' := by
  unfold advance at stepped
  split at stepped
  case h_1 phase =>
    cases stepped
    exact (acc sound).journaled entry rfl (by rw [phase]; rfl) rfl (by rw [phase]; rfl)
      (by rw [phase]; rfl) fun h => h.opening c phase
  case h_2 => cases stepped
  case h_3 request exceeded phase =>
    cases stepped
    exact (acc sound).journaled entry rfl (by rw [phase]; rfl) rfl (by rw [phase]; rfl)
      (by rw [phase]; rfl) fun h => h.counted c _ phase
  case h_4 request exceeded phase =>
    have unclosed : conn.phase.isClosed = true → False := by
      rw [phase]
      intro closed
      cases closed
    split at stepped
    case h_1 answer settled =>
      cases stepped
      obtain ⟨settled, limited⟩ := decide?_answer settled
      exact (acc sound).quietly entry (by rw [phase]; rfl) rfl (by rw [phase]; rfl)
        (fun closed => (unclosed closed).elim) fun h => h.decided phase settled limited
    case h_2 op settled =>
      cases stepped
      obtain ⟨rfl, named⟩ := decide?_invoke settled
      exact (acc sound).quietly entry (by rw [phase]; rfl) rfl (by rw [phase]; rfl)
        (fun closed => (unclosed closed).elim) fun h => h.admitted phase named
  case h_5 request op phase =>
    split at stepped
    case isFalse => cases stepped
    case isTrue =>
      cases stepped
      have behaves := setup.invoke_behaves ⟨c, env, request.args, conn.sessions, b.library⟩ op
      exact (acc sound).locked entry rfl rfl rfl (by rw [phase]; rfl) ⟨rfl, rfl⟩
        (by rw [phase]; rfl) (by rw [phase]; rfl) behaves.2
        fun v h => h.invoked phase rfl rfl behaves
  case h_6 request body rest answer phase =>
    cases stepped
    exact (acc sound).emitted entry (by rw [phase]; rfl) rfl (by rw [phase]; rfl)
      (by rw [phase]; rfl) fun v h => h.emitted phase
  case h_7 request answer phase =>
    cases stepped
    exact (acc sound).locked entry rfl rfl rfl (by rw [phase]; rfl) ⟨rfl, rfl⟩
      (by rw [phase]; rfl) (by rw [phase]; rfl) (by simp)
      fun v h => by simpa using h.released phase
  case h_8 request exceeded result status phase =>
    cases stepped
    exact (acc sound).journaled entry rfl (by rw [phase]; rfl) (by cases exceeded <;> rfl)
      (by rw [phase]; cases exceeded <;> rfl) (by rw [phase]; rfl) fun h => h.answered c phase
  case h_9 request exceeded e phase =>
    split at stepped
    case h_1 kind code handled =>
      cases stepped
      exact (acc sound).journaled entry rfl (by rw [phase]; rfl) (by cases exceeded <;> rfl)
        (by rw [phase]; cases exceeded <;> rfl) (by rw [phase]; rfl)
        fun h => h.rejected c phase handled
    case h_2 =>
      -- the trusted failure is recorded, now or before
      split at stepped
      case isTrue fatal =>
        cases stepped
        exact absurd (fatal.symm.trans sound) (by simp)
      case isFalse =>
        cases stepped
        cases sound
  case h_10 phase =>
    cases stepped
    have before := (acc sound).balanced c conn entry
    have failed := before.boundary
    rw [phase] at failed
    exact failed.elim
  case h_11 => cases stepped
  case h_12 body rest leaked phase =>
    cases stepped
    exact (acc sound).emitted entry (by rw [phase]; rfl) rfl (by rw [phase]; rfl)
      (by rw [phase]; rfl) fun v h => h.swept phase
  case h_13 leaked phase =>
    cases stepped
    exact (acc sound).locked entry rfl rfl rfl (by rw [phase]; rfl) ⟨rfl, rfl⟩
      (by rw [phase]; rfl) (by rw [phase]; rfl) (by simp)
      fun v h => by simpa using h.cleaned phase
  case h_14 leaked phase =>
    cases stepped
    exact (acc sound).journaled entry rfl (by rw [phase]; rfl) rfl (by rw [phase]; rfl)
      (by rw [phase]; rfl) fun h => h.closing c phase
  case h_15 leaked phase =>
    cases stepped
    exact (acc sound).quietly entry (by rw [phase]; rfl) rfl (by rw [phase]; rfl)
      (fun _ => rfl) fun h => h.removing phase
  case h_16 => cases stepped

/-- A record of no connection is nobody's. -/
theorem Accounted.noted {b : Broker} {body : Body} {now : Int} (acc : Accounted b)
    (none : body.connection = none) : Accounted (b.append now body) := by
  have foreign : ∀ c, stream c (b.append now body).journal = stream c b.journal := by
    intro c
    show stream c (b.journal ++ [_]) = _
    rw [stream_append]
    simp [stream, bodies, none]
  refine ⟨acc.connectionCount, acc.leaked, ?_, acc.owned, ?_, acc.finished⟩
  · intro e mem c at_
    rcases List.mem_append.1 mem with mem | mem
    · exact acc.known e mem c at_
    · rw [List.mem_singleton.1 mem, none] at at_
      cases at_
  · intro c conn entry
    have kept : records (b.append now body) c conn = records b c conn := by
      unfold records
      rw [foreign]
    exact kept ▸ acc.balanced c conn entry

theorem Balanced.fresh (peerUid : Nat) : Balanced ⟨peerUid, [], 0, false, .opening⟩ [] := by
  constructor <;> simp [Boundary.replay, Phase.isClosed]

/-- A connection not yet known has no records. -/
theorem Accounted.stream_unknown {b : Broker} (acc : Accounted b) :
    stream b.connections.length b.journal = [] := by
  simp only [stream, bodies, List.filter_eq_nil_iff, List.mem_map]
  rintro body ⟨e, mem, rfl⟩ mine
  exact Nat.lt_irrefl _ (acc.known e mem _ (by simpa using mine))

theorem Accounted.connected {b : Broker} (acc : Accounted b) (open_ : b.frozen = false)
    (peerUid : Nat) :
    Accounted { b with
      connections := b.connections ++ [⟨peerUid, [], 0, false, .opening⟩]
      connectionCount := b.connectionCount + 1 } := by
  have entries : ∀ (c : Nat) (conn : Connection),
      (b.connections ++ [⟨peerUid, [], 0, false, .opening⟩])[c]? = some conn →
        b.connections[c]? = some conn ∨
          (c = b.connections.length ∧ conn = ⟨peerUid, [], 0, false, .opening⟩) := by
    intro c conn at_
    rcases Nat.lt_trichotomy c b.connections.length with inside | last | outside
    · exact Or.inl (List.getElem?_append_left inside ▸ at_)
    · subst last
      simp only [List.getElem?_concat_length, Option.some.injEq] at at_
      exact Or.inr ⟨rfl, at_.symm⟩
    · rw [List.getElem?_eq_none (by simp; omega)] at at_
      cases at_
  refine ⟨?_, ?_, ?_, ?_, ?_, ?_⟩
  · simp [acc.connectionCount]
  · show b.leakedSessionCount = _
    rw [acc.leaked, List.length_append, List.length_singleton, Finset.sum_range_succ]
    simp only [List.getElem?_concat_length, Option.map_some, Option.getD_some, Phase.recordedLeak,
      Nat.add_zero]
    apply Finset.sum_congr rfl
    intro c mem
    rw [List.getElem?_append_left (Finset.mem_range.1 mem)]
  · intro e mem c at_
    have := acc.known e mem c at_
    simp only [List.length_append, List.length_singleton]
    omega
  · intro c conn at_
    rcases entries c conn at_ with before | ⟨rfl, rfl⟩
    · exact acc.owned c conn before
    · simp
  · intro c conn at_
    rcases entries c conn at_ with before | ⟨rfl, rfl⟩
    · exact acc.balanced c conn before
    · have none : records b b.connections.length ⟨peerUid, [], 0, false, .opening⟩ = [] :=
        (records_of_pending rfl).trans acc.stream_unknown
      exact none.symm ▸ Balanced.fresh peerUid
  · intro summary made
    have := (acc.finished summary made).1
    rw [open_] at this
    cases this

/-- The counters of requests and of bytes, the bench and the lock are not accounted. -/
theorem Accounted.congr {b b' : Broker} (acc : Accounted b) (journal : b'.journal = b.journal)
    (connections : b'.connections = b.connections)
    (total : b'.connectionCount = b.connectionCount)
    (leak : b'.leakedSessionCount = b.leakedSessionCount)
    (finished : b'.summary = b.summary ∧ b'.frozen = b.frozen) : Accounted b' := by
  obtain ⟨known, leaked, inside, owned, balanced, done⟩ := acc
  refine ⟨?_, ?_, ?_, ?_, ?_, ?_⟩
  · rw [total, known, connections]
  · rw [leak, leaked, connections]
  · rwa [journal, connections]
  · rwa [connections]
  · rw [connections]
    unfold records at balanced ⊢
    rwa [journal]
  · rwa [finished.1, finished.2, connections, total, leak]

/-- `disconnect` takes the connection's sessions and forces each closed. -/
theorem Accounted.swept {b : Broker} {c : Nat} {conn : Connection} (acc : Accounted b)
    (entry : b.connections[c]? = some conn)
    (phase : conn.phase = .idle ∨ conn.phase = .ending) (holder : Option Nat) :
    Accounted ({ b with
      library := (cleanUp c conn.sessions.reverse b.library).2, operationLock := holder }.setConnection
        c { conn with
          sessions := [], closed := true,
          phase := .cleaning (cleanUp c conn.sessions.reverse b.library).1 conn.sessions.length }) := by
  have own := cleanUp_own c conn.sessions.reverse b.library
  refine acc.locked entry rfl rfl rfl ?_ ⟨rfl, rfl⟩ ?_ ?_ ?_ ?_
  · rcases phase with phase | phase <;> rw [phase] <;> rfl
  · rcases phase with phase | phase <;> rw [phase] <;> rfl
  · rcases phase with phase | phase <;> rw [phase] <;> rfl
  · exact fun body mem => Or.inl (own body mem)
  · intro v h
    have all : ((cleanUp c conn.sessions.reverse b.library).1.filter fun body =>
        body.connection = some c) = (cleanUp c conn.sessions.reverse b.library).1 :=
      List.filter_eq_self.2 fun body mem => by simp [own body mem]
    show Balanced _ (v ++ (cleanUp c conn.sessions.reverse b.library).1.filter fun body =>
      body.connection = some c)
    rw [all]
    exact h.disconnecting c b.library phase

/-- **One step** of the broker keeps the accounts, unless it records a trusted
failure. -/
theorem step_accounted {setup : Setup} {b b' : Broker} {now : Int} {action : Action}
    (acc : b.fatalError = false → Accounted b) (stepped : step setup b now action = some b')
    (sound : b'.fatalError = false) : Accounted b' := by
  cases action with
  | connect peerUid =>
      simp only [step, connect] at stepped
      split at stepped
      · cases stepped
      case isFalse open_ =>
        split at stepped
        · cases stepped
          exact (acc sound).noted rfl
        · cases stepped
          exact (acc sound).connected (by simpa using open_) peerUid
  | receive c operation args =>
      obtain ⟨conn, entry, stepped⟩ := Option.bind_eq_some_iff.1 stepped
      unfold receive at stepped
      split at stepped
      case h_2 => cases stepped
      case h_1 phase =>
        cases stepped
        exact ((acc sound).quietly entry (by rw [phase]; rfl) rfl (by rw [phase]; rfl)
          (by rw [phase]; exact id) fun h => h.received _ _ _ phase).congr rfl rfl rfl rfl ⟨rfl, rfl⟩
  | malformed c =>
      obtain ⟨conn, entry, stepped⟩ := Option.bind_eq_some_iff.1 stepped
      split at stepped
      case h_2 => cases stepped
      case h_1 phase =>
        cases stepped
        exact (acc sound).journaled entry rfl (by rw [phase]; rfl) rfl (by rw [phase]; rfl)
          (by rw [phase]; rfl) fun h => h.malformed c phase _
  | advance c env =>
      obtain ⟨conn, entry, stepped⟩ := Option.bind_eq_some_iff.1 stepped
      exact advance_accounted acc entry stepped sound
  | disconnect c =>
      obtain ⟨conn, entry, stepped⟩ := Option.bind_eq_some_iff.1 stepped
      unfold disconnect at stepped
      split at stepped
      · cases stepped
      · split at stepped
        case h_1 phase =>
          cases stepped
          exact (acc sound).swept entry (Or.inl phase) _
        case h_2 phase =>
          cases stepped
          exact (acc sound).swept entry (Or.inr phase) _
        case h_3 => cases stepped
  | freeze =>
      simp only [step] at stepped
      split at stepped
      · cases stepped
      case isFalse thawed =>
        cases stepped
        obtain ⟨known, leaked, inside, owned, balanced, done⟩ := acc sound
        refine Accounted.noted (b := { b with frozen := true }) ?_ rfl
        refine ⟨known, leaked, inside, owned, balanced, ?_⟩
        intro summary made
        exact ⟨rfl, (done summary made).2⟩
  | finish =>
      simp only [step] at stepped
      split at stepped
      case isFalse => cases stepped
      case isTrue ready =>
        cases stepped
        simp only [Bool.and_eq_true, List.all_eq_true] at ready
        obtain ⟨known, leaked, inside, owned, balanced, done⟩ := acc sound
        refine Accounted.noted
          (b := { b with summary := some ⟨b.connectionCount, b.leakedSessionCount⟩ }) ?_ rfl
        refine ⟨known, leaked, inside, owned, balanced, ?_⟩
        rintro summary made
        cases made
        exact ⟨ready.1.1, ready.2, rfl⟩
  | note kind =>
      cases stepped
      exact (acc sound).noted rfl
  | forceSafe =>
      simp only [step] at stepped
      split at stepped
      · cases stepped
      · cases stepped
        exact ((acc sound).noted rfl).congr rfl rfl rfl rfl ⟨rfl, rfl⟩

/-- **A whole run** keeps the accounts. -/
theorem Reachable.accounted {setup : Setup} {b : Broker} (run : Reachable setup b) :
    b.fatalError = false → Accounted b := by
  induction run with
  | initial => exact fun _ => accounted_initial _
  | step before stepped ih =>
      intro sound
      exact step_accounted ih stepped sound

/-! ## The frozen journal -/

/-- The records of one kind are spread over the connections. -/
theorem count_by_connection {k : EventKind} (tracked : k ≠ .untracked) {n : Nat}
    {events : List Body} (known : ∀ body ∈ events, ∀ c, body.connection = some c → c < n) :
    count k events =
      ∑ c ∈ Finset.range n, count k (events.filter fun body => body.connection = some c) := by
  induction events with
  | nil => simp
  | cons body rest ih =>
      have ih := ih fun other mem => known other (by simp [mem])
      have split : ∀ c, count k ((body :: rest).filter fun other => other.connection = some c) =
          (if body.connection = some c then count k [body] else 0) +
            count k (rest.filter fun other => other.connection = some c) := by
        intro c
        by_cases mine : body.connection = some c
        · rw [List.filter_cons_of_pos (by simp [mine]), ← List.singleton_append, count_append]
          simp [mine]
        · rw [List.filter_cons_of_neg (by simp [mine])]
          simp [mine]
      rw [← List.singleton_append, count_append, ih]
      simp only [List.singleton_append, split, Finset.sum_add_distrib]
      congr 1
      cases owner : body.connection with
      | none =>
          have untracked := kind_of_connection_none owner
          rw [count_singleton, untracked]
          simp [Ne.symm tracked]
      | some d =>
          have inside := known body (by simp) d owner
          simp only [Option.some.injEq]
          rw [Finset.sum_ite_eq]
          simp [inside]

/-- A closed connection's records, journaled to the last one. -/
theorem Accounted.closed {b : Broker} (acc : Accounted b) {c : Nat} {conn : Connection}
    (entry : b.connections[c]? = some conn) (closed : conn.phase.isClosed = true) :
    Balanced conn (stream c b.journal) ∧ conn.phase.opened = 1 ∧ conn.phase.closes = 1 ∧
      conn.phase.inFlight = 0 ∧ conn.phase.doomed = false ∧
      conn.phase.leaked = conn.phase.recordedLeak ∧ conn.sessions = [] ∧
      ∀ at_, conn.phase.Expects at_ → at_ = .clear := by
  have balanced := acc.balanced c conn entry
  have pending : conn.phase.pending = [] := by
    cases phase : conn.phase <;> rw [phase] at closed <;> first | rfl | cases closed
  rw [records_of_pending pending] at balanced
  have emptied := balanced.emptied
  refine ⟨balanced, ?_⟩
  cases phase : conn.phase <;> rw [phase] at closed emptied <;>
    first
    | exact ⟨rfl, rfl, rfl, rfl, rfl, emptied rfl, fun _ clear => clear⟩
    | cases closed

/-- **The accounts of a frozen broker** are those the service and the evaluator check. -/
theorem accounting_agrees {setup : Setup} {b : Broker} {summary : BrokerSummary}
    (run : Reachable setup b) (sound : b.fatalError = false)
    (finished : b.summary = some summary) : Agrees b.journal summary := by
  have acc := run.accounted sound
  obtain ⟨-, closed, rfl⟩ := acc.finished summary finished
  have each : ∀ c ∈ Finset.range b.connections.length, ∃ conn, b.connections[c]? = some conn ∧
      conn.phase.isClosed = true := by
    intro c mem
    have inside := Finset.mem_range.1 mem
    exact ⟨b.connections[c], List.getElem?_eq_getElem inside, closed _ (List.getElem_mem inside)⟩
  have spread : ∀ k, k ≠ .untracked → count k (bodies b.journal) =
      ∑ c ∈ Finset.range b.connections.length, count k (stream c b.journal) := by
    intro k tracked
    apply count_by_connection tracked
    intro body mem c mine
    obtain ⟨e, journaled, rfl⟩ := List.mem_map.1 mem
    exact acc.known e journaled c mine
  constructor
  case rpc =>
    rw [spread _ (by simp), spread .rpcResult (by simp), spread .rpcReject (by simp),
      ← Finset.sum_add_distrib]
    apply Finset.sum_congr rfl
    intro c mem
    obtain ⟨conn, entry, closed⟩ := each c mem
    obtain ⟨balanced, -, -, answered, -⟩ := acc.closed entry closed
    rw [balanced.requests, answered, Nat.add_zero]
  case sessions =>
    rw [spread _ (by simp), spread .sessionClose (by simp), spread .sessionForcedCleanup (by simp),
      ← Finset.sum_add_distrib]
    apply Finset.sum_congr rfl
    intro c mem
    obtain ⟨conn, entry, closed⟩ := each c mem
    obtain ⟨balanced, -, -, -, -, -, emptied, -⟩ := acc.closed entry closed
    rw [balanced.sessions, emptied, List.length_nil, Nat.add_zero]
  case leaked =>
    rw [spread _ (by simp)]
    show _ = b.leakedSessionCount
    rw [acc.leaked]
    apply Finset.sum_congr rfl
    intro c mem
    obtain ⟨conn, entry, closed⟩ := each c mem
    obtain ⟨balanced, -, -, -, -, same, -⟩ := acc.closed entry closed
    rw [balanced.forced, entry, same]
    rfl
  case opened =>
    rw [spread _ (by simp)]
    show _ = b.connectionCount
    calc ∑ c ∈ Finset.range b.connections.length, count .connectionOpen (stream c b.journal)
        = ∑ c ∈ Finset.range b.connections.length, 1 := by
          apply Finset.sum_congr rfl
          intro c mem
          obtain ⟨conn, entry, closed⟩ := each c mem
          obtain ⟨balanced, opens, -⟩ := acc.closed entry closed
          rw [balanced.opened, opens]
      _ = b.connections.length := by simp
      _ = b.connectionCount := acc.connectionCount.symm
  case closed =>
    rw [spread _ (by simp), spread .connectionOpen (by simp)]
    apply Finset.sum_congr rfl
    intro c mem
    obtain ⟨conn, entry, closed⟩ := each c mem
    obtain ⟨balanced, opens, closes, -⟩ := acc.closed entry closed
    rw [balanced.opened, balanced.closed, opens, closes]
  case queries =>
    rw [spread _ (by simp), spread .resourceQueryResult (by simp),
      spread .resourceQueryReject (by simp), ← Finset.sum_add_distrib]
    apply Finset.sum_congr rfl
    intro c mem
    obtain ⟨conn, entry, closed⟩ := each c mem
    obtain ⟨balanced, -, -, -, sane, -⟩ := acc.closed entry closed
    rcases balanced.queries with doomed | agree
    · rw [sane] at doomed
      cases doomed
    · exact agree
  case boundaries =>
    simp only [validRpcBoundaries, List.all_eq_true, decide_eq_true_eq]
    intro c mem
    obtain ⟨body, journaled, mine⟩ := List.mem_filterMap.1 mem
    obtain ⟨e, recorded, rfl⟩ := List.mem_map.1 journaled
    obtain ⟨conn, entry, closed⟩ := each c (Finset.mem_range.2 (acc.known e recorded c mine))
    obtain ⟨balanced, -, -, -, -, -, -, clear⟩ := acc.closed entry closed
    exact clear _ balanced.boundary

/-- A client opens a resource manager, closes nothing and is disconnected by the
freeze: its session is leaked, and accounted. -/
def leakingRun : List (Int × Action) :=
  let next : Int × Action := (0, .advance 0 (.issuing (txt "rm") 1))
  [(0, .connect 10001), next, (0, .receive 0 (txt "open_default_resource_manager") []), next, next,
    next, next, next, next, (0, .freeze), (0, .disconnect 0), next, next, next, (0, .finish)]

theorem accounting_agrees_leaked :
    ∃ b, Reachable nominalBench b ∧ b.summary = some ⟨1, 1⟩ ∧ Agrees b.journal ⟨1, 1⟩ := by
  have finishes : (run nominalBench (.initial nominalBench.simulator.spec) leakingRun).any
      (fun b => !b.fatalError && b.summary = some ⟨1, 1⟩) = true := by
    decide
  obtain ⟨b, ran, ends⟩ := (Option.any_eq_true _ _).1 finishes
  simp only [Bool.and_eq_true, Bool.not_eq_true', decide_eq_true_eq] at ends
  have reached := Reachable.initial.run ran
  exact ⟨b, reached, ends.2, accounting_agrees reached ends.1 ends.2⟩

end InstrumentBench.Visa
