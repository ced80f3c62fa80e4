/-
# Visa.RpcClient -- the candidate's end of the connection

`RpcClient.call` numbers its request, sends it on the connection it holds and reads one
frame.  What the socket does is the world's choice: every operation gets a reply, bytes or
an exception, and the replies of a run are any sequence whatever, so that late, repeated,
cut and wrongly numbered responses are all among them.

A call records what it did with its connection.

* `attempt_yields`: an answer is read from the bytes received after the request was sent;
* `call_drops`: a failed call leaves no connection behind;
* `responses_unmixed`: no answer is another call's, whatever the peer does;
* `call_prompt`: a response that arrives in order is the call's value.
-/
import InstrumentBench.Visa.Codec

namespace InstrumentBench.Visa.Protocol

set_option autoImplicit false

open InstrumentBench.Theory InstrumentBench.Theory.PyText

/-! ## The connection -/

/-- What ends a call other than a value. -/
inductive Raised where
  | osError
  | failure (f : Failure)
  | other
deriving DecidableEq

/-- An exception of a socket operation. -/
inductive Fault where
  | osError
  | other
deriving DecidableEq

def Fault.raised : Fault → Raised
  | .osError => .osError
  | .other => .other

/-- What a socket operation does: the bytes it gives, if it gives bytes, or an exception. -/
abbrev Reply := Except Fault Bytes

/-- What a call does with a connection; a connection is the number of its socket. -/
inductive Event where
  | takes (connection : Nat)
  | sends (connection : Nat) (frame : Bytes)
  | receives (connection : Nat) (chunk : Bytes)
deriving DecidableEq

def Event.connection : Event → Nat
  | .takes c => c
  | .sends c _ => c
  | .receives c _ => c

/-- The fields of the client that change, the number of sockets made, of replies taken, and
what the present call did. -/
structure Client where
  connection : Option Nat
  nextRequestId : Int
  sockets : Nat
  taken : Nat
  events : List Event

/-- `RpcClient(endpoint)` -/
def Client.new : Client := ⟨none, 1, 0, 0, []⟩

namespace Client

variable (replies : Nat → Reply)

/-- The reply to the next operation. -/
def reply (s : Client) : Reply := replies s.taken

def tick (s : Client) : Client := { s with taken := s.taken + 1 }

def record (e : Event) (s : Client) : Client := { s with events := s.events ++ [e] }

/-- An operation that gives no bytes. -/
def operate (s : Client) : Except Raised Unit × Client :=
  match s.reply replies with
  | .ok _ => (.ok (), s.tick)
  | .error fault => (.error fault.raised, s.tick)

/-- `self._connection = self._connector(self._endpoint)`, which makes a new socket. -/
def opened (s : Client) : Client :=
  { s with connection := some s.sockets, sockets := s.sockets + 1 }.record (.takes s.sockets)

/-- `self._connection` where there is one, else a new connection. -/
def connect (timed : Bool) (s : Client) : Except Raised Nat × Client :=
  match s.connection with
  | some c => (.ok c, s.record (.takes c))
  | none =>
      match s.operate replies with
      | (.error e, s) => (.error e, s)
      | (.ok _, s) =>
          if timed then
            -- `settimeout` may raise; the connection is kept by then.
            match s.opened.operate replies with
            | (.error e, s') => (.error e, s')
            | (.ok _, s') => (.ok s.sockets, s')
          else (.ok s.sockets, s.opened)

/-- `self._connection.sendall(frame)` -/
def sendall (c : Nat) (frame : Bytes) (s : Client) : Except Raised Unit × Client :=
  (s.record (.sends c frame)).operate replies

/-- `stream.recv(count)` -/
def recv (c count : Nat) (s : Client) : Except Raised Bytes × Client :=
  match s.reply replies with
  | .ok chunk => (.ok (chunk.take count), s.tick.record (.receives c (chunk.take count)))
  | .error fault => (.error fault.raised, s.tick.record (.receives c []))

/-- The loop of `_recv_exact`, with what it got so far. -/
def recvLoop (c : Nat) (allowCleanEof : Bool) (remaining : Nat) (got : Bytes) (s : Client) :
    Except Raised Bytes × Client :=
  if remaining = 0 then (.ok got, s)
  else
    match s.recv replies c remaining with
    | (.error e, s) => (.error e, s)
    | (.ok [], s) =>
        if allowCleanEof && got.isEmpty then (.error (.failure .connectionClosed), s)
        else (.error (.failure (.protocolError (txt "truncated frame"))), s)
    | (.ok (b :: chunk), s) =>
        recvLoop c allowCleanEof (remaining - (chunk.length + 1)) (got ++ b :: chunk) s
termination_by remaining

/-- `_recv_exact` -/
def recvExact (c count : Nat) (allowCleanEof : Bool) (s : Client) : Except Raised Bytes × Client :=
  s.recvLoop replies c allowCleanEof count []

/-- A failure of the protocol raised. -/
def raising {α : Type} : Except Failure α → Except Raised α := Except.mapError .failure

/-- `recv_message` -/
def receive (c : Nat) (s : Client) : Except Raised Message × Client :=
  match s.recvExact replies c 4 true with
  | (.error e, s) => (.error e, s)
  | (.ok header, s) =>
      let length := headerLength header
      if length = 0 ∨ MAX_FRAME_BYTES < length then
        (.error (.failure (.protocolError (txt "invalid frame length"))), s)
      else
        match s.recvExact replies c length false with
        | (.error e, s) => (.error e, s)
        | (.ok payload, s) => (raising (loadPayload payload), s)

/-! ## Calls -/

/-- The operation and the arguments of a call. -/
structure Call where
  operation : Text
  args : ArgumentMap

/-- The value of a call and its status. -/
abbrev Answer := WireValue × Option Int

variable (timed : Bool) (stackHolds : Call → Bool)

/-- The `try` of `call`.  Where the stack does not hold the encoding, `RecursionError` is
raised before anything is sent. -/
def attempt (call : Call) (requestId : Int) (s : Client) : Except Raised Answer × Client :=
  match s.connect replies timed with
  | (.error e, s) => (.error e, s)
  | (.ok c, s) =>
      if stackHolds call then
        match encodeRequest requestId call.operation call.args with
        | .error f => (.error (.failure f), s)
        | .ok frame =>
            match s.sendall replies c frame with
            | (.error e, s) => (.error e, s)
            | (.ok _, s) =>
                match s.receive replies c with
                | (.error e, s) => (.error e, s)
                | (.ok message, s) => (raising (decodeResponse message requestId), s)
      else (.error .other, s)

/-- `_drop_connection` -/
def dropConnection (s : Client) : Except Raised Unit × Client :=
  match s.connection with
  | none => (.ok (), s)
  | some _ =>
      match s.operate replies with
      | (result, s) => (result, { s with connection := none })

/-- `except (OSError, ProtocolError, ConnectionClosed)` -/
def Drops : Raised → Bool
  | .osError => true
  | .failure (.protocolError _) => true
  | .failure .connectionClosed => true
  | .failure (.remoteVisaError ..) => false
  | .other => false

/-- `call` -/
def call (call : Call) (s : Client) : Except Raised Answer × Client :=
  match ({ s with nextRequestId := s.nextRequestId + 1, events := [] } : Client).attempt replies
      timed stackHolds call s.nextRequestId with
  | (.ok answer, s) => (.ok answer, s)
  | (.error e, s) =>
      if Drops e then
        match s.dropConnection replies with
        | (.error e', s) => (.error e', s)
        | (.ok _, s) => (.error e, s)
      else (.error e, s)

/-- What is asked of a client. -/
inductive Request where
  | call (call : Call)
  | close

/-- What a call was and did. -/
structure Record where
  call : Call
  requestId : Int
  events : List Event
  outcome : Except Raised Answer

/-- The records of the calls of a run. -/
def run : List Request → Client → List Record
  | [], _ => []
  | .call call :: rest, s =>
      let ended := s.call replies timed stackHolds call
      ⟨call, s.nextRequestId, ended.2.events, ended.1⟩ :: run rest ended.2
  | .close :: rest, s => run rest (s.dropConnection replies).2

/-! ## What a frame was read from -/

variable {timed} {stackHolds}

/-- `s'` is `s` after operations on connection `c` that received `chunks`. -/
structure Received (c : Nat) (chunks : List Bytes) (s s' : Client) : Prop where
  connection : s'.connection = s.connection
  sockets : s'.sockets = s.sockets
  nextRequestId : s'.nextRequestId = s.nextRequestId
  events : s'.events = s.events ++ chunks.map (Event.receives c)

theorem Received.refl (c : Nat) (s : Client) : Received c [] s s :=
  ⟨rfl, rfl, rfl, (List.append_nil _).symm⟩

theorem Received.trans {c : Nat} {first later : List Bytes} {s t u : Client}
    (one : Received c first s t) (two : Received c later t u) :
    Received c (first ++ later) s u where
  connection := two.connection.trans one.connection
  sockets := two.sockets.trans one.sockets
  nextRequestId := two.nextRequestId.trans one.nextRequestId
  events := by rw [two.events, one.events, List.map_append, List.append_assoc]

theorem recv_received (c count : Nat) (s : Client) :
    ∃ chunk, Received c [chunk] s (s.recv replies c count).2 ∧
      ∀ got, (s.recv replies c count).1 = .ok got → got = chunk := by
  unfold recv
  cases s.reply replies with
  | error fault => exact ⟨[], ⟨rfl, rfl, rfl, rfl⟩, nofun⟩
  | ok chunk =>
      refine ⟨chunk.take count, ⟨rfl, rfl, rfl, rfl⟩, ?_⟩
      intro got same
      exact (Except.ok.inj same).symm

variable {replies} in
theorem recv_length {c count : Nat} {s : Client} {got : Bytes}
    (ok : (s.recv replies c count).1 = .ok got) : got.length ≤ count := by
  unfold recv at ok
  cases next : s.reply replies with
  | error fault =>
      rw [next] at ok
      cases ok
  | ok chunk =>
      rw [next] at ok
      cases ok
      rw [List.length_take]
      omega

/-- **What is read is what was received.** -/
theorem recvLoop_received (c : Nat) (clean : Bool) (remaining : Nat) (got : Bytes) (s : Client) :
    ∃ chunks, Received c chunks s (s.recvLoop replies c clean remaining got).2 ∧
      ∀ read, (s.recvLoop replies c clean remaining got).1 = .ok read →
        read = got ++ chunks.flatten ∧ read.length = got.length + remaining := by
  induction remaining, got, s using recvLoop.induct replies c clean with
  | case1 got s =>
      rw [recvLoop, if_pos rfl]
      refine ⟨[], Received.refl c s, ?_⟩
      intro read same
      cases same
      simp
  | case2 remaining got s positive e s' received =>
      obtain ⟨chunk, step, -⟩ := recv_received replies c remaining s
      rw [received] at step
      rw [recvLoop, if_neg positive, received]
      exact ⟨[chunk], step, nofun⟩
  | case3 remaining got s positive s' received closed =>
      obtain ⟨chunk, step, -⟩ := recv_received replies c remaining s
      rw [received] at step
      simp only [recvLoop, if_neg positive, received, if_pos closed]
      exact ⟨[chunk], step, nofun⟩
  | case4 remaining got s positive s' received cut =>
      obtain ⟨chunk, step, -⟩ := recv_received replies c remaining s
      rw [received] at step
      simp only [recvLoop, if_neg positive, received, if_neg cut]
      exact ⟨[chunk], step, nofun⟩
  | case5 remaining got s positive b chunk s' received ih =>
      obtain ⟨first, step, value⟩ := recv_received replies c remaining s
      have short := recv_length (congrArg Prod.fst received)
      rw [received] at step value
      obtain ⟨later, steps, rest⟩ := ih
      rw [recvLoop, if_neg positive, received]
      refine ⟨[first] ++ later, step.trans steps, ?_⟩
      intro read same
      obtain ⟨bytes, length⟩ := rest read same
      have here : b :: chunk = first := value _ rfl
      constructor
      · rw [bytes, here, List.flatten_append, List.flatten_singleton, List.append_assoc]
      · rw [length]
        simp only [List.length_append, List.length_cons] at short ⊢
        omega

/-- The bytes of one frame that holds the message. -/
def Framed (bytes : Bytes) (message : Message) : Prop :=
  ∃ header payload, bytes = header ++ payload ∧ header.length = 4 ∧
    headerLength header = payload.length ∧ loadPayload payload = .ok message

theorem raising_ok {α : Type} {result : Except Failure α} {a : α} :
    raising result = .ok a ↔ result = .ok a := by
  cases result with
  | error f => exact ⟨nofun, nofun⟩
  | ok b => simp [raising, Except.mapError]

theorem raising_error {α : Type} {result : Except Failure α} {f : Failure} :
    raising result = .error (.failure f) ↔ result = .error f := by
  cases result with
  | error g => simp [raising, Except.mapError]
  | ok b => exact ⟨nofun, nofun⟩

/-- **A message is one frame of received bytes.** -/
theorem receive_received (c : Nat) (s : Client) :
    ∃ chunks, Received c chunks s (s.receive replies c).2 ∧
      ∀ message, (s.receive replies c).1 = .ok message → Framed chunks.flatten message := by
  obtain ⟨first, step, read⟩ :=
    recvLoop_received replies c true 4 [] s
  unfold receive recvExact
  generalize s.recvLoop replies c true 4 [] = ended at step read ⊢
  rcases ended with ⟨_ | header, t⟩
  · exact ⟨first, step, nofun⟩
  · obtain ⟨bytes, length⟩ := read header rfl
    dsimp only at step ⊢
    split_ifs with outside
    · exact ⟨first, step, nofun⟩
    · obtain ⟨later, steps, rest⟩ :=
        recvLoop_received replies c false (headerLength header) [] t
      generalize t.recvLoop replies c false (headerLength header) [] = ended at steps rest ⊢
      rcases ended with ⟨_ | payload, u⟩
      · exact ⟨first ++ later, step.trans steps, nofun⟩
      · obtain ⟨bytes', length'⟩ := rest payload rfl
        refine ⟨first ++ later, step.trans steps, ?_⟩
        intro message loaded
        refine ⟨header, payload, ?_, by simpa using length, by simpa using length'.symm,
          raising_ok.1 loaded⟩
        rw [List.flatten_append, bytes, bytes', List.nil_append, List.nil_append]

/-! ## Which connection is used -/

/-- The client's own connection, or one not made yet. -/
def Own (s : Client) (c : Nat) : Prop := s.connection = some c ∨ s.sockets ≤ c

/-- A client holds no connection that was not made. -/
def Wf (s : Client) : Prop := ∀ c, s.connection = some c → c < s.sockets

theorem wf_new : Wf new := nofun

/-- What an operation on the client leaves: the connection it held, none, or a new one. -/
structure Onward (s s' : Client) : Prop where
  sockets : s.sockets ≤ s'.sockets
  connection : ∀ c, s'.connection = some c →
    s.connection = some c ∨ s.sockets ≤ c ∧ c < s'.sockets

theorem Onward.wf {s s' : Client} (onward : Onward s s') (wf : Wf s) : Wf s' := by
  intro c held
  rcases onward.connection c held with before | ⟨-, made⟩
  · exact (wf c before).trans_le onward.sockets
  · exact made

theorem Onward.own {s s' : Client} (onward : Onward s s') {c : Nat} (own : Own s' c) : Own s c := by
  rcases own with held | later
  · rcases onward.connection c held with before | ⟨fresh, -⟩
    · exact Or.inl before
    · exact Or.inr fresh
  · exact Or.inr (onward.sockets.trans later)

theorem Received.onward {c : Nat} {chunks : List Bytes} {s t u : Client}
    (received : Received c chunks t u) (onward : Onward s t) : Onward s u where
  sockets := by
    rw [received.sockets]
    exact onward.sockets
  connection := by
    rw [received.connection, received.sockets]
    exact onward.connection

/-- After `operate`, only the replies are fewer. -/
theorem operate_eq (s : Client) : (s.operate replies).2 = s.tick := by
  unfold operate
  split <;> rfl

theorem onward_opened (s : Client) : Onward s s.tick.opened where
  sockets := Nat.le_succ _
  connection := by
    intro c same
    cases same
    exact Or.inr ⟨le_rfl, Nat.lt_succ_self _⟩

/-- A client that has taken a connection for this call. -/
structure Took (s s' : Client) (c : Nat) : Prop where
  connection : s'.connection = some c
  events : s'.events = s.events ++ [.takes c]

/-- The broker's own error, which is an answer. -/
def Remote (e : Raised) : Prop :=
  ∃ kind code message, e = .failure (.remoteVisaError kind code message)

theorem not_remote_raised (fault : Fault) : ¬Remote fault.raised := by
  rintro ⟨kind, code, message, same⟩
  cases fault <;> cases same

theorem not_remote_refused {α : Type} {result : Except Failure α} {f : Failure}
    (fails : result = .error f) (refused : Refused result) : ¬Remote (.failure f) := by
  rintro ⟨kind, code, message, same⟩
  obtain ⟨text, other⟩ := refused
  cases same
  cases fails.symm.trans other

theorem operate_error {s : Client} {e : Raised} (raised : (s.operate replies).1 = .error e) :
    ¬Remote e := by
  unfold operate at raised
  cases next : s.reply replies with
  | ok _ =>
      rw [next] at raised
      cases raised
  | error fault =>
      rw [next] at raised
      cases raised
      exact not_remote_raised fault

theorem connect_error {s : Client} {e : Raised} (raised : (s.connect replies timed).1 = .error e) :
    ¬Remote e := by
  unfold connect at raised
  split at raised
  · cases raised
  · split at raised
    · cases raised
      exact operate_error replies (congrArg Prod.fst ‹_›)
    · split_ifs at raised
      · split at raised
        · cases raised
          exact operate_error replies (congrArg Prod.fst ‹_›)
        · cases raised

theorem recv_error {c count : Nat} {s : Client} {e : Raised}
    (raised : (s.recv replies c count).1 = .error e) : ¬Remote e := by
  unfold recv at raised
  split at raised
  · cases raised
  · cases raised
    exact not_remote_raised _

theorem recvLoop_error {c : Nat} {clean : Bool} {remaining : Nat} {got : Bytes} {s : Client}
    {e : Raised} (raised : (s.recvLoop replies c clean remaining got).1 = .error e) :
    ¬Remote e := by
  induction remaining, got, s using recvLoop.induct replies c clean with
  | case1 got s =>
      rw [recvLoop, if_pos rfl] at raised
      cases raised
  | case2 remaining got s positive e' s' received =>
      rw [recvLoop, if_neg positive, received] at raised
      cases raised
      exact recv_error replies (congrArg Prod.fst received)
  | case3 remaining got s positive s' received closed =>
      simp only [recvLoop, if_neg positive, received, if_pos closed] at raised
      cases raised
      rintro ⟨kind, code, message, same⟩
      cases same
  | case4 remaining got s positive s' received cut =>
      simp only [recvLoop, if_neg positive, received, if_neg cut] at raised
      cases raised
      rintro ⟨kind, code, message, same⟩
      cases same
  | case5 remaining got s positive b chunk s' received ih =>
      rw [recvLoop, if_neg positive, received] at raised
      exact ih raised

theorem loadPayload_error {payload : Bytes} {f : Failure} (fails : loadPayload payload = .error f) :
    Refused (loadPayload payload) := by
  unfold loadPayload at fails ⊢
  split
  · exact refused_protocolError _
  · split
    · exact refused_protocolError _
    · split_ifs
      · split
        · simp_all
        · exact refused_protocolError _
      · exact refused_protocolError _

theorem receive_error {c : Nat} {s : Client} {e : Raised}
    (raised : (s.receive replies c).1 = .error e) : ¬Remote e := by
  unfold receive recvExact at raised
  split at raised
  · cases raised
    exact recvLoop_error replies (congrArg Prod.fst ‹_›)
  · dsimp only at raised
    split_ifs at raised
    · cases raised
      rintro ⟨kind, code, message, same⟩
      cases same
    · split at raised
      · cases raised
        exact recvLoop_error replies (congrArg Prod.fst ‹_›)
      · rename_i payload s' read
        dsimp only at raised
        cases loaded : loadPayload payload with
        | ok message =>
            rw [loaded] at raised
            cases raised
        | error f =>
            rw [loaded] at raised
            cases raised
            exact not_remote_refused loaded (loadPayload_error loaded)

theorem encodeMessage_error {message : Message} {f : Failure}
    (fails : encodeMessage message = .error f) : Refused (encodeMessage message) := by
  unfold encodeMessage payloadOf at fails ⊢
  split_ifs at fails ⊢
  · split at fails
    · rename_i e made
      split at made
      · cases made
      · cases made
        rename_i unencoded
        exact ⟨_, rfl⟩
    · split_ifs at fails ⊢
      exact refused_protocolError _
  · exact refused_protocolError _

theorem encodeRequest_error {requestId : Int} {operation : Text} {args : ArgumentMap} {f : Failure}
    (fails : encodeRequest requestId operation args = .error f) : ¬Remote (.failure f) := by
  apply not_remote_refused fails
  by_cases encodes : Encodes requestId operation args.entries
  · rw [encodeRequest_encodes encodes] at fails ⊢
    exact encodeMessage_error fails
  · exact encodeRequest_refused encodes

/-- **A connection is the one held or a new one, and it is held from then on.** -/
theorem connect_spec (s : Client) :
    Onward s (s.connect replies timed).2 ∧
      (s.connect replies timed).2.nextRequestId = s.nextRequestId ∧
      ((s.connect replies timed).2.events = s.events ∨
        ∃ c, Took s (s.connect replies timed).2 c) ∧
      ∀ c, (s.connect replies timed).1 = .ok c → Took s (s.connect replies timed).2 c := by
  unfold connect
  cases held : s.connection with
  | some c =>
      have took : Took s (s.record (.takes c)) c := ⟨held, rfl⟩
      refine ⟨⟨le_rfl, fun c' same => Or.inl same⟩, rfl, Or.inr ⟨c, took⟩, ?_⟩
      intro c' same
      cases same
      exact took
  | none =>
      have left := operate_eq replies s
      generalize s.operate replies = ended at left ⊢
      obtain ⟨result, t⟩ := ended
      obtain rfl : t = s.tick := left
      cases result with
      | error e => exact ⟨⟨le_rfl, fun c same => Or.inl same⟩, rfl, Or.inl rfl, nofun⟩
      | ok _ =>
          have fresh := onward_opened s
          have took : Took s s.tick.opened s.tick.sockets := ⟨rfl, rfl⟩
          cases timed with
          | false =>
              refine ⟨fresh, rfl, Or.inr ⟨_, took⟩, ?_⟩
              intro c same
              cases same
              exact took
          | true =>
              simp only [if_true]
              have left := operate_eq replies s.tick.opened
              generalize s.tick.opened.operate replies = ended at left ⊢
              obtain ⟨result, t⟩ := ended
              obtain rfl : t = s.tick.opened.tick := left
              have took' : Took s s.tick.opened.tick s.tick.sockets := ⟨rfl, rfl⟩
              have fresh' : Onward s s.tick.opened.tick := ⟨fresh.sockets, fresh.connection⟩
              cases result with
              | error e => exact ⟨fresh', rfl, Or.inr ⟨_, took'⟩, nofun⟩
              | ok _ =>
                  refine ⟨fresh', rfl, Or.inr ⟨_, took'⟩, ?_⟩
                  intro c same
                  cases same
                  exact took'

/-! ## What a call does -/

/-- An answer: the value of a call, or the error the broker answered. -/
def Yields (outcome : Except Raised Answer) (answer : Except Failure Answer) : Prop :=
  outcome = raising answer ∧ ((∃ v, answer = .ok v) ∨
    ∃ kind code message, answer = .error (.remoteVisaError kind code message))

/-- The answer was read from a frame with the request's own id, received on the connection
the request was sent on, after it was sent. -/
def AnsweredBy (call : Call) (requestId : Int) (events : List Event)
    (answer : Except Failure Answer) : Prop :=
  ∃ (c : Nat) (frame : Bytes) (chunks : List Bytes) (message : Message),
    encodeRequest requestId call.operation call.args = .ok frame ∧
    events = .takes c :: .sends c frame :: chunks.map (Event.receives c) ∧
    Framed chunks.flatten message ∧
    validRequestId (member message "request_id") = some requestId ∧
    decodeResponse message requestId = answer

/-- Only a response with the expected id is decoded to an answer. -/
theorem decodeResponse_id {message : Message} {requestId : Int} {answer : Except Failure Answer}
    (decoded : decodeResponse message requestId = answer)
    (answered : (∃ v, answer = .ok v) ∨
      ∃ kind code text, answer = .error (.remoteVisaError kind code text)) :
    validRequestId (member message "request_id") = some requestId := by
  by_contra other
  have refused : ∃ text, answer = .error (.protocolError text) := by
    rw [← decoded]
    unfold decodeResponse
    split_ifs
    · exact ⟨_, rfl⟩
    · exact ⟨_, rfl⟩
    · exact ⟨_, rfl⟩
  obtain ⟨text, rfl⟩ := refused
  rcases answered with ⟨v, h⟩ | ⟨kind, code, text', h⟩ <;> cases h

theorem not_yields {e : Raised} {answer : Except Failure Answer} (other : ¬Remote e) :
    ¬Yields (.error e) answer := by
  rintro ⟨same, ⟨v, rfl⟩ | ⟨kind, code, message, rfl⟩⟩
  · cases same
  · exact other ⟨kind, code, message, Except.error.inj same⟩

theorem sendall_spec (c : Nat) (frame : Bytes) (s : Client) :
    Received c [] (s.record (.sends c frame)) (s.sendall replies c frame).2 := by
  unfold sendall
  rw [operate_eq]
  exact ⟨rfl, rfl, rfl, (List.append_nil _).symm⟩

/-- What an attempt leaves, from a client whose call begins. -/
structure Attempted (s s' : Client) : Prop where
  onward : Onward s s'
  nextRequestId : s'.nextRequestId = s.nextRequestId
  used : ∀ e ∈ s'.events, s'.connection = some e.connection

/-- **An attempt uses one connection, which it leaves with the client, and an answer is
read from it after the request was sent.** -/
theorem attempt_spec (call : Call) (requestId : Int) (s : Client) (begins : s.events = []) :
    Attempted s (s.attempt replies timed stackHolds call requestId).2 ∧
      ∀ answer, Yields (s.attempt replies timed stackHolds call requestId).1 answer →
        AnsweredBy call requestId (s.attempt replies timed stackHolds call requestId).2.events
          answer := by
  obtain ⟨onward, number, events, taken⟩ := @connect_spec replies timed s
  have refused := @connect_error replies timed s
  unfold attempt
  generalize s.connect replies timed = ended at onward number events taken refused ⊢
  obtain ⟨result, t⟩ := ended
  dsimp only at onward number events taken ⊢
  have attempted : Attempted s t := by
    refine ⟨onward, number, ?_⟩
    intro e listed
    rcases events with same | ⟨c, took⟩
    · rw [same, begins] at listed
      cases listed
    · rw [took.events, begins, List.nil_append, List.mem_singleton] at listed
      rw [took.connection, listed]
      rfl
  cases result with
  | error e => exact ⟨attempted, fun answer yields => absurd yields (not_yields (refused rfl))⟩
  | ok c =>
      have took := taken c rfl
      dsimp only
      split_ifs with deep
      swap
      · exact ⟨attempted, fun answer yields => absurd yields (not_yields (by
          rintro ⟨kind, code, message, same⟩
          cases same))⟩
      cases encoded : encodeRequest requestId call.operation call.args with
      | error f =>
          exact ⟨attempted, fun answer yields =>
            absurd yields (not_yields (encodeRequest_error encoded))⟩
      | ok frame =>
          have sent := sendall_spec replies c frame t
          have unsent := @operate_error replies (t.record (.sends c frame))
          dsimp only
          unfold sendall at sent ⊢
          generalize (t.record (.sends c frame)).operate replies = ended at sent unsent ⊢
          obtain ⟨result, u⟩ := ended
          dsimp only at sent ⊢
          -- After the send, what is received is appended to these two events.
          have later : ∀ {chunks : List Bytes} {v : Client}, Received c chunks u v →
              v.events = .takes c :: .sends c frame :: chunks.map (Event.receives c) ∧
                Attempted s v := by
            intro chunks v received
            have whole := sent.trans received
            have written : v.events =
                .takes c :: .sends c frame :: chunks.map (Event.receives c) := by
              rw [whole.events]
              show t.events ++ [.sends c frame] ++ _ = _
              rw [took.events, begins]
              rfl
            have start : Onward s (t.record (.sends c frame)) :=
              ⟨onward.sockets, onward.connection⟩
            refine ⟨written, whole.onward start, whole.nextRequestId.trans number, ?_⟩
            intro e listed
            rw [whole.connection]
            show t.connection = _
            rw [took.connection]
            rw [written] at listed
            simp only [List.mem_cons, List.mem_map] at listed
            rcases listed with rfl | rfl | ⟨chunk, -, rfl⟩ <;> rfl
          cases result with
          | error e =>
              exact ⟨(later (Received.refl c u)).2, fun answer yields =>
                absurd yields (not_yields (unsent rfl))⟩
          | ok _ =>
              obtain ⟨chunks, received, framed⟩ := receive_received replies c u
              have unread := @receive_error replies c u
              obtain ⟨written, attempted'⟩ := later received
              dsimp only
              generalize u.receive replies c = ended at received framed unread written attempted' ⊢
              obtain ⟨result, v⟩ := ended
              cases result with
              | error e =>
                  exact ⟨attempted', fun answer yields => absurd yields (not_yields (unread rfl))⟩
              | ok message =>
                  refine ⟨attempted', ?_⟩
                  rintro answer ⟨outcome, kind⟩
                  have decoded : decodeResponse message requestId = answer := by
                    rcases kind with ⟨value, rfl⟩ | ⟨k, code, text, rfl⟩
                    · exact raising_ok.1 outcome
                    · exact raising_error.1 outcome
                  exact ⟨c, frame, chunks, message, encoded, written, framed message rfl,
                    decodeResponse_id decoded kind, decoded⟩

/-- A call that ended in `OSError`, `ProtocolError` or `ConnectionClosed`. -/
def Failed (outcome : Except Raised Answer) : Prop := ∃ e, outcome = .error e ∧ Drops e = true

theorem dropConnection_spec (s : Client) :
    (s.dropConnection replies).2.connection = none ∧
      (s.dropConnection replies).2.sockets = s.sockets ∧
      (s.dropConnection replies).2.nextRequestId = s.nextRequestId ∧
      (s.dropConnection replies).2.events = s.events := by
  unfold dropConnection
  cases held : s.connection with
  | none => exact ⟨held, rfl, rfl, rfl⟩
  | some c =>
      have left := operate_eq replies s
      generalize s.operate replies = ended at left ⊢
      obtain ⟨result, t⟩ := ended
      obtain rfl : t = s.tick := left
      exact ⟨rfl, rfl, rfl, rfl⟩

theorem dropConnection_onward (s : Client) : Onward s (s.dropConnection replies).2 := by
  obtain ⟨dropped, sockets, -, -⟩ := dropConnection_spec replies s
  refine ⟨sockets.ge, ?_⟩
  intro c held
  rw [dropped] at held
  cases held

/-- The outcome of dropping a connection is no answer. -/
theorem dropConnection_error {s : Client} {e : Raised}
    (raised : (s.dropConnection replies).1 = .error e) : ¬Remote e := by
  unfold dropConnection at raised
  split at raised
  · cases raised
  · exact operate_error replies raised

/-- What a call leaves. -/
structure Called (s s' : Client) (outcome : Except Raised Answer) : Prop where
  onward : Onward s s'
  nextRequestId : s'.nextRequestId = s.nextRequestId + 1
  used : ∀ e ∈ s'.events, Own s e.connection ∧ (Wf s → e.connection < s'.sockets)
  dropped : Failed outcome → s'.connection = none

/-- **A call takes the next id and leaves no connection where it failed.** -/
theorem call_spec (c : Call) (s : Client) :
    Called s (s.call replies timed stackHolds c).2 (s.call replies timed stackHolds c).1 ∧
      ∀ answer, Yields (s.call replies timed stackHolds c).1 answer →
        AnsweredBy c s.nextRequestId (s.call replies timed stackHolds c).2.events answer := by
  obtain ⟨attempted, answered⟩ := @attempt_spec replies timed stackHolds c
    s.nextRequestId { s with nextRequestId := s.nextRequestId + 1, events := [] } rfl
  unfold call
  generalize attempt replies timed stackHolds c s.nextRequestId _ = ended at attempted answered ⊢
  obtain ⟨result, t⟩ := ended
  dsimp only at attempted answered ⊢
  have onward : Onward s t := ⟨attempted.onward.sockets, attempted.onward.connection⟩
  have used : ∀ e ∈ t.events, Own s e.connection ∧ (Wf s → e.connection < t.sockets) := by
    intro e listed
    have held := attempted.used e listed
    exact ⟨onward.own (Or.inl held), fun wf => onward.wf wf _ held⟩
  have number : t.nextRequestId = s.nextRequestId + 1 := attempted.nextRequestId
  cases result with
  | ok answer =>
      refine ⟨⟨onward, number, used, ?_⟩, answered⟩
      rintro ⟨e, same, -⟩
      cases same
  | error e =>
      dsimp only
      split_ifs with drops
      swap
      · refine ⟨⟨onward, number, used, ?_⟩, answered⟩
        rintro ⟨e', same, drops'⟩
        cases same
        exact absurd drops' drops
      obtain ⟨none, sockets, number', events⟩ := dropConnection_spec replies t
      have further := dropConnection_onward replies t
      have silent := @dropConnection_error replies t
      generalize t.dropConnection replies = ended at none sockets number' events further silent ⊢
      obtain ⟨result, u⟩ := ended
      dsimp only at none sockets number' events further ⊢
      have called : ∀ outcome, Called s u outcome := by
        intro outcome
        refine ⟨⟨onward.sockets.trans further.sockets, ?_⟩, number'.trans number, ?_, fun _ => none⟩
        · intro c' held
          rw [none] at held
          cases held
        · rw [events, sockets]
          exact used
      cases result with
      | error e' =>
          exact ⟨called _, fun answer yields => absurd yields (not_yields (silent rfl))⟩
      | ok _ =>
          refine ⟨called _, ?_⟩
          rw [events]
          exact answered

/-! ## Runs -/

theorem run_own (requests : List Request) {s : Client} (r : Record)
    (listed : r ∈ run replies timed stackHolds requests s) :
    s.nextRequestId ≤ r.requestId ∧ ∀ e ∈ r.events, Own s e.connection := by
  induction requests generalizing s with
  | nil => cases listed
  | cons request rest ih =>
      cases request with
      | close =>
          obtain ⟨-, -, number, -⟩ := dropConnection_spec replies s
          obtain ⟨later, own⟩ := ih listed
          rw [number] at later
          exact ⟨later, fun e used => (dropConnection_onward replies s).own (own e used)⟩
      | call c =>
          obtain ⟨called, -⟩ := @call_spec replies timed stackHolds c s
          rcases List.mem_cons.1 listed with rfl | after
          · exact ⟨le_rfl, fun e used => (called.used e used).1⟩
          · obtain ⟨later, own⟩ := ih after
            rw [called.nextRequestId] at later
            exact ⟨by omega, fun e used => called.onward.own (own e used)⟩

/-- **No response is mixed up.**  Whatever the sockets do, an answer is read from a frame
with the id of its own request, received after the request was sent and on the connection
it was sent on; ids rise; and a connection that a failed call used is not used again. -/
theorem responses_unmixed (requests : List Request) :
    (∀ r ∈ run replies timed stackHolds requests new, ∀ answer, Yields r.outcome answer →
      AnsweredBy r.call r.requestId r.events answer) ∧
    (run replies timed stackHolds requests new).Pairwise
      (fun earlier later => earlier.requestId < later.requestId) ∧
    (run replies timed stackHolds requests new).Pairwise fun earlier later =>
      Failed earlier.outcome → ∀ e ∈ earlier.events, ∀ e' ∈ later.events,
        e'.connection ≠ e.connection := by
  have start : Wf new := wf_new
  generalize new = s at start ⊢
  induction requests generalizing s with
  | nil => exact ⟨nofun, .nil, .nil⟩
  | cons request rest ih =>
      cases request with
      | close => exact ih _ ((dropConnection_onward replies s).wf start)
      | call c =>
          obtain ⟨called, answered⟩ :=
            @call_spec replies timed stackHolds c s
          obtain ⟨answers, numbers, apart⟩ := ih _ (called.onward.wf start)
          refine ⟨?_, List.pairwise_cons.2 ⟨?_, numbers⟩, List.pairwise_cons.2 ⟨?_, apart⟩⟩
          · intro r listed
            rcases List.mem_cons.1 listed with rfl | after
            · exact answered
            · exact answers r after
          · intro r listed
            have later := (run_own replies rest r listed).1
            rw [called.nextRequestId] at later
            show s.nextRequestId < _
            omega
          · intro r listed failed e used e' used'
            have dropped := called.dropped failed
            have made := (called.used e used).2 start
            rcases (run_own replies rest r listed).2 e' used' with held | fresh
            · rw [dropped] at held
              cases held
            · omega

/-! ## A prompt peer -/

variable {replies}

theorem recvLoop_whole {c : Nat} {clean : Bool} {chunk : Bytes} {s : Client} (some : chunk ≠ [])
    (arrives : replies s.taken = .ok chunk) :
    s.recvLoop replies c clean chunk.length [] =
      (.ok chunk, s.tick.record (.receives c chunk)) := by
  have positive : chunk.length ≠ 0 := fun zero => some (List.length_eq_zero_iff.1 zero)
  rw [recvLoop, if_neg positive]
  have read : s.recv replies c chunk.length = (.ok chunk, s.tick.record (.receives c chunk)) := by
    simp only [recv, reply, arrives, List.take_length]
  rw [read]
  cases chunk with
  | nil => exact absurd rfl some
  | cons b rest =>
      simp only [List.length_cons, Nat.sub_self, List.nil_append]
      rw [recvLoop, if_pos rfl]

/-- **A call returns the answer it gets.** -/
theorem call_prompt {c : Call} {s : Client} {k : Nat} {frame payload : Bytes} {message : Message}
    {answer : Answer} (held : s.connection = some k) (fits : stackHolds c = true)
    (encoded : encodeRequest s.nextRequestId c.operation c.args = .ok frame)
    (sent : replies s.taken = .ok [])
    (header : replies (s.taken + 1) = .ok (lengthHeader payload.length))
    (body : replies (s.taken + 2) = .ok payload) (nonempty : payload ≠ [])
    (short : payload.length ≤ MAX_FRAME_BYTES) (loaded : loadPayload payload = .ok message)
    (decoded : decodeResponse message s.nextRequestId = .ok answer) :
    (s.call replies timed stackHolds c).1 = .ok answer := by
  have length : headerLength (lengthHeader payload.length) = payload.length :=
    headerLength_lengthHeader short
  have positive : payload.length ≠ 0 := fun zero => nonempty (List.length_eq_zero_iff.1 zero)
  have inside : ¬(payload.length = 0 ∨ MAX_FRAME_BYTES < payload.length) := by omega
  have attempted : (attempt replies timed stackHolds c s.nextRequestId
      { s with nextRequestId := s.nextRequestId + 1, events := [] }).1 = .ok answer := by
    simp only [attempt, connect, held, fits, encoded, if_true, sendall, operate, reply, record,
      sent, receive, recvExact]
    rw [show (4 : Nat) = (lengthHeader payload.length).length from rfl,
      recvLoop_whole (by simp [lengthHeader]) header]
    simp only [length, if_neg inside]
    rw [recvLoop_whole nonempty body]
    simp only [loaded, raising, Except.mapError, decoded]
  unfold call
  generalize attempt replies timed stackHolds c s.nextRequestId _ = ended at attempted ⊢
  obtain ⟨result, t⟩ := ended
  obtain rfl : result = .ok answer := attempted
  rfl

end Client

end InstrumentBench.Visa.Protocol
