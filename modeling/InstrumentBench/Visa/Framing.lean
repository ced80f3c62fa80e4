/-
# Visa.Framing -- frames off a stream

`recv_message` reads a header and a payload off a stream that arrives in any chunks.  A
complete frame gives its message and leaves the stream behind it (`recvMessage_frame`);
a stream that ends gives a clean close before a header and a truncated frame inside one
(`recvMessage_cut`).

* `framed_of_loadable`: of frames that are cut anywhere and arrive in any chunks,
  repeated receiving returns the complete ones in order, and tells a cut between frames
  from a cut inside one;
* `long_integer_unreceived`: a frame with an integer of 4097 digits is written, and
  refused by its receiver.
-/
import InstrumentBench.Visa.Protocol

namespace InstrumentBench.Visa.Protocol

set_option autoImplicit false

open InstrumentBench.Theory InstrumentBench.Theory.PyText

/-- The exchange fails in a `ProtocolError`. -/
def Refused {α : Type} (result : Except Failure α) : Prop :=
  ∃ message, result = .error (.protocolError message)

theorem refused_protocolError {α : Type} (message : String) :
    Refused (protocolError message : Except Failure α) := ⟨_, rfl⟩

theorem Refused.map {α β : Type} {result : Except Failure α} (refused : Refused result)
    (f : α → β) : Refused (result.map f) := by
  obtain ⟨message, rfl⟩ := refused
  exact ⟨message, rfl⟩

/-! ## Headers -/

@[simp] theorem lengthHeader_length (n : Nat) : (lengthHeader n).length = 4 := rfl

theorem headerLength_lengthHeader {n : Nat} (small : n ≤ MAX_FRAME_BYTES) :
    headerLength (lengthHeader n) = n := by
  have bound : n < 16777216 := Nat.lt_of_le_of_lt small (by decide)
  simp only [headerLength, lengthHeader, List.foldl_cons, List.foldl_nil, UInt8.toNat_ofNat']
  omega

/-- What `encode_message` accepts, it frames behind its length. -/
theorem encodeMessage_ok {message : Message} {frame : Bytes}
    (encoded : encodeMessage message = .ok frame) :
    ∃ payload, payloadOf message = .ok payload ∧ payload ≠ [] ∧
      payload.length ≤ MAX_FRAME_BYTES ∧ frame = lengthHeader payload.length ++ payload := by
  unfold encodeMessage at encoded
  cases made : payloadOf message with
  | error e =>
      rw [made] at encoded
      cases encoded
  | ok payload =>
      rw [made] at encoded
      dsimp only at encoded
      split at encoded
      · cases encoded
      · rename_i fits
        cases encoded
        exact ⟨payload, rfl, fun empty => fits (.inl empty),
          Nat.not_lt.1 fun large => fits (.inr large), rfl⟩

/-- The bytes of a message that can be written. -/
def payloadBytes (message : Message) : Bytes := encodeUtf8 (Json.obj message).dumpsUnicode

theorem payloadOf_writable {message : Message} (finite : (Json.obj message).finite = true)
    (digits : (Json.obj message).withinDigits = true)
    (scalar : (Json.obj message).AllText ScalarText) :
    payloadOf message = .ok (payloadBytes message) := by
  have encoded : encodeUtf8? (Json.obj message).dumpsUnicode = some (payloadBytes message) :=
    if_pos (Json.scalarText_dumpsUnicode scalar)
  unfold payloadOf
  rw [finite, digits, encoded]
  rfl

theorem payloadBytes_ne_nil (message : Message) : payloadBytes message ≠ [] := by
  obtain ⟨c, tail, rendered, -⟩ := Json.verbatim.render_first (Json.obj message).canon
  have bytes : utf8Char c ≠ [] := by
    unfold utf8Char
    dsimp only
    split
    · simp
    · split
      · simp
      · split <;> simp
  unfold payloadBytes Json.dumpsUnicode
  rw [rendered]
  exact List.append_ne_nil_of_left_ne_nil bytes _

/-- A message that can be written is framed exactly when it fits. -/
theorem encodeMessage_writable {message : Message}
    (made : payloadOf message = .ok (payloadBytes message)) :
    ((payloadBytes message).length ≤ MAX_FRAME_BYTES →
      encodeMessage message =
        .ok (lengthHeader (payloadBytes message).length ++ payloadBytes message)) ∧
    (¬ (payloadBytes message).length ≤ MAX_FRAME_BYTES → Refused (encodeMessage message)) := by
  unfold encodeMessage
  rw [made]
  dsimp only
  constructor
  · intro fits
    rw [if_neg fun wrong => wrong.elim (payloadBytes_ne_nil message) (Nat.not_lt.2 fits)]
  · intro large
    rw [if_pos (.inr (Nat.not_le.1 large))]
    exact refused_protocolError _

theorem payloadOf_ok {message : Message} {payload : Bytes}
    (made : payloadOf message = .ok payload) :
    (Json.obj message).finite = true ∧ (Json.obj message).withinDigits = true ∧
      encodeUtf8? (Json.obj message).dumpsUnicode = some payload := by
  unfold payloadOf at made
  split at made
  · rename_i writable
    rw [Bool.and_eq_true] at writable
    split at made
    · rename_i encoded
      cases made
      exact ⟨writable.1, writable.2, encoded⟩
    · cases made
  · cases made

/-- The dict of a message, its members in key order throughout. -/
def inKeyOrder (message : Message) : Message := Json.sortFields (Json.canonFields message)

/-- A payload loads unless an integer is too long for the receiver. -/
theorem loadPayload_payloadOf {message : Message} {payload : Bytes}
    (distinct : (Json.obj message).Distinct) (made : payloadOf message = .ok payload) :
    loadPayload payload =
      if (Json.obj message).integersWithin MAX_JSON_INTEGER_DIGITS then .ok (inKeyOrder message)
      else protocolError "invalid JSON payload" := by
  obtain ⟨finite, digits, encoded⟩ := payloadOf_ok made
  have plain : (Json.obj message).Plain := (Json.plain_iff _).2 ⟨distinct, finite⟩
  unfold loadPayload
  rw [decodeUtf8_of_encodeUtf8? encoded]
  dsimp only
  rw [Json.loads_dumpsUnicode ⟨plain, digits⟩]
  dsimp only
  rw [Json.integersWithin_canon]
  rfl

/-! ## One frame -/

section Receive

variable {stream : ChunkStream} {payload rest : Bytes}

/-- **A complete frame is received however it arrives**, and what follows it is left. -/
theorem recvMessage_frame (nonempty : payload ≠ []) (fits : payload.length ≤ MAX_FRAME_BYTES)
    (arrives : stream.bytes = lengthHeader payload.length ++ payload ++ rest) :
    ∃ left, left.bytes = rest ∧
      recvMessage stream = (loadPayload payload).map fun message => (message, left) := by
  have enough : 4 ≤ stream.bytes.length := by
    rw [arrives, List.length_append, List.length_append, lengthHeader_length]
    omega
  obtain ⟨behind, header, after⟩ := ChunkStream.readExact_of_enough enough
  rw [arrives, List.append_assoc, List.take_left' (lengthHeader_length _)] at header
  rw [arrives, List.append_assoc, List.drop_left' (lengthHeader_length _)] at after
  have enough : payload.length ≤ behind.bytes.length := by
    rw [after, List.length_append]
    omega
  obtain ⟨left, body, rest'⟩ := ChunkStream.readExact_of_enough enough
  rw [after, List.take_left' rfl] at body
  rw [after, List.drop_left' rfl] at rest'
  have positive : payload.length ≠ 0 := by simpa using nonempty
  refine ⟨left, rest', ?_⟩
  unfold recvMessage recvExact
  rw [header]
  dsimp only
  rw [headerLength_lengthHeader fits, if_neg (by omega), body]

/-- **A stream that ends before a frame is complete**: a clean close where it ends before
the frame, a `ProtocolError` inside it. -/
theorem recvMessage_cut (fits : payload.length ≤ MAX_FRAME_BYTES)
    (part : stream.bytes <+: lengthHeader payload.length ++ payload)
    (short : stream.bytes.length < (lengthHeader payload.length ++ payload).length) :
    (stream.bytes = [] → recvMessage stream = .error .connectionClosed) ∧
      (stream.bytes ≠ [] → Refused (recvMessage stream)) := by
  by_cases header : stream.bytes.length < 4
  · have read := ChunkStream.readExact_of_short header
    constructor
    · intro ended
      unfold recvMessage recvExact
      rw [read, ended]
      rfl
    · intro begun
      unfold recvMessage recvExact
      rw [read]
      dsimp only
      rw [if_neg (by simpa using begun)]
      exact refused_protocolError _
  · obtain ⟨behind, read, after⟩ := ChunkStream.readExact_of_enough (Nat.not_lt.1 header)
    obtain ⟨missing, whole⟩ := part
    have split : stream.bytes.take 4 = lengthHeader payload.length := by
      have := congrArg (List.take 4) whole
      rwa [List.take_append_of_le_length (Nat.not_lt.1 header),
        List.take_left' (lengthHeader_length _)] at this
    have fewer : behind.bytes.length < payload.length := by
      rw [List.length_append, lengthHeader_length] at short
      rw [after, List.length_drop]
      omega
    have positive : payload.length ≠ 0 := by omega
    constructor
    · intro ended
      rw [ended] at header
      exact absurd (by decide) header
    · intro _
      unfold recvMessage recvExact
      rw [read, split]
      dsimp only
      rw [headerLength_lengthHeader fits, if_neg (by omega),
        ChunkStream.readExact_of_short fewer]
      exact refused_protocolError _

theorem recvMessage_ended (ended : stream.bytes = []) :
    recvMessage stream = .error .connectionClosed := by
  unfold recvMessage recvExact
  rw [ChunkStream.readExact_of_short (by rw [ended]; decide), ended]
  rfl

/-- Receiving a message takes it off the stream. -/
theorem recvMessage_shorter {message : Message} {left : ChunkStream}
    (received : recvMessage stream = .ok (message, left)) :
    left.bytes.length < stream.bytes.length := by
  unfold recvMessage recvExact at received
  cases header : stream.readExact 4 with
  | error got =>
      rw [header] at received
      dsimp only at received
      cases clean : got.isEmpty with
      | true =>
          rw [clean] at received
          cases received
      | false =>
          rw [clean] at received
          cases received
  | ok read =>
      obtain ⟨got, behind⟩ := read
      rw [header] at received
      dsimp only at received
      by_cases wrong : headerLength got = 0 ∨ MAX_FRAME_BYTES < headerLength got
      · rw [if_pos wrong] at received
        cases received
      · rw [if_neg wrong] at received
        cases body : behind.readExact (headerLength got) with
        | error part =>
            rw [body] at received
            cases received
        | ok read =>
            obtain ⟨payload, last⟩ := read
            rw [body] at received
            dsimp only at received
            cases loaded : loadPayload payload with
            | error e =>
                rw [loaded] at received
                cases received
            | ok message =>
                rw [loaded] at received
                cases received
                obtain ⟨first, four⟩ := ChunkStream.readExact_ok header
                obtain ⟨second, -⟩ := ChunkStream.readExact_ok body
                rw [← first, ← second, List.length_append, List.length_append]
                omega

end Receive

/-! ## Repeated receiving -/

/-- `recv_message` until it raises: the messages, and what it raised. -/
def recvAll (stream : ChunkStream) : List Message × Failure :=
  match received : recvMessage stream with
  | .error failure => ([], failure)
  | .ok (message, left) =>
      let later := recvAll left
      (message :: later.1, later.2)
termination_by stream.bytes.length
decreasing_by exact recvMessage_shorter received

theorem recvAll_error {stream : ChunkStream} {failure : Failure}
    (failed : recvMessage stream = .error failure) : recvAll stream = ([], failure) := by
  rw [recvAll]
  split
  · rename_i received
    rw [failed] at received
    cases received
    rfl
  · rename_i received
    rw [failed] at received
    cases received

theorem recvAll_ok {stream left : ChunkStream} {message : Message}
    (received : recvMessage stream = .ok (message, left)) :
    recvAll stream = (message :: (recvAll left).1, (recvAll left).2) := by
  rw [recvAll]
  split
  · rename_i failed
    rw [received] at failed
    cases failed
  · rename_i again
    rw [received] at again
    cases again
    rfl

/-- A dict that `encode_message` accepts, and its frame. -/
structure Accepted where
  message : Message
  distinct : (Json.obj message).Distinct
  frame : Bytes
  encoded : encodeMessage message = .ok frame

/-- No integer is too long for the receiver. -/
def Accepted.Loadable (a : Accepted) : Prop :=
  (Json.obj a.message).integersWithin MAX_JSON_INTEGER_DIGITS = true

/-- The bytes of the frames, one after the other. -/
def wire (sent : List Accepted) : Bytes := (sent.map Accepted.frame).flatten

/-- How many frames are complete when the stream ends after `cut` bytes. -/
def completed : List Accepted → Nat → Nat
  | [], _ => 0
  | a :: sent, cut =>
      if a.frame.length ≤ cut then completed sent (cut - a.frame.length) + 1 else 0

/-- The stream ends between two frames, or after the last. -/
def AtBoundary (sent : List Accepted) (cut : Nat) : Prop :=
  ∃ done, done <+: sent ∧ (wire sent).take cut = wire done

/-- Repeated receiving returns the complete messages in order, and ends with
`ConnectionClosed` where the stream ends between frames and with a `ProtocolError`
where it ends inside one. -/
structure Framed (sent : List Accepted) (cut : Nat) (stream : ChunkStream) : Prop where
  messages : (recvAll stream).1 =
    (sent.take (completed sent cut)).map fun a => inKeyOrder a.message
  closed : AtBoundary sent cut → (recvAll stream).2 = .connectionClosed
  truncated : ¬ AtBoundary sent cut → ∃ message, (recvAll stream).2 = .protocolError message

section Wire

theorem wire_cons (a : Accepted) (sent : List Accepted) : wire (a :: sent) = a.frame ++ wire sent :=
  rfl

theorem Accepted.frame_ne_nil (a : Accepted) : a.frame ≠ [] := by
  obtain ⟨payload, -, -, -, is⟩ := encodeMessage_ok a.encoded
  rw [is]
  exact List.cons_ne_nil _ _

theorem wire_eq_nil {sent : List Accepted} (empty : wire sent = []) : sent = [] := by
  cases sent with
  | nil => rfl
  | cons a sent =>
      rw [wire_cons, List.append_eq_nil_iff] at empty
      exact absurd empty.1 a.frame_ne_nil

/-- Past a complete frame, the boundaries are those of the rest. -/
theorem atBoundary_cons {a : Accepted} {sent : List Accepted} {cut : Nat}
    (complete : a.frame.length ≤ cut) :
    AtBoundary (a :: sent) cut ↔ AtBoundary sent (cut - a.frame.length) := by
  have taken : (wire (a :: sent)).take cut = a.frame ++ (wire sent).take (cut - a.frame.length) := by
    rw [wire_cons, List.take_append, List.take_of_length_le complete]
  unfold AtBoundary
  rw [taken]
  constructor
  · rintro ⟨done, begins, same⟩
    cases done with
    | nil => exact absurd (List.append_eq_nil_iff.1 same).1 a.frame_ne_nil
    | cons b done =>
        obtain ⟨rfl, tail⟩ := List.cons_prefix_cons.1 begins
        rw [wire_cons] at same
        exact ⟨done, tail, List.append_cancel_left same⟩
  · rintro ⟨done, begins, same⟩
    refine ⟨a :: done, List.cons_prefix_cons.2 ⟨rfl, begins⟩, ?_⟩
    rw [wire_cons, same]

/-- Before the end of a frame, the only boundary is before all of it. -/
theorem atBoundary_inside {a : Accepted} {sent : List Accepted} {cut : Nat}
    (inside : cut < a.frame.length) : AtBoundary (a :: sent) cut ↔ cut = 0 := by
  constructor
  · rintro ⟨done, begins, same⟩
    cases done with
    | nil =>
        rcases List.take_eq_nil_iff.1 same with zero | empty
        · exact zero
        · cases wire_eq_nil empty
    | cons b done =>
        obtain ⟨rfl, -⟩ := List.cons_prefix_cons.1 begins
        have length := congrArg List.length same
        rw [List.length_take, wire_cons, wire_cons, List.length_append, List.length_append] at length
        omega
  · rintro rfl
    exact ⟨[], List.nil_prefix, rfl⟩

end Wire

/-- **Framing is independent of chunking.** -/
theorem framed_of_loadable (sent : List Accepted) (loadable : ∀ a ∈ sent, a.Loadable) (cut : Nat)
    (stream : ChunkStream) (arrives : stream.bytes = (wire sent).take cut) :
    Framed sent cut stream := by
  induction sent generalizing cut stream with
  | nil =>
      have received := recvAll_error (recvMessage_ended (arrives.trans List.take_nil))
      refine ⟨by rw [received]; rfl, fun _ => by rw [received], fun outside => ?_⟩
      exact absurd ⟨[], List.nil_prefix, List.take_nil⟩ outside
  | cons a sent ih =>
      obtain ⟨payload, made, nonempty, fits, frame⟩ := encodeMessage_ok a.encoded
      by_cases complete : a.frame.length ≤ cut
      · -- the frame is complete: its message is received, and the rest is a cut of the rest
        have split : stream.bytes =
            lengthHeader payload.length ++ payload ++ (wire sent).take (cut - a.frame.length) := by
          rw [arrives, wire_cons, List.take_append, List.take_of_length_le complete, ← frame]
        obtain ⟨left, after, received⟩ := recvMessage_frame nonempty fits split
        have own : (Json.obj a.message).integersWithin MAX_JSON_INTEGER_DIGITS = true :=
          loadable a List.mem_cons_self
        rw [loadPayload_payloadOf a.distinct made, if_pos own] at received
        have later := ih (fun b member => loadable b (List.mem_cons_of_mem _ member)) _ left after
        have all := recvAll_ok received
        refine ⟨?_, ?_, ?_⟩
        · rw [all, completed, if_pos complete, List.take_succ_cons, List.map_cons, later.messages]
        · rw [all, atBoundary_cons complete]
          exact later.closed
        · rw [all, atBoundary_cons complete]
          exact later.truncated
      · -- the stream ends before the frame does
        have part : stream.bytes = a.frame.take cut := by
          rw [arrives, wire_cons, List.take_append_of_le_length (by omega)]
        have short : stream.bytes.length < a.frame.length := by
          rw [part, List.length_take]
          omega
        have ends := recvMessage_cut fits (by rw [← frame, part]; exact List.take_prefix _ _)
          (by rwa [← frame])
        have empty : stream.bytes = [] ↔ cut = 0 := by
          rw [part, List.take_eq_nil_iff]
          exact or_iff_left a.frame_ne_nil
        have boundary : AtBoundary (a :: sent) cut ↔ cut = 0 :=
          atBoundary_inside (Nat.not_le.1 complete)
        by_cases start : cut = 0
        · have received := recvAll_error (ends.1 (empty.2 start))
          refine ⟨?_, fun _ => by rw [received], fun outside => absurd (boundary.2 start) outside⟩
          rw [received, completed, if_neg complete]
          rfl
        · obtain ⟨message, refused⟩ := ends.2 fun nothing => start (empty.1 nothing)
          have received := recvAll_error refused
          refine ⟨?_, fun at' => absurd (boundary.1 at') start, fun _ => ⟨message, by rw [received]⟩⟩
          rw [received, completed, if_neg complete]
          rfl

/-- `{"a":1}`, and `{"b":"x"}` of which the first byte of the payload arrives, in chunks that
keep to no frame. -/
theorem framed_of_loadable_cut :
    ∃ (a b : Accepted) (stream : ChunkStream), a.message = [(txt "a", .int 1)] ∧
      b.message = [(txt "b", .str (txt "x"))] ∧
      stream.chunks = [[0, 0], [0, 7, 123, 34, 97, 34], [58, 49, 125, 0, 0], [0, 9, 123]] ∧
      (recvAll stream).1 = [[(txt "a", .int 1)]] ∧ Framed [a, b] 16 stream := by
  have encoded : encodeMessage [(txt "a", .int 1)] =
      .ok [0, 0, 0, 7, 123, 34, 97, 34, 58, 49, 125] := by decide
  have encoded' : encodeMessage [(txt "b", .str (txt "x"))] =
      .ok [0, 0, 0, 9, 123, 34, 98, 34, 58, 34, 120, 34, 125] := by decide
  let a : Accepted := ⟨[(txt "a", .int 1)], ⟨by decide, trivial, trivial⟩, _, encoded⟩
  let b : Accepted := ⟨[(txt "b", .str (txt "x"))], ⟨by decide, trivial, trivial⟩, _, encoded'⟩
  let stream : ChunkStream :=
    ⟨[[0, 0], [0, 7, 123, 34, 97, 34], [58, 49, 125, 0, 0], [0, 9, 123]], by decide⟩
  have loadable : ∀ message ∈ [a, b], message.Loadable := by
    have first : (Json.obj [(txt "a", .int 1)]).integersWithin MAX_JSON_INTEGER_DIGITS = true := by
      decide
    intro message member
    rcases List.mem_pair.1 member with rfl | rfl
    · exact first
    · rfl
  have framed := framed_of_loadable [a, b] loadable 16 stream rfl
  refine ⟨a, b, stream, rfl, rfl, rfl, ?_, framed⟩
  rw [framed.messages]
  rfl

/-! ## An integer of 4097 digits -/

theorem length_encodeUtf8_of_ascii {t : Text} (ascii : Ascii t) :
    (encodeUtf8 t).length = t.length := by
  induction t with
  | nil => rfl
  | cons c t ih =>
      obtain ⟨small, rest⟩ := ascii_cons.1 ascii
      have one : utf8Char c = [UInt8.ofNat c.val] := if_pos small
      show (utf8Char c ++ encodeUtf8 t).length = _
      rw [one, List.length_append, ih rest]
      simp
      omega

/-- A single member that is an integer. -/
theorem payloadBytes_integer (n : Nat) :
    (payloadBytes [(txt "a", .int n)]).length = 6 + (decimalDigits n).length := by
  have literal : (Json.intLiteral n).render = digitText (decimalDigits n) := by
    have plain : decide ((n : Int) < 0) = false := by simp
    simp [NumberLiteral.render, Json.intLiteral, NumberLiteral.signText,
      NumberLiteral.fractionText, NumberLiteral.exponentText, plain]
  have text : (Json.obj [(txt "a", .int n)]).dumpsUnicode =
      txt "\x7b\"a\":" ++ (digitText (decimalDigits n) ++ txt "\x7d") := by
    rw [← literal]
    rfl
  have ascii : Ascii (txt "\x7b\"a\":" ++ (digitText (decimalDigits n) ++ txt "\x7d")) :=
    ascii_append.2 ⟨by decide, ascii_append.2 ⟨(graphic_digitText _).ascii, by decide⟩⟩
  unfold payloadBytes
  rw [text, length_encodeUtf8_of_ascii ascii, List.length_append, List.length_append]
  simp [txt, digitText]
  omega

/-- An integer that the interpreter writes and the receiver does not load. -/
theorem integer_unreceived {n : Nat} (long : ¬ (decimalDigits n).length ≤ MAX_JSON_INTEGER_DIGITS)
    (short : (decimalDigits n).length ≤ Json.maxStrDigits) :
    ∃ (a : Accepted) (stream : ChunkStream), a.message = [(txt "a", .int n)] ∧
      stream.chunks = [a.frame] ∧ ¬ Framed [a] a.frame.length stream := by
  have digits : (Json.obj [(txt "a", .int n)]).withinDigits = true := by
    simpa [Json.withinDigits, Json.withinDigitsFields] using short
  have made : payloadOf [(txt "a", .int n)] = .ok (payloadBytes [(txt "a", .int n)]) :=
    payloadOf_writable rfl digits ⟨by decide, trivial, trivial⟩
  have fits : (payloadBytes [(txt "a", .int n)]).length ≤ MAX_FRAME_BYTES := by
    rw [payloadBytes_integer]
    exact Nat.le_trans (Nat.add_le_add_left short 6) (by decide)
  have distinct : (Json.obj [(txt "a", .int n)]).Distinct := ⟨by simp [Json.keys], trivial, trivial⟩
  let a : Accepted := ⟨[(txt "a", .int n)], distinct, _, (encodeMessage_writable made).1 fits⟩
  let stream : ChunkStream := ⟨[a.frame], by
    intro chunk member
    cases List.mem_singleton.1 member
    exact a.frame_ne_nil⟩
  refine ⟨a, stream, rfl, rfl, ?_⟩
  intro framed
  have refused : (Json.obj [(txt "a", .int n)]).integersWithin MAX_JSON_INTEGER_DIGITS = false := by
    simpa [Json.integersWithin, Json.integersWithinFields] using long
  have arrives : stream.bytes = lengthHeader (payloadBytes [(txt "a", .int n)]).length ++
      payloadBytes [(txt "a", .int n)] ++ [] := rfl
  obtain ⟨left, -, received⟩ := recvMessage_frame (payloadBytes_ne_nil _) fits arrives
  rw [loadPayload_payloadOf distinct made, refused] at received
  have messages := framed.messages
  rw [recvAll_error received, completed, if_pos le_rfl] at messages
  cases messages

/-- **A message that is written and not received.** -/
theorem long_integer_unreceived :
    ∃ (a : Accepted) (stream : ChunkStream), a.message = [(txt "a", .int (10 ^ 4096 : Nat))] ∧
      stream.chunks = [a.frame] ∧ ¬ Framed [a] a.frame.length stream := by
  apply integer_unreceived
  · rw [length_decimalDigits_le_iff (by decide)]
    exact Nat.lt_irrefl _
  · rw [length_decimalDigits_le_iff (by decide)]
    exact Nat.pow_lt_pow_right (by decide) (by simp [Json.maxStrDigits])

end InstrumentBench.Visa.Protocol
