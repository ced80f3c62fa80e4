/-
# Fibsem.BrokerSession -- one candidate's requests, each dispatched once

`BrokerSession.process` takes a request object, validates a copy of it, calls the
dispatcher and encodes the response.  The number a request must carry goes up between
validation and dispatch: a request that is refused leaves it, one whose response cannot be
encoded has used it up.

What the dispatcher does is left open: it keeps a state of its own and each call returns a
value, raises a `BrokerVisibleError`, another `Exception`, or something that is none.
`accepted` says which requests pass without naming a dispatcher.

* `run_calls`: a session leaves its dispatcher in the state that calling it for the accepted
  requests, each once and in order, leaves it in.
* `process_refused`, `process_response`: a refused request leaves the session as it is, and
  a response carries the request's ID.
* `session_replays_nothing`: both over a session, whose requests carry the numbers from one
  on; a dispatcher that writes down its calls then holds the accepted requests
  (`recorded_calls`).
-/
import InstrumentBench.Fibsem.Dispatch
import InstrumentBench.Fibsem.Frames
import InstrumentBench.Theory.ZeroPadded

namespace InstrumentBench.Fibsem.Protocol

set_option autoImplicit false

open InstrumentBench.Theory InstrumentBench.Theory.PyText
open InstrumentBench.Fibsem.Journal

/-! ## The dispatcher -/

/-- How a call of `dispatch` ends. -/
inductive Dispatched where
  | result (value : PyValue)
  /-- `BrokerVisibleError` -/
  | visible (message : Text)
  /-- any other `Exception` -/
  | failed
  /-- an exception that is no `Exception` -/
  | interrupted

/-- A dispatcher, in any of its states. -/
abbrev Dispatcher (σ : Type) := σ → Request → Dispatched × σ

/-- `OperationDispatcher`, whose `RejectedOperation` is a `BrokerVisibleError`. -/
def operationDispatcher {β : Type} (setup : Service.Setup β) :
    Dispatcher (Microscope.OperationDispatcher β) := fun d request =>
  match Microscope.dispatch setup d ⟨request.requestId, request.operation, request.arguments⟩ with
  | (.ok value, d) => (.result value, d)
  | (.error (.rejected message), d) => (.visible message, d)
  | (.error _, d) => (.failed, d)

/-! ## The session -/

/-- The items of a request object. -/
abbrev RequestObject := List (PyKey × PyValue)

abbrev Response := List (PyKey × PyValue)

/-- What leaves `process` other than a response. -/
inductive Escape where
  | failure (failure : Failure)
  | interrupted
deriving DecidableEq

/-- `BrokerSession` -/
structure BrokerSession (σ : Type) where
  nextRequestNumber : Nat
  dispatcher : σ

namespace BrokerSession

variable {σ : Type}

/-- `BrokerSession(dispatcher)` -/
def new (dispatcher : σ) : BrokerSession σ := ⟨1, dispatcher⟩

end BrokerSession

/-- The head of every response. -/
def responseHead (requestId : Text) (ok : Bool) : Response :=
  [(.str (txt "protocol_version"), .int PROTOCOL_VERSION),
   (.str (txt "request_id"), .str requestId), (.str (txt "ok"), .bool ok)]

def errorResponse (requestId code message : Text) : Response :=
  responseHead requestId false ++
    [(.str (txt "error"), .mapping [(.str (txt "code"), .str code),
      (.str (txt "message"), .str message)])]

/-- The response to a call that has ended so. -/
def respond (requestId : Text) : Dispatched → Except Escape Response
  | .result value => .ok (responseHead requestId true ++ [(.str (txt "result"), value)])
  | .visible message =>
      .ok (errorResponse requestId (txt "rejected_operation") (message.take 512))
  | .failed =>
      .ok (errorResponse requestId (txt "internal_error") (txt "trusted operation failed"))
  | .interrupted => .error .interrupted

section Processing

variable {σ : Type} (stackHolds : PyValue → Bool)

/-- What `process` checks before it calls `dispatch`.  A value whose walk the interpreter's
stack does not hold is a `RecursionError`. -/
def validated (nextRequestNumber : Nat) (request : RequestObject) : Except Failure Request :=
  if stackHolds (.mapping request) then
    match plainEntries rootPath [] request with
    | .error _ => .error (.protocolError .notPlain)
    | .ok value => (checkRequest nextRequestNumber value).mapError .protocolError
  else .error .recursionError

/-- `encode_payload` -/
def encodePayload (value : Response) : Except Failure Bytes :=
  if stackHolds (.mapping value) then
    match plainEntries rootPath [] value with
    | .error _ => .error (.protocolError .notPlain)
    | .ok plain =>
        if (Json.obj plain).withinDigits then
          let payload := asciiBytes (Json.obj plain).dumps
          if MAX_FRAME_BYTES < payload.length then .error (.protocolError .tooLarge)
          else .ok payload
        else .error .valueError
  else .error .recursionError

variable (dispatch : Dispatcher σ)

/-- `process` -/
def process (s : BrokerSession σ) (request : RequestObject) :
    Except Escape Response × BrokerSession σ :=
  match validated stackHolds s.nextRequestNumber request with
  | .error failure => (.error (.failure failure), s)
  | .ok valid =>
      let (dispatched, dispatcher) := dispatch s.dispatcher valid
      let s := ⟨s.nextRequestNumber + 1, dispatcher⟩
      match respond valid.requestId dispatched with
      | .error escape => (.error escape, s)
      | .ok response =>
          match encodePayload stackHolds response with
          | .error failure => (.error (.failure failure), s)
          | .ok _ => (.ok response, s)

/-- A session after requests have been processed, whatever became of each. -/
def run (s : BrokerSession σ) (requests : List RequestObject) : BrokerSession σ :=
  requests.foldl (fun s request => (process stackHolds dispatch s request).2) s

/-- The requests that pass validation, each against the number that is then next. -/
def accepted : Nat → List RequestObject → List Request
  | _, [] => []
  | number, request :: rest =>
      match validated stackHolds number request with
      | .error _ => accepted number rest
      | .ok valid => valid :: accepted (number + 1) rest

end Processing

/-! ## Request numbers -/

/-- The request ID of a number. -/
def requestIdOf (number : Nat) : Text := txt "req-" ++ zfill 8 (natText number)

example : requestIdOf 1 = txt "req-00000001" := by decide

/-- **A number has one request ID.** -/
theorem requestId_of_number {requestId : Text} {number : Nat}
    (read : requestNumber? requestId = some number) : requestId = requestIdOf number := by
  unfold requestNumber? at read
  split at read
  · rename_i shape
    obtain ⟨⟨digits, rfl⟩, length⟩ := shape
    obtain ⟨ds, each, spelled⟩ := Option.map_eq_some_iff.1 read
    have rest : (txt "req-" ++ digits).drop 4 = digits := by
      rw [List.drop_append_of_le_length (by decide)]
      rfl
    have eight : digits.length = 8 := by
      rw [List.length_append] at length
      have four : (txt "req-").length = 4 := by decide
      omega
    have given : digits ≠ [] := by
      rintro rfl
      cases eight
    rw [rest] at each
    have field := zfill_of_digits given each
    rw [eight, spelled] at field
    rw [requestIdOf, field]
  · cases read

/-! ## Validation -/

section

variable {σ : Type} {stackHolds : PyValue → Bool} {dispatch : Dispatcher σ}

/-- A request that passes carries the number that is next, and is named by its object. -/
structure Valid (number : Nat) (request : RequestObject) (valid : Request) : Prop where
  requestId : valid.requestId = requestIdOf number
  named : request.lookup (.str (txt "request_id")) = some (.str valid.requestId)

theorem checkRequest_ok {number : Nat} {value : List (Text × Json)} {valid : Request}
    (checked : checkRequest number value = .ok valid) :
    requestNumber? valid.requestId = some number ∧
      value.lookup (txt "request_id") = some (.str valid.requestId) := by
  unfold checkRequest at checked
  dsimp only at checked
  split at checked
  · cases checked
  split at checked
  · cases checked
  split at checked
  · rename_i requestId given
    split at checked
    · cases checked
    · rename_i next
      have found : value.lookup (txt "request_id") = some (.str requestId) := by
        unfold field at given
        cases present : value.lookup (txt "request_id") with
        | none =>
            rw [present] at given
            cases given
        | some item =>
            rw [present] at given
            exact congrArg some given
      split at checked
      · split at checked
        · cases checked
        · split at checked
          · cases checked
            exact ⟨not_not.1 next, found⟩
          · cases checked
      · cases checked
  · cases checked

/-- Against any other number the request is a replay, or out of order. -/
theorem checkRequest_other {number number' : Nat} {value : List (Text × Json)} {valid : Request}
    (checked : checkRequest number value = .ok valid) (other : number' ≠ number) :
    checkRequest number' value = .error .order := by
  have read := (checkRequest_ok checked).1
  unfold checkRequest at checked ⊢
  dsimp only at checked ⊢
  split at checked
  · cases checked
  rename_i fields
  rw [if_neg fields]
  split at checked
  · cases checked
  rename_i version
  rw [if_neg version]
  split at checked
  · split at checked
    · cases checked
    · rename_i next
      rw [if_pos]
      rw [not_not.1 next]
      simpa using Ne.symm other
  · cases checked

theorem plain_str {path t : Text} {item : PyValue} (made : plain path item = .ok (.str t)) :
    item = .str t := by
  cases item with
  | str s =>
      cases made
      rfl
  | none => cases made
  | bool b => cases made
  | int i => cases made
  | float x =>
      rw [plain] at made
      split at made <;> cases made
  | bytes b => cases made
  | seq items =>
      rw [plain] at made
      split at made <;> cases made
  | mapping entries =>
      rw [plain] at made
      split at made <;> cases made
  | other name => cases made

theorem valid_of_validated {number : Nat} {request : RequestObject} {valid : Request}
    (passes : validated stackHolds number request = .ok valid) : Valid number request valid := by
  unfold validated at passes
  split at passes
  · split at passes
    · cases passes
    · rename_i value copied
      cases checked : checkRequest number value with
      | error e =>
          rw [checked] at passes
          cases passes
      | ok checkedRequest =>
          rw [checked] at passes
          cases passes
          obtain ⟨next, found⟩ := checkRequest_ok checked
          refine ⟨requestId_of_number next, ?_⟩
          have member := Microscope.lookup_plainEntries copied (txt "request_id")
          cases given : request.lookup (.str (txt "request_id")) with
          | none =>
              rw [given] at member
              have missing : value.lookup (txt "request_id") = none := member
              rw [missing] at found
              cases found
          | some item =>
              rw [given] at member
              obtain ⟨inner, v, made, there⟩ := member
              rw [there] at found
              cases found
              rw [plain_str made]
  · cases passes

theorem validated_other {number number' : Nat} {request : RequestObject} {valid : Request}
    (passes : validated stackHolds number request = .ok valid) (other : number' ≠ number) :
    validated stackHolds number' request = .error (.protocolError .order) := by
  unfold validated at passes ⊢
  split at passes
  · rename_i holds
    rw [if_pos holds]
    split at passes
    · cases passes
    · rename_i value copied
      cases checked : checkRequest number value with
      | error e =>
          rw [checked] at passes
          cases passes
      | ok checkedRequest =>
          rw [checkRequest_other checked other]
          rfl
  · cases passes

/-- A request off a connection is validated as its object is. -/
theorem validate_eq_validated {limits : Limits} (number : Nat) {fields : List (Text × Json)}
    (plain : (Json.obj fields).Plain) :
    validate limits number fields =
      validated (fun _ => framesOf limits.comprehension (.obj fields) ≤ limits.processPlain) number
        (Json.toPyFields fields) := by
  have copied : plainEntries rootPath [] (Json.toPyFields fields) = .ok fields :=
    plainEntries_toPy fields rootPath [] plain.1 (by simp) plain.2
  rw [validate_eq number ((Json.plain_iff _).1 plain).2]
  unfold validated
  rw [copied]
  by_cases fits : framesOf limits.comprehension (.obj fields) ≤ limits.processPlain
  · rw [if_pos fits, if_pos (decide_eq_true fits)]
  · rw [if_neg fits, if_neg (by simpa using fits)]

/-! ## One request -/

/-- **A refused request leaves the session as it is.** -/
theorem process_refused {s : BrokerSession σ} {request : RequestObject} {failure : Failure}
    (refused : validated stackHolds s.nextRequestNumber request = .error failure) :
    process stackHolds dispatch s request = (.error (.failure failure), s) := by
  unfold process
  rw [refused]

/-- **A valid request is dispatched once, and its number is used up** however the call and
its response end. -/
theorem process_valid {s : BrokerSession σ} {request : RequestObject} {valid : Request}
    (passes : validated stackHolds s.nextRequestNumber request = .ok valid) :
    (process stackHolds dispatch s request).2 =
      ⟨s.nextRequestNumber + 1, (dispatch s.dispatcher valid).2⟩ := by
  unfold process
  rw [passes]
  dsimp only
  cases respond valid.requestId (dispatch s.dispatcher valid).1 with
  | error escape => rfl
  | ok response =>
      dsimp only
      cases encodePayload stackHolds response with
      | error failure => rfl
      | ok payload => rfl

theorem respond_requestId {requestId : Text} {dispatched : Dispatched} {response : Response}
    (made : respond requestId dispatched = .ok response) :
    response.lookup (.str (txt "request_id")) = some (.str requestId) := by
  have head : ∀ (ok : Bool) (rest : Response),
      (responseHead requestId ok ++ rest).lookup (.str (txt "request_id")) =
        some (.str requestId) := by
    intro ok rest
    have other : txt "request_id" ≠ txt "protocol_version" := by decide
    show List.lookup (PyKey.str (txt "request_id")) ((PyKey.str (txt "protocol_version"), _) :: _) = _
    rw [PyDict.lookup_cons, if_neg (by simpa using other)]
    show List.lookup (PyKey.str (txt "request_id")) ((PyKey.str (txt "request_id"), _) :: _) = _
    rw [PyDict.lookup_cons, if_pos rfl]
  cases dispatched with
  | result value =>
      cases made
      exact head _ _
  | visible message =>
      cases made
      exact head _ _
  | failed =>
      cases made
      exact head _ _
  | interrupted => cases made

/-- **A response carries the ID of the request it answers.** -/
theorem process_response {s : BrokerSession σ} {request : RequestObject} {response : Response}
    (answered : (process stackHolds dispatch s request).1 = .ok response) :
    ∃ valid, validated stackHolds s.nextRequestNumber request = .ok valid ∧
      respond valid.requestId (dispatch s.dispatcher valid).1 = .ok response ∧
      response.lookup (.str (txt "request_id")) = some (.str valid.requestId) ∧
      request.lookup (.str (txt "request_id")) = some (.str valid.requestId) := by
  cases passes : validated stackHolds s.nextRequestNumber request with
  | error failure =>
      rw [process_refused passes] at answered
      cases answered
  | ok valid =>
      suffices made : respond valid.requestId (dispatch s.dispatcher valid).1 = .ok response from
        ⟨valid, rfl, made, respond_requestId made, (valid_of_validated passes).named⟩
      unfold process at answered
      rw [passes] at answered
      dsimp only at answered
      cases made : respond valid.requestId (dispatch s.dispatcher valid).1 with
      | error escape =>
          rw [made] at answered
          cases answered
      | ok body =>
          rw [made] at answered
          dsimp only at answered
          cases encoded : encodePayload stackHolds body with
          | error failure =>
              rw [encoded] at answered
              cases answered
          | ok payload =>
              rw [encoded] at answered
              cases answered
              rfl

/-! ## Sessions -/

/-- The state a dispatcher is left in by calls, one after another. -/
def afterCalls (dispatch : Dispatcher σ) (dispatcher : σ) (calls : List Request) : σ :=
  calls.foldl (fun d request => (dispatch d request).2) dispatcher

/-- **Whatever the dispatcher does, it is called for the accepted requests**, each once and
in their order: what it is left in is what these calls make of it. -/
theorem run_calls (stackHolds : PyValue → Bool) (dispatch : Dispatcher σ) (s : BrokerSession σ)
    (requests : List RequestObject) :
    let calls := accepted stackHolds s.nextRequestNumber requests
    run stackHolds dispatch s requests =
      ⟨s.nextRequestNumber + calls.length, afterCalls dispatch s.dispatcher calls⟩ := by
  dsimp only
  induction requests generalizing s with
  | nil =>
      rfl
  | cons request rest ih =>
      show run stackHolds dispatch (process stackHolds dispatch s request).2 rest = _
      rw [ih]
      cases passes : validated stackHolds s.nextRequestNumber request with
      | error failure => rw [process_refused passes, accepted, passes]
      | ok valid =>
          rw [process_valid passes, accepted, passes]
          dsimp only
          rw [List.length_cons, afterCalls, afterCalls, List.foldl_cons]
          congr 1
          omega

/-- The accepted requests carry consecutive numbers. -/
theorem accepted_numbers (number : Nat) (requests : List RequestObject) :
    (accepted stackHolds number requests).map Request.requestId =
      (List.range' number (accepted stackHolds number requests).length).map requestIdOf := by
  induction requests generalizing number with
  | nil => rfl
  | cons request rest ih =>
      rw [accepted]
      cases passes : validated stackHolds number request with
      | error failure => exact ih number
      | ok valid =>
          dsimp only
          rw [List.map_cons, List.length_cons, List.range'_succ, List.map_cons, ih (number + 1),
            (valid_of_validated passes).requestId]

/-- **A session replays nothing.**  Take any dispatcher and any requests.  The dispatcher is
called for the requests that pass, each once and in order, and never otherwise: it is left
in the state these calls leave it in, whatever its states are and whatever a call does.  The
requests it is called for carry the IDs `req-00000001`, `req-00000002` and so on, and the
number that is next counts them.  A further request that is refused before it is dispatched
changes nothing, and a response to a further request answers the call made for it and
carries that request's ID. -/
theorem session_replays_nothing (stackHolds : PyValue → Bool) (dispatch : Dispatcher σ)
    (dispatcher : σ) (requests : List RequestObject) :
    let s := run stackHolds dispatch (.new dispatcher) requests
    let calls := accepted stackHolds 1 requests
    s.dispatcher = afterCalls dispatch dispatcher calls ∧
      calls.map Request.requestId = (List.range' 1 calls.length).map requestIdOf ∧
      s.nextRequestNumber = calls.length + 1 ∧
      (∀ request failure, validated stackHolds s.nextRequestNumber request = .error failure →
        process stackHolds dispatch s request = (.error (.failure failure), s)) ∧
      ∀ request response, (process stackHolds dispatch s request).1 = .ok response →
        ∃ valid, validated stackHolds s.nextRequestNumber request = .ok valid ∧
          respond valid.requestId (dispatch s.dispatcher valid).1 = .ok response ∧
          response.lookup (.str (txt "request_id")) = some (.str valid.requestId) ∧
          request.lookup (.str (txt "request_id")) = some (.str valid.requestId) := by
  intro s calls
  have ended : s = ⟨1 + calls.length, afterCalls dispatch dispatcher calls⟩ :=
    run_calls stackHolds dispatch (.new dispatcher) requests
  refine ⟨?_, accepted_numbers 1 requests, ?_, fun _ _ refused => process_refused refused,
    fun _ _ answered => process_response answered⟩
  · rw [ended]
  · rw [ended]
    exact Nat.add_comm _ _

/-- A dispatcher that writes down what it is called for, and answers as another does. -/
def recorder (dispatch : Dispatcher σ) : Dispatcher (σ × List Request) := fun d request =>
  ((dispatch d.1 request).1, (dispatch d.1 request).2, d.2 ++ [request])

/-- The calls a session makes, as a dispatcher that writes them down has them. -/
theorem recorded_calls (stackHolds : PyValue → Bool) (dispatch : Dispatcher σ)
    (dispatcher : σ) (requests : List RequestObject) :
    (run stackHolds (recorder dispatch) (.new (dispatcher, [])) requests).dispatcher.2 =
      accepted stackHolds 1 requests := by
  have writes : ∀ (calls : List Request) (d : σ × List Request),
      (afterCalls (recorder dispatch) d calls).2 = d.2 ++ calls := by
    intro calls
    induction calls with
    | nil =>
        intro d
        exact (List.append_nil _).symm
    | cons call calls ih =>
        intro d
        show (afterCalls (recorder dispatch) (recorder dispatch d call).2 calls).2 = _
        rw [ih, recorder, List.append_assoc, List.singleton_append]
  rw [run_calls]
  exact writes _ _

/-- **A replay is refused**, however the request was answered the first time and whatever
has been processed since. -/
theorem process_replayed {s : BrokerSession σ} {request : RequestObject} {valid : Request}
    (passes : validated stackHolds s.nextRequestNumber request = .ok valid)
    (since : List RequestObject) :
    let s' := run stackHolds dispatch (process stackHolds dispatch s request).2 since
    process stackHolds dispatch s' request =
      (.error (.failure (.protocolError .order)), s') := by
  intro s'
  apply process_refused
  apply validated_other passes
  have ended := run_calls stackHolds dispatch (process stackHolds dispatch s request).2 since
  dsimp only at ended
  have advanced : s.nextRequestNumber + 1 ≤ s'.nextRequestNumber := by
    show _ ≤ (run stackHolds dispatch (process stackHolds dispatch s request).2 since).nextRequestNumber
    rw [ended, process_valid passes]
    exact Nat.le_add_right _ _
  omega

/-- A result that is no plain data is lost with its number used up: the first request of a
session is dispatched to something that returns bytes. -/
example :
    let request : RequestObject :=
      [(.str (txt "protocol_version"), .int 1), (.str (txt "request_id"), .str (txt "req-00000001")),
       (.str (txt "operation"), .str (txt "status")), (.str (txt "arguments"), .mapping [])]
    let processed := process (fun _ => true) (fun (_ : Unit) _ => (.result (.bytes []), ()))
      (.new ()) request
    processed.1.toOption.isNone ∧ processed.2.nextRequestNumber = 2 := by
  decide

end

end InstrumentBench.Fibsem.Protocol
