/-
# Fibsem.Frames -- reading a request under the interpreter's limits

`readFrame` takes one frame off the stream of a connection and `request`
validates it as `process` does, before anything is dispatched.  Both run inside
an interpreter whose recursion is limited (`Limits`): the JSON decoder, the copy
`_plain` makes of what it decoded, and the copy `process` makes of that.

`ProtocolError` is the class of a candidate's errors.  `decode_payload` turns a
`UnicodeDecodeError` and a `JSONDecodeError` into one, so what is left over is
the plain `ValueError` of an integer literal past the digit limit and the
`RecursionError` of nesting past a limit.  `request_classified_iff` says exactly
which streams reach them.
-/
import InstrumentBench.Theory.JsonDepth
import InstrumentBench.Fibsem.Protocol
import InstrumentBench.Fibsem.JournalRoundTrip

namespace InstrumentBench.Fibsem.Protocol

set_option autoImplicit false

open InstrumentBench.Theory
open InstrumentBench.Fibsem.Journal

/-! ## Failures -/

/-- What escapes `read_frame` or the validation in `process`. -/
inductive Failure where
  | protocolError (error : ProtocolError)
  /-- `ConnectionClosed`, a `ProtocolError` -/
  | connectionClosed
  /-- a `ValueError` that is no `JSONDecodeError` -/
  | valueError
  | recursionError
deriving DecidableEq

def Failure.isProtocolError : Failure → Bool
  | .protocolError _ | .connectionClosed => true
  | .valueError | .recursionError => false

inductive RunOutcome where
  | completed
  | candidateIncomplete
  | candidateFailure
  | infrastructureFailure
deriving DecidableEq

/-- The outcome `run_service` records when `serve_connection` ends with a failure:
a closed connection makes it return, the others are raised through it. -/
def runOutcome (checkpoints : List Text) : Failure → RunOutcome
  | .connectionClosed =>
      if checkpoints = [txt "step_1", txt "step_2", txt "step_3", txt "step_4"] then .completed
      else .candidateIncomplete
  | .protocolError _ => .candidateFailure
  | .valueError | .recursionError => .infrastructureFailure

theorem runOutcome_infrastructure_iff (checkpoints : List Text) (failure : Failure) :
    runOutcome checkpoints failure = .infrastructureFailure ↔ failure.isProtocolError = false := by
  cases failure with
  | connectionClosed =>
      refine iff_of_false ?_ (by simp [Failure.isProtocolError])
      rw [runOutcome]
      split <;> simp
  | protocolError error => simp [runOutcome, Failure.isProtocolError]
  | valueError => simp [runOutcome, Failure.isProtocolError]
  | recursionError => simp [runOutcome, Failure.isProtocolError]

/-! ## The copy -/

/-- What is left of the recursion limit where a frame is read. -/
structure Limits where
  /-- levels for the JSON decoder -/
  decoder : Nat
  hooks : HookFrames
  /-- frames for `_plain` in `decode_payload` -/
  decodePlain : Nat
  /-- frames for `_plain` in `process` -/
  processPlain : Nat
  /-- frames a list comprehension takes -/
  comprehension : Nat

/-- The limits of an interpreter whose recursion limit is a thousand. -/
def nominalLimits : Limits := ⟨980, ⟨1, 2⟩, 980, 981, 1⟩

section Copy

variable (comprehension : Nat)

mutual

/-- `_plain` of a decoded value, with `frames` left. -/
def copy : Json → Nat → Except Failure Json
  | .float x, frames =>
      if frames = 0 then .error .recursionError
      else if x.isFinite then .ok (.float x)
      else .error (.protocolError .notPlain)
  | .arr items, frames =>
      if frames ≤ comprehension then .error .recursionError
      else
        match copyItems items (frames - 1 - comprehension) with
        | .error e => .error e
        | .ok values => .ok (.arr values)
  | .obj fields, frames =>
      if frames = 0 then .error .recursionError
      else
        match copyFields fields (frames - 1) with
        | .error e => .error e
        | .ok values => .ok (.obj values)
  | v, frames => if frames = 0 then .error .recursionError else .ok v

def copyItems : List Json → Nat → Except Failure (List Json)
  | [], _ => .ok []
  | v :: vs, frames =>
      match copy v frames with
      | .error e => .error e
      | .ok w =>
          match copyItems vs frames with
          | .error e => .error e
          | .ok ws => .ok (w :: ws)

def copyFields : List (Text × Json) → Nat → Except Failure (List (Text × Json))
  | [], _ => .ok []
  | (k, v) :: fs, frames =>
      match copy v frames with
      | .error e => .error e
      | .ok w =>
          match copyFields fs frames with
          | .error e => .error e
          | .ok gs => .ok ((k, w) :: gs)

end

mutual

/-- The frames a copy takes before it is done or meets a number that is not finite. -/
def framesOf : Json → Nat
  | .arr items => 1 + comprehension + framesOfItems items
  | .obj fields => 1 + framesOfFields fields
  | _ => 1

def framesOfItems : List Json → Nat
  | [] => 0
  | v :: vs => if v.finite then max (framesOf v) (framesOfItems vs) else framesOf v

def framesOfFields : List (Text × Json) → Nat
  | [] => 0
  | (_, v) :: fs => if v.finite then max (framesOf v) (framesOfFields fs) else framesOf v

end

end Copy

/-! ## Frames -/

/-- `_read_exact`: the stream holds everything the peer sends before it closes. -/
def readExact (stream : Bytes) (count : Nat) : Except Failure (Bytes × Bytes) :=
  if stream.length < count then .error .connectionClosed
  else .ok (stream.take count, stream.drop count)

/-- `struct.unpack("!I", header)` -/
def unpackLength (header : Bytes) : Nat := header.foldl (fun n b => n * 256 + b.toNat) 0

/-- What `decode_payload` lets through of what `json.loads` raises. -/
def raisedBy : DepthError → Failure
  | .recursion => .recursionError
  | .load .tooManyDigits => .valueError
  | .load error => .protocolError (.json error)

variable (limits : Limits)

/-- `decode_payload` -/
def decode (payload : Bytes) : Except Failure (List (Text × Json)) :=
  if MAX_FRAME_BYTES < payload.length then .error (.protocolError .tooLarge)
  else
    match decodeUtf8 false payload with
    | none => .error (.protocolError (.json .undecodable))
    | some text =>
        match Json.loadsWithin limits.hooks limits.decoder text with
        | .error e => .error (raisedBy e)
        | .ok (.obj fields) =>
            match copy limits.comprehension (.obj fields) limits.decodePlain with
            | .error e => .error e
            | .ok (.obj fields) => .ok fields
            | .ok _ => .error (.protocolError .notPlain)
        | .ok _ => .error (.protocolError .rootNotObject)

/-- `read_frame`, with what is left of the stream. -/
def readFrame (stream : Bytes) : Except Failure (List (Text × Json) × Bytes) :=
  match readExact stream 4 with
  | .error e => .error e
  | .ok (header, rest) =>
      if MAX_FRAME_BYTES < unpackLength header then .error (.protocolError .tooLarge)
      else
        match readExact rest (unpackLength header) with
        | .error e => .error e
        | .ok (payload, rest) =>
            match decode limits payload with
            | .error e => .error e
            | .ok fields => .ok (fields, rest)

/-- What `process` does of a frame before it dispatches. -/
def validate (nextRequestNumber : Nat) (fields : List (Text × Json)) : Except Failure Request :=
  match copy limits.comprehension (.obj fields) limits.processPlain with
  | .error e => .error e
  | .ok (.obj value) =>
      match checkRequest nextRequestNumber value with
      | .error e => .error (.protocolError e)
      | .ok request => .ok request
  | .ok _ => .error (.protocolError .notPlain)

/-- A request off the stream. -/
def request (nextRequestNumber : Nat) (stream : Bytes) : Except Failure (Request × Bytes) :=
  match readFrame limits stream with
  | .error e => .error e
  | .ok (fields, rest) =>
      match validate limits nextRequestNumber fields with
      | .error e => .error e
      | .ok request => .ok (request, rest)

/-- `serve_connection` up to the failure that ends it, with the dispatcher's answers
left out.  A frame takes four bytes at least, so the length of the stream is fuel
enough. -/
def serve : Nat → Nat → Bytes → Failure
  | 0, _, _ => .connectionClosed
  | fuel + 1, nextRequestNumber, stream =>
      match request limits nextRequestNumber stream with
      | .error failure => failure
      | .ok (_, rest) => serve fuel (nextRequestNumber + 1) rest

/-! ## Copies that fit -/

section Copying

variable (comprehension : Nat)

/-- The copy where no frame is missing. -/
def copied {α : Type} (finite : Bool) (a : α) : Except Failure α :=
  if finite then .ok a else .error (.protocolError .notPlain)

theorem oneFrame (frames : Nat) (x : Except Failure Json) :
    (if frames = 0 then .error .recursionError else x) =
      if 1 ≤ frames then x else .error .recursionError := by
  by_cases none : frames = 0
  · rw [if_pos none, if_neg (by omega)]
  · rw [if_neg none, if_pos (by omega)]

mutual

/-- **The copy.**  `_plain` passes the recursion limit exactly when the value takes
more frames than are left, and else refuses exactly the numbers that are not
finite. -/
theorem copy_eq : ∀ (v : Json) (frames : Nat), copy comprehension v frames =
    if framesOf comprehension v ≤ frames then copied v.finite v else .error .recursionError
  | .null, frames | .bool _, frames | .int _, frames | .str _, frames | .float _, frames =>
      oneFrame frames _
  | .arr items, frames => by
      rw [copy, framesOf, copyItems_eq items]
      by_cases called : frames ≤ comprehension
      · rw [if_pos called, if_neg (by omega)]
      · rw [if_neg called]
        by_cases fits : framesOfItems comprehension items ≤ frames - 1 - comprehension
        · rw [if_pos fits, if_pos (by omega), Json.finite]
          cases Json.finiteItems items <;> rfl
        · rw [if_neg fits, if_neg (by omega)]
  | .obj fields, frames => by
      rw [copy, framesOf, copyFields_eq fields]
      by_cases none : frames = 0
      · rw [if_pos none, if_neg (by omega)]
      · rw [if_neg none]
        by_cases fits : framesOfFields comprehension fields ≤ frames - 1
        · rw [if_pos fits, if_pos (by omega), Json.finite]
          cases Json.finiteFields fields <;> rfl
        · rw [if_neg fits, if_neg (by omega)]

theorem copyItems_eq : ∀ (vs : List Json) (frames : Nat), copyItems comprehension vs frames =
    if framesOfItems comprehension vs ≤ frames then copied (Json.finiteItems vs) vs
    else .error .recursionError
  | [], frames => (if_pos (Nat.zero_le frames)).symm
  | v :: vs, frames => by
      rw [copyItems, framesOfItems, Json.finiteItems, copy_eq v, copyItems_eq vs]
      by_cases first : framesOf comprehension v ≤ frames
      · rw [if_pos first]
        cases v.finite with
        | false => exact (if_pos first).symm
        | true =>
            rw [if_pos rfl]
            by_cases others : framesOfItems comprehension vs ≤ frames
            · rw [if_pos others, if_pos (max_le first others)]
              cases Json.finiteItems vs <;> rfl
            · rw [if_neg others, if_neg (by omega)]
              rfl
      · rw [if_neg first]
        cases v.finite with
        | false => exact (if_neg first).symm
        | true =>
            refine (if_neg ?_).symm
            rw [if_pos rfl]
            omega

theorem copyFields_eq : ∀ (fs : List (Text × Json)) (frames : Nat),
    copyFields comprehension fs frames =
      if framesOfFields comprehension fs ≤ frames then copied (Json.finiteFields fs) fs
      else .error .recursionError
  | [], frames => (if_pos (Nat.zero_le frames)).symm
  | (k, v) :: fs, frames => by
      rw [copyFields, framesOfFields, Json.finiteFields, copy_eq v, copyFields_eq fs]
      by_cases first : framesOf comprehension v ≤ frames
      · rw [if_pos first]
        cases v.finite with
        | false => exact (if_pos first).symm
        | true =>
            rw [if_pos rfl]
            by_cases others : framesOfFields comprehension fs ≤ frames
            · rw [if_pos others, if_pos (max_le first others)]
              cases Json.finiteFields fs <;> rfl
            · rw [if_neg others, if_neg (by omega)]
              rfl
      · rw [if_neg first]
        cases v.finite with
        | false => exact (if_neg first).symm
        | true =>
            refine (if_neg ?_).symm
            rw [if_pos rfl]
            omega

end

end Copying

/-! ## Streams that stay within the limits -/

/-- **Within.**  The text of the payload demands no more than the decoder has, holds
no integer literal past the digit limit before the decoder stops, and what it
spells can be copied twice. -/
def PayloadWithin (payload : Bytes) : Prop :=
  payload.length ≤ MAX_FRAME_BYTES →
    ∀ text, decodeUtf8 false payload = some text →
      (Json.demand limits.hooks text).depth ≤ limits.decoder ∧
      (Json.demand limits.hooks text).digits ≤ Json.maxStrDigits ∧
      ∀ fields, Json.loads text = .ok (.obj fields) →
        framesOf limits.comprehension (.obj fields) ≤ limits.decodePlain ∧
        ((Json.obj fields).finite = true →
          framesOf limits.comprehension (.obj fields) ≤ limits.processPlain)

/-- The payload of the first frame, when the stream holds it whole. -/
def firstPayload (stream : Bytes) : Option Bytes :=
  let length := unpackLength (stream.take 4)
  if 4 + length ≤ stream.length then some ((stream.drop 4).take length) else none

/-- What follows the first frame. -/
def remainder (stream : Bytes) : Bytes := (stream.drop 4).drop (unpackLength (stream.take 4))

/-- The first frame stays within the limits. -/
def Within (stream : Bytes) : Prop :=
  ∀ payload, firstPayload stream = some payload → PayloadWithin limits payload

/-- **Classified.**  Whatever escapes is a `ProtocolError`, and the run ends in an
outcome of the candidate. -/
def Classified (nextRequestNumber : Nat) (stream : Bytes) : Prop :=
  ∀ failure, request limits nextRequestNumber stream = .error failure →
    failure.isProtocolError = true ∧
    ∀ checkpoints, runOutcome checkpoints failure ≠ .infrastructureFailure

/-! ## One payload -/

section Payload

variable {limits} {payload : Bytes}

/-- A failure of the unlimited decoder is a `ProtocolError`, but for the digit limit. -/
theorem raisedBy_load {error : LoadError} (digits : error ≠ .tooManyDigits) :
    raisedBy (.load error) = .protocolError (.json error) := by
  unfold raisedBy
  split
  · contradiction
  · rename_i same
    cases same
    exact absurd rfl digits
  · rename_i same
    cases same
    rfl

/-- The journal's `_plain` refuses a value with a number that is not finite too. -/
theorem plain_infinite {v : Json} (infinite : ¬ v.finite = true) :
    ∃ e, plain rootPath v.toPy = .error e := by
  cases made : plain rootPath v.toPy with
  | error e => exact ⟨e, rfl⟩
  | ok w =>
      have same := plain_toPy_eq _ _ made
      rw [same] at made
      exact absurd ((Json.plain_iff _).1 (plain_ok _ _ made)).2 infinite

/-- **Within the limits.**  Decoding is what it is without limits, and its errors are
`ProtocolError`s. -/
theorem decode_of_within (within : PayloadWithin limits payload) :
    decode limits payload = (decodePayload payload).mapError .protocolError := by
  unfold decode decodePayload
  by_cases large : MAX_FRAME_BYTES < payload.length
  · rw [if_pos large, if_pos large]
    rfl
  rw [if_neg large, if_neg large]
  have demands := within (Nat.le_of_not_lt large)
  cases decoded : decodeUtf8 false payload with
  | none => rfl
  | some text =>
      obtain ⟨depth, digits, copies⟩ := demands text decoded
      dsimp only
      rw [Json.loadsWithin_eq, Json.limited_fits _ depth]
      cases loaded : Json.loads text with
      | error e =>
          have short : e ≠ .tooManyDigits := by
            rintro rfl
            exact absurd ((Json.loads_tooManyDigits_iff limits.hooks text).1 loaded)
              (Nat.not_lt.2 digits)
          simp only [Json.lifted, raisedBy_load short]
          rfl
      | ok v =>
          cases v with
          | obj fields =>
              simp only [Json.lifted, copy_eq, if_pos (copies fields loaded).1, copied]
              by_cases finite : (Json.obj fields).finite = true
              · have plain := (Json.plain_iff _).2 ⟨Json.distinct_of_loads loaded, finite⟩
                rw [if_pos finite, plain_toPy _ _ plain]
                rfl
              · obtain ⟨e, refused⟩ := plain_infinite finite
                rw [if_neg finite, refused]
                rfl
          | _ => rfl

/-- Past a limit the failure is no `ProtocolError`. -/
theorem decode_of_deep {text : Text} (small : payload.length ≤ MAX_FRAME_BYTES)
    (utf8 : decodeUtf8 false payload = some text)
    (deep : ¬ (Json.demand limits.hooks text).depth ≤ limits.decoder) :
    decode limits payload = .error .recursionError := by
  unfold decode
  rw [if_neg (Nat.not_lt.2 small), utf8]
  dsimp only
  rw [Json.loadsWithin_eq, Json.limited_deep _ deep]
  rfl

theorem decode_of_long {text : Text} (small : payload.length ≤ MAX_FRAME_BYTES)
    (utf8 : decodeUtf8 false payload = some text)
    (depth : (Json.demand limits.hooks text).depth ≤ limits.decoder)
    (long : Json.maxStrDigits < (Json.demand limits.hooks text).digits) :
    decode limits payload = .error .valueError := by
  unfold decode
  rw [if_neg (Nat.not_lt.2 small), utf8]
  dsimp only
  rw [Json.loadsWithin_eq, Json.limited_fits _ depth,
    (Json.loads_tooManyDigits_iff limits.hooks text).2 long]
  rfl

theorem decode_of_loaded {text : Text} {fields : List (Text × Json)}
    (small : payload.length ≤ MAX_FRAME_BYTES) (utf8 : decodeUtf8 false payload = some text)
    (depth : (Json.demand limits.hooks text).depth ≤ limits.decoder)
    (loaded : Json.loads text = .ok (.obj fields)) :
    decode limits payload =
      if framesOf limits.comprehension (.obj fields) ≤ limits.decodePlain then
        copied (Json.obj fields).finite fields
      else .error .recursionError := by
  unfold decode
  rw [if_neg (Nat.not_lt.2 small), utf8]
  dsimp only
  rw [Json.loadsWithin_eq, Json.limited_fits _ depth, loaded]
  dsimp only [Json.lifted]
  rw [copy_eq]
  by_cases fits : framesOf limits.comprehension (.obj fields) ≤ limits.decodePlain
  · rw [if_pos fits, if_pos fits]
    cases (Json.obj fields).finite <;> rfl
  · rw [if_neg fits, if_neg fits]

/-- A decoded frame is what its text spells, and holds finite numbers only. -/
theorem decode_ok {fields : List (Text × Json)} (decoded : decode limits payload = .ok fields) :
    payload.length ≤ MAX_FRAME_BYTES ∧ ∃ text, decodeUtf8 false payload = some text ∧
      Json.loads text = .ok (.obj fields) ∧ (Json.obj fields).finite = true := by
  by_cases large : MAX_FRAME_BYTES < payload.length
  · rw [decode, if_pos large] at decoded
    cases decoded
  have small := Nat.le_of_not_lt large
  cases utf8 : decodeUtf8 false payload with
  | none =>
      rw [decode, if_neg large, utf8] at decoded
      cases decoded
  | some text =>
      by_cases depth : (Json.demand limits.hooks text).depth ≤ limits.decoder
      · have unlimited : Json.loadsWithin limits.hooks limits.decoder text = _ :=
          Json.loadsWithin_eq limits.decoder text
        rw [Json.limited_fits _ depth] at unlimited
        cases loaded : Json.loads text with
        | error e =>
            rw [decode, if_neg large, utf8] at decoded
            simp only [unlimited, loaded, Json.lifted] at decoded
            cases decoded
        | ok v =>
            cases v with
            | obj spelled =>
                rw [decode_of_loaded small utf8 depth loaded] at decoded
                unfold copied at decoded
                split at decoded
                · split at decoded
                  · cases decoded
                    exact ⟨small, text, rfl, loaded, ‹_›⟩
                  · cases decoded
                · cases decoded
            | _ =>
                rw [decode, if_neg large, utf8] at decoded
                simp only [unlimited, loaded, Json.lifted] at decoded
                cases decoded
      · rw [decode_of_deep small utf8 depth] at decoded
        cases decoded

/-- A decoded frame is validated unless its copy takes too many frames. -/
theorem validate_eq {fields : List (Text × Json)} (number : Nat)
    (finite : (Json.obj fields).finite = true) :
    validate limits number fields =
      if framesOf limits.comprehension (.obj fields) ≤ limits.processPlain then
        (checkRequest number fields).mapError .protocolError
      else .error .recursionError := by
  unfold validate
  rw [copy_eq]
  by_cases fits : framesOf limits.comprehension (.obj fields) ≤ limits.processPlain
  · rw [if_pos fits, if_pos fits, copied, if_pos finite]
    dsimp only
    cases checkRequest number fields <;> rfl
  · rw [if_neg fits, if_neg fits]

end Payload

/-! ## One request -/

section Stream

variable {limits} {stream : Bytes}

theorem readExact_short {count : Nat} (short : stream.length < count) :
    readExact stream count = .error .connectionClosed := if_pos short

theorem readExact_whole {count : Nat} (whole : count ≤ stream.length) :
    readExact stream count = .ok (stream.take count, stream.drop count) :=
  if_neg (Nat.not_lt.2 whole)

/-- Without a whole first payload the failure is a `ProtocolError`. -/
theorem readFrame_none (limits : Limits) (broken : firstPayload stream = none) :
    ∃ failure, readFrame limits stream = .error failure ∧ failure.isProtocolError = true := by
  unfold firstPayload at broken
  dsimp only at broken
  split at broken
  · cases broken
  rename_i short
  unfold readFrame
  by_cases header : stream.length < 4
  · rw [readExact_short header]
    exact ⟨_, rfl, rfl⟩
  rw [readExact_whole (by omega)]
  dsimp only
  split
  · exact ⟨_, rfl, rfl⟩
  · rw [readExact_short (by rw [List.length_drop]; omega)]
    exact ⟨_, rfl, rfl⟩

/-- A whole first payload is refused for its size or decoded. -/
theorem readFrame_some (limits : Limits) {payload : Bytes}
    (whole : firstPayload stream = some payload) :
    (MAX_FRAME_BYTES < payload.length ∧
      readFrame limits stream = .error (.protocolError .tooLarge)) ∨
    (payload.length ≤ MAX_FRAME_BYTES ∧
      (∀ e, decode limits payload = .error e → readFrame limits stream = .error e) ∧
      ∀ fields, decode limits payload = .ok fields →
        readFrame limits stream = .ok (fields, remainder stream)) := by
  unfold firstPayload at whole
  dsimp only at whole
  split at whole
  · rename_i enough
    cases whole
    have length : ((stream.drop 4).take (unpackLength (stream.take 4))).length =
        unpackLength (stream.take 4) := by
      rw [List.length_take, List.length_drop]
      omega
    have remaining : unpackLength (stream.take 4) ≤ (stream.drop 4).length := by
      rw [List.length_drop]
      omega
    rw [length]
    unfold readFrame
    rw [readExact_whole (by omega)]
    dsimp only
    by_cases large : MAX_FRAME_BYTES < unpackLength (stream.take 4)
    · rw [if_pos large]
      exact .inl ⟨large, rfl⟩
    · rw [if_neg large, readExact_whole remaining]
      dsimp only
      refine .inr ⟨Nat.le_of_not_lt large, ?_, ?_⟩
      · intro e refused
        rw [refused]
      · intro fields decoded
        rw [decoded]
        rfl
  · cases whole

theorem request_of_refused {number : Nat} {e : Failure} (refused : readFrame limits stream = .error e) :
    request limits number stream = .error e := by
  rw [request, refused]

theorem request_of_read {number : Nat} {fields : List (Text × Json)} {rest : Bytes}
    (read : readFrame limits stream = .ok (fields, rest)) {e : Failure} :
    request limits number stream = .error e ↔ validate limits number fields = .error e := by
  rw [request, read]
  dsimp only
  cases validate limits number fields <;> simp

theorem not_infrastructure {failure : Failure} (classified : failure.isProtocolError = true)
    (checkpoints : List Text) : runOutcome checkpoints failure ≠ .infrastructureFailure := by
  intro infrastructure
  rw [runOutcome_infrastructure_iff, classified] at infrastructure
  cases infrastructure

/-- A failure that is no `ProtocolError` breaks the law. -/
theorem Classified.not_escapes {number : Nat} (classified : Classified limits number stream)
    {failure : Failure} (escapes : failure.isProtocolError = false) :
    request limits number stream ≠ .error failure := by
  intro failed
  have caught := (classified failure failed).1
  rw [escapes] at caught
  cases caught

/-- A request within the limits fails with a `ProtocolError` only. -/
theorem isProtocolError_of_within (within : Within limits stream) {number : Nat}
    {failure : Failure} (failed : request limits number stream = .error failure) :
    failure.isProtocolError = true := by
  cases whole : firstPayload stream with
  | none =>
      obtain ⟨e, refused, protocolError⟩ := readFrame_none limits whole
      rw [request_of_refused refused] at failed
      cases failed
      exact protocolError
  | some payload =>
      have fits := within payload whole
      rcases readFrame_some limits whole with ⟨-, refused⟩ | ⟨small, refused, read⟩
      · rw [request_of_refused refused] at failed
        cases failed
        rfl
      · cases decoded : decode limits payload with
        | error e =>
            rw [request_of_refused (refused e decoded)] at failed
            cases failed
            rw [decode_of_within fits] at decoded
            cases unlimited : decodePayload payload with
            | error e' =>
                rw [unlimited] at decoded
                cases decoded
                rfl
            | ok fields =>
                rw [unlimited] at decoded
                cases decoded
        | ok fields =>
            have made := read fields decoded
            obtain ⟨-, text, utf8, loaded, finite⟩ := decode_ok decoded
            have copies := ((fits small text utf8).2.2 fields loaded).2 finite
            rw [request_of_read made, validate_eq _ finite, if_pos copies] at failed
            cases checked : checkRequest number fields with
            | error e =>
                rw [checked] at failed
                cases failed
                rfl
            | ok accepted =>
                rw [checked] at failed
                cases failed

/-- A classified request stayed within the limits. -/
theorem within_of_classified {number : Nat} (classified : Classified limits number stream) :
    Within limits stream := by
  intro payload whole small text utf8
  rcases readFrame_some limits whole with ⟨large, -⟩ | ⟨-, refused, read⟩
  · omega
  have depth : (Json.demand limits.hooks text).depth ≤ limits.decoder := by
    by_contra deep
    exact classified.not_escapes rfl
      (request_of_refused (refused _ (decode_of_deep small utf8 deep)))
  refine ⟨depth, ?_, ?_⟩
  · by_contra long
    exact classified.not_escapes rfl
      (request_of_refused (refused _ (decode_of_long small utf8 depth (Nat.lt_of_not_le long))))
  · intro fields loaded
    have decoded := decode_of_loaded small utf8 depth loaded
    have first : framesOf limits.comprehension (.obj fields) ≤ limits.decodePlain := by
      by_contra deep
      rw [if_neg deep] at decoded
      exact classified.not_escapes rfl (request_of_refused (refused _ decoded))
    refine ⟨first, fun finite => ?_⟩
    by_contra deep
    rw [if_pos first, copied, if_pos finite] at decoded
    have made := read fields decoded
    exact classified.not_escapes rfl
      ((request_of_read made).2 (by rw [validate_eq _ finite, if_neg deep]))

/-- **Classified errors.**  Reading and validating a request raises nothing but
`ProtocolError`, and never costs the run its outcome, exactly when its first frame
stays within the limits. -/
theorem request_classified_iff (limits : Limits) (number : Nat) (stream : Bytes) :
    Classified limits number stream ↔ Within limits stream := by
  constructor
  · exact within_of_classified
  · intro within failure failed
    have caught := isProtocolError_of_within within failed
    exact ⟨caught, not_infrastructure caught⟩

end Stream

/-! ## A connection -/

/-- The payloads the length prefixes of a stream spell, up to the first broken one. -/
def payloads : Nat → Bytes → List Bytes
  | 0, _ => []
  | fuel + 1, stream =>
      match firstPayload stream with
      | none => []
      | some payload => payload :: payloads fuel (remainder stream)

section Connection

variable {limits}

/-- What an accepted request was read from. -/
theorem request_ok {number : Nat} {stream rest : Bytes} {accepted : Request}
    (made : request limits number stream = .ok (accepted, rest)) :
    ∃ payload fields, firstPayload stream = some payload ∧ decode limits payload = .ok fields ∧
      validate limits number fields = .ok accepted ∧ rest = remainder stream := by
  cases whole : firstPayload stream with
  | none =>
      obtain ⟨e, refused, -⟩ := readFrame_none limits whole
      rw [request_of_refused refused] at made
      cases made
  | some payload =>
      rcases readFrame_some limits whole with ⟨-, refused⟩ | ⟨-, refused, read⟩
      · rw [request_of_refused refused] at made
        cases made
      · cases decoded : decode limits payload with
        | error e =>
            rw [request_of_refused (refused e decoded)] at made
            cases made
        | ok fields =>
            rw [request, read fields decoded] at made
            dsimp only at made
            cases checked : validate limits number fields with
            | error e =>
                rw [checked] at made
                cases made
            | ok validated =>
                rw [checked] at made
                cases made
                exact ⟨payload, fields, rfl, decoded, checked, rfl⟩

/-- **A whole connection.**  When every frame stays within the limits, what ends the
connection is a `ProtocolError`. -/
theorem serve_classified (fuel : Nat) {number : Nat} {stream : Bytes}
    (within : ∀ payload ∈ payloads fuel stream, PayloadWithin limits payload) :
    (serve limits fuel number stream).isProtocolError = true := by
  induction fuel generalizing number stream with
  | zero => rfl
  | succ fuel ih =>
      have first : Within limits stream := by
        intro payload whole
        apply within
        rw [payloads, whole]
        exact List.mem_cons_self
      rw [serve]
      cases made : request limits number stream with
      | error failure => exact isProtocolError_of_within first made
      | ok accepted =>
          obtain ⟨payload, fields, whole, -, -, rest⟩ := request_ok made
          dsimp only
          rw [rest]
          apply ih
          intro later member
          apply within
          rw [payloads, whole]
          exact List.mem_cons_of_mem _ member

/-- What a connection accepts arrives in a frame the unlimited decoder accepts. -/
theorem framed_of_request {number : Nat} {stream rest : Bytes} {accepted : Request}
    (made : request limits number stream = .ok (accepted, rest)) : Framed accepted := by
  obtain ⟨payload, fields, -, decoded, validated, -⟩ := request_ok made
  obtain ⟨small, text, utf8, loaded, finite⟩ := decode_ok decoded
  have plain := (Json.plain_iff _).2 ⟨Json.distinct_of_loads loaded, finite⟩
  refine ⟨payload, number, fields, ?_, ?_⟩
  · simp only [decodePayload, if_neg (Nat.not_lt.2 small), utf8, loaded, plain_toPy _ _ plain]
  · rw [validate_eq _ finite] at validated
    split at validated
    · cases checked : checkRequest number fields with
      | error e =>
          rw [checked] at validated
          cases validated
      | ok accepted =>
          rw [checked] at validated
          cases validated
          rfl
    · cases validated

end Connection

example : serve nominalLimits 7 1 ([0, 0, 0, 2] ++ asciiBytes (txt "\x7b\x7d")) =
    .protocolError .requestFields := by decide

/-! ## An integer literal past the digit limit -/

/-- Ten to the 4300, which has 4301 digits. -/
def longLiteral : NumberLiteral := ⟨false, 10 ^ 4300, none, none⟩

/-- A frame of 4301 digits. -/
def longFrame : Bytes := [0, 0, 0x10, 0xCD] ++ asciiBytes longLiteral.render

theorem length_longLiteral : (decimalDigits longLiteral.whole).length = 4301 := by
  have above := (length_decimalDigits_le_iff (k := 4301) (by decide) (10 ^ 4300)).2
    (Nat.pow_lt_pow_right (by decide) (by decide))
  have below := mt (length_decimalDigits_le_iff (k := 4300) (by decide) (10 ^ 4300)).1
    (Nat.lt_irrefl _)
  show (decimalDigits (10 ^ 4300)).length = 4301
  omega

theorem length_longPayload : (asciiBytes longLiteral.render).length = 4301 := by
  have rendered : longLiteral.render = digitText (decimalDigits longLiteral.whole) := by
    show [] ++ (digitText _ ++ ([] ++ [])) = digitText _
    rw [List.append_nil, List.append_nil, List.nil_append]
  rw [rendered, asciiBytes, List.length_map, digitText, List.length_map, length_longLiteral]

/-- A frame with the right length holds its payload. -/
theorem firstPayload_append {header payload : Bytes} (four : header.length = 4)
    (length : unpackLength header = payload.length) :
    firstPayload (header ++ payload) = some payload := by
  have first : (header ++ payload).take 4 = header := List.take_left' four
  have others : (header ++ payload).drop 4 = payload := List.drop_left' four
  unfold firstPayload
  dsimp only
  rw [first, others, length, List.length_append, four, if_pos le_rfl, List.take_length]

theorem firstPayload_longFrame : firstPayload longFrame = some (asciiBytes longLiteral.render) :=
  firstPayload_append rfl length_longPayload.symm

/-- The literal is refused with a plain `ValueError`. -/
theorem request_longFrame : request nominalLimits 1 longFrame = .error .valueError := by
  have utf8 : decodeUtf8 false (asciiBytes longLiteral.render) = some longLiteral.render :=
    decodeUtf8_encodeAscii false (graphic_render _).ascii
  have small : (asciiBytes longLiteral.render).length ≤ MAX_FRAME_BYTES := by
    rw [length_longPayload]
    decide
  have refused : Json.loads longLiteral.render = .error .tooManyDigits := by
    rw [Json.loads_number, Json.numberValue, if_neg (by decide), if_neg]
    rw [length_longLiteral]
    decide
  have digits := (Json.loads_tooManyDigits_iff nominalLimits.hooks _).1 refused
  have depth : (Json.demand nominalLimits.hooks longLiteral.render).depth ≤ nominalLimits.decoder := by
    rw [Json.demand_number]
    exact Nat.zero_le _
  have failed := decode_of_long small utf8 depth digits
  rcases readFrame_some nominalLimits firstPayload_longFrame with ⟨large, -⟩ | ⟨-, escapes, -⟩
  · omega
  · exact request_of_refused (escapes _ failed)

/-- **The digit limit escapes.**  Forty-three hundred and one digits are a frame that
costs the run its outcome. -/
theorem longLiteral_escapes :
    request nominalLimits 1 longFrame = .error .valueError ∧
    runOutcome [] .valueError = .infrastructureFailure ∧
    ¬ Classified nominalLimits 1 longFrame :=
  ⟨request_longFrame, rfl, fun classified => classified.not_escapes rfl request_longFrame⟩

end InstrumentBench.Fibsem.Protocol
