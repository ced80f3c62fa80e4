/-
# Fibsem.Protocol -- request frames

A frame is at most `MAX_FRAME_BYTES` of UTF-8 JSON.  `decodePayload` reads one,
and `checkRequest` is what a broker session checks of the request in it before it calls
the dispatcher.
-/
import InstrumentBench.Fibsem.Journal

namespace InstrumentBench.Fibsem.Protocol

set_option autoImplicit false

open InstrumentBench.Theory
open InstrumentBench.Fibsem.Journal

def MAX_FRAME_BYTES : Nat := 1048576

def PROTOCOL_VERSION : Int := 1

/-- Why a frame or a request is refused; `ProtocolError`, except `undecodable`
for what `json.loads` itself raises. -/
inductive ProtocolError where
  | tooLarge
  | json (error : LoadError)
  | rootNotObject
  | notPlain
  | requestFields
  | versionMismatch
  | requestId
  | order
  | operationName
  | arguments
deriving DecidableEq

/-- `decode_payload`.  Its `_plain` differs from the journal's in its messages
only. -/
def decodePayload (payload : Bytes) : Except ProtocolError (List (Text × Json)) :=
  if MAX_FRAME_BYTES < payload.length then .error .tooLarge
  else
    match decodeUtf8 false payload with
    | none => .error (.json .undecodable)
    | some text =>
        match Json.loads text with
        | .error e => .error (.json e)
        | .ok (.obj fields) =>
            match plain rootPath (Json.obj fields).toPy with
            | .ok (.obj fields) => .ok fields
            | _ => .error .notPlain
        | .ok _ => .error .rootNotObject

/-- The number of a request ID `req-00000000`. -/
def requestNumber? (requestId : Text) : Option Nat :=
  if txt "req-" <+: requestId ∧ requestId.length = 12 then
    ((requestId.drop 4).mapM digitOf?).map ofDigits
  else none

structure Request where
  requestId : Text
  operation : Text
  arguments : List (Text × Json)

/-- What `process` checks before it calls `dispatch`. -/
def checkRequest (nextRequestNumber : Nat) (value : List (Text × Json)) :
    Except ProtocolError Request :=
  let expected := [txt "protocol_version", txt "request_id", txt "operation", txt "arguments"]
  if ¬ (Json.keys value ⊆ expected ∧ expected ⊆ Json.keys value) then .error .requestFields
  else if equalsOne (field value "protocol_version") = false then .error .versionMismatch
  else
    match field value "request_id" with
    | .str requestId =>
        if requestNumber? requestId ≠ some nextRequestNumber then .error .order
        else
          match field value "operation" with
          | .str operation =>
              if operation = [] ∨ txt "_" <+: operation ∨ 128 < operation.length then
                .error .operationName
              else
                match field value "arguments" with
                | .obj arguments => .ok ⟨requestId, operation, arguments⟩
                | _ => .error .arguments
          | _ => .error .operationName
    | _ => .error .requestId

/-- A request that arrives in one frame. -/
def Framed (request : Request) : Prop :=
  ∃ (payload : Bytes) (number : Nat) (value : List (Text × Json)),
    decodePayload payload = .ok value ∧ checkRequest number value = .ok request

end InstrumentBench.Fibsem.Protocol
