/-
# Fibsem.Microscope -- the operation dispatcher

A handler checks a call against the public contract and the preflight policy,
passes it to the service, and records what the result means for the policy.
Here a handler is its check, which returns what is to be recorded
(`FollowUp`); `FollowUp.run` is the part after the service's answer.  `dispatch`
puts the audit records around it.
-/
import InstrumentBench.Fibsem.Service

namespace InstrumentBench.Fibsem.Microscope

set_option autoImplicit false

open InstrumentBench.Theory
open InstrumentBench.Fibsem.Journal
open InstrumentBench.Fibsem.Service

def CUT_PURPOSES : List Text :=
  [txt "preflight_cut", txt "trench", txt "polish", txt "u_cut", txt "source_separation",
   txt "needle_separation"]

def DEPOSITION_PURPOSES : List Text :=
  [txt "preflight_deposition", txt "protection", txt "needle_joint", txt "target_joint"]

def STEPS : List Text := [txt "step_1", txt "step_2", txt "step_3", txt "step_4"]

/-- `PURPOSE_PHASES` -/
def PURPOSE_PHASES : List (Text × Text) :=
  [(txt "preflight_cut", txt "preflight"), (txt "preflight_deposition", txt "preflight"),
   (txt "protection", txt "step_1"), (txt "trench", txt "step_1"), (txt "polish", txt "step_1"),
   (txt "u_cut", txt "step_1"), (txt "needle_joint", txt "step_2"),
   (txt "source_separation", txt "step_2"), (txt "target_joint", txt "step_3"),
   (txt "needle_separation", txt "step_4")]

abbrev Arguments := List (Text × Json)

/-! ## State -/

/-- `_PreflightState` -/
structure PreflightState where
  ping : Bool
  capabilities : Bool
  beams : List Text
  stageMoved : Bool
  stageReturned : Bool
  needleInserted : Bool
  needleMoved : Bool
  needleRetracted : Bool
  couponCut : Bool
  couponDeposition : Bool
deriving DecidableEq

namespace PreflightState

def initial : PreflightState :=
  ⟨false, false, [], false, false, false, false, false, false, false⟩

/-- `complete` -/
def complete (p : PreflightState) : Bool :=
  p.ping && p.capabilities &&
    (p.beams.all fun b => b = txt "SEM" || b = txt "FIB") &&
    (p.beams.contains (txt "SEM") && p.beams.contains (txt "FIB")) &&
    p.stageMoved && p.stageReturned && p.needleInserted && p.needleMoved && p.needleRetracted &&
    p.couponCut && p.couponDeposition

end PreflightState

structure Pattern where
  purpose : Text
  operation : Text
  status : Text
deriving DecidableEq

/-- The policy state: what decides whether a call is let through. -/
structure Policy where
  preflight : PreflightState
  checkpointIndex : Nat
  patterns : List (Text × Pattern)
deriving DecidableEq

structure OperationDispatcher (β : Type) where
  service : FibsemService β
  policy : Policy
  stageOrigin : Option Vec

section

variable {β : Type} (setup : Setup β)

/-- `_state` -/
def state (service : FibsemService β) : Except PyError (List (PyKey × PyValue)) :=
  match setup.backend.semanticState service.backend with
  | .mapping entries => .ok entries
  | _ => PyError.runtime "backend semantic state must be an object"

/-- `canonical_digest(self._state())`, called `depth` calls below `dispatch`. -/
def stateHash (depth : Nat) (service : FibsemService β) : Except PyError Text :=
  match state setup service with
  | .error e => .error e
  | .ok entries => canonicalDigestWithin setup.stack depth (.mapping entries)

/-- `_state_position` -/
def statePosition (entries : List (PyKey × PyValue)) (key : String) :
    Except PyError (Option Vec) :=
  match vec3 ((entries.lookup (.str (txt key))).getD .none)
      (txt "backend " ++ txt key ++ txt " state") with
  | .ok position => .ok (some position)
  | .error (.valueError _) => .ok none
  | .error e => .error e

/-! ## Checks -/

/-- `set(arguments) == expected` -/
def exactKeys (arguments : Arguments) (expected : List String) : Bool :=
  Json.keys arguments ⊆ expected.map txt && expected.map txt ⊆ Json.keys arguments

/-- `_require_exact` -/
def requireExact (arguments : Arguments) (expected : List String) : Except PyError Unit :=
  if exactKeys arguments expected then .ok ()
  else PyError.reject "operation arguments are invalid"

/-- `_close` -/
def close (first second : Option Vec) : Bool :=
  match first, second with
  | some first, some second => Vec.all (fun left right => (left - right).abs ≤ 1e-6) first second
  | _, _ => false

/-- `_validate_motion`; `kind` is `stage` or `manipulator`. -/
def validateMotion (service : FibsemService β) (kind : String) (arguments : Arguments) :
    Except PyError Vec := do
  requireExact arguments ["position_um", "relative"]
  let relative ←
    match get arguments (txt "relative") with
    | .bool relative => .ok relative
    | _ => PyError.reject "motion relative flag must be boolean"
  let requested ← vec3 (get arguments (txt "position_um")).toPy (txt kind ++ txt " position")
  let stateKey := if kind = "stage" then "stage" else "needle"
  let current ←
    match ← statePosition (← state setup service) stateKey with
    | some current => .ok current
    | none => .error (.rejected (txt kind ++ txt " state is unavailable"))
  let target := if relative then current.add requested else requested
  let delta := target.sub current
  let limits ←
    match ← setup.scenario.member "limits" with
    | .obj limits => .ok limits
    | _ => PyError.reject "scenario movement limits are invalid"
  let limitName := if kind = "stage" then "stage_delta_um" else "manipulator_delta_um"
  let maximum ← vec3 (get limits (txt limitName)).toPy (txt kind ++ txt " movement limit")
  if Vec.any (fun value bound => bound < value.abs) delta maximum then
    .error (.rejected (txt kind ++ txt " movement limit exceeded"))
  else if setup.backend.motionIsSafe service.backend (txt kind) target then .ok target
  else .error (.rejected (txt kind ++ txt " motion is unsafe"))

/-- `_envelope` -/
def envelope (phase : Text) : Except PyError (Text × Bounds) := do
  let envelopes ←
    match ← setup.scenario.member "work_envelopes" with
    | .obj envelopes => .ok envelopes
    | _ => PyError.reject "scenario work envelope is invalid"
  let value ←
    match get envelopes phase with
    | .obj value => .ok value
    | _ => PyError.reject "scenario work envelope is invalid"
  let frame ←
    match get value (txt "frame") with
    | .str frame => .ok frame
    | _ => PyError.reject "scenario work envelope frame is invalid"
  let center ← vec3 (get value (txt "center_um")).toPy (txt "work envelope center")
  let size ← vec3 (get value (txt "size_um")).toPy (txt "work envelope size")
  let origin ← setup.scenario.worldPosition frame
  let bounds ← Bounds.around (origin.add center) size
  .ok (frame, bounds)

/-- `_validate_pattern` -/
def validatePattern (arguments : Arguments) (allowedPurposes : List Text) :
    Except PyError Text := do
  requireExact arguments ["pattern"]
  let value ←
    match get arguments (txt "pattern") with
    | .obj value =>
        if exactKeys value ["purpose", "frame", "center_um", "size_um", "rotation_degrees"] then
          .ok value
        else PyError.reject "pattern fields are invalid"
    | _ => PyError.reject "pattern fields are invalid"
  let purpose ←
    match get value (txt "purpose") with
    | .str purpose =>
        if purpose ∈ allowedPurposes then .ok purpose
        else PyError.reject "pattern purpose is invalid for this operation"
    | _ => PyError.reject "pattern purpose is invalid for this operation"
  let phase ←
    match PURPOSE_PHASES.lookup purpose with
    | some phase => .ok phase
    | none => .error (.keyError purpose)
  let envelope ← envelope setup phase
  let frame ←
    match get value (txt "frame") with
    | .str frame =>
        if frame = envelope.1 then .ok frame
        else PyError.reject "pattern frame does not match its work envelope"
    | _ => PyError.reject "pattern frame does not match its work envelope"
  let center ← vec3 (get value (txt "center_um")).toPy (txt "pattern center")
  let size ← vec3 (get value (txt "size_um")).toPy (txt "pattern size")
  let rotation ← finite (get value (txt "rotation_degrees")).toPy (txt "pattern rotation")
  let patterning ←
    match ← setup.scenario.member "patterning" with
    | .obj patterning => .ok patterning
    | _ => PyError.reject "scenario pattern limits are invalid"
  let minimum ← finite (get patterning (txt "minimum_feature_um")).toPy (txt "minimum feature")
  let maximum ← finite (get patterning (txt "maximum_feature_um")).toPy (txt "maximum feature")
  if Vec.any (fun value _ => value < minimum || maximum < value) size size then
    PyError.reject "pattern feature size is outside declared limits"
  else
    let origin ← setup.scenario.worldPosition frame
    let bounds ← Bounds.around (origin.add center) (rotatedExtent setup.libm rotation size)
    if envelope.2.contains bounds then .ok purpose
    else PyError.reject "pattern escapes its declared work envelope"

/-- `__init__` -/
def OperationDispatcher.new (service : FibsemService β) : Except PyError (OperationDispatcher β) :=
  match state setup service with
  | .error e => .error e
  | .ok initial =>
      match statePosition initial "stage" with
      | .error e => .error e
      | .ok stageOrigin => .ok ⟨service, ⟨.initial, 0, []⟩, stageOrigin⟩

end

/-! ## Handlers -/

/-- What a handler does with the service's answer. -/
inductive FollowUp where
  | nothing
  | ping
  | capabilities
  | beam (beam : Text)
  | stage (target : Vec)
  | inserted
  | moved
  | retracted
  | newPattern (purpose operation : Text)
  | patternReceipt (operationId operation : Text)
  | checkpoint (stepId : Text)

section

variable {β : Type} (setup : Setup β)

def empty (arguments : Arguments) (next : FollowUp) : Except PyError FollowUp := do
  requireExact arguments []
  .ok next

def acquireImage (arguments : Arguments) : Except PyError FollowUp := do
  requireExact arguments ["beam"]
  match get arguments (txt "beam") with
  | .str beam =>
      if beam = txt "SEM" ∨ beam = txt "FIB" then .ok (.beam beam)
      else PyError.reject "image beam must be SEM or FIB"
  -- a list or an object has no hash
  | .arr _ => .error (.typeError (txt "unhashable type: 'list'"))
  | .obj _ => .error (.typeError (txt "unhashable type: 'dict'"))
  | _ => PyError.reject "image beam must be SEM or FIB"

def moveStage (d : OperationDispatcher β) (arguments : Arguments) : Except PyError FollowUp := do
  let target ← validateMotion setup d.service "stage" arguments
  .ok (.stage target)

def insertManipulator (d : OperationDispatcher β) (arguments : Arguments) :
    Except PyError FollowUp := do
  if exactKeys arguments [] then .ok .inserted
  else if exactKeys arguments ["position_um"] then
    let position ← vec3 (get arguments (txt "position_um")).toPy (txt "manipulator position")
    if setup.backend.motionIsSafe d.service.backend (txt "manipulator") position then .ok .inserted
    else PyError.reject "manipulator motion is unsafe"
  else PyError.reject "insert manipulator arguments are invalid"

def moveManipulator (d : OperationDispatcher β) (arguments : Arguments) :
    Except PyError FollowUp := do
  if d.policy.preflight.needleInserted = false ∧ d.policy.preflight.complete = false then
    PyError.reject "manipulator must be inserted before movement"
  else
    let _ ← validateMotion setup d.service "manipulator" arguments
    .ok .moved

/-- `_run_cut` and `_run_deposition`, which differ in their purposes and in the
one purpose allowed before preflight is complete. -/
def runPattern (d : OperationDispatcher β) (operation : Text) (arguments : Arguments)
    (purposes : List Text) (preflight : String) : Except PyError FollowUp := do
  let purpose ← validatePattern setup arguments purposes
  if purpose ≠ txt preflight ∧ d.policy.preflight.complete = false then
    PyError.reject "Preflight must complete before task ROI operations"
  else .ok (.newPattern purpose operation)

def runCut (d : OperationDispatcher β) (operation : Text) (arguments : Arguments) :
    Except PyError FollowUp :=
  runPattern setup d operation arguments CUT_PURPOSES "preflight_cut"

def runDeposition (d : OperationDispatcher β) (operation : Text) (arguments : Arguments) :
    Except PyError FollowUp :=
  runPattern setup d operation arguments DEPOSITION_PURPOSES "preflight_deposition"

def operationId (d : OperationDispatcher β) (operation : Text) (arguments : Arguments) :
    Except PyError FollowUp := do
  requireExact arguments ["operation_id"]
  match get arguments (txt "operation_id") with
  | .str id =>
      if id = [] then PyError.reject "operation ID is invalid"
      else if (d.policy.patterns.lookup id).isNone then PyError.reject "unknown operation ID"
      else .ok (.patternReceipt id operation)
  | _ => PyError.reject "operation ID is invalid"

def checkpoint (d : OperationDispatcher β) (arguments : Arguments) : Except PyError FollowUp :=
  if ¬ (exactKeys arguments ["step_id"] ∨ exactKeys arguments ["step_id", "summary"]) then
    PyError.reject "checkpoint arguments are invalid"
  else if d.policy.preflight.complete = false then
    PyError.reject "Preflight must complete before checkpoint"
  else if d.policy.patterns.any fun p =>
      p.2.status = txt "queued" || p.2.status = txt "running" then
    PyError.reject "active pattern must finish before checkpoint"
  else
    match STEPS[d.policy.checkpointIndex]? with
    | none => PyError.reject "all checkpoints have already been recorded"
    | some expected =>
        if get arguments (txt "step_id") ≠ .str expected then
          .error (.rejected (txt "next checkpoint is " ++ expected))
        else
          match get arguments (txt "summary") with
          | .null | .obj _ => .ok (.checkpoint expected)
          | _ => PyError.reject "checkpoint summary must be an object"

/-- What a handler checks before its `_invoke`. -/
abbrev Check (β : Type) := OperationDispatcher β → Arguments → Except PyError FollowUp

/-- `_handlers` -/
def handlers : List (Text × (Text → Check β)) :=
  [(txt "ping", fun _ _ arguments => empty arguments .ping),
   (txt "capabilities", fun _ _ arguments => empty arguments .capabilities),
   (txt "acquire_image", fun _ _ arguments => acquireImage arguments),
   (txt "get_stage_position", fun _ _ arguments => empty arguments .nothing),
   (txt "move_stage", fun _ => moveStage setup),
   (txt "stop_stage", fun _ _ arguments => empty arguments .nothing),
   (txt "get_manipulator_state", fun _ _ arguments => empty arguments .nothing),
   (txt "insert_manipulator", fun _ => insertManipulator setup),
   (txt "move_manipulator", fun _ => moveManipulator setup),
   (txt "retract_manipulator", fun _ _ arguments => empty arguments .retracted),
   (txt "stop_manipulator", fun _ _ arguments => empty arguments .nothing),
   (txt "run_cut", fun operation d => runCut setup d operation),
   (txt "run_deposition", fun operation d => runDeposition setup d operation),
   (txt "pattern_status", fun operation d => operationId d operation),
   (txt "stop_pattern", fun operation d => operationId d operation),
   (txt "checkpoint", fun _ => checkpoint)]

/-- `self._handlers.get(operation)` -/
def handler (operation : Text) : Option (Check β) :=
  ((handlers setup).lookup operation).map fun check => check operation

end

/-! ## After the service's answer -/

/-- `_receipt` -/
def receipt (result : PyValue) : Except PyError (Text × Text) :=
  match result with
  | .mapping entries =>
      let keys := entries.map Prod.fst
      if keys ⊆ [.str (txt "operation_id"), .str (txt "status")] ∧
          [.str (txt "operation_id"), .str (txt "status")] ⊆ keys then
        match (entries.lookup (.str (txt "operation_id"))).getD .none with
        | .str id =>
            if id = [] then PyError.runtime "backend pattern operation ID is invalid"
            else
              match (entries.lookup (.str (txt "status"))).getD .none with
              | .str status =>
                  if status ∈ ["queued", "running", "completed", "stopped", "failed"].map txt then
                    .ok (id, status)
                  else PyError.runtime "backend pattern status is invalid"
              | .seq _ => .error (.typeError (txt "unhashable type: 'list'"))
              | .mapping _ => .error (.typeError (txt "unhashable type: 'dict'"))
              | _ => PyError.runtime "backend pattern status is invalid"
        | _ => PyError.runtime "backend pattern operation ID is invalid"
      else PyError.runtime "backend pattern receipt is invalid"
  | _ => PyError.runtime "backend pattern receipt is invalid"

namespace Policy

/-- `_complete_pattern_effect` -/
def completePatternEffect (policy : Policy) (purpose : Text) : Policy :=
  if purpose = txt "preflight_cut" then
    { policy with preflight := { policy.preflight with couponCut := true } }
  else if purpose = txt "preflight_deposition" then
    { policy with preflight := { policy.preflight with couponDeposition := true } }
  else policy

/-- `_record_new_pattern` -/
def recordNewPattern (policy : Policy) (result : PyValue) (purpose operation : Text) :
    Except PyError Policy :=
  match receipt result with
  | .error e => .error e
  | .ok (id, status) =>
      if (policy.patterns.lookup id).isSome then
        PyError.runtime "backend reused a pattern operation ID"
      else
        let policy := { policy with patterns := (id, ⟨purpose, operation, status⟩) :: policy.patterns }
        .ok (if status = txt "completed" then policy.completePatternEffect purpose else policy)

/-- `self._patterns[operation_id]["status"] = status` -/
def setStatus (policy : Policy) (id status : Text) : Policy :=
  { policy with
    patterns := policy.patterns.map fun p => if p.1 = id then (p.1, { p.2 with status }) else p }

/-- The end of `_operation_id`. -/
def recordReceipt (policy : Policy) (result : PyValue) (id operation : Text) :
    Except PyError Policy :=
  match receipt result with
  | .error e => .error e
  | .ok (receiptId, status) =>
      if receiptId ≠ id then PyError.runtime "backend pattern receipt identity mismatch"
      else if operation = txt "stop_pattern" ∧
          status ∉ ["stopped", "completed", "failed"].map txt then
        PyError.runtime "backend did not stop the pattern"
      else
        let policy := policy.setStatus id status
        match policy.patterns.lookup id with
        | none => .error (.keyError id)
        | some pattern =>
            .ok (if status = txt "completed" then policy.completePatternEffect pattern.purpose
              else policy)

/-- The end of `_move_stage`. -/
def recordStage (policy : Policy) (origin : Option Vec) (target : Vec) : Policy :=
  let home := close (some target) origin
  let moved := policy.preflight.stageMoved || !home
  { policy with
    preflight := { policy.preflight with
      stageMoved := moved, stageReturned := policy.preflight.stageReturned || (moved && home) } }

end Policy

section

variable {β : Type} (setup : Setup β)

/-- The rest of a handler, after `result = self._invoke(..)`. -/
def FollowUp.run (d : OperationDispatcher β) (result : PyValue) :
    FollowUp → Except PyError Unit × OperationDispatcher β
  | .nothing => (.ok (), d)
  | .ping => (.ok (), { d with policy.preflight.ping := true })
  | .capabilities => (.ok (), { d with policy.preflight.capabilities := true })
  | .beam name =>
      (.ok (), { d with policy.preflight.beams := d.policy.preflight.beams.insert name })
  | .stage target => (.ok (), { d with policy := d.policy.recordStage d.stageOrigin target })
  | .inserted => (.ok (), { d with policy.preflight.needleInserted := true })
  | .moved => (.ok (), { d with policy.preflight.needleMoved := true })
  | .retracted =>
      (.ok (), { d with policy.preflight.needleRetracted :=
        d.policy.preflight.needleRetracted || d.policy.preflight.needleInserted })
  | .newPattern purpose operation =>
      match d.policy.recordNewPattern result purpose operation with
      | .error e => (.error e, d)
      | .ok policy => (.ok (), { d with policy })
  | .patternReceipt id operation =>
      match d.policy.recordReceipt result id operation with
      | .error e => (.error e, d)
      | .ok policy => (.ok (), { d with policy })
  | .checkpoint stepId =>
      let d := { d with policy.checkpointIndex := d.policy.checkpointIndex + 1 }
      match d.service.append setup 1 (txt "checkpoint.frozen") [(txt "step_id", .str stepId)] with
      | .error e => (.error e, d)
      | .ok service => (.ok (), { d with service })

/-- A handler from its `_invoke` on. -/
def perform (d : OperationDispatcher β) (operation : Text) (arguments : Arguments)
    (next : FollowUp) : Except PyError PyValue × OperationDispatcher β :=
  match d.service.invoke setup operation arguments with
  | (.error e, service) => (.error e, { d with service })
  | (.ok result, service) =>
      match next.run setup { d with service } result with
      | (.error e, d) => (.error e, d)
      | (.ok (), d) => (.ok result, d)

/-! ## Audit records -/

/-- `_safe_audit_value`, which `_audit_details` calls: only a `JournalError` is caught. -/
def safeAuditValue (value : Json) : Except PyError Json :=
  match canonicalDigestWithin setup.stack 2 value.toPy with
  | .error (.journalError _) => .ok (.str (txt "<invalid>"))
  | .error e => .error e
  | .ok _ => .ok value

/-- The audited value of an argument, when it is there. -/
def auditMember (arguments : Arguments) (key : String) : Except PyError (List (Text × Json)) :=
  match arguments.lookup (txt key) with
  | none => .ok []
  | some value =>
      match safeAuditValue setup value with
      | .error e => .error e
      | .ok value => .ok [(txt key, value)]

/-- A text argument, copied as it is. -/
def auditText (arguments : Arguments) (key : String) (name : String) : List (Text × Json) :=
  match arguments.lookup (txt key) with
  | some (.str value) => [(txt name, .str value)]
  | _ => []

/-- `_audit_details` -/
def auditDetails (operation : Text) (arguments : Arguments) :
    Except PyError (List (Text × Json)) :=
  if operation ∈ ["run_cut", "run_deposition"].map txt then
    match arguments.lookup (txt "pattern") with
    | some (.obj pattern) => .ok (auditText pattern "purpose" "pattern_purpose")
    | _ => .ok []
  else if operation = txt "acquire_image" then .ok (auditText arguments "beam" "beam")
  else if operation ∈ ["move_stage", "move_manipulator", "insert_manipulator"].map txt then
    match auditMember setup arguments "position_um" with
    | .error e => .error e
    | .ok position =>
        match auditMember setup arguments "relative" with
        | .error e => .error e
        | .ok relative => .ok (position ++ relative)
  else if operation = txt "checkpoint" then .ok (auditText arguments "step_id" "step_id")
  else if operation ∈ ["pattern_status", "stop_pattern"].map txt then
    .ok (auditText arguments "operation_id" "operation_id")
  else .ok []

/-- `_result_details` -/
def resultDetails (result : PyValue) : List (PyKey × PyValue) :=
  match result with
  | .mapping entries =>
      (["operation_id", "status", "step_id", "journal_sequence"].map txt).filterMap fun key =>
        (entries.lookup (.str key)).map fun value => (.str key, value)
  | _ => []

/-- What every record of one call carries. -/
structure Audit where
  requestId : Text
  operation : Text
  argumentDigest : Option Text
  details : List (Text × Json)
  beforeHash : Text

namespace Audit

/-- The members of `rpc.requested`, which every other record repeats. -/
def requested (a : Audit) : List (Text × PyValue) :=
  [(txt "request_id", .str a.requestId),
   (txt "operation", .str a.operation),
   (txt "argument_digest", (a.argumentDigest.map PyValue.str).getD .none),
   (txt "details", (Json.obj a.details).toPy),
   (txt "before_state_hash", .str a.beforeHash)]

/-- The members of `rpc.rejected`. -/
def rejected (a : Audit) (afterHash reason : Text) : List (Text × PyValue) :=
  a.requested ++ [(txt "after_state_hash", .str afterHash), (txt "reason", .str reason)]

/-- The members of `rpc.failed`. -/
def failed (a : Audit) (afterHash typeName message : Text) : List (Text × PyValue) :=
  a.requested ++ [(txt "after_state_hash", .str afterHash), (txt "error_type", .str typeName),
    (txt "error_message", .str (message.take 256))]

/-- The members of `rpc.completed`. -/
def completed (a : Audit) (result : PyValue) (resultDigest afterHash : Text) :
    List (Text × PyValue) :=
  a.requested ++ [(txt "result_details", .mapping (resultDetails result)),
    (txt "result_digest", .str resultDigest), (txt "after_state_hash", .str afterHash)]

end Audit

/-- `self.journal.append(kind, **fields)`, called `depth` calls below `dispatch`. -/
def record (depth : Nat) (d : OperationDispatcher β) (kind : String) (fields : List (Text × PyValue)) :
    Except PyError (OperationDispatcher β) :=
  match d.service.append setup depth (txt kind) fields with
  | .error e => .error e
  | .ok service => .ok { d with service }

/-- `_reject`, then `raise RejectedOperation`. -/
def reject (d : OperationDispatcher β) (a : Audit) (reason raisedAs : Text) :
    Except PyError PyValue × OperationDispatcher β :=
  match stateHash setup 1 d.service with
  | .error e => (.error e, d)
  | .ok afterHash =>
      match record setup 1 d "rpc.rejected" (a.rejected afterHash reason) with
      | .error e => (.error e, d)
      | .ok d => (.error (.rejected raisedAs), d)

/-- What a refusal is recorded and raised with: its own message, or the one of
the clause for `KeyError`, `TypeError` and `ValueError`. -/
def refusalMessage : PyError → Text
  | .rejected message => message
  | _ => txt "operation arguments are invalid"

/-- The `except` clauses around the handler. -/
def handleError (d : OperationDispatcher β) (a : Audit) :
    PyError → Except PyError PyValue × OperationDispatcher β
  | .other typeName message =>
      match stateHash setup 0 d.service with
      | .error e => (.error e, d)
      | .ok afterHash =>
          match record setup 0 d "rpc.failed" (a.failed afterHash typeName message) with
          | .error e => (.error e, d)
          | .ok d => (.error (.other typeName message), d)
  | e => reject setup d a (refusalMessage e) (refusalMessage e)

/-- The end of `dispatch`, after the handler returned. -/
def complete (d : OperationDispatcher β) (a : Audit) (result : PyValue) :
    Except PyError PyValue × OperationDispatcher β :=
  match stateHash setup 0 d.service with
  | .error e => (.error e, d)
  | .ok afterHash =>
      match canonicalDigestWithin setup.stack 0 result with
      | .error e => (.error e, d)
      | .ok resultDigest =>
          match record setup 0 d "rpc.completed" (a.completed result resultDigest afterHash) with
          | .error e => (.error e, d)
          | .ok d => (.ok result, d)

/-- `dispatch`, from the `rpc.requested` record on. -/
def dispatchRequested (d : OperationDispatcher β) (a : Audit) (arguments : Arguments)
    (check : Check β) : Except PyError PyValue × OperationDispatcher β :=
  match record setup 0 d "rpc.requested" a.requested with
  | .error e => (.error e, d)
  | .ok d =>
      match check d arguments with
      | .error e => handleError setup d a e
      | .ok next =>
          match perform setup d a.operation arguments next with
          | (.error e, d) => handleError setup d a e
          | (.ok result, d) => complete setup d a result

/-- One call of `dispatch` with its request ID. -/
structure Call where
  requestId : Text
  operation : Text
  arguments : Arguments

/-- `dispatch` -/
def dispatch (d : OperationDispatcher β) (call : Call) :
    Except PyError PyValue × OperationDispatcher β :=
  match stateHash setup 0 d.service with
  | .error e => (.error e, d)
  | .ok beforeHash =>
      match auditDetails setup call.operation call.arguments with
      | .error e => (.error e, d)
      | .ok details =>
          let a := ⟨call.requestId, call.operation, none, details, beforeHash⟩
          match canonicalDigestWithin setup.stack 0 (Json.obj call.arguments).toPy with
          | .error (.journalError _) =>
              reject setup d a (txt "invalid or oversized arguments")
                (txt "invalid or oversized arguments")
          | .error e => (.error e, d)
          | .ok argumentDigest =>
              match handler setup call.operation with
              | none =>
                  reject setup d a (txt "operation is not allowed")
                    (txt "operation is not allowed: " ++ call.operation)
              | some check =>
                  dispatchRequested setup d { a with argumentDigest := some argumentDigest }
                    call.arguments check

end

end InstrumentBench.Fibsem.Microscope
