/-
# Fibsem.Service -- the trusted service between the dispatcher and the backend

The service passes operations to the backend and keeps the checkpoints to
itself: it journals the request to freeze, exports the frozen scene, and
journals what it exported.  The backend proper is a parameter: its state, what
it answers, and what a checkpoint export yields.
-/
import InstrumentBench.Fibsem.JournalDepth

namespace InstrumentBench.Fibsem.Service

set_option autoImplicit false

open InstrumentBench.Theory
open InstrumentBench.Fibsem.Journal

/-- What an exported checkpoint is journaled by. -/
structure Evidence where
  bundleSha256 : Text
  geometryHash : Text

/-- `ServiceBackend`.  `exportCheckpoint` is `freeze_snapshot`, the two images,
the geometry oracle and the exporter, given the journal's sequence and head. -/
structure ServiceBackend (β : Type) where
  semanticState : β → PyValue
  invoke : Text → List (Text × Json) → β → Except PyError PyValue × β
  motionIsSafe : β → Text → Vec → Bool
  exportCheckpoint : Text → Nat → Text → β → Except PyError Evidence × β

/-- What a service is built over: the scenario, the backend, the C library, the
clock, whose `n`-th reading stamps the `n`-th event, and the interpreter's stack. -/
structure Setup (β : Type) where
  scenario : ScenarioSpec
  backend : ServiceBackend β
  libm : Libm
  clock : Nat → Int
  stack : Stack

structure FibsemService (β : Type) where
  backend : β
  journal : EventJournal
  checkpoints : List Text
  finalized : Bool

namespace FibsemService

variable {β : Type} (setup : Setup β)

/-- `journal.append(kind, **fields)`, called `depth` calls below `dispatch`. -/
def append (service : FibsemService β) (depth : Nat) (kind : Text)
    (fields : List (Text × PyValue)) : Except PyError (FibsemService β) :=
  match service.journal.appendWithin setup.stack depth
      (setup.clock service.journal.events.length) kind fields with
  | .error e => .error e
  | .ok (_, journal) => .ok { service with journal }

/-- `dict(summary or {})`; `none` where the service asserts. -/
def summaryOf (arguments : List (Text × Json)) : Option Json :=
  match get arguments (txt "summary") with
  | .null => some (.obj [])
  | .obj fields => some (.obj fields)
  | _ => none

/-- `checkpoint`, four calls below `dispatch`: a handler, `_invoke` and `invoke` call it. -/
def checkpoint (service : FibsemService β) (stepId : Text) (summary : Json) :
    Except PyError PyValue × FibsemService β :=
  if service.finalized then (PyError.runtime "service is already finalized", service)
  else
    match service.append setup 4 (txt "checkpoint.freeze_requested")
        [(txt "step_id", .str stepId), (txt "candidate_summary", summary.toPy)] with
    | .error e => (.error e, service)
    | .ok service =>
        match setup.backend.exportCheckpoint stepId service.journal.events.length
            service.journal.headHash service.backend with
        | (.error e, backend) => (.error e, { service with backend })
        | (.ok evidence, backend) =>
            let frozen :=
              { service with backend, checkpoints := service.checkpoints ++ [stepId] }
            match frozen.append setup 4 (txt "checkpoint.exported")
                [(txt "step_id", .str stepId),
                 (txt "artifact_digest", .str evidence.bundleSha256),
                 (txt "geometry_hash", .str evidence.geometryHash)] with
            | .error e => (.error e, frozen)
            | .ok exported =>
                (.ok (.mapping
                  [(.str (txt "step_id"), .str stepId),
                   (.str (txt "world_id"), .str setup.scenario.scenarioId),
                   (.str (txt "journal_sequence"), .int service.journal.events.length),
                   (.str (txt "artifact_digest"), .str evidence.bundleSha256)]), exported)

/-- `invoke` -/
def invoke (service : FibsemService β) (operation : Text) (arguments : List (Text × Json)) :
    Except PyError PyValue × FibsemService β :=
  if operation = txt "checkpoint" then
    match arguments.lookup (txt "step_id"), summaryOf arguments with
    | none, _ => (.error (.keyError (txt "step_id")), service)
    | some (.str stepId), some summary =>
        match service.checkpoint setup stepId summary with
        | (.error _, service) => (PyError.runtime "trusted checkpoint export failed", service)
        | (.ok result, service) => (.ok result, service)
    | some _, _ => (.error (.other (txt "AssertionError") []), service)
  else
    match setup.backend.invoke operation arguments service.backend with
    | (result, backend) => (result, { service with backend })

end FibsemService

end InstrumentBench.Fibsem.Service
