/-
# Fibsem.Liftout -- the service over the geometry backend

The dispatcher and the service take their backend as a parameter, and the geometry backend
stands by itself.  `Apparatus` is what the two are built over together: one scenario, the
simulator, the exporter and the clock.  `Apparatus.setup` is the service whose backend is
the geometry's, over doubles.

What a dispatch does to the backend is what its operation does (`dispatch_backend`), and a
checkpoint only looks at it.
-/
import InstrumentBench.Fibsem.PreflightGate
import InstrumentBench.Geometry.Needle
import InstrumentBench.Geometry.PartNames
import InstrumentBench.Theory.PyText

namespace InstrumentBench.Fibsem.Microscope

set_option autoImplicit false

open InstrumentBench.Theory
open InstrumentBench.Theory.Stateful
open InstrumentBench.Fibsem.Journal
open InstrumentBench.Fibsem.Service
open InstrumentBench.Geometry (Answer MeshPart SceneSnapshot Steady)

/-! ## What crosses the boundary -/

/-- A vector, by axis. -/
def axes (v : Vec) : Geometry.Vec Float := ![v.1, v.2.1, v.2.2]

mutual

/-- An answer as the value it is. -/
def answerValue : Answer Float → PyValue
  | .none => .none
  | .bool b => .bool b
  | .int i => .int i
  | .number x => .float x
  | .text t => .str t
  | .base64 b => .str (PyText.base64 b)
  | .echo v => v.toPy
  | .list items => .seq (answerItems items)
  | .dict fields => .mapping (answerFields fields)

def answerItems : List (Answer Float) → List PyValue
  | [] => []
  | item :: items => answerValue item :: answerItems items

def answerFields : List (Text × Answer Float) → List (PyKey × PyValue)
  | [] => []
  | (key, value) :: fields => (.str key, answerValue value) :: answerFields fields

end

/-! ## The apparatus -/

abbrev Image := Nat × Nat × Bytes

/-- What a service and its backend are built over. -/
structure Apparatus (ρ : Type) where
  scenario : ScenarioSpec
  sampleDimensions : Geometry.Vec Float
  libm : Libm
  runtime : Geometry.Runtime Float ρ
  geometryHash : List (MeshPart Float) → Text
  /-- The geometry oracle and the exporter, given the journal's sequence and head. -/
  exporter : Text → Nat → Text → SceneSnapshot Float → Image × Image → Except PyError Evidence
  clock : Nat → Int
  stack : Stack

namespace Apparatus

variable {ρ : Type} (it : Apparatus ρ)

/-- The scenario as the backend reads it. -/
def geometryScenario : Geometry.ScenarioSpec Float where
  sampleDimensions := it.sampleDimensions
  frames := it.scenario.frames.map fun frame =>
    (frame.1, ⟨frame.2.relativeTo, axes frame.2.positionUm, axes frame.2.orientationDegrees⟩)
  data := it.scenario.data

def geometry : Geometry.Setup Float ρ where
  numerics := Geometry.doubles it.libm
  scenario := it.geometryScenario
  runtime := it.runtime
  geometryHash := it.geometryHash

/-- `acquire_checkpoint_images` -/
def checkpointImages : Geometry.Method Float ρ (Image × Image) := do
  let sem ← Geometry.call (it.runtime.acquireImage (txt "SEM"))
  let fib ← Geometry.call (it.runtime.acquireImage (txt "FIB"))
  pure (sem, fib)

/-- `freeze_snapshot`, the images, and the export. -/
def exportCheckpoint (stepId : Text) (sequence : Nat) (head : Text)
    (b : Geometry.Backend Float ρ) : Except PyError Evidence × Geometry.Backend Float ρ :=
  match Geometry.freezeSnapshot it.geometry b stepId with
  | .error e => (.error e, b)
  | .ok snapshot =>
      match outcome it.checkpointImages b with
      | (.error e, b) => (.error e, b)
      | (.ok images, b) => (it.exporter stepId sequence head snapshot images, b)

/-- `OpenFibsemBackend`, as the service calls it. -/
def backend : ServiceBackend (Geometry.Backend Float ρ) where
  semanticState b := answerValue (Geometry.semanticState it.geometry b)
  invoke operation arguments b :=
    match outcome (Geometry.invoke it.geometry operation arguments) b with
    | (answer, b) => (answer.map answerValue, b)
  motionIsSafe _ kind target := Geometry.motionIsSafe it.geometry kind (axes target)
  exportCheckpoint := it.exportCheckpoint

def setup : Setup (Geometry.Backend Float ρ) where
  scenario := it.scenario
  backend := it.backend
  libm := it.libm
  clock := it.clock
  stack := it.stack

end Apparatus

/-! ## What a dispatch does to the backend -/

section

variable {β : Type} {setup : Setup β}

/-- What the service does to the backend when it is handed a call. -/
inductive Handles (setup : Setup β) (operation : Text) (arguments : Arguments) (b : β) : β → Prop
  | operation (other : operation ≠ txt "checkpoint") :
      Handles setup operation arguments b (setup.backend.invoke operation arguments b).2
  | unexported (asked : operation = txt "checkpoint") : Handles setup operation arguments b b
  | exported (asked : operation = txt "checkpoint") (stepId : Text) (sequence : Nat)
      (head : Text) :
      Handles setup operation arguments b (setup.backend.exportCheckpoint stepId sequence head b).2

theorem append_backend {service service' : FibsemService β} {depth : Nat} {kind : Text}
    {fields : List (Text × PyValue)}
    (appended : service.append setup depth kind fields = .ok service') :
    service'.backend = service.backend := by
  obtain ⟨event, rfl, -⟩ := append_ok appended
  rfl

theorem checkpoint_handles (setup : Setup β) (service : FibsemService β) (stepId : Text) (summary : Json) :
    (service.checkpoint setup stepId summary).2.backend = service.backend ∨
      ∃ sequence head, (service.checkpoint setup stepId summary).2.backend =
        (setup.backend.exportCheckpoint stepId sequence head service.backend).2 := by
  unfold FibsemService.checkpoint
  split
  · exact Or.inl rfl
  split
  · exact Or.inl rfl
  rename_i requested appended
  have same := append_backend appended
  right
  refine ⟨requested.journal.events.length, requested.journal.headHash, ?_⟩
  rw [← same]
  split
  case h_1 e b exported => rw [exported]
  case h_2 evidence b exported =>
      rw [exported]
      dsimp only
      split
      · rfl
      · rename_i final
        exact append_backend final

theorem invoke_handles (service : FibsemService β) (operation : Text) (arguments : Arguments) :
    Handles setup operation arguments service.backend
      (service.invoke setup operation arguments).2.backend := by
  unfold FibsemService.invoke
  split
  case isFalse other => exact .operation other
  case isTrue asked =>
      split
      case h_1 => exact .unexported asked
      case h_3 => exact .unexported asked
      case h_2 stepId summary _ _ =>
          have handled : Handles setup operation arguments service.backend
              (service.checkpoint setup stepId summary).2.backend := by
            rcases checkpoint_handles setup service stepId summary with same | exported
            · rw [same]
              exact .unexported asked
            · obtain ⟨sequence, head, exported⟩ := exported
              rw [exported]
              exact .exported asked stepId sequence head
          split
          case h_1 ended =>
              rw [ended] at handled
              exact handled
          case h_2 ended =>
              rw [ended] at handled
              exact handled

/-- A follow-up leaves the backend alone. -/
theorem followUp_backend (setup : Setup β) (d : OperationDispatcher β) (result : PyValue) (next : FollowUp) :
    (next.run setup d result).2.service.backend = d.service.backend := by
  cases next with
  | newPattern | patternReceipt =>
      simp only [FollowUp.run]
      split <;> rfl
  | checkpoint stepId =>
      simp only [FollowUp.run]
      split
      · rfl
      · rename_i appended
        exact append_backend appended
  | _ => rfl

theorem perform_backend (d : OperationDispatcher β) (operation : Text) (arguments : Arguments)
    (next : FollowUp) :
    (perform setup d operation arguments next).2.service.backend =
      (d.service.invoke setup operation arguments).2.backend := by
  unfold perform
  split
  case h_1 ended => rw [ended]
  case h_2 result service ended =>
      rw [ended]
      have kept := followUp_backend setup { d with service } result next
      split
      case h_1 ran => rw [ran] at kept; exact kept
      case h_2 ran => rw [ran] at kept; exact kept

/-- What the records after a handler leave of the backend. -/
theorem finish_backend (a : Audit)
    (outcome : Except PyError PyValue × OperationDispatcher β) :
    (finish setup a outcome).2.service.backend = outcome.2.service.backend := by
  apply finish_keeps (P := fun b => b.service.backend = outcome.2.service.backend) a
  · intro b b' depth kind fields recorded kept
    rw [(record_frame recorded).2.2]
    exact kept
  · rfl

/-- **What a dispatch does to the backend.** -/
theorem dispatch_backend (setup : Setup β) (d : OperationDispatcher β) (call : Call) :
    Reaches setup d call ∧ Handles setup call.operation call.arguments d.service.backend
        (dispatch setup d call).2.service.backend ∨
      ¬Reaches setup d call ∧ (dispatch setup d call).2.service.backend = d.service.backend := by
  rcases dispatch_cases setup d call with ⟨a, d', next, invokes, ends⟩ | ⟨stays, records⟩
  · refine Or.inl ⟨⟨a, d', next, invokes⟩, ?_⟩
    have before : d'.service.backend = d.service.backend := (record_frame invokes.requested).2.2
    rw [ends, finish_backend, perform_backend, ← before]
    exact invoke_handles d'.service call.operation call.arguments
  · refine Or.inr ⟨stays, ?_⟩
    apply records.keeps (P := fun b => b.service.backend = d.service.backend) _ rfl
    intro b b' depth kind fields _ recorded same
    exact (record_frame recorded).2.2.trans same

/-- What `Reaches` asks, computed: the state after the request's record. -/
def handedOn (setup : Setup β) (d : OperationDispatcher β) (call : Call) :
    Option (OperationDispatcher β × FollowUp) := do
  let beforeHash ← (stateHash setup 0 d.service).toOption
  let details ← (auditDetails setup call.operation call.arguments).toOption
  let digest ← (canonicalDigestWithin setup.stack 0 (Json.obj call.arguments).toPy).toOption
  let check ← handler setup call.operation
  let a : Audit := ⟨call.requestId, call.operation, some digest, details, beforeHash⟩
  let d ← (record setup 0 d "rpc.requested" a.requested).toOption
  let next ← (check d call.arguments).toOption
  some (d, next)

theorem invokes_of_handedOn {d d' : OperationDispatcher β} {call : Call} {next : FollowUp}
    (handed : handedOn setup d call = some (d', next)) : ∃ a, Invokes setup d call a d' next := by
  simp only [handedOn, Option.bind_eq_bind, Option.bind_eq_some_iff] at handed
  obtain ⟨beforeHash, hashed, details, audited, digest, digested, check, handled, recorded,
    requested, after, passed, same⟩ := handed
  cases same
  exact ⟨_, rfl, rfl, ok_of_toOption hashed, ok_of_toOption audited,
    ⟨digest, ok_of_toOption digested, rfl⟩, ok_of_toOption requested, check, handled,
    ok_of_toOption passed⟩

theorem reaches_of_handedOn {d : OperationDispatcher β} {call : Call}
    (handed : (handedOn setup d call).isSome = true) : Reaches setup d call := by
  obtain ⟨⟨d', next⟩, handed⟩ := Option.isSome_iff_exists.1 handed
  obtain ⟨a, invokes⟩ := invokes_of_handedOn handed
  exact ⟨a, d', next, invokes⟩

/-! ## A run with its past -/

/-- The calls of a run so far, the last first, each at the state it was made in. -/
abbrev Past (β : Type) := List (OperationDispatcher β × Call)

/-- The property holds of every call of a run, given what came before it. -/
def AlongPast (setup : Setup β) (P : Past β → OperationDispatcher β → Call → Prop) :
    Past β → OperationDispatcher β → List Call → Prop
  | _, _, [] => True
  | past, d, call :: calls =>
      P past d call ∧ AlongPast setup P ((d, call) :: past) (dispatch setup d call).2 calls

/-- **A law of runs** from an invariant of the past and the state, where every call meets a
condition. -/
theorem AlongPast.of_step {I : Past β → OperationDispatcher β → Prop}
    {P Q : Past β → OperationDispatcher β → Call → Prop}
    (step : ∀ past d call, I past d → P past d call →
      Q past d call ∧ I ((d, call) :: past) (dispatch setup d call).2)
    {past : Past β} {d : OperationDispatcher β} (before : I past d) {calls : List Call}
    (met : AlongPast setup P past d calls) : AlongPast setup Q past d calls := by
  induction calls generalizing past d with
  | nil => trivial
  | cons call calls ih =>
      obtain ⟨here, later⟩ := met
      obtain ⟨holds, after⟩ := step past d call before here
      exact ⟨holds, ih after later⟩

/-- The call is handed to the service, and its handler returns. -/
def Accepted (setup : Setup β) (d : OperationDispatcher β) (call : Call) : Prop :=
  ∃ a d' next result d'', Invokes setup d call a d' next ∧
    perform setup d' call.operation call.arguments next = (.ok result, d'')

/-- What `Accepted` asks, computed. -/
theorem accepted_of_handedOn {d : OperationDispatcher β} {call : Call}
    (accepted : ((handedOn setup d call).any fun p =>
      (perform setup p.1 call.operation call.arguments p.2).1.toOption.isSome) = true) :
    Accepted setup d call := by
  obtain ⟨⟨d', next⟩, handed, performed⟩ := (Option.any_eq_true _ _).1 accepted
  obtain ⟨a, invokes⟩ := invokes_of_handedOn handed
  cases ran : perform setup d' call.operation call.arguments next with
  | mk answer d'' =>
      rw [ran] at performed
      cases answer with
      | error e => cases performed
      | ok result => exact ⟨a, d', next, result, d'', invokes, ran⟩

/-- The backend answered an accepted operation, and is as it left itself. -/
theorem Accepted.answered {d : OperationDispatcher β} {call : Call}
    (accepted : Accepted setup d call) (other : call.operation ≠ txt "checkpoint") :
    ∃ answer, setup.backend.invoke call.operation call.arguments d.service.backend =
      (.ok answer, (dispatch setup d call).2.service.backend) := by
  obtain ⟨a, d', next, result, d'', invokes, ran⟩ := accepted
  have before : d'.service.backend = d.service.backend := (record_frame invokes.requested).2.2
  have ended : (dispatch setup d call).2.service.backend =
      (d'.service.invoke setup call.operation call.arguments).2.backend := by
    rw [invokes.dispatches, finish_backend, perform_backend]
  rw [ended]
  unfold perform at ran
  split at ran
  case h_1 => cases ran
  case h_2 answer service invoked =>
      rw [invoked]
      unfold FibsemService.invoke at invoked
      rw [if_neg other, before] at invoked
      obtain ⟨same, rfl⟩ := Prod.mk.inj invoked
      exact ⟨answer, Prod.ext same rfl⟩

theorem Accepted.reaches {d : OperationDispatcher β} {call : Call}
    (accepted : Accepted setup d call) : Reaches setup d call := by
  obtain ⟨a, d', next, -, -, invokes, -⟩ := accepted
  exact ⟨a, d', next, invokes⟩

end

/-! ## A stand -/

/-- A sample on a stand, with the limits of a lift-out. -/
def stand : Apparatus Unit where
  scenario :=
    { scenarioId := txt "stand"
      frames := (["source", "sample", "needle", "target", "coupon", "needle_approach",
        "target_pose"].map txt).map fun name =>
          (name, ⟨txt "world", if name = txt "needle" then (-40.0, 0.0, 0.0) else (0.0, 0.0, 0.0),
            (0.0, 0.0, 0.0)⟩)
      data :=
        [(txt "sample", .obj [(txt "source_bridge", .obj
          [(txt "frame", .str (txt "sample")),
           (txt "center_um", .arr [.int 0, .int 0, .int (-4)]),
           (txt "size_um", .arr [.int 4, .int 4, .int 2])])]),
         (txt "limits", .obj
          [(txt "manipulator_delta_um", .arr [.int 1200, .int 200, .int 200]),
           (txt "stage_delta_um", .arr [.int 1200, .int 200, .int 200])])] }
  sampleDimensions := ![10.0, 8.0, 6.0]
  libm := Geometry.unrotated
  runtime := Geometry.obedient
  geometryHash _ := []
  exporter _ _ _ _ _ := .ok ⟨GENESIS_HASH, GENESIS_HASH⟩
  clock n := n + 1
  stack := nominalStack

/-- A dispatcher on the stand with a new backend. -/
def standing : Except PyError (OperationDispatcher (Geometry.Backend Float Unit)) := do
  let backend ← Geometry.Backend.new stand.geometry ()
  OperationDispatcher.new stand.setup
    ⟨backend, ⟨txt "r", txt "w", EventJournal.named_short, []⟩, [], false⟩

theorem fresh_of_standing {d : OperationDispatcher (Geometry.Backend Float Unit)}
    (stands : standing = .ok d) : Fresh stand.setup d := by
  obtain ⟨backend, -, built⟩ := bind_ok_iff.1 stands
  exact ⟨backend, txt "r", txt "w", _, rfl, built⟩

end InstrumentBench.Fibsem.Microscope
