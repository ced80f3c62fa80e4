/-
# Geometry.Backend -- the semantic adapter around the simulator

`OpenFibsemBackend`: the parts of the scene, the pose of the needle, and the
operations that move, cut and deposit.  The simulator itself is a parameter
(`Runtime`): what it answers and whether it raises.  A method is a `Stateful`
computation, so what it changed before it raised stays changed.

`Action` is everything a service does to a backend, and `step` what one action
does to its state.
-/
import InstrumentBench.Geometry.Metrics
import InstrumentBench.Theory.Stateful

namespace InstrumentBench.Geometry

set_option autoImplicit false

open InstrumentBench.Theory
open InstrumentBench.Fibsem (PyError)

/-! ## What the backend is built over -/

structure PoseSpec (K : Type) where
  relativeTo : Text
  position : Vec K
  orientation : Vec K

/-- The parts of a scenario the geometry reads. -/
structure ScenarioSpec (K : Type) where
  sampleDimensions : Vec K
  frames : List (Text × PoseSpec K)
  data : List (Text × Json)

/-- `Runtime`: the simulator, by its calls. -/
structure Runtime (K ρ : Type) where
  sourceCommit : ρ → Text
  ping : ρ → Except PyError Bool × ρ
  acquireImage : Text → ρ → Except PyError (Nat × Nat × Bytes) × ρ
  moveStage : Vec K → ρ → Except PyError Unit × ρ
  moveManipulator : Vec K → Bool → ρ → Except PyError Unit × ρ
  /-- The pattern's own fields, and its center in the world. -/
  runPattern : Text → Text → List (Text × Json) → Vec K → ρ → Except PyError Unit × ρ
  stop : Text → ρ → Except PyError Unit × ρ
  synchronize : List (MeshPart K) → ρ → Except PyError Unit × ρ
  close : ρ → Except PyError Unit × ρ

/-- `_canonical_geometry_hash` is the digest of the semantic state. -/
structure Setup (K ρ : Type) where
  numerics : Numerics K
  scenario : ScenarioSpec K
  runtime : Runtime K ρ
  geometryHash : List (MeshPart K) → Text

/-- What an operation answers. -/
inductive Answer (K : Type) where
  | none
  | bool (b : Bool)
  | int (i : Int)
  | number (x : K)
  | text (t : Text)
  /-- Bytes, in base64. -/
  | base64 (b : Bytes)
  /-- A value of the request, given back. -/
  | echo (v : Json)
  | list (items : List (Answer K))
  | dict (fields : List (Text × Answer K))

/-- `OpenFibsemBackend` -/
structure Backend (K ρ : Type) [LT K] where
  stage : Vec K
  needle : Vec K
  needleInserted : Bool
  activeOperation : Option Text
  collision : Bool
  changes : List (MaterialChange K)
  operationNumber : Nat
  parts : List (MeshPart K)
  runtime : ρ

def OPENFIBSEM_COMMIT : Text := txt "2ebccb8b9721234ca66bb94de36d0f7cfe047af9"

/-- `str(n)` -/
def decimal (n : Nat) : Text := digitText (decimalDigits n)

/-- `f"{n:08d}"` -/
def padded (n : Nat) : Text :=
  List.replicate (8 - (decimal n).length) (CodePoint.ofChar '0') ++ decimal n

section

variable {K ρ : Type} [Add K] [Sub K] [Neg K] [Mul K] [Div K] [LT K] [DecidableLT K] [LE K]
  [DecidableLE K] [OfScientific K]

namespace ScenarioSpec

/-- `resolve`; `seen` are the frames on the path so far, and the fuel bounds
their number. -/
def resolve (frames : List (Text × PoseSpec K)) : Nat → List Text → Text → Except PyError (Vec K)
  | 0, _, _ => PyError.value "scenario frame cycle"
  | fuel + 1, seen, name =>
      if name = txt "world" then .ok ![0.0, 0.0, 0.0]
      else if name ∈ seen then PyError.value "scenario frame cycle"
      else
        match frames.lookup name with
        | none => .error (.keyError name)
        | some pose =>
            match resolve frames fuel (name :: seen) pose.relativeTo with
            | .error e => .error e
            | .ok parent => .ok (parent + pose.position)

/-- `world_position`; a path visits each frame once before it ends or cycles. -/
def worldPosition (s : ScenarioSpec K) (frame : Text) : Except PyError (Vec K) :=
  resolve s.frames (s.frames.length + 2) [] frame

/-- `frames[name].orientation_degrees` -/
def orientation (s : ScenarioSpec K) (name : String) : Except PyError (Vec K) :=
  match s.frames.lookup (txt name) with
  | some pose => .ok pose.orientation
  | none => .error (.keyError (txt name))

end ScenarioSpec

/-! ## Arguments -/

/-- `fields[key]` -/
def field (fields : List (Text × Json)) (key : String) : Except PyError Json :=
  match fields.lookup (txt key) with
  | some value => .ok value
  | none => .error (.keyError (txt key))

/-- `assert isinstance(value, dict)` -/
def asDict : Json → Except PyError (List (Text × Json))
  | .obj fields => .ok fields
  | _ => .error (.other (txt "AssertionError") [])

/-- `assert isinstance(value, str)` -/
def asText : Json → Except PyError Text
  | .str t => .ok t
  | _ => .error (.other (txt "AssertionError") [])

abbrev Arguments := List (Text × Json)

variable (setup : Setup K ρ)

/-- `_target` -/
def targetOf (current : Vec K) (arguments : Arguments) : Except PyError (Vec K) := do
  let value ← field arguments "position_um"
  let requested ← vec3 setup.numerics value.toPy (txt "motion position")
  let relative ← field arguments "relative"
  match relative with
  | .bool true => .ok (current + requested)
  | _ => .ok requested

/-- Where an insertion goes. -/
def insertionOf (current : Vec K) (arguments : Arguments) : Except PyError (Vec K) :=
  match arguments.lookup (txt "position_um") with
  | some value => vec3 setup.numerics value.toPy (txt "manipulator position")
  | none => .ok current

/-- The pattern of a request, and its purpose. -/
def patternOf (arguments : Arguments) : Except PyError (Arguments × Text) := do
  let pattern ← asDict (← field arguments "pattern")
  let purpose ← asText (← field pattern "purpose")
  .ok (pattern, purpose)

/-- The center of a pattern in the world. -/
def patternCenter (pattern : Arguments) : Except PyError (Vec K) := do
  let frame ← asText (← field pattern "frame")
  let value ← field pattern "center_um"
  let center ← vec3 setup.numerics value.toPy (txt "pattern center")
  let origin ← setup.scenario.worldPosition frame
  .ok (origin + center)

/-- `_pattern_bounds` -/
def patternBounds (pattern : Arguments) : Except PyError (Bounds K) := do
  let N := setup.numerics
  let frame ← asText (← field pattern "frame")
  let center ← vec3 N (← field pattern "center_um").toPy (txt "pattern center")
  let size ← vec3 N (← field pattern "size_um").toPy (txt "pattern size")
  let degrees ← N.float (← field pattern "rotation_degrees").toPy
  let rotation := N.radians degrees
  let extent : Vec K :=
    ![abs (N.cos rotation) * size 0 + abs (N.sin rotation) * size 1,
      abs (N.sin rotation) * size 0 + abs (N.cos rotation) * size 1,
      size 2]
  let origin ← setup.scenario.worldPosition frame
  Bounds.around (origin + center) extent

/-! ## Parts -/

/-- `_subtract_bounds` -/
def subtractBounds (source cutter : Bounds K) : Except PyError (List (Bounds K)) := do
  let intersection ← Bounds.new (fun axis => pyMax (source.minimum axis) (cutter.minimum axis))
    (fun axis => pyMin (source.maximum axis) (cutter.maximum axis))
  if ∃ axis, intersection.size axis ≤ 1e-9 then .ok [source]
  else
    let low := source.minimum
    let high := source.maximum
    let inner := intersection.minimum
    let outer := intersection.maximum
    let candidates ←
      [(![low 0, low 1, low 2], ![inner 0, high 1, high 2]),
       (![outer 0, low 1, low 2], ![high 0, high 1, high 2]),
       (![inner 0, low 1, low 2], ![outer 0, inner 1, high 2]),
       (![inner 0, outer 1, low 2], ![outer 0, high 1, high 2]),
       (![inner 0, inner 1, low 2], ![outer 0, outer 1, inner 2]),
       (![inner 0, inner 1, outer 2], ![outer 0, outer 1, high 2])].mapM
        fun corners => Bounds.new corners.1 corners.2
    .ok (candidates.filter fun bounds => 1e-9 < leastOf bounds.size)

/-- The part a cut leaves of another, the `index`-th of its fragments. -/
def fragment (part : MeshPart K) (index : Nat) (bounds : Bounds K) :
    Except PyError (MeshPart K) := do
  let mesh ← boxMesh setup.numerics bounds.center bounds.size
  MeshPart.new (part.name ++ txt "_cut_" ++ decimal index) .sample mesh none

/-- What a cut leaves of one part. -/
def cutPart (cutter : Bounds K) (part : MeshPart K) : Except PyError (List (MeshPart K)) :=
  if part.role ≠ .sample then .ok [part]
  else do
    let bounds ← part.mesh.bounds
    if ¬bounds.overlaps cutter then .ok [part]
    else
      let fragments ← subtractBounds bounds cutter
      (fragments.zipIdx 1).mapM fun piece => fragment setup part piece.2 piece.1

/-- Whether a separating cut leaves a part; `reached` are the parts it looks at. -/
def leaves (reached : MeshPart K → Bool) (cutter : Bounds K) (part : MeshPart K) :
    Except PyError (List (MeshPart K)) :=
  if reached part = true then do
    let bounds ← part.mesh.bounds
    .ok (if bounds.overlaps cutter then [] else [part])
  else .ok [part]

def isSourceBridge (part : MeshPart K) : Bool := part.name = txt "source_bridge"

/-- A deposition of the purpose. -/
def hasPurpose (purpose : String) (part : MeshPart K) : Bool :=
  part.role = .deposition && part.purpose = some (txt purpose)

def isJoint (part : MeshPart K) : Bool :=
  hasPurpose "needle_joint" part || hasPurpose "target_joint" part

/-- The parts a cut of the purpose leaves. -/
def cutParts (purpose : Text) (cutter : Bounds K) (parts : List (MeshPart K)) :
    Except PyError (List (MeshPart K)) :=
  if purpose = txt "source_separation" then
    (parts.mapM (leaves isSourceBridge cutter)).map List.flatten
  else if purpose = txt "needle_separation" then
    (parts.mapM (leaves isJoint cutter)).map List.flatten
  else if purpose ∈ [txt "trench", txt "polish", txt "u_cut"] then
    (parts.mapM (cutPart setup cutter)).map List.flatten
  else .ok parts

/-- What a deposition adds. -/
def deposited (purpose : Text) (number : Nat) (bounds : Bounds K) : Except PyError (MeshPart K) :=
  do
    let mesh ← boxMesh setup.numerics bounds.center bounds.size
    MeshPart.new (purpose ++ txt "_" ++ decimal number) .deposition mesh (some purpose)

/-- `_translated_part` -/
def translatedPart (delta : Vec K) (part : MeshPart K) : Except PyError (MeshPart K) := do
  let mesh ← (part.mesh.translate delta).checked setup.numerics
  MeshPart.new part.name part.role mesh part.purpose

/-- The sample hangs on the needle: the source bridge is gone and a needle joint is there. -/
def carrySample (parts : List (MeshPart K)) : Bool :=
  !parts.any isSourceBridge && parts.any (hasPurpose "needle_joint")

/-- What moves with the needle. -/
def shouldMove (carried : Bool) (part : MeshPart K) : Bool :=
  part.role = .needle ||
    (carried && (part.role = .sample || hasPurpose "needle_joint" part))

/-! ## Methods -/

abbrev Method (K ρ α : Type) [LT K] := Stateful (Backend K ρ) PyError α

/-- A call of the simulator. -/
def call {α : Type} (m : ρ → Except PyError α × ρ) : Method K ρ α :=
  Stateful.on Backend.runtime (fun runtime b => { b with runtime }) m

/-- `runtime.synchronize(tuple(self._parts))` -/
def synchronize : Method K ρ Unit := do
  let b ← get
  call (setup.runtime.synchronize b.parts)

/-- `_move_needle_geometry` -/
def moveNeedleGeometry (position : Vec K) : Method K ρ Unit := do
  let b ← get
  let delta := position - b.needle
  let carried := carrySample b.parts
  modify fun b => { b with
    collision := b.collision ||
      (carried && b.parts.any (hasPurpose "target_joint") &&
        decide (∃ axis, 1e-9 < abs (delta axis))) }
  let moved ← Stateful.lift (b.parts.mapM fun part =>
    if shouldMove carried part then translatedPart setup delta part else .ok part)
  modify fun b => { b with parts := moved, needle := position }

/-- `_begin_pattern` -/
def beginPattern (operation : String) (purpose : Text) (pattern : Arguments) :
    Method K ρ Unit := do
  modify fun b => { b with
    operationNumber := b.operationNumber + 1
    activeOperation := some (txt operation ++ txt ":" ++ purpose) }
  let center ← Stateful.lift (patternCenter setup pattern)
  call (setup.runtime.runPattern (txt operation) purpose pattern center)

/-- `_finish_pattern` -/
def finishPattern : Method K ρ Unit := do
  synchronize setup
  modify fun b => { b with activeOperation := none }

/-- `_pose` -/
def pose (position : Vec K) : Answer K :=
  .dict [(txt "relative_to", .text (txt "world")),
    (txt "position_um", .list [.number (position 0), .number (position 1), .number (position 2)]),
    (txt "orientation_degrees", .list [.number 0.0, .number 0.0, .number 0.0])]

/-- `_receipt` -/
def receipt : Method K ρ (Answer K) := do
  let b ← get
  pure (.dict [(txt "operation_id", .text (txt "pattern-" ++ padded b.operationNumber)),
    (txt "status", .text (txt "completed"))])

/-- `_ping` -/
def ping : Method K ρ (Answer K) := do
  let connected ← call setup.runtime.ping
  pure (.dict [(txt "connected", .bool connected), (txt "simulator", .text (txt "OpenFIBSEM")),
    (txt "source_commit", .text OPENFIBSEM_COMMIT)])

/-- `_capabilities` -/
def capabilities : Answer K :=
  .dict [(txt "beams", .list [.text (txt "SEM"), .text (txt "FIB")]), (txt "stage", .bool true),
    (txt "manipulator", .bool true), (txt "cut", .bool true), (txt "deposition", .bool true),
    (txt "checkpoints", .int 4)]

/-- The answer of `_acquire_image`. -/
def imageAnswer (beam : Text) (width height : Nat) (pixels : Bytes) :
    Except PyError (Answer K) :=
  if pixels.length ≠ width * height then
    PyError.runtime "OpenFIBSEM image dimensions are inconsistent"
  else
    .ok (.dict [(txt "beam", .text beam), (txt "width", .int width), (txt "height", .int height),
      (txt "pixels_base64", .base64 pixels),
      (txt "metadata", .dict [(txt "simulator", .text (txt "OpenFIBSEM")),
        (txt "source_commit", .text OPENFIBSEM_COMMIT)])])

/-- `_acquire_image` -/
def acquireImage (arguments : Arguments) : Method K ρ (Answer K) := do
  let beam ← Stateful.lift (do asText (← field arguments "beam"))
  let image ← call (setup.runtime.acquireImage beam)
  Stateful.lift (imageAnswer beam image.1 image.2.1 image.2.2)

/-- `_move_stage` -/
def moveStage (arguments : Arguments) : Method K ρ (Answer K) := do
  let b ← get
  let target ← Stateful.lift (targetOf setup b.stage arguments)
  modify fun b => { b with stage := target }
  call (setup.runtime.moveStage target)
  pure (pose target)

/-- `_get_manipulator_state` -/
def getManipulatorState : Method K ρ (Answer K) := do
  let b ← get
  pure (.dict [(txt "inserted", .bool b.needleInserted), (txt "pose", pose b.needle)])

/-- The end of every needle operation. -/
def settle (position : Vec K) (inserted : Bool) : Method K ρ (Answer K) := do
  call (setup.runtime.moveManipulator position inserted)
  synchronize setup
  let b ← get
  pure (pose b.needle)

/-- `_insert_manipulator` -/
def insertManipulator (arguments : Arguments) : Method K ρ (Answer K) := do
  let b ← get
  let position ← Stateful.lift (insertionOf setup b.needle arguments)
  modify fun b => { b with needleInserted := true }
  moveNeedleGeometry setup position
  settle setup position true

/-- `_move_manipulator` -/
def moveManipulator (arguments : Arguments) : Method K ρ (Answer K) := do
  let b ← get
  let position ← Stateful.lift (targetOf setup b.needle arguments)
  moveNeedleGeometry setup position
  settle setup position b.needleInserted

/-- `_retract_manipulator` -/
def retractManipulator : Method K ρ (Answer K) := do
  let position ← Stateful.lift (setup.scenario.worldPosition (txt "needle"))
  moveNeedleGeometry setup position
  modify fun b => { b with needleInserted := false }
  settle setup position false

/-- A material change, recorded. -/
def recordChange (operation : ChangeKind) (purpose : Text) (bounds : Bounds K) (volume : K) :
    Method K ρ Unit := do
  let change ← Stateful.lift
    (MaterialChange.new setup.numerics operation purpose bounds volume)
  modify fun b => { b with changes := b.changes ++ [change] }

/-- `_run_cut` -/
def runCut (arguments : Arguments) : Method K ρ (Answer K) := do
  let request ← Stateful.lift (patternOf arguments)
  beginPattern setup "cut" request.2 request.1
  let bounds ← Stateful.lift (patternBounds setup request.1)
  recordChange setup .cut request.2 bounds (-bounds.volume)
  let b ← get
  let left ← Stateful.lift (cutParts setup request.2 bounds b.parts)
  modify fun b => { b with parts := left }
  finishPattern setup
  receipt

/-- `_run_deposition` -/
def runDeposition (arguments : Arguments) : Method K ρ (Answer K) := do
  let request ← Stateful.lift (patternOf arguments)
  beginPattern setup "deposition" request.2 request.1
  let bounds ← Stateful.lift (patternBounds setup request.1)
  recordChange setup .deposition request.2 bounds bounds.volume
  let b ← get
  let part ← Stateful.lift (deposited setup request.2 b.operationNumber bounds)
  modify fun b => { b with parts := b.parts ++ [part] }
  finishPattern setup
  receipt

/-- `_pattern_status` -/
def patternStatus (arguments : Arguments) : Method K ρ (Answer K) := do
  let id ← Stateful.lift (field arguments "operation_id")
  let b ← get
  pure (.dict [(txt "operation_id", .echo id),
    (txt "status", .text (if b.activeOperation.getD [] = [] then txt "completed"
      else txt "running"))])

/-- `_stop_pattern` -/
def stopPattern (arguments : Arguments) : Method K ρ (Answer K) := do
  call (setup.runtime.stop (txt "pattern"))
  modify fun b => { b with activeOperation := none }
  let id ← Stateful.lift (field arguments "operation_id")
  pure (.dict [(txt "operation_id", .echo id), (txt "status", .text (txt "stopped"))])

/-- `_stop_stage` and `_stop_manipulator` -/
def stop (kind : String) : Method K ρ (Answer K) := do
  call (setup.runtime.stop (txt kind))
  pure .none

/-- `_get_stage_position` -/
def getStagePosition : Method K ρ (Answer K) := do
  let b ← get
  pure (pose b.stage)

/-- `invoke` -/
def invoke (operation : Text) (arguments : Arguments) : Method K ρ (Answer K) :=
  if operation = txt "ping" then ping setup
  else if operation = txt "capabilities" then pure capabilities
  else if operation = txt "acquire_image" then acquireImage setup arguments
  else if operation = txt "get_stage_position" then getStagePosition
  else if operation = txt "move_stage" then moveStage setup arguments
  else if operation = txt "stop_stage" then stop setup "stage"
  else if operation = txt "get_manipulator_state" then getManipulatorState
  else if operation = txt "insert_manipulator" then insertManipulator setup arguments
  else if operation = txt "move_manipulator" then moveManipulator setup arguments
  else if operation = txt "retract_manipulator" then retractManipulator setup
  else if operation = txt "stop_manipulator" then stop setup "manipulator"
  else if operation = txt "run_cut" then runCut setup arguments
  else if operation = txt "run_deposition" then runDeposition setup arguments
  else if operation = txt "pattern_status" then patternStatus arguments
  else if operation = txt "stop_pattern" then stopPattern setup arguments
  else Stateful.lift
    (.error (.valueError (txt "unsupported trusted backend operation: " ++ operation)))

/-- `motion_is_safe` -/
def motionIsSafe (kind : Text) (target : Vec K) : Bool :=
  (kind = txt "stage" || kind = txt "manipulator") &&
    decide (∀ axis, setup.numerics.isFinite (target axis) = true ∧ abs (target axis) ≤ 5000.0)

/-- `cancel` -/
def cancel : Method K ρ Unit := do
  call (setup.runtime.stop (txt "pattern"))
  call (setup.runtime.stop (txt "stage"))
  call (setup.runtime.stop (txt "manipulator"))
  modify fun b => { b with activeOperation := none }

/-- The needle joints come off where the sample is joined to the target. -/
def detach (parts : List (MeshPart K)) : List (MeshPart K) :=
  if parts.any (hasPurpose "target_joint") then
    parts.filter fun part => !hasPurpose "needle_joint" part
  else parts

/-- The part of `force_safe` for a needle that is inserted. -/
def withdraw : Method K ρ Unit := do
  modify fun b => { b with parts := detach b.parts }
  let position ← Stateful.lift (setup.scenario.worldPosition (txt "needle"))
  moveNeedleGeometry setup position
  modify fun b => { b with needleInserted := false }
  let b ← get
  call (setup.runtime.moveManipulator b.needle false)
  synchronize setup

/-- `force_safe` -/
def forceSafe : Method K ρ Unit := do
  let b ← get
  (if b.needleInserted then withdraw setup else pure ())
  modify fun b => { b with activeOperation := none }

/-- `_weighted_center` of the parts `first :: rest`. -/
def weightedCenter (first : MeshPart K) (rest : List (MeshPart K)) : Vec K :=
  let volume := sum ((first :: rest).map fun part => part.mesh.volume)
  if volume ≤ 0.0 then first.mesh.centroid
  else fun axis =>
    sum ((first :: rest).map fun part => part.mesh.centroid axis * part.mesh.volume) / volume

/-- Where a snapshot says the sample is. -/
def sampleCenter (parts : List (MeshPart K)) : Except PyError (Vec K) :=
  match parts.filter fun part => part.role = .sample with
  | [] => setup.scenario.worldPosition (txt "sample")
  | first :: rest => .ok (weightedCenter first rest)

/-- `freeze_snapshot` -/
def freezeSnapshot (b : Backend K ρ) (stepId : Text) : Except PyError (SceneSnapshot K) := do
  let N := setup.numerics
  let parts ← b.parts.mapM fun part => do
    let mesh ← part.mesh.checked N
    MeshPart.new part.name part.role mesh part.purpose
  let center ← sampleCenter setup parts
  let orientation ← setup.scenario.orientation
    (if b.parts.any (hasPurpose "target_joint") then "target_pose" else "sample")
  let sample ← PoseState.new N center orientation
  let needle ← PoseState.new N b.needle ![0.0, 0.0, 0.0]
  SceneSnapshot.checked N
    { checkpointId := stepId
      parts
      poses := [(txt "sample", sample), (txt "needle", needle)]
      plannedSampleVolume := prod setup.scenario.sampleDimensions
      materialChanges := b.changes
      needleInserted := b.needleInserted
      activeOperation := b.activeOperation.isSome
      collision := b.collision }

/-- `semantic_state` -/
def semanticState (b : Backend K ρ) : Answer K :=
  let vector (v : Vec K) : Answer K := .list [.number (v 0), .number (v 1), .number (v 2)]
  .dict [(txt "stage", vector b.stage), (txt "needle", vector b.needle),
    (txt "inserted", .bool b.needleInserted),
    (txt "active_operation", b.activeOperation.elim .none .text),
    (txt "collision", .bool b.collision),
    (txt "geometry_hash", .text (setup.geometryHash b.parts)),
    (txt "material_change_count", .int b.changes.length)]

/-! ## Construction -/

/-- A part that is a box. -/
def boxPart (name : String) (role : Role) (center size : Vec K) : Except PyError (MeshPart K) := do
  let mesh ← boxMesh setup.numerics center size
  MeshPart.new (txt name) role mesh none

/-- The source bridge of the scenario: its center and its size. -/
def sourceBridge : Except PyError (Vec K × Vec K) := do
  let s := setup.scenario
  let data ← asDict (← field s.data "sample")
  let bridge ← asDict (← field data "source_bridge")
  let frame ← asText (← field bridge "frame")
  let origin ← s.worldPosition frame
  let offset ← vec3 setup.numerics (← field bridge "center_um").toPy (txt "source bridge center")
  let size ← vec3 setup.numerics (← field bridge "size_um").toPy (txt "source bridge size")
  let center := origin + offset
  .ok (![center 0, center 1, center 2 - 0.25], ![size 0, size 1, size 2 + 0.5])

/-- `_initial_parts` -/
def initialParts : Except PyError (List (MeshPart K)) := do
  let s := setup.scenario
  let center ← s.worldPosition (txt "sample")
  let size := s.sampleDimensions
  let bridge ← sourceBridge setup
  let top := center 2 - size 2 / 2.0 - 0.25
  let tip ← s.worldPosition (txt "needle")
  let target ← s.worldPosition (txt "target_pose")
  let coupon ← s.worldPosition (txt "coupon")
  let base ← boxPart setup "source_base" .source ![center 0, center 1, top - 10.0 / 2.0]
    ![pyMax 40.0 (size 0 * 2.0), pyMax 30.0 (size 1 * 2.0), 10.0]
  let bridge ← boxPart setup "source_bridge" .source bridge.1 bridge.2
  let sample ← boxPart setup "sample" .sample center size
  let needle ← boxPart setup "needle" .needle ![tip 0 - 3.0, tip 1, tip 2] ![6.0, 2.0, 2.0]
  let target ← boxPart setup "target" .target
    ![target 0 - size 0 / 2.0 - 3.0, target 1, target 2]
    ![6.0, pyMax 20.0 (size 1 * 2.0), pyMax 12.0 (size 2)]
  let coupon ← boxPart setup "coupon" .coupon ![coupon 0, coupon 1, coupon 2 - 1.0]
    ![14.0, 14.0, 2.0]
  .ok [base, bridge, sample, needle, target, coupon]

/-- `OpenFibsemBackend(scenario, runtime=runtime)` -/
def Backend.new (runtime : ρ) : Except PyError (Backend K ρ) := do
  let needle ← setup.scenario.worldPosition (txt "needle")
  let parts ← initialParts setup
  if setup.runtime.sourceCommit runtime ≠ OPENFIBSEM_COMMIT then
    PyError.runtime "OpenFIBSEM source commit mismatch"
  else
    match setup.runtime.synchronize parts runtime with
    | (.error e, _) => .error e
    | (.ok (), runtime) =>
        .ok { stage := ![0.0, 0.0, 0.0], needle, needleInserted := false, activeOperation := none,
              collision := false, changes := [], operationNumber := 0, parts, runtime }

/-! ## Runs -/

/-- What a service does to a backend. -/
inductive Action where
  | invoke (operation : Text) (arguments : Arguments)
  | semanticState
  | motionIsSafe
  | freezeSnapshot (stepId : Text)
  | acquireCheckpointImages
  | cancel
  | forceSafe
  | close

/-- An action as a method; its answer aside. -/
def perform : Action → Method K ρ Unit
  | .invoke operation arguments => do
      let _ ← invoke setup operation arguments
      pure ()
  | .semanticState | .motionIsSafe | .freezeSnapshot _ => pure ()
  | .acquireCheckpointImages => do
      let _ ← call (setup.runtime.acquireImage (txt "SEM"))
      let _ ← call (setup.runtime.acquireImage (txt "FIB"))
      pure ()
  | .cancel => cancel setup
  | .forceSafe => forceSafe setup
  | .close => call setup.runtime.close

/-- The state an action leaves, also where it raises. -/
def step (b : Backend K ρ) (action : Action) : Backend K ρ := (perform setup action).after b

/-- The state after a run. -/
def run (b : Backend K ρ) (actions : List Action) : Backend K ρ := actions.foldl (step setup) b

end

end InstrumentBench.Geometry
