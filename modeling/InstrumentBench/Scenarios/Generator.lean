/-
# Scenarios.Generator -- scenario documents and what the generator makes of them

`variedDocument`: a nominal document with its sample scaled, its needle offset and its
target moved.  What is scaled is a box's center and size, both in the box's own frame;
the frames keep their places.  A document is read over exact numbers, by the parts the
generator writes and the regions of interest read.

`onInterface`: the target joint region, resolved through the document's own frames,
contains the point where the backend puts the sample against the target.
-/
import InstrumentBench.Geometry.Backend
import InstrumentBench.Geometry.Connectivity
import InstrumentBench.Theory.PyDict

namespace InstrumentBench.Scenarios

set_option autoImplicit false
set_option linter.unusedSectionVars false

open InstrumentBench.Theory
open InstrumentBench.Geometry
open InstrumentBench.Fibsem (PyError)

/-! ## Documents -/

/-- A scenario id, which is never empty. -/
abbrev ScenarioId := { id : Text // id ≠ [] }

structure BoxSpec (K : Type) where
  frame : Text
  center : Vec K
  size : Vec K

structure WorkEnvelopes (K : Type) where
  preflight : BoxSpec K
  step1 : BoxSpec K
  step2 : BoxSpec K
  step3 : BoxSpec K
  step4 : BoxSpec K

abbrev Frames (K : Type) := List (Text × PoseSpec K)

structure Document (K : Type) where
  scenarioId : ScenarioId
  seed : Nat
  frames : Frames K
  sampleDimensions : Vec K
  sourceBridge : BoxSpec K
  protectedRegion : BoxSpec K
  workEnvelopes : WorkEnvelopes K
  needleInitialOffset : Vec K
  needleJointRegion : BoxSpec K
  targetJointRegion : BoxSpec K

/-- `expected_frames` -/
def expectedFrames : List Text :=
  ["source", "sample", "needle", "target", "coupon", "needle_approach", "target_pose"].map txt

section

variable {K : Type} [Field K] [LinearOrder K] [IsStrictOrderedRing K] [FloorRing K]

/-! ## The generator -/

/-- `_stable_float` -/
def stableFloat (value : K) : K := roundTo 12 value

/-- `_scale_vector` -/
def scaleVector (value : Vec K) (scale : K) : Vec K := fun axis => stableFloat (value axis * scale)

/-- `_add_vectors` -/
def addVectors (value delta : Vec K) : Vec K := fun axis => stableFloat (value axis + delta axis)

/-- `_scale_box` -/
def scaleBox (box : BoxSpec K) (scale : K) : BoxSpec K :=
  { box with center := scaleVector box.center scale, size := scaleVector box.size scale }

/-- `frames[name]` -/
def frameOf (frames : Frames K) (name : String) : Except PyError (PoseSpec K) :=
  match frames.lookup (txt name) with
  | some pose => .ok pose
  | none => .error (.keyError (txt name))

/-- `varied_document` -/
def variedDocument (nominal : Document K) (scenarioId : ScenarioId) (seed : Nat)
    (sampleScale : K) (needleOffset targetTranslation targetRotation : Vec K) :
    Except PyError (Document K) :=
  if ¬(0.5 ≤ sampleScale ∧ sampleScale ≤ 1.5) then
    PyError.value "sample scale is outside generator bounds"
  else do
    let needle ← frameOf nominal.frames "needle"
    let needle := { needle with position := addVectors needle.position needleOffset }
    let frames := PyDict.set (txt "needle") needle nominal.frames
    let target ← frameOf frames "target_pose"
    let target := { target with
      position := addVectors target.position targetTranslation
      orientation := addVectors target.orientation targetRotation }
    .ok { nominal with
      scenarioId
      seed
      frames := PyDict.set (txt "target_pose") target frames
      sampleDimensions := scaleVector nominal.sampleDimensions sampleScale
      sourceBridge := scaleBox nominal.sourceBridge sampleScale
      protectedRegion := scaleBox nominal.protectedRegion sampleScale
      workEnvelopes := { nominal.workEnvelopes with
        step1 := scaleBox nominal.workEnvelopes.step1 sampleScale
        step2 := scaleBox nominal.workEnvelopes.step2 sampleScale }
      needleInitialOffset := needleOffset
      needleJointRegion := scaleBox nominal.needleJointRegion sampleScale
      targetJointRegion := scaleBox nominal.targetJointRegion sampleScale }

/-! ## Reading a document -/

namespace Document

/-- `ScenarioSpec.from_dict`, as far as it reads what the generator writes. -/
def fromDict (d : Document K) : Except PyError (Document K) :=
  if leastOf d.sampleDimensions ≤ 0.0 then PyError.value "sample dimensions must be positive"
  else if ∃ frame ∈ d.frames, frame.2.relativeTo = [] then
    PyError.value "relative frame is invalid"
  else if ¬((∀ name ∈ expectedFrames, name ∈ d.frames.map Prod.fst) ∧
      ∀ name ∈ d.frames.map Prod.fst, name ∈ expectedFrames) then
    PyError.value "scenario named frames are incomplete"
  else .ok d

/-- `world_position` -/
def worldPosition (d : Document K) (frame : Text) : Except PyError (Vec K) :=
  ScenarioSpec.resolve d.frames (d.frames.length + 2) [] frame

/-- `_box_bounds` -/
def boxBounds (d : Document K) (box : BoxSpec K) (name : Text) : Except PyError (Bounds K) :=
  if (d.frames.lookup box.frame).isNone then
    .error (.valueError (txt "scenario ROI " ++ name ++ txt " frame is invalid"))
  else if leastOf box.size ≤ 0.0 then
    .error (.valueError (txt "scenario ROI " ++ name ++ txt " size must be positive"))
  else do
    let origin ← d.worldPosition box.frame
    Bounds.around (origin + box.center) box.size

/-- Where `_initial_parts` puts the face of the target: half a sample before the target pose. -/
def interfaceCentre (d : Document K) : Except PyError (Vec K) := do
  let targetPose ← d.worldPosition (txt "target_pose")
  .ok ![targetPose 0 - d.sampleDimensions 0 / 2.0, targetPose 1, targetPose 2]

end Document

/-- `_point_inside` -/
def pointInside (point : Vec K) (bounds : Bounds K) : Bool :=
  decide (∀ axis, bounds.minimum axis ≤ point axis ∧ point axis ≤ bounds.maximum axis)

/-- Whether the target joint region of a document contains its interface's center. -/
def onInterface (d : Document K) : Except PyError Bool := do
  let spec ← d.fromDict
  let region ← spec.boxBounds spec.targetJointRegion (txt "target.joint_region")
  let centre ← spec.interfaceCentre
  .ok (pointInside centre region)

end

end InstrumentBench.Scenarios
