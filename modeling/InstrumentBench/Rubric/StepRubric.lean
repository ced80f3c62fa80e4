/-
# Rubric.StepRubric -- the score of a checkpoint

`score_step`: each step of the liftout has its criteria, whose points are fractions of
their maxima to six decimals, and conditions that cap the sum.  `_step_geometry_valid` is
the scorer's other judgement of a step.  The numbers are exact.

What the criteria report beside their points is left out.
-/
import InstrumentBench.Geometry.GeometryOracle

namespace InstrumentBench.Rubric

set_option autoImplicit false
set_option linter.unusedSectionVars false

open InstrumentBench.Theory InstrumentBench.Geometry
open InstrumentBench.Fibsem (PyError)

/-- The steps of a liftout. -/
inductive StepId where
  | step_1
  | step_2
  | step_3
  | step_4
deriving DecidableEq

section

variable {K : Type} [Field K] [LinearOrder K] [IsStrictOrderedRing K] [FloorRing K]

/-- `STEP_TOTALS` -/
def STEP_TOTALS : StepId → K
  | .step_1 => 20.0
  | .step_2 => 25.0
  | .step_3 => 25.0
  | .step_4 => 20.0

/-- `CriterionScore` -/
structure CriterionScore (K : Type) where
  criterionId : Text
  points : K
  maximumPoints : K

/-- `ScoreCap` -/
structure ScoreCap (K : Type) where
  maximumPoints : K
  reasons : List Text

/-- `StepBreakdown` -/
structure StepBreakdown (K : Type) where
  stepId : StepId
  rawScore : K
  finalScore : K
  maximumPoints : K
  criteria : List (CriterionScore K)
  cap : ScoreCap K

/-- The score of a shape comparison. -/
structure ShapeComparison (K : Type) where
  shapeScore : K

/-- `StepEvidence` -/
structure StepEvidence (K : Type) [Zero K] [One K] [LE K] where
  stepId : StepId
  geometry : GeometryMetrics K
  shapes : List (Text × ShapeComparison K)
  coMotionScore : K
  trusted : Bool
  coMotion_nonneg : 0 ≤ coMotionScore
  coMotion_le_one : coMotionScore ≤ 1

/-! ## Credit -/

/-- `_rounded` -/
def rounded (value : K) : K := roundTo 6 value

/-- `_clamp01` -/
def clamp01 (value : K) : K := min 1.0 (max 0.0 value)

/-- `_criterion` -/
def criterion (criterionId : String) (fraction maximum : K) : CriterionScore K :=
  ⟨txt criterionId, rounded (clamp01 fraction * maximum), maximum⟩

/-- `evidence.shapes.get(name)` -/
def shapeOf (evidence : StepEvidence K) (name : String) : Option (ShapeComparison K) :=
  evidence.shapes.lookup (txt name)

/-- `_shape_fraction` -/
def shapeFraction (evidence : StepEvidence K) (name : String) : K :=
  match shapeOf evidence name with
  | none => 0.0
  | some value => clamp01 value.shapeScore

/-- `_shape_criterion` -/
def shapeCriterion (criterionId : String) (evidence : StepEvidence K) (shapeName : String)
    (maximum : K) : CriterionScore K :=
  match shapeOf evidence shapeName with
  | none => criterion criterionId 0.0 maximum
  | some value => criterion criterionId value.shapeScore maximum

/-- `_threshold_fraction` -/
def thresholdFraction (value minimum full : K) : K :=
  if value ≤ minimum then 0.0
  else if full ≤ value then 1.0
  else (value - minimum) / (full - minimum)

/-- `_pose_fraction` -/
def poseFraction (error tolerance : K) : K :=
  if error ≤ tolerance then 1.0
  else if 3.0 * tolerance ≤ error then 0.0
  else (3.0 - error / tolerance) / 2.0

/-- `points if condition else 0.0` -/
def credit (condition : Bool) (points : K) : K := if condition then points else 0.0

/-- `_common_fraction` -/
def commonFraction (metrics : GeometryMetrics K) : K :=
  (credit (!metrics.collision) 0.5 + credit metrics.simulatorIdle 0.5 +
    credit metrics.changesWithinWorkEnvelopes 1.0) / 2.0

/-- `sum(flags) / 3.0` of three flags. -/
def stateFraction (first second third : Bool) : K :=
  (credit first 1 + credit second 1 + credit third 1) / 3.0

/-! ## Criteria -/

variable (evidence : StepEvidence K) (tolerances : AdaptiveTolerances K)

/-- `_step_1` -/
def step1 : List (CriterionScore K) :=
  let metrics := evidence.geometry
  let bridgeFraction :=
    (shapeFraction evidence "source_bridge" + credit metrics.sampleToSource 1.0) / 2.0
  let integrityFraction :=
    (credit (metrics.sampleComponentCount == 1) 1.0 +
      thresholdFraction metrics.retainedSampleFraction 0.65 0.75) / 2.0
  [shapeCriterion "sample_global" evidence "sample" 6.0,
   shapeCriterion "cut_morphology" evidence "cut" 4.0,
   shapeCriterion "protection_morphology" evidence "protection" 3.0,
   criterion "source_bridge" bridgeFraction 3.0,
   criterion "sample_integrity" integrityFraction 2.0,
   criterion "common_state" (commonFraction metrics) 2.0]

/-- `_step_2` -/
def step2 : List (CriterionScore K) :=
  let metrics := evidence.geometry
  let jointFraction := clamp01 (metrics.needleJointSection / tolerances.jointScale)
  let connectivityPoints :=
    3.0 * stateFraction (!metrics.sampleToSource) metrics.sampleToNeedle (!metrics.sampleToTarget) +
      2.0 * jointFraction
  [shapeCriterion "sample_preservation" evidence "sample" 5.0,
   shapeCriterion "source_separation" evidence "source_separation" 5.0,
   shapeCriterion "needle_joint" evidence "needle_joint" 5.0,
   criterion "transfer_connectivity" (connectivityPoints / 5.0) 5.0,
   criterion "co_motion" evidence.coMotionScore 3.0,
   criterion "common_state" (commonFraction metrics) 2.0]

/-- `_step_3` -/
def step3 : List (CriterionScore K) :=
  let metrics := evidence.geometry
  let positionFraction := poseFraction metrics.samplePositionError tolerances.position
  let orientationFraction := poseFraction metrics.sampleOrientationError tolerances.orientation
  let posePoints := 3.0 * positionFraction + 2.0 * orientationFraction
  let needleFraction := clamp01 (metrics.needleJointSection / tolerances.jointScale)
  let targetFraction := clamp01 (metrics.targetJointSection / tolerances.jointScale)
  let connectivityPoints :=
    3.0 * stateFraction (!metrics.sampleToSource) metrics.sampleToNeedle metrics.sampleToTarget +
      needleFraction + targetFraction
  [shapeCriterion "sample_preservation" evidence "sample" 4.0,
   criterion "target_pose" (posePoints / 5.0) 5.0,
   shapeCriterion "target_joint" evidence "target_joint" 5.0,
   criterion "dual_connectivity" (connectivityPoints / 5.0) 5.0,
   shapeCriterion "target_interface" evidence "target_interface" 4.0,
   criterion "common_state" (commonFraction metrics) 2.0]

/-- `_step_4` -/
def step4 : List (CriterionScore K) :=
  let metrics := evidence.geometry
  let finalTopology :=
    stateFraction (!metrics.sampleToSource) (!metrics.sampleToNeedle) metrics.sampleToTarget
  let positionFraction := poseFraction metrics.samplePositionError tolerances.position
  let orientationFraction := poseFraction metrics.sampleOrientationError tolerances.orientation
  let posePoints := 1.2 * positionFraction + 0.8 * orientationFraction
  let retractionPoints :=
    credit metrics.needleSafelyRetracted 1.5 + credit metrics.simulatorIdle 0.5
  [shapeCriterion "sample_preservation" evidence "sample" 4.0,
   shapeCriterion "needle_separation" evidence "needle_separation" 4.0,
   shapeCriterion "target_joint_preservation" evidence "target_joint" 4.0,
   criterion "final_topology" finalTopology 4.0,
   criterion "target_pose" (posePoints / 2.0) 2.0,
   criterion "safe_retraction" (retractionPoints / 2.0) 2.0]

/-- The scorer of a step. -/
def scorers : StepId → List (CriterionScore K)
  | .step_1 => step1 evidence
  | .step_2 => step2 evidence tolerances
  | .step_3 => step3 evidence tolerances
  | .step_4 => step4 evidence tolerances

/-! ## Caps -/

/-- A cap where its condition holds. -/
def capIf (condition : Bool) (maximum : K) (reason : String) : List (K × Text) :=
  if condition then [(maximum, txt reason)] else []

/-- The sample is in pieces, or little of it is left. -/
def fragmented (metrics : GeometryMetrics K) : Bool :=
  metrics.sampleComponentCount != 1 || metrics.retainedSampleFraction < 0.65

/-- The caps that apply to a trusted checkpoint. -/
def applicableCaps (metrics : GeometryMetrics K) : StepId → List (K × Text)
  | .step_1 =>
      capIf (!metrics.sampleToSource) 8.0 "sample_not_connected_to_source" ++
      capIf metrics.sampleToNeedle 8.0 "early_needle_connection" ++
      capIf metrics.sampleToTarget 8.0 "early_target_connection" ++
      capIf (fragmented metrics) 5.0 "sample_fragmented_or_below_65_percent" ++
      capIf (metrics.collision || !metrics.changesWithinWorkEnvelopes) 5.0
        "collision_or_outside_work_envelope"
  | .step_2 =>
      capIf metrics.sampleToSource 10.0 "source_still_connected" ++
      capIf (!metrics.sampleToNeedle) 10.0 "needle_not_connected" ++
      capIf metrics.sampleToTarget 8.0 "target_connected_too_early" ++
      capIf (metrics.sampleToNeedle && metrics.needleJointSection < tolerances.jointScale) 12.0
        "needle_joint_one_sided_or_thin" ++
      capIf (fragmented metrics) 6.0 "sample_fragmented_or_below_65_percent"
  | .step_3 =>
      capIf (!metrics.sampleToTarget) 10.0 "target_not_connected" ++
      capIf (!metrics.sampleToNeedle) 10.0 "needle_disconnected_too_early" ++
      capIf metrics.sampleToSource 5.0 "source_reconnected" ++
      capIf (3.0 * tolerances.position < metrics.samplePositionError) 12.0
        "target_position_beyond_three_tolerances" ++
      capIf (metrics.sampleToTarget && metrics.targetJointSection < tolerances.jointScale) 12.0
        "target_joint_one_sided_or_thin" ++
      capIf (fragmented metrics) 8.0 "sample_fragmented_or_below_65_percent"
  | .step_4 =>
      capIf (!metrics.sampleToTarget) 6.0 "target_not_connected" ++
      capIf metrics.sampleToNeedle 6.0 "needle_still_connected" ++
      capIf metrics.sampleToSource 4.0 "source_still_connected" ++
      capIf (!metrics.needleSafelyRetracted) 10.0 "unsafe_needle_retraction" ++
      capIf (fragmented metrics) 6.0 "sample_fragmented_or_below_65_percent" ++
      capIf (3.0 * tolerances.position < metrics.samplePositionError) 10.0
        "target_position_beyond_three_tolerances"

/-- The least of the caps that apply, and their reasons in order. -/
def capOf (total : K) : List (K × Text) → ScoreCap K
  | [] => ⟨total, []⟩
  | first :: rest =>
      ⟨least first.1 (rest.map Prod.fst),
        ((first :: rest).map Prod.snd).insertionSort (· ≤ ·)⟩

/-- `_caps` -/
def caps (stepId : StepId) : ScoreCap K :=
  if !evidence.trusted then ⟨0.0, [txt "missing_or_untrusted_checkpoint"]⟩
  else capOf (STEP_TOTALS stepId) (applicableCaps tolerances evidence.geometry stepId)

/-! ## The score -/

/-- `score_step` -/
def scoreStep (stepId : StepId) : Except PyError (StepBreakdown K) :=
  if evidence.stepId ≠ stepId then PyError.value "step rubric identity mismatch"
  else
    let criteria := scorers evidence tolerances stepId
    let rawScore := rounded (sum (criteria.map CriterionScore.points))
    let cap := caps evidence tolerances stepId
    .ok
      { stepId
        rawScore
        finalScore := rounded (min rawScore cap.maximumPoints)
        maximumPoints := STEP_TOTALS stepId
        criteria := criteria.insertionSort fun p q => p.criterionId ≤ q.criterionId
        cap }

/-! ## The other judgement -/

/-- `_step_geometry_valid` -/
def stepGeometryValid (metrics : GeometryMetrics K) : StepId → Bool
  | .step_1 =>
      common metrics && metrics.sampleToSource && !metrics.sampleToNeedle &&
        !metrics.sampleToTarget && metrics.sampleComponentCount == 1 && metrics.sampleIntegrityStep1
  | .step_2 =>
      common metrics && !metrics.sampleToSource && metrics.sampleToNeedle &&
        !metrics.sampleToTarget && tolerances.jointScale ≤ metrics.needleJointSection &&
        (0.75 : K) ≤ metrics.retainedSampleFraction
  | .step_3 =>
      common metrics && !metrics.sampleToSource && metrics.sampleToNeedle &&
        metrics.sampleToTarget && tolerances.jointScale ≤ metrics.needleJointSection &&
        tolerances.jointScale ≤ metrics.targetJointSection && metrics.sampleIntegrityFinal &&
        pose metrics
  | .step_4 =>
      common metrics && !metrics.sampleToSource && !metrics.sampleToNeedle &&
        metrics.sampleToTarget && tolerances.jointScale ≤ metrics.targetJointSection &&
        metrics.sampleIntegrityFinal && metrics.needleSafelyRetracted && pose metrics
where
  common (metrics : GeometryMetrics K) : Bool :=
    !metrics.collision && metrics.simulatorIdle && metrics.changesWithinWorkEnvelopes
  pose (metrics : GeometryMetrics K) : Bool :=
    metrics.samplePositionError ≤ tolerances.position &&
      metrics.sampleOrientationError ≤ tolerances.orientation

end

end InstrumentBench.Rubric
