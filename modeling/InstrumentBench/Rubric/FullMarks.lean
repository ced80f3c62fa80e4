/-
# Rubric.FullMarks -- what full marks say of a step

Full marks leave no cap and give every criterion its whole points (`full_marks`), to half a
unit of the sixth decimal.  From them the geometry of the step follows, up to that half
unit (`valid_of_full_marks`).  It is not all that `_step_geometry_valid` asks: a step that
keeps seven tenths of the sample can have full marks (`full_marks_not_valid`).
-/
import InstrumentBench.Rubric.Monotone

namespace InstrumentBench.Rubric

set_option autoImplicit false
set_option linter.unusedSectionVars false

open InstrumentBench.Theory InstrumentBench.Geometry
open InstrumentBench.Fibsem (PyError)

variable {K : Type} [Field K] [LinearOrder K] [IsStrictOrderedRing K] [FloorRing K]

/-! ## What follows -/

/-- An error within a tolerance, or beyond it by a small part of it. -/
def NearlyWithin (slack error tolerance : K) : Prop :=
  error ≤ tolerance ∨ error ≤ (1 + slack) * tolerance

/-- No collision, idle, and changes within the work envelopes. -/
structure CommonValid (m : GeometryMetrics K) : Prop where
  collision : m.collision = false
  idle : m.simulatorIdle = true
  envelopes : m.changesWithinWorkEnvelopes = true

/-- The connections that a step wants, of a sample in one piece. -/
structure Connected (step : StepId) (m : GeometryMetrics K) : Prop where
  source : m.sampleToSource = step.wants.1
  needle : m.sampleToNeedle = step.wants.2.1
  target : m.sampleToTarget = step.wants.2.2
  single : m.sampleComponentCount = 1
  retained : 0.65 ≤ m.retainedSampleFraction

/-- What full marks say of the geometry of a step, up to the rounding of the points. -/
def FullMarksValid (tolerances : AdaptiveTolerances K) (m : GeometryMetrics K) :
    StepId → Prop
  | .step_1 => CommonValid m ∧ Connected .step_1 m ∧ 0.75 - 1 / 20000000 ≤ m.retainedSampleFraction
  | .step_2 => CommonValid m ∧ Connected .step_2 m ∧ tolerances.jointScale ≤ m.needleJointSection
  | .step_3 => CommonValid m ∧ Connected .step_3 m ∧
      (1 - 1 / 2000000) * tolerances.jointScale ≤ m.needleJointSection ∧
      tolerances.jointScale ≤ m.targetJointSection ∧
      NearlyWithin (1 / 3000000) m.samplePositionError tolerances.position ∧
      NearlyWithin (1 / 2000000) m.sampleOrientationError tolerances.orientation
  | .step_4 => m.simulatorIdle = true ∧ Connected .step_4 m ∧ m.needleSafelyRetracted = true ∧
      NearlyWithin (1 / 1200000) m.samplePositionError tolerances.position ∧
      NearlyWithin (1 / 800000) m.sampleOrientationError tolerances.orientation

/-! ## Whole points -/

variable {tolerances : AdaptiveTolerances K} {step : StepId} {e : StepEvidence K}

/-- A list that adds up to its bounds is at its bounds. -/
theorem at_bounds {grades : List (Grade K)}
    (full : (grades.map fun g => (g.weight : K)).sum ≤
      (grades.map fun g => g.criterion.points).sum) :
    ∀ g ∈ grades, g.criterion.points = g.weight := by
  induction grades with
  | nil => nofun
  | cons head rest ih =>
      simp only [List.map_cons, List.sum_cons] at full
      have here := (credited_grade head).le
      have later : (rest.map fun g => g.criterion.points).sum ≤
          (rest.map fun g => (g.weight : K)).sum :=
        List.sum_le_sum fun g _ => (credited_grade g).le
      have whole : head.criterion.maximumPoints = head.weight := rfl
      rw [whole] at here
      intro g listed
      rcases List.mem_cons.1 listed with rfl | after
      · linarith
      · exact ih (by linarith) g after

theorem clamp01_le_self {x : K} (nonneg : 0 ≤ x) : clamp01 x ≤ x := by
  unfold clamp01
  norm_num only
  exact (min_le_right _ _).trans (max_le nonneg le_rfl)

theorem clamp01_of_nonpos {x : K} (nonpos : x ≤ 0) : clamp01 x = 0 := by
  unfold clamp01
  norm_num only
  rw [max_eq_left nonpos, min_eq_right zero_le_one]

/-- **Whole points are a whole fraction**, to half a unit of the sixth decimal. -/
theorem whole_fraction {g : Grade K} (some : 1 ≤ g.weight) (full : g.criterion.points = g.weight) :
    (g.weight : K) - 1 / 2000000 ≤ g.fraction * g.weight := by
  have weight : (1 : K) ≤ g.weight := by exact_mod_cast some
  have most : clamp01 g.fraction * g.weight ≤ g.weight :=
    mul_le_of_le_one_left (by linarith) (clamp01_le_one _)
  have near : (g.weight : K) - 1 / 2000000 ≤ clamp01 g.fraction * g.weight :=
    (rounded_eq_natCast most).1 full
  refine near.trans (mul_le_mul_of_nonneg_right ?_ (by linarith))
  rcases le_or_gt 0 g.fraction with nonneg | negative
  · exact clamp01_le_self nonneg
  · rw [clamp01_of_nonpos negative.le, zero_mul] at near
    linarith

/-- **Full marks leave no cap and give every criterion its whole points.** -/
theorem full_marks {b : StepBreakdown K} (scored : scoreStep e tolerances step = .ok b)
    (full : b.finalScore = b.maximumPoints) :
    applicableCaps tolerances e.geometry step = [] ∧
      ∀ g ∈ grades e tolerances step, (g.weight : K) - 1 / 2000000 ≤ g.fraction * g.weight := by
  obtain ⟨-, -, -, total, final⟩ := scoreStep_eq e tolerances scored
  rw [total, final] at full
  have earned_total : STEP_TOTALS step ≤ earned e tolerances step := full.ge.trans (min_le_left _ _)
  have cap_total : STEP_TOTALS step ≤ (caps e tolerances step).maximumPoints :=
    full.ge.trans (min_le_right _ _)
  constructor
  · by_contra some
    unfold caps at cap_total
    split_ifs at cap_total with untrusted
    · cases step <;> norm_num [STEP_TOTALS] at cap_total
    · rcases capOf_spec (STEP_TOTALS step) (applicableCaps tolerances e.geometry step) with
        ⟨none, -⟩ | ⟨⟨c, listed, same⟩, -⟩
      · exact some none
      · rw [same] at cap_total
        exact absurd cap_total (not_le.2 (applicable_values tolerances listed).2)
  · rw [← weights e tolerances] at earned_total
    intro g listed
    refine whole_fraction ?_ (at_bounds earned_total g listed)
    cases step <;> simp only [grades, List.mem_cons, List.not_mem_nil, or_false] at listed <;>
      rcases listed with rfl | rfl | rfl | rfl | rfl | rfl <;> norm_num only

/-! ## Credit that is nearly whole -/

theorem credit_le {flag : Bool} {points : K} (nonneg : 0 ≤ points) : credit flag points ≤ points := by
  cases flag with
  | false =>
      show (0.0 : K) ≤ points
      norm_num only
      exact nonneg
  | true => exact le_rfl

theorem credit_false (points : K) : credit false points = 0 := by
  show (0.0 : K) = 0
  norm_num

/-- A flag whose credit is not missing. -/
theorem flag_of_credit {flag : Bool} {points : K} (some : 0 < credit flag points) : flag = true := by
  cases flag with
  | false =>
      rw [credit_false] at some
      exact absurd some (lt_irrefl 0)
  | true => rfl

theorem common_of_fraction {m : GeometryMetrics K} (near : 2 - 1 / 2000000 ≤ commonFraction m * 2) :
    CommonValid m := by
  have first : credit (!m.collision) (0.5 : K) ≤ 0.5 := credit_le (by norm_num)
  have second : credit m.simulatorIdle (0.5 : K) ≤ 0.5 := credit_le (by norm_num)
  have third : credit m.changesWithinWorkEnvelopes (1.0 : K) ≤ 1.0 := credit_le (by norm_num)
  unfold commonFraction at near
  norm_num at near first second third
  have free : 0 < credit (!m.collision) (1 / 2 : K) := by linarith
  have idle : 0 < credit m.simulatorIdle (1 / 2 : K) := by linarith
  have inside : 0 < credit m.changesWithinWorkEnvelopes (1 : K) := by linarith
  exact ⟨by simpa using flag_of_credit free, flag_of_credit idle, flag_of_credit inside⟩

theorem retained_of_fraction {value : K}
    (near : 1 - 1 / 2000000 ≤ thresholdFraction value 0.65 0.75) : 0.75 - 1 / 20000000 ≤ value := by
  unfold thresholdFraction at near
  norm_num at near ⊢
  split_ifs at near with low high
  · norm_num at near
  · linarith
  · rw [le_div_iff₀ (by norm_num)] at near
    linarith

theorem near_of_poseFraction (slack : K) {error tolerance : K} (less : slack < 1)
    (near : 1 - slack ≤ poseFraction error tolerance) :
    NearlyWithin (2 * slack) error tolerance := by
  unfold poseFraction at near
  norm_num only at near
  split_ifs at near with within far
  · exact Or.inl within
  · linarith
  · right
    have positive : 0 < tolerance := by linarith
    rw [le_div_iff₀ two_pos] at near
    have ratio : error / tolerance ≤ 1 + 2 * slack := by linarith
    rwa [div_le_iff₀ positive] at ratio

theorem poseFraction_le_one (error tolerance : K) : poseFraction error tolerance ≤ 1 := by
  unfold poseFraction
  norm_num only
  split_ifs with within far
  · exact le_rfl
  · exact zero_le_one
  · have positive : 0 < tolerance := by linarith
    have beyond : 1 ≤ error / tolerance := by
      rw [le_div_iff₀ positive]
      linarith
    linarith

theorem stateFraction_le_one (first second third : Bool) :
    (stateFraction first second third : K) ≤ 1 := by
  have one : credit first (1 : K) ≤ 1 := credit_le zero_le_one
  have two : credit second (1 : K) ≤ 1 := credit_le zero_le_one
  have three : credit third (1 : K) ≤ 1 := credit_le zero_le_one
  unfold stateFraction
  norm_num only
  rw [div_le_one (by norm_num)]
  linarith

/-! ## No cap -/

theorem capIf_eq_nil {condition : Bool} {maximum : K} {reason : String} :
    capIf condition maximum reason = [] ↔ condition = false := by
  cases condition <;> simp [capIf]

theorem whole_of_not_fragmented {m : GeometryMetrics K} (whole : fragmented m = false) :
    m.sampleComponentCount = 1 ∧ 0.65 ≤ m.retainedSampleFraction := by
  unfold fragmented at whole
  rw [Bool.or_eq_false_iff, decide_eq_false_iff_not, bne_eq_false_iff_eq, not_lt] at whole
  exact whole

theorem joint_of_not_thin {connected : Bool} {section_ scale : K} (joined : connected = true)
    (thick : (connected && decide (section_ < scale)) = false) : scale ≤ section_ := by
  rw [joined, Bool.true_and, decide_eq_false_iff_not, not_lt] at thick
  exact thick

/-- **Full marks imply the geometry of the step**, up to the rounding of the points. -/
theorem valid_of_full_marks (tolerances : AdaptiveTolerances K) (step : StepId)
    (e : StepEvidence K) (b : StepBreakdown K) (scored : scoreStep e tolerances step = .ok b)
    (full : b.finalScore = b.maximumPoints) : FullMarksValid tolerances e.geometry step := by
  obtain ⟨uncapped, graded⟩ := full_marks scored full
  cases step with
  | step_1 =>
      simp only [applicableCaps, List.append_eq_nil_iff, capIf_eq_nil] at uncapped
      obtain ⟨⟨⟨⟨source, needle⟩, target⟩, whole⟩, -⟩ := uncapped
      obtain ⟨single, retained⟩ := whole_of_not_fragmented whole
      simp only [grades, List.mem_cons, List.not_mem_nil, or_false, forall_eq_or_imp,
        forall_eq] at graded
      obtain ⟨-, -, -, -, integrity, common⟩ := graded
      have joined : e.geometry.sampleToSource = true := by simpa using source
      refine ⟨common_of_fraction (by simpa using common), ⟨joined, needle, target, single, retained⟩, ?_⟩
      · apply retained_of_fraction
        rw [single] at integrity
        norm_num [credit] at integrity ⊢
        linarith
  | step_2 =>
      simp only [applicableCaps, List.append_eq_nil_iff, capIf_eq_nil] at uncapped
      obtain ⟨⟨⟨⟨source, needle⟩, target⟩, thick⟩, whole⟩ := uncapped
      obtain ⟨single, retained⟩ := whole_of_not_fragmented whole
      simp only [grades, List.mem_cons, List.not_mem_nil, or_false, forall_eq_or_imp,
        forall_eq] at graded
      obtain ⟨-, -, -, -, -, common⟩ := graded
      have joined : e.geometry.sampleToNeedle = true := by simpa using needle
      exact ⟨common_of_fraction (by simpa using common), ⟨source, joined, target, single, retained⟩,
        joint_of_not_thin joined thick⟩
  | step_3 =>
      simp only [applicableCaps, List.append_eq_nil_iff, capIf_eq_nil] at uncapped
      obtain ⟨⟨⟨⟨⟨target, needle⟩, source⟩, -⟩, thick⟩, whole⟩ := uncapped
      obtain ⟨single, retained⟩ := whole_of_not_fragmented whole
      simp only [grades, List.mem_cons, List.not_mem_nil, or_false, forall_eq_or_imp,
        forall_eq] at graded
      obtain ⟨-, pose, -, joints, -, common⟩ := graded
      have placed : e.geometry.sampleToTarget = true := by simpa using target
      have joined : e.geometry.sampleToNeedle = true := by simpa using needle
      have position := poseFraction_le_one e.geometry.samplePositionError tolerances.position
      have orientation :=
        poseFraction_le_one e.geometry.sampleOrientationError tolerances.orientation
      have state := stateFraction_le_one (K := K) (!e.geometry.sampleToSource)
        e.geometry.sampleToNeedle e.geometry.sampleToTarget
      have second := clamp01_le_one (e.geometry.targetJointSection / tolerances.jointScale)
      norm_num [poseGrade] at pose joints
      have first : 1 - 1 / 2000000 ≤ clamp01 (e.geometry.needleJointSection / tolerances.jointScale) := by
        linarith
      have ratio : 1 - 1 / 2000000 ≤ e.geometry.needleJointSection / tolerances.jointScale := by
        rcases le_or_gt 0 (e.geometry.needleJointSection / tolerances.jointScale) with nonneg | neg
        · exact first.trans (clamp01_le_self nonneg)
        · rw [clamp01_of_nonpos neg.le] at first
          norm_num at first
      refine ⟨common_of_fraction (by simpa using common), ⟨source, joined, placed, single, retained⟩,
        ?_, joint_of_not_thin placed thick, ?_, ?_⟩
      · rwa [le_div_iff₀ tolerances.joint_pos] at ratio
      · have near := near_of_poseFraction (1 / 6000000) (by norm_num) (show _ ≤ poseFraction
          e.geometry.samplePositionError tolerances.position by linarith)
        norm_num at near ⊢
        exact near
      · have near := near_of_poseFraction (1 / 4000000) (by norm_num) (show _ ≤ poseFraction
          e.geometry.sampleOrientationError tolerances.orientation by linarith)
        norm_num at near ⊢
        exact near
  | step_4 =>
      simp only [applicableCaps, List.append_eq_nil_iff, capIf_eq_nil] at uncapped
      obtain ⟨⟨⟨⟨⟨target, needle⟩, source⟩, unsafe'⟩, whole⟩, -⟩ := uncapped
      obtain ⟨single, retained⟩ := whole_of_not_fragmented whole
      simp only [grades, List.mem_cons, List.not_mem_nil, or_false, forall_eq_or_imp,
        forall_eq] at graded
      obtain ⟨-, -, -, -, pose, retraction⟩ := graded
      have placed : e.geometry.sampleToTarget = true := by simpa using target
      have back : credit e.geometry.needleSafelyRetracted (1.5 : K) ≤ 1.5 := credit_le (by norm_num)
      have position := poseFraction_le_one e.geometry.samplePositionError tolerances.position
      have orientation :=
        poseFraction_le_one e.geometry.sampleOrientationError tolerances.orientation
      norm_num [poseGrade] at pose retraction back
      have idle : 0 < credit e.geometry.simulatorIdle (1 / 2 : K) := by linarith
      refine ⟨flag_of_credit idle, ⟨source, needle, placed, single, retained⟩,
        by simpa using unsafe', ?_, ?_⟩
      · have near := near_of_poseFraction (1 / 2400000) (by norm_num) (show _ ≤ poseFraction
          e.geometry.samplePositionError tolerances.position by linarith)
        norm_num at near ⊢
        exact near
      · have near := near_of_poseFraction (1 / 1600000) (by norm_num) (show _ ≤ poseFraction
          e.geometry.sampleOrientationError tolerances.orientation by linarith)
        norm_num at near ⊢
        exact near

/-! ## What full marks leave open -/

/-- The metrics of a step done well. -/
def metricsOf (step : StepId) : GeometryMetrics ℚ :=
  { (hanging true 1).geometry with
    sampleToSource := step.wants.1
    sampleToNeedle := step.wants.2.1
    sampleToTarget := step.wants.2.2
    targetJointSection := 1
    needleSafelyRetracted := true }

/-- Evidence with every shape right. -/
def shapely (step : StepId) (geometry : GeometryMetrics ℚ) : StepEvidence ℚ :=
  { hanging true 1 with
    stepId := step
    geometry
    shapes := step.shapes.map fun name => (txt name, ⟨1⟩) }

/-- The full marks of a step done well, and its geometry. -/
theorem valid_of_full_marks_done :
    (scoreStep (shapely .step_3 (metricsOf .step_3)) exampleTolerances .step_3).map
      StepBreakdown.finalScore = .ok 25 ∧
    FullMarksValid exampleTolerances (metricsOf .step_3) .step_3 := by
  have scored : (scoreStep (shapely .step_3 (metricsOf .step_3)) exampleTolerances .step_3).map
      StepBreakdown.finalScore = .ok 25 := ok_of_toOption (by decide +kernel)
  refine ⟨scored, ?_⟩
  obtain ⟨b, made, final⟩ := map_ok_iff.1 scored
  obtain ⟨-, -, -, total, -⟩ := scoreStep_eq _ _ made
  exact valid_of_full_marks exampleTolerances .step_3 _ b made (by rw [final, total]; decide +kernel)

/-- **Full marks for less than validity.**  A step that kept seven tenths of the sample, one
whose sample is turned by a little more than the tolerance, and a last step that collided,
changed what it must not and has no joint. -/
theorem full_marks_not_valid :
    let kept := { metricsOf .step_2 with retainedSampleFraction := 7 / 10, sampleIntegrityStep1 := false }
    let turned := { metricsOf .step_3 with sampleOrientationError := 5 + 1 / 1000000 }
    let collided := { metricsOf .step_4 with
      collision := true, changesWithinWorkEnvelopes := false, targetJointSection := 0 }
    ((scoreStep (shapely .step_2 kept) exampleTolerances .step_2).map StepBreakdown.finalScore =
        .ok (STEP_TOTALS .step_2) ∧ stepGeometryValid exampleTolerances kept .step_2 = false) ∧
    ((scoreStep (shapely .step_3 turned) exampleTolerances .step_3).map StepBreakdown.finalScore =
        .ok (STEP_TOTALS .step_3) ∧ stepGeometryValid exampleTolerances turned .step_3 = false) ∧
    (scoreStep (shapely .step_4 collided) exampleTolerances .step_4).map StepBreakdown.finalScore =
        .ok (STEP_TOTALS .step_4) ∧ stepGeometryValid exampleTolerances collided .step_4 = false := by
  refine ⟨⟨ok_of_toOption ?_, ?_⟩, ⟨ok_of_toOption ?_, ?_⟩, ok_of_toOption ?_, ?_⟩ <;> decide +kernel

end InstrumentBench.Rubric
