/-
# Rubric.Credit -- what points can be, and how they grow

Points are decimals of six digits between zero and their maximum (`Credited`), so that
neither their sum nor the cap on it is rounded any further (`scoreStep_eq`).  Every fraction
grows with what it grades.
-/
import InstrumentBench.Rubric.StepRubric
import InstrumentBench.Theory.NearestEven

namespace InstrumentBench.Rubric

set_option autoImplicit false
set_option linter.unusedSectionVars false

open InstrumentBench.Theory InstrumentBench.Geometry
open InstrumentBench.Fibsem (PyError)

variable {K : Type} [Field K] [LinearOrder K] [IsStrictOrderedRing K] [FloorRing K]

/-! ## Decimals of six digits -/

/-- A decimal of six digits. -/
def Decimal (x : K) : Prop := ∃ n : ℤ, x = (n : K) / 10 ^ 6

theorem rounded_eq (x : K) : rounded x = (nearestEven (x * 10 ^ 6) : K) / 10 ^ 6 := rfl

theorem decimal_rounded (x : K) : Decimal (rounded x) := ⟨_, rounded_eq x⟩

theorem rounded_decimal {x : K} (decimal : Decimal x) : rounded x = x := by
  obtain ⟨n, rfl⟩ := decimal
  have whole : (n : K) / 10 ^ 6 * 10 ^ 6 = n := div_mul_cancel₀ _ (by norm_num)
  rw [rounded_eq, whole, nearestEven_intCast]

theorem rounded_mono {x y : K} (le : x ≤ y) : rounded x ≤ rounded y := by
  rw [rounded_eq, rounded_eq]
  have scaled : x * 10 ^ 6 ≤ y * 10 ^ 6 := by gcongr
  have whole : (nearestEven (x * 10 ^ 6) : K) ≤ nearestEven (y * 10 ^ 6) :=
    Int.cast_le.2 (nearestEven_mono scaled)
  gcongr

theorem decimal_natCast (n : ℕ) : Decimal (n : K) := by
  refine ⟨n * 1000000, ?_⟩
  push_cast
  norm_num

theorem Decimal.add {x y : K} (left : Decimal x) (right : Decimal y) : Decimal (x + y) := by
  obtain ⟨m, rfl⟩ := left
  obtain ⟨n, rfl⟩ := right
  refine ⟨m + n, ?_⟩
  push_cast
  rw [add_div]

theorem Decimal.min {x y : K} (left : Decimal x) (right : Decimal y) : Decimal (min x y) := by
  rcases min_choice x y with same | same
  · rw [same]
    exact left
  · rw [same]
    exact right

/-- **Half a unit of the sixth decimal reaches a whole number.** -/
theorem rounded_eq_natCast {x : K} {n : ℕ} (le : x ≤ n) :
    rounded x = n ↔ (n : K) - 1 / 2000000 ≤ x := by
  have whole : (n : K) * 10 ^ 6 = ((n * 1000000 : ℤ) : K) := by
    push_cast
    norm_num
  have reached : (n * 1000000 : ℤ) ≤ nearestEven (x * 10 ^ 6) ↔ (n : K) - 1 / 2000000 ≤ x := by
    rw [even_le_nearestEven (by omega), ← whole]
    constructor
    · intro near
      nlinarith
    · intro near
      nlinarith
  rw [← reached]
  have most : rounded x ≤ n := by
    have := rounded_mono le
    rwa [rounded_decimal (decimal_natCast n)] at this
  have up : (n : K) ≤ rounded x ↔ (n * 1000000 : ℤ) ≤ nearestEven (x * 10 ^ 6) := by
    rw [rounded_eq, le_div_iff₀ (by norm_num), whole, Int.cast_le]
  rw [← up]
  exact ⟨fun same => same.ge, fun high => le_antisymm most high⟩

/-! ## Sums -/

theorem sum_eq (values : List K) : Geometry.sum values = values.sum := by
  have general : ∀ start : K, values.foldl (· + ·) start = start + values.sum := by
    induction values with
    | nil => simp
    | cons value rest ih =>
        intro start
        rw [List.foldl_cons, ih, List.sum_cons, add_assoc]
  rw [Geometry.sum, general]
  norm_num

theorem decimal_sum {values : List K} (each : ∀ value ∈ values, Decimal value) :
    Decimal values.sum := by
  induction values with
  | nil => exact ⟨0, by simp⟩
  | cons value rest ih =>
      rw [List.sum_cons]
      exact (each value List.mem_cons_self).add
        (ih fun other listed => each other (List.mem_cons_of_mem _ listed))

/-! ## Points -/

/-- Points that a criterion can give. -/
structure Credited (c : CriterionScore K) : Prop where
  decimal : Decimal c.points
  nonneg : 0 ≤ c.points
  le : c.points ≤ c.maximumPoints

theorem clamp01_nonneg (x : K) : 0 ≤ clamp01 x := by
  unfold clamp01
  exact le_min (by norm_num) (le_max_of_le_left (by norm_num))

theorem clamp01_le_one (x : K) : clamp01 x ≤ 1 := (min_le_left _ _).trans (by norm_num)

theorem clamp01_mono {x y : K} (le : x ≤ y) : clamp01 x ≤ clamp01 y :=
  min_le_min_left _ (max_le_max_left _ le)

theorem clamp01_of_inside {x : K} (nonneg : 0 ≤ x) (le : x ≤ 1) : clamp01 x = x := by
  unfold clamp01
  norm_num
  rw [max_eq_right nonneg, min_eq_right le]

theorem credited_criterion (criterionId : String) (fraction : K) (n : ℕ) :
    Credited (criterion criterionId fraction n) where
  decimal := decimal_rounded _
  nonneg := by
    have low : (0 : K) ≤ clamp01 fraction * n :=
      mul_nonneg (clamp01_nonneg fraction) (Nat.cast_nonneg n)
    have zero := rounded_decimal (decimal_natCast (K := K) 0)
    have kept := rounded_mono low
    rw [Nat.cast_zero] at zero
    rw [zero] at kept
    exact kept
  le := by
    have high : clamp01 fraction * n ≤ (n : K) :=
      mul_le_of_le_one_left (Nat.cast_nonneg n) (clamp01_le_one fraction)
    have kept := rounded_mono high
    rw [rounded_decimal (decimal_natCast n)] at kept
    exact kept

theorem criterion_mono {criterionId : String} {fraction fraction' maximum : K}
    (nonneg : 0 ≤ maximum) (le : fraction ≤ fraction') :
    (criterion criterionId fraction maximum).points ≤
      (criterion criterionId fraction' maximum).points :=
  rounded_mono (mul_le_mul_of_nonneg_right (clamp01_mono le) nonneg)

/-- A shape criterion is a criterion of the shape's fraction. -/
theorem shapeCriterion_eq (criterionId : String) (evidence : StepEvidence K) (shapeName : String)
    (maximum : K) :
    shapeCriterion criterionId evidence shapeName maximum =
      criterion criterionId (shapeFraction evidence shapeName) maximum := by
  unfold shapeCriterion shapeFraction
  cases shapeOf evidence shapeName with
  | none => rfl
  | some value =>
      dsimp only
      unfold criterion
      rw [clamp01_of_inside (clamp01_nonneg _) (clamp01_le_one _)]

/-! ## The criteria of a step -/

/-- What a criterion grades: its name, the fraction earned and the whole points for all. -/
structure Grade (K : Type) where
  name : String
  fraction : K
  weight : ℕ

def Grade.criterion (g : Grade K) : CriterionScore K := Rubric.criterion g.name g.fraction g.weight

variable (evidence : StepEvidence K) (tolerances : AdaptiveTolerances K)

/-- The fraction of the pose, of points given to position and orientation. -/
def poseGrade (metrics : GeometryMetrics K) (position orientation whole : K) : K :=
  (position * poseFraction metrics.samplePositionError tolerances.position +
    orientation * poseFraction metrics.sampleOrientationError tolerances.orientation) / whole

/-- The grades of a step. -/
def grades : StepId → List (Grade K)
  | .step_1 =>
      let metrics := evidence.geometry
      [⟨"sample_global", shapeFraction evidence "sample", 6⟩,
       ⟨"cut_morphology", shapeFraction evidence "cut", 4⟩,
       ⟨"protection_morphology", shapeFraction evidence "protection", 3⟩,
       ⟨"source_bridge",
        (shapeFraction evidence "source_bridge" + credit metrics.sampleToSource 1.0) / 2.0, 3⟩,
       ⟨"sample_integrity",
        (credit (metrics.sampleComponentCount == 1) 1.0 +
          thresholdFraction metrics.retainedSampleFraction 0.65 0.75) / 2.0, 2⟩,
       ⟨"common_state", commonFraction metrics, 2⟩]
  | .step_2 =>
      let metrics := evidence.geometry
      [⟨"sample_preservation", shapeFraction evidence "sample", 5⟩,
       ⟨"source_separation", shapeFraction evidence "source_separation", 5⟩,
       ⟨"needle_joint", shapeFraction evidence "needle_joint", 5⟩,
       ⟨"transfer_connectivity",
        (3.0 * stateFraction (!metrics.sampleToSource) metrics.sampleToNeedle
            (!metrics.sampleToTarget) +
          2.0 * clamp01 (metrics.needleJointSection / tolerances.jointScale)) / 5.0, 5⟩,
       ⟨"co_motion", evidence.coMotionScore, 3⟩,
       ⟨"common_state", commonFraction metrics, 2⟩]
  | .step_3 =>
      let metrics := evidence.geometry
      [⟨"sample_preservation", shapeFraction evidence "sample", 4⟩,
       ⟨"target_pose", poseGrade tolerances metrics 3.0 2.0 5.0, 5⟩,
       ⟨"target_joint", shapeFraction evidence "target_joint", 5⟩,
       ⟨"dual_connectivity",
        (3.0 * stateFraction (!metrics.sampleToSource) metrics.sampleToNeedle
            metrics.sampleToTarget +
          clamp01 (metrics.needleJointSection / tolerances.jointScale) +
          clamp01 (metrics.targetJointSection / tolerances.jointScale)) / 5.0, 5⟩,
       ⟨"target_interface", shapeFraction evidence "target_interface", 4⟩,
       ⟨"common_state", commonFraction metrics, 2⟩]
  | .step_4 =>
      let metrics := evidence.geometry
      [⟨"sample_preservation", shapeFraction evidence "sample", 4⟩,
       ⟨"needle_separation", shapeFraction evidence "needle_separation", 4⟩,
       ⟨"target_joint_preservation", shapeFraction evidence "target_joint", 4⟩,
       ⟨"final_topology",
        stateFraction (!metrics.sampleToSource) (!metrics.sampleToNeedle) metrics.sampleToTarget, 4⟩,
       ⟨"target_pose", poseGrade tolerances metrics 1.2 0.8 2.0, 2⟩,
       ⟨"safe_retraction",
        (credit metrics.needleSafelyRetracted 1.5 + credit metrics.simulatorIdle 0.5) / 2.0, 2⟩]

/-- **The criteria of a step are its grades.** -/
theorem scorers_eq (stepId : StepId) :
    scorers evidence tolerances stepId = (grades evidence tolerances stepId).map Grade.criterion := by
  have two : (2.0 : K) = (2 : ℕ) := by norm_num
  have three : (3.0 : K) = (3 : ℕ) := by norm_num
  have four : (4.0 : K) = (4 : ℕ) := by norm_num
  have five : (5.0 : K) = (5 : ℕ) := by norm_num
  have six : (6.0 : K) = (6 : ℕ) := by norm_num
  cases stepId <;>
    simp only [scorers, step1, step2, step3, step4, grades, poseGrade, shapeCriterion_eq,
      List.map_cons, List.map_nil, Grade.criterion, two, three, four, five, six]

/-- The whole points of the criteria add up to the step's. -/
theorem weights (stepId : StepId) :
    (((grades evidence tolerances stepId).map fun g => (g.weight : K)).sum) =
      STEP_TOTALS stepId := by
  cases stepId <;> norm_num [grades, STEP_TOTALS]

theorem credited_grade (g : Grade K) : Credited g.criterion := credited_criterion _ _ _

/-- The points of a step before its caps. -/
def earned (stepId : StepId) : K :=
  ((grades evidence tolerances stepId).map fun g => g.criterion.points).sum

theorem earned_nonneg (stepId : StepId) : 0 ≤ earned evidence tolerances stepId := by
  apply List.sum_nonneg
  intro x listed
  obtain ⟨g, -, rfl⟩ := List.mem_map.1 listed
  exact (credited_grade g).nonneg

theorem decimal_earned (stepId : StepId) : Decimal (earned evidence tolerances stepId) := by
  apply decimal_sum
  intro x listed
  obtain ⟨g, -, rfl⟩ := List.mem_map.1 listed
  exact (credited_grade g).decimal

/-! ## Caps -/

theorem mem_capIf {condition : Bool} {maximum : K} {reason : String} {c : K × Text} :
    c ∈ capIf condition maximum reason ↔ condition = true ∧ c = (maximum, txt reason) := by
  unfold capIf
  cases condition <;> simp

/-- The caps are these, all below the step's points. -/
theorem applicable_values {metrics : GeometryMetrics K} {stepId : StepId} {c : K × Text}
    (listed : c ∈ applicableCaps tolerances metrics stepId) :
    (c.1 = 4 ∨ c.1 = 5 ∨ c.1 = 6 ∨ c.1 = 8 ∨ c.1 = 10 ∨ c.1 = 12) ∧ c.1 < STEP_TOTALS stepId := by
  cases stepId with
  | step_1 =>
      simp only [applicableCaps, List.mem_append, mem_capIf] at listed
      rcases listed with (((⟨-, rfl⟩ | ⟨-, rfl⟩) | ⟨-, rfl⟩) | ⟨-, rfl⟩) | ⟨-, rfl⟩ <;>
        norm_num [STEP_TOTALS]
  | step_2 =>
      simp only [applicableCaps, List.mem_append, mem_capIf] at listed
      rcases listed with (((⟨-, rfl⟩ | ⟨-, rfl⟩) | ⟨-, rfl⟩) | ⟨-, rfl⟩) | ⟨-, rfl⟩ <;>
        norm_num [STEP_TOTALS]
  | step_3 =>
      simp only [applicableCaps, List.mem_append, mem_capIf] at listed
      rcases listed with ((((⟨-, rfl⟩ | ⟨-, rfl⟩) | ⟨-, rfl⟩) | ⟨-, rfl⟩) | ⟨-, rfl⟩) | ⟨-, rfl⟩ <;>
        norm_num [STEP_TOTALS]
  | step_4 =>
      simp only [applicableCaps, List.mem_append, mem_capIf] at listed
      rcases listed with ((((⟨-, rfl⟩ | ⟨-, rfl⟩) | ⟨-, rfl⟩) | ⟨-, rfl⟩) | ⟨-, rfl⟩) | ⟨-, rfl⟩ <;>
        norm_num [STEP_TOTALS]

theorem applicable_whole {metrics : GeometryMetrics K} {stepId : StepId} {c : K × Text}
    (listed : c ∈ applicableCaps tolerances metrics stepId) : ∃ n : ℕ, c.1 = n := by
  obtain ⟨values, -⟩ := applicable_values tolerances listed
  rcases values with same | same | same | same | same | same
  · exact ⟨4, by rw [same]; norm_num⟩
  · exact ⟨5, by rw [same]; norm_num⟩
  · exact ⟨6, by rw [same]; norm_num⟩
  · exact ⟨8, by rw [same]; norm_num⟩
  · exact ⟨10, by rw [same]; norm_num⟩
  · exact ⟨12, by rw [same]; norm_num⟩

/-- **The cap is the least that applies**, or the step's points. -/
theorem capOf_spec (total : K) (caps : List (K × Text)) :
    (caps = [] ∧ (capOf total caps).maximumPoints = total) ∨
      (∃ c ∈ caps, (capOf total caps).maximumPoints = c.1) ∧
        ∀ c ∈ caps, (capOf total caps).maximumPoints ≤ c.1 := by
  cases caps with
  | nil => exact Or.inl ⟨rfl, rfl⟩
  | cons first rest =>
      right
      constructor
      · have listed : least first.1 (rest.map Prod.fst) ∈ (first :: rest).map Prod.fst :=
          least_mem _ _
        obtain ⟨c, inside, same⟩ := List.mem_map.1 listed
        exact ⟨c, inside, same.symm⟩
      · intro c inside
        have listed : c.1 ∈ first.1 :: rest.map Prod.fst := List.mem_map_of_mem inside
        exact least_le_of_mem listed

theorem totals_whole (stepId : StepId) : ∃ n : ℕ, (STEP_TOTALS stepId : K) = n := by
  cases stepId with
  | step_1 => exact ⟨20, by norm_num [STEP_TOTALS]⟩
  | step_2 => exact ⟨25, by norm_num [STEP_TOTALS]⟩
  | step_3 => exact ⟨25, by norm_num [STEP_TOTALS]⟩
  | step_4 => exact ⟨20, by norm_num [STEP_TOTALS]⟩

/-- **A cap is whole points, at most the step's.** -/
theorem caps_spec (stepId : StepId) :
    (∃ n : ℕ, (caps evidence tolerances stepId).maximumPoints = n) ∧
      (caps evidence tolerances stepId).maximumPoints ≤ STEP_TOTALS stepId := by
  unfold caps
  split_ifs with untrusted
  · exact ⟨⟨0, by norm_num⟩, by cases stepId <;> norm_num [STEP_TOTALS]⟩
  · rcases capOf_spec (STEP_TOTALS stepId) (applicableCaps tolerances evidence.geometry stepId) with
      ⟨-, same⟩ | ⟨⟨c, listed, same⟩, -⟩
    · rw [same]
      exact ⟨totals_whole stepId, le_rfl⟩
    · rw [same]
      exact ⟨applicable_whole tolerances listed, (applicable_values tolerances listed).2.le⟩

/-! ## The score -/

/-- **The score is the points earned, up to the cap**: nothing is rounded again. -/
theorem scoreStep_eq {stepId : StepId} {b : StepBreakdown K}
    (scored : scoreStep evidence tolerances stepId = .ok b) :
    evidence.stepId = stepId ∧ b.rawScore = earned evidence tolerances stepId ∧
      b.cap = caps evidence tolerances stepId ∧ b.maximumPoints = STEP_TOTALS stepId ∧
      b.finalScore = min (earned evidence tolerances stepId)
        (caps evidence tolerances stepId).maximumPoints := by
  unfold scoreStep PyError.value at scored
  split_ifs at scored with other
  cases scored
  have raw : rounded (Geometry.sum ((scorers evidence tolerances stepId).map
      CriterionScore.points)) = earned evidence tolerances stepId := by
    rw [sum_eq, scorers_eq, List.map_map]
    exact rounded_decimal (decimal_earned evidence tolerances stepId)
  obtain ⟨⟨n, whole⟩, -⟩ := caps_spec evidence tolerances stepId
  refine ⟨not_not.1 other, raw, rfl, rfl, ?_⟩
  show rounded (min (rounded _) _) = _
  rw [raw]
  apply rounded_decimal
  apply (decimal_earned evidence tolerances stepId).min
  rw [whole]
  exact decimal_natCast n

end InstrumentBench.Rubric
