/-
# Rubric.Monotone -- better evidence scores no less

`NotWorse` compares two evidences of a step metric by metric, those that the step grades.
Points are compared criterion by criterion (`earned_mono`).  Caps are not: a better
evidence can meet a cap that the worse one missed, a thin joint where there was none.  But
the worse one then met a lower cap (`capped_mono`).

* `rubric_monotone`: the score never falls, and stays between zero, the cap and the points.
-/
import InstrumentBench.Rubric.Credit

namespace InstrumentBench.Rubric

set_option autoImplicit false
set_option linter.unusedSectionVars false

open InstrumentBench.Theory InstrumentBench.Geometry
open InstrumentBench.Fibsem (PyError)

variable {K : Type} [Field K] [LinearOrder K] [IsStrictOrderedRing K] [FloorRing K]

/-! ## What a step wants -/

/-- The connections a step wants the sample to have. -/
def StepId.wants : StepId → Bool × Bool × Bool
  | .step_1 => (true, false, false)
  | .step_2 => (false, true, false)
  | .step_3 => (false, true, true)
  | .step_4 => (false, false, true)

/-- The shapes a step grades. -/
def StepId.shapes : StepId → List String
  | .step_1 => ["sample", "cut", "protection", "source_bridge"]
  | .step_2 => ["sample", "source_separation", "needle_joint"]
  | .step_3 => ["sample", "target_joint", "target_interface"]
  | .step_4 => ["sample", "needle_separation", "target_joint"]

/-- Every metric that the step grades is at least as good in the second evidence. -/
structure NotWorse (step : StepId) (e e' : StepEvidence K) : Prop where
  trusted : e.trusted = true → e'.trusted = true
  source : e.geometry.sampleToSource = step.wants.1 → e'.geometry.sampleToSource = step.wants.1
  needle : e.geometry.sampleToNeedle = step.wants.2.1 →
    e'.geometry.sampleToNeedle = step.wants.2.1
  target : e.geometry.sampleToTarget = step.wants.2.2 →
    e'.geometry.sampleToTarget = step.wants.2.2
  components : e'.geometry.sampleComponentCount = e.geometry.sampleComponentCount ∨
    e'.geometry.sampleComponentCount = 1
  retained : e.geometry.retainedSampleFraction ≤ e'.geometry.retainedSampleFraction
  shapes : ∀ name ∈ step.shapes, ∀ shape, shapeOf e name = some shape →
    ∃ shape', shapeOf e' name = some shape' ∧ shape.shapeScore ≤ shape'.shapeScore
  idle : e.geometry.simulatorIdle = true → e'.geometry.simulatorIdle = true
  collision : step ≠ .step_4 → e.geometry.collision = false → e'.geometry.collision = false
  envelopes : step ≠ .step_4 → e.geometry.changesWithinWorkEnvelopes = true →
    e'.geometry.changesWithinWorkEnvelopes = true
  retracted : step = .step_4 → e.geometry.needleSafelyRetracted = true →
    e'.geometry.needleSafelyRetracted = true
  coMotion : step = .step_2 → e.coMotionScore ≤ e'.coMotionScore
  needleJoint : step = .step_2 ∨ step = .step_3 →
    e.geometry.needleJointSection ≤ e'.geometry.needleJointSection
  targetJoint : step = .step_3 → e.geometry.targetJointSection ≤ e'.geometry.targetJointSection
  position : step = .step_3 ∨ step = .step_4 →
    e'.geometry.samplePositionError ≤ e.geometry.samplePositionError
  orientation : step = .step_3 ∨ step = .step_4 →
    e'.geometry.sampleOrientationError ≤ e.geometry.sampleOrientationError

/-! ## Fractions -/

theorem credit_mono {a b : Bool} {points : K} (nonneg : 0 ≤ points) (keeps : a = true → b = true) :
    credit a points ≤ credit b points := by
  cases a with
  | false =>
      cases b with
      | false => exact le_rfl
      | true =>
          show (0.0 : K) ≤ points
          norm_num
          exact nonneg
  | true =>
      rw [keeps rfl]

theorem thresholdFraction_mono {value value' minimum full : K} (wide : minimum < full)
    (le : value ≤ value') :
    thresholdFraction value minimum full ≤ thresholdFraction value' minimum full := by
  have width : 0 < full - minimum := sub_pos.2 wide
  unfold thresholdFraction
  norm_num only
  split_ifs with low low' high' high
  · exact le_rfl
  · exact zero_le_one
  · exact div_nonneg (by linarith) width.le
  · linarith
  · exact le_rfl
  · linarith
  · linarith
  · rw [div_le_one width]
    linarith
  · gcongr

/-- Pose credit falls with the error. -/
theorem poseFraction_anti {error error' tolerance : K} (le : error' ≤ error) :
    poseFraction error tolerance ≤ poseFraction error' tolerance := by
  unfold poseFraction
  norm_num only
  split_ifs with within within' far' far
  · exact le_rfl
  · linarith
  · linarith
  · exact zero_le_one
  · exact le_rfl
  · have positive : 0 < tolerance := by linarith
    have half : (0 : K) < 2 := two_pos
    rw [le_div_iff₀ half, zero_mul, sub_nonneg, div_le_iff₀ positive]
    linarith
  · have positive : 0 < tolerance := by linarith
    have beyond : 1 ≤ error / tolerance := by
      rw [le_div_iff₀ positive]
      linarith
    linarith
  · linarith
  · have positive : 0 < tolerance := by linarith
    gcongr

theorem stateFraction_mono {a b c a' b' c' : Bool} (first : a = true → a' = true)
    (second : b = true → b' = true) (third : c = true → c' = true) :
    (stateFraction a b c : K) ≤ stateFraction a' b' c' := by
  have one := credit_mono (K := K) zero_le_one first
  have two := credit_mono (K := K) zero_le_one second
  have three := credit_mono (K := K) zero_le_one third
  unfold stateFraction
  gcongr

variable (tolerances : AdaptiveTolerances K) {step : StepId} {e e' : StepEvidence K}

theorem shapeFraction_mono {name : String}
    (better : ∀ shape, shapeOf e name = some shape →
      ∃ shape', shapeOf e' name = some shape' ∧ shape.shapeScore ≤ shape'.shapeScore) :
    shapeFraction e name ≤ shapeFraction e' name := by
  unfold shapeFraction
  cases found : shapeOf e name with
  | none =>
      cases shapeOf e' name with
      | none => exact le_rfl
      | some shape' =>
          show (0.0 : K) ≤ _
          norm_num only
          exact clamp01_nonneg _
  | some shape =>
      obtain ⟨shape', found', le⟩ := better shape found
      rw [found']
      exact clamp01_mono le

theorem commonFraction_mono (better : NotWorse step e e') (graded : step ≠ .step_4) :
    commonFraction e.geometry ≤ commonFraction e'.geometry := by
  have collision : credit (!e.geometry.collision) (0.5 : K) ≤ credit (!e'.geometry.collision) 0.5 := by
    apply credit_mono (by norm_num)
    intro free
    rw [better.collision graded (by simpa using free)]
    rfl
  have idle : credit e.geometry.simulatorIdle (0.5 : K) ≤ credit e'.geometry.simulatorIdle 0.5 :=
    credit_mono (by norm_num) better.idle
  have inside : credit e.geometry.changesWithinWorkEnvelopes (1.0 : K) ≤
      credit e'.geometry.changesWithinWorkEnvelopes 1.0 :=
    credit_mono (by norm_num) (better.envelopes graded)
  unfold commonFraction
  gcongr

theorem jointFraction_mono {section_ section' : K} (le : section_ ≤ section') :
    clamp01 (section_ / tolerances.jointScale) ≤ clamp01 (section' / tolerances.jointScale) := by
  have positive := tolerances.joint_pos
  apply clamp01_mono
  gcongr

theorem poseGrade_mono {m m' : GeometryMetrics K} {position orientation whole : K}
    (first : 0 ≤ position) (second : 0 ≤ orientation) (positive : 0 < whole)
    (near : m'.samplePositionError ≤ m.samplePositionError)
    (straight : m'.sampleOrientationError ≤ m.sampleOrientationError) :
    poseGrade tolerances m position orientation whole ≤
      poseGrade tolerances m' position orientation whole := by
  have one : poseFraction _ tolerances.position ≤ _ := poseFraction_anti near
  have two : poseFraction _ tolerances.orientation ≤ _ := poseFraction_anti straight
  unfold poseGrade
  gcongr

/-! ## Points -/

/-- A connection that is wanted absent. -/
theorem absent {a b : Bool} (keeps : a = false → b = false) : (!a) = true → (!b) = true := by
  cases a <;> cases b <;> simp_all

theorem components_keep (better : NotWorse step e e') :
    (e.geometry.sampleComponentCount == 1) = true →
      (e'.geometry.sampleComponentCount == 1) = true := by
  intro single
  rcases better.components with same | one
  · rw [same]
    exact single
  · rw [one]
    rfl

/-- **Each grade of the better evidence is at least the other's.** -/
theorem grades_mono (better : NotWorse step e e') :
    List.Forall₂ (fun g g' => g.weight = g'.weight ∧ g.fraction ≤ g'.fraction)
      (grades e tolerances step) (grades e' tolerances step) := by
  have shape : ∀ name ∈ step.shapes, shapeFraction e name ≤ shapeFraction e' name :=
    fun name listed => shapeFraction_mono (better.shapes name listed)
  cases step with
  | step_1 =>
      have common := commonFraction_mono better (by decide)
      have bridge := shape "source_bridge" (by decide)
      have joined : credit e.geometry.sampleToSource (1.0 : K) ≤
          credit e'.geometry.sampleToSource 1.0 := credit_mono (by norm_num) better.source
      have single : credit (e.geometry.sampleComponentCount == 1) (1.0 : K) ≤
          credit (e'.geometry.sampleComponentCount == 1) 1.0 :=
        credit_mono (by norm_num) (components_keep better)
      have left : thresholdFraction e.geometry.retainedSampleFraction (0.65 : K) 0.75 ≤
          thresholdFraction e'.geometry.retainedSampleFraction 0.65 0.75 :=
        thresholdFraction_mono (by norm_num) better.retained
      refine .cons ⟨rfl, shape _ (by decide)⟩ (.cons ⟨rfl, shape _ (by decide)⟩
        (.cons ⟨rfl, shape _ (by decide)⟩ (.cons ⟨rfl, ?_⟩ (.cons ⟨rfl, ?_⟩ (.cons ⟨rfl, common⟩ .nil)))))
      · dsimp only
        gcongr
      · dsimp only
        gcongr
  | step_2 =>
      have common := commonFraction_mono better (by decide)
      have state : (stateFraction (!e.geometry.sampleToSource) e.geometry.sampleToNeedle
          (!e.geometry.sampleToTarget) : K) ≤ stateFraction (!e'.geometry.sampleToSource)
            e'.geometry.sampleToNeedle (!e'.geometry.sampleToTarget) :=
        stateFraction_mono (absent better.source) better.needle (absent better.target)
      have joint := jointFraction_mono tolerances (better.needleJoint (Or.inl rfl))
      refine .cons ⟨rfl, shape _ (by decide)⟩ (.cons ⟨rfl, shape _ (by decide)⟩
        (.cons ⟨rfl, shape _ (by decide)⟩ (.cons ⟨rfl, ?_⟩ (.cons ⟨rfl, better.coMotion rfl⟩
          (.cons ⟨rfl, common⟩ .nil)))))
      dsimp only
      gcongr
  | step_3 =>
      have common := commonFraction_mono better (by decide)
      have state : (stateFraction (!e.geometry.sampleToSource) e.geometry.sampleToNeedle
          e.geometry.sampleToTarget : K) ≤ stateFraction (!e'.geometry.sampleToSource)
            e'.geometry.sampleToNeedle e'.geometry.sampleToTarget :=
        stateFraction_mono (absent better.source) better.needle better.target
      have needle := jointFraction_mono tolerances (better.needleJoint (Or.inr rfl))
      have target := jointFraction_mono tolerances (better.targetJoint rfl)
      have pose := @poseGrade_mono K _ _ _ _ tolerances e.geometry e'.geometry 3.0 2.0 5.0 (by norm_num) (by norm_num) (by norm_num) (better.position (Or.inl rfl))
        (better.orientation (Or.inl rfl))
      refine .cons ⟨rfl, shape _ (by decide)⟩ (.cons ⟨rfl, pose⟩ (.cons ⟨rfl, shape _ (by decide)⟩
        (.cons ⟨rfl, ?_⟩ (.cons ⟨rfl, shape _ (by decide)⟩ (.cons ⟨rfl, common⟩ .nil)))))
      dsimp only
      gcongr
  | step_4 =>
      have topology : (stateFraction (!e.geometry.sampleToSource) (!e.geometry.sampleToNeedle)
          e.geometry.sampleToTarget : K) ≤ stateFraction (!e'.geometry.sampleToSource)
            (!e'.geometry.sampleToNeedle) e'.geometry.sampleToTarget :=
        stateFraction_mono (absent better.source) (absent better.needle) better.target
      have pose := @poseGrade_mono K _ _ _ _ tolerances e.geometry e'.geometry 1.2 0.8 2.0 (by norm_num) (by norm_num) (by norm_num) (better.position (Or.inr rfl))
        (better.orientation (Or.inr rfl))
      have back : credit e.geometry.needleSafelyRetracted (1.5 : K) ≤
          credit e'.geometry.needleSafelyRetracted 1.5 :=
        credit_mono (by norm_num) (better.retracted rfl)
      have idle : credit e.geometry.simulatorIdle (0.5 : K) ≤ credit e'.geometry.simulatorIdle 0.5 :=
        credit_mono (by norm_num) better.idle
      refine .cons ⟨rfl, shape _ (by decide)⟩ (.cons ⟨rfl, shape _ (by decide)⟩
        (.cons ⟨rfl, shape _ (by decide)⟩ (.cons ⟨rfl, topology⟩ (.cons ⟨rfl, pose⟩
          (.cons ⟨rfl, ?_⟩ .nil)))))
      dsimp only
      gcongr

/-- **Better evidence earns no less.** -/
theorem earned_mono (better : NotWorse step e e') :
    earned e tolerances step ≤ earned e' tolerances step := by
  have graded := grades_mono tolerances better
  unfold earned
  generalize grades e tolerances step = list at graded ⊢
  generalize grades e' tolerances step = list' at graded ⊢
  induction graded with
  | nil => exact le_rfl
  | cons here rest ih =>
      simp only [List.map_cons, List.sum_cons]
      refine add_le_add ?_ ih
      obtain ⟨weight, fraction⟩ := here
      unfold Grade.criterion
      rw [weight]
      exact criterion_mono (Nat.cast_nonneg _) fraction

/-! ## Caps -/

/-- A cap whose condition held before. -/
theorem capIf_keeps {bad bad' : Bool} {maximum : K} {reason : String} {c : K × Text}
    (keeps : bad' = true → bad = true) (listed : c ∈ capIf bad' maximum reason) :
    c ∈ capIf bad maximum reason := by
  rw [mem_capIf] at listed ⊢
  exact ⟨keeps listed.1, listed.2⟩

/-- What is bad after was bad before. -/
theorem present_before {a b : Bool} (keeps : a = false → b = false) : b = true → a = true := by
  cases a <;> cases b <;> simp_all

theorem absent_before {a b : Bool} (keeps : a = true → b = true) :
    (!b) = true → (!a) = true := by
  cases a <;> cases b <;> simp_all

theorem fragmented_before (better : NotWorse step e e') :
    fragmented e'.geometry = true → fragmented e.geometry = true := by
  unfold fragmented
  rw [Bool.or_eq_true, Bool.or_eq_true, decide_eq_true_iff, decide_eq_true_iff, bne_iff_ne,
    bne_iff_ne]
  rintro (pieces | little)
  · rcases better.components with same | one
    · rw [← same]
      exact Or.inl pieces
    · exact absurd one pieces
  · exact Or.inr (better.retained.trans_lt little)

/-- A thin joint of the better evidence was thin before, or there was none. -/
theorem thin_before {connected connected' : Bool} {section_ section' scale : K}
    (le : section_ ≤ section') (thin : (connected' && decide (section' < scale)) = true) :
    (connected && decide (section_ < scale)) = true ∨ (!connected) = true := by
  rw [Bool.and_eq_true, decide_eq_true_iff] at thin
  cases connected with
  | false => exact Or.inr rfl
  | true =>
      left
      rw [Bool.and_eq_true, decide_eq_true_iff]
      exact ⟨rfl, le.trans_lt thin.2⟩

theorem far_before {limit error error' : K} (le : error' ≤ error) :
    decide (limit < error') = true → decide (limit < error) = true := by
  rw [decide_eq_true_iff, decide_eq_true_iff]
  intro far
  exact far.trans_le le

/-- **Where a cap applies to the better evidence, one no higher applied before.** -/
theorem applicable_before (better : NotWorse step e e') {c' : K × Text}
    (listed : c' ∈ applicableCaps tolerances e'.geometry step) :
    ∃ c ∈ applicableCaps tolerances e.geometry step, c.1 ≤ c'.1 := by
  have pieces := fragmented_before better
  cases step with
  | step_1 =>
      simp only [applicableCaps, List.mem_append] at listed
      rcases listed with (((here | here) | here) | here) | here
      · have before := capIf_keeps (absent_before better.source) here
        exact ⟨c', by simp only [applicableCaps, List.mem_append, before, true_or], le_rfl⟩
      · have before := capIf_keeps (present_before better.needle) here
        exact ⟨c', by simp only [applicableCaps, List.mem_append, before, true_or, or_true], le_rfl⟩
      · have before := capIf_keeps (present_before better.target) here
        exact ⟨c', by simp only [applicableCaps, List.mem_append, before, true_or, or_true], le_rfl⟩
      · have before := capIf_keeps pieces here
        exact ⟨c', by simp only [applicableCaps, List.mem_append, before, true_or, or_true], le_rfl⟩
      · have unsafe' : (e'.geometry.collision || !e'.geometry.changesWithinWorkEnvelopes) = true →
            (e.geometry.collision || !e.geometry.changesWithinWorkEnvelopes) = true := by
          rw [Bool.or_eq_true, Bool.or_eq_true]
          exact Or.imp (present_before (better.collision (by decide)))
            (absent_before (better.envelopes (by decide)))
        have before := capIf_keeps unsafe' here
        exact ⟨c', by simp only [applicableCaps, List.mem_append, before, or_true], le_rfl⟩
  | step_2 =>
      simp only [applicableCaps, List.mem_append] at listed
      rcases listed with (((here | here) | here) | here) | here
      · have before := capIf_keeps (present_before better.source) here
        exact ⟨c', by simp only [applicableCaps, List.mem_append, before, true_or], le_rfl⟩
      · have before := capIf_keeps (absent_before better.needle) here
        exact ⟨c', by simp only [applicableCaps, List.mem_append, before, true_or, or_true], le_rfl⟩
      · have before := capIf_keeps (present_before better.target) here
        exact ⟨c', by simp only [applicableCaps, List.mem_append, before, true_or, or_true], le_rfl⟩
      · obtain ⟨thin, rfl⟩ := mem_capIf.1 here
        rcases thin_before (better.needleJoint (Or.inl rfl)) thin with before | loose
        · refine ⟨_, ?_, le_rfl⟩
          simp only [applicableCaps, List.mem_append]
          exact Or.inl (Or.inr (mem_capIf.2 ⟨before, rfl⟩))
        · -- Without the connection the cap was lower.
          refine ⟨(10.0, txt "needle_not_connected"), ?_, by norm_num⟩
          simp only [applicableCaps, List.mem_append]
          exact Or.inl (Or.inl (Or.inl (Or.inr (mem_capIf.2 ⟨loose, rfl⟩))))
      · have before := capIf_keeps pieces here
        exact ⟨c', by simp only [applicableCaps, List.mem_append, before, or_true], le_rfl⟩
  | step_3 =>
      simp only [applicableCaps, List.mem_append] at listed
      rcases listed with ((((here | here) | here) | here) | here) | here
      · have before := capIf_keeps (absent_before better.target) here
        exact ⟨c', by simp only [applicableCaps, List.mem_append, before, true_or], le_rfl⟩
      · have before := capIf_keeps (absent_before better.needle) here
        exact ⟨c', by simp only [applicableCaps, List.mem_append, before, true_or, or_true], le_rfl⟩
      · have before := capIf_keeps (present_before better.source) here
        exact ⟨c', by simp only [applicableCaps, List.mem_append, before, true_or, or_true], le_rfl⟩
      · have before := capIf_keeps (far_before (better.position (Or.inl rfl))) here
        exact ⟨c', by simp only [applicableCaps, List.mem_append, before, true_or, or_true], le_rfl⟩
      · obtain ⟨thin, rfl⟩ := mem_capIf.1 here
        rcases thin_before (better.targetJoint rfl) thin with before | loose
        · refine ⟨_, ?_, le_rfl⟩
          simp only [applicableCaps, List.mem_append]
          exact Or.inl (Or.inr (mem_capIf.2 ⟨before, rfl⟩))
        · refine ⟨(10.0, txt "target_not_connected"), ?_, by norm_num⟩
          simp only [applicableCaps, List.mem_append]
          exact Or.inl (Or.inl (Or.inl (Or.inl (Or.inl (mem_capIf.2 ⟨loose, rfl⟩)))))
      · have before := capIf_keeps pieces here
        exact ⟨c', by simp only [applicableCaps, List.mem_append, before, or_true], le_rfl⟩
  | step_4 =>
      simp only [applicableCaps, List.mem_append] at listed
      rcases listed with ((((here | here) | here) | here) | here) | here
      · have before := capIf_keeps (absent_before better.target) here
        exact ⟨c', by simp only [applicableCaps, List.mem_append, before, true_or], le_rfl⟩
      · have before := capIf_keeps (present_before better.needle) here
        exact ⟨c', by simp only [applicableCaps, List.mem_append, before, true_or, or_true], le_rfl⟩
      · have before := capIf_keeps (present_before better.source) here
        exact ⟨c', by simp only [applicableCaps, List.mem_append, before, true_or, or_true], le_rfl⟩
      · have before := capIf_keeps (absent_before (better.retracted rfl)) here
        exact ⟨c', by simp only [applicableCaps, List.mem_append, before, true_or, or_true], le_rfl⟩
      · have before := capIf_keeps pieces here
        exact ⟨c', by simp only [applicableCaps, List.mem_append, before, true_or, or_true], le_rfl⟩
      · have before := capIf_keeps (far_before (better.position (Or.inr rfl))) here
        exact ⟨c', by simp only [applicableCaps, List.mem_append, before, or_true], le_rfl⟩

/-- **The cap of better evidence is no lower.** -/
theorem capped_mono (better : NotWorse step e e') :
    (caps e tolerances step).maximumPoints ≤ (caps e' tolerances step).maximumPoints := by
  by_cases trusted : e.trusted = true
  · have most := (caps_spec e tolerances step).2
    have trusted' := better.trusted trusted
    unfold caps at most ⊢
    rw [trusted] at most ⊢
    rw [trusted']
    simp only [Bool.not_true, Bool.false_eq_true, if_false] at most ⊢
    rcases capOf_spec (STEP_TOTALS step) (applicableCaps tolerances e'.geometry step) with
      ⟨-, same⟩ | ⟨⟨c', listed, same⟩, -⟩
    · rw [same]
      exact most
    · obtain ⟨c, before, le⟩ := applicable_before tolerances better listed
      rcases capOf_spec (STEP_TOTALS step) (applicableCaps tolerances e.geometry step) with
        ⟨none, -⟩ | ⟨-, least⟩
      · rw [none] at before
        cases before
      · rw [same]
        exact (least c before).trans le
  · obtain ⟨⟨n, whole⟩, -⟩ := caps_spec e' tolerances step
    have zero : (caps e tolerances step).maximumPoints = 0 := by
      unfold caps
      rw [Bool.not_eq_true] at trusted
      rw [trusted]
      norm_num
    rw [zero, whole]
    exact Nat.cast_nonneg n

/-! ## The score -/

/-- **The score of a step is monotone and bounded.**  Evidence that is not worse in any
graded metric scores no less; and every score lies between zero and its cap, which is at
most the step's points, and is at most the points before capping. -/
theorem rubric_monotone :
    (∀ (tolerances : AdaptiveTolerances K) (step : StepId) (e e' : StepEvidence K)
        (b b' : StepBreakdown K), NotWorse step e e' → scoreStep e tolerances step = .ok b →
      scoreStep e' tolerances step = .ok b' → b.finalScore ≤ b'.finalScore) ∧
    ∀ (tolerances : AdaptiveTolerances K) (step : StepId) (e : StepEvidence K) (b : StepBreakdown K),
      scoreStep e tolerances step = .ok b →
        0 ≤ b.finalScore ∧ b.finalScore ≤ b.cap.maximumPoints ∧
          b.cap.maximumPoints ≤ b.maximumPoints ∧ b.maximumPoints = STEP_TOTALS step ∧
          b.finalScore ≤ b.rawScore := by
  constructor
  · intro tolerances step e e' b b' better scored scored'
    obtain ⟨-, -, -, -, final⟩ := scoreStep_eq e tolerances scored
    obtain ⟨-, -, -, -, final'⟩ := scoreStep_eq e' tolerances scored'
    rw [final, final']
    exact min_le_min (earned_mono tolerances better) (capped_mono tolerances better)
  · intro tolerances step e b scored
    obtain ⟨-, raw, cap, total, final⟩ := scoreStep_eq e tolerances scored
    obtain ⟨⟨n, whole⟩, most⟩ := caps_spec e tolerances step
    rw [raw, cap, total, final]
    refine ⟨le_min (earned_nonneg e tolerances step) ?_, min_le_right _ _, most, rfl,
      min_le_left _ _⟩
    rw [whole]
    exact Nat.cast_nonneg n

/-! ## A joint that connects -/

/-- A sample that hangs on the needle by a section of the joint. -/
def hanging (connected : Bool) (section_ : ℚ) : StepEvidence ℚ where
  stepId := .step_2
  geometry :=
    { sampleToSource := false
      sampleToNeedle := connected
      sampleToTarget := false
      needleJointSection := section_
      targetJointSection := 0
      sampleComponentCount := 1
      totalSampleFraction := 1
      retainedSampleFraction := 1
      samplePositionError := 0
      sampleOrientationError := 0
      sampleIntegrityStep1 := true
      sampleIntegrityFinal := true
      changesWithinWorkEnvelopes := true
      envelopeViolations := []
      needleRetractionDistance := 0
      needleSafelyRetracted := false
      collision := false
      simulatorIdle := true
      canonicalGeometryHash := [] }
  shapes := [(txt "sample", ⟨1⟩), (txt "source_separation", ⟨1⟩), (txt "needle_joint", ⟨1⟩)]
  coMotionScore := 1
  trusted := true
  coMotion_nonneg := by decide
  coMotion_le_one := by decide

def exampleTolerances : AdaptiveTolerances ℚ := ⟨10, 4 / 5, 3 / 10, 5, 5, by norm_num⟩

/-- A thin joint meets a cap that a missing one does not, and scores more. -/
theorem thin_joint_scores :
    (scoreStep (hanging false 0) exampleTolerances .step_2).map StepBreakdown.finalScore = .ok 10 ∧
    (scoreStep (hanging true (1 / 10)) exampleTolerances .step_2).map StepBreakdown.finalScore =
      .ok 12 ∧
    (10 : ℚ) ≤ 12 := by
  have better : NotWorse .step_2 (hanging false 0) (hanging true (1 / 10)) := by
    refine ⟨id, id, fun _ => rfl, id, Or.inl rfl, le_rfl, ?_, id, fun _ => id, fun _ => id,
      fun _ => id, fun _ => le_rfl, fun _ => by norm_num [hanging], fun _ => le_rfl,
      fun _ => le_rfl, fun _ => le_rfl⟩
    intro name _ shape found
    exact ⟨shape, found, le_rfl⟩
  have loose : (scoreStep (hanging false 0) exampleTolerances .step_2).map
      StepBreakdown.finalScore = .ok 10 := ok_of_toOption (by decide +kernel)
  have thin : (scoreStep (hanging true (1 / 10)) exampleTolerances .step_2).map
      StepBreakdown.finalScore = .ok 12 := ok_of_toOption (by decide +kernel)
  refine ⟨loose, thin, ?_⟩
  obtain ⟨b, scored, final⟩ := map_ok_iff.1 loose
  obtain ⟨b', scored', final'⟩ := map_ok_iff.1 thin
  rw [← final, ← final']
  exact (@rubric_monotone ℚ _ _ _ _).1 exampleTolerances .step_2 _ _ b b' better scored scored'

end InstrumentBench.Rubric
