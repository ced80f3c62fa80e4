/-
# Geometry.Needle -- where the needle is and whether it is inserted

Three operations reach the needle.  A move goes to the target it asks for and an
insertion to the position it names, or they raise first (`goes_moveManipulator`,
`goes_insertManipulator`); only an insertion sets the flag and only a retraction clears it
(`inserted_of_insertion`).  Every other operation leaves both alone (`steady_invoke`).
-/
import InstrumentBench.Geometry.Transitions

namespace InstrumentBench.Geometry

set_option autoImplicit false
set_option linter.unusedSectionVars false

open InstrumentBench.Theory
open InstrumentBench.Theory.Stateful
open InstrumentBench.Fibsem (PyError)

section

variable {K ρ : Type} [Add K] [Sub K] [Neg K] [Mul K] [Div K] [LT K] [DecidableLT K] [LE K]
  [DecidableLE K] [OfScientific K]

/-- The needle is where it was, and inserted if it was. -/
structure Steady (s t : Backend K ρ) : Prop where
  needle : t.needle = s.needle
  inserted : t.needleInserted = s.needleInserted

instance : Std.Refl (@Steady K ρ _) := ⟨fun _ => ⟨rfl, rfl⟩⟩

instance : IsTrans (Backend K ρ) Steady :=
  ⟨fun _ _ _ first rest => ⟨rest.needle.trans first.needle, rest.inserted.trans first.inserted⟩⟩

/-- The needle is where it was or at the position. -/
structure Goes (position : Vec K) (s t : Backend K ρ) : Prop where
  needle : t.needle = s.needle ∨ t.needle = position
  inserted : t.needleInserted = s.needleInserted

theorem Goes.then_steady {position : Vec K} {s t u : Backend K ρ} (goes : Goes position s t)
    (still : Steady t u) : Goes position s u where
  needle := by
    rw [still.needle]
    exact goes.needle
  inserted := still.inserted.trans goes.inserted

variable {setup : Setup K ρ} {α : Type}

/-! ## What leaves the needle alone -/

theorem steady_call (m : ρ → Except PyError α × ρ) : Leads Steady (call m : Method K ρ α) :=
  fun _ => ⟨rfl, rfl⟩

theorem steady_synchronize : Leads Steady (synchronize setup) :=
  leads_get_bind fun s => steady_call _ s

theorem steady_settle (position : Vec K) (inserted : Bool) :
    Leads Steady (settle setup position inserted) :=
  (steady_call _).seq fun _ => steady_synchronize.seq fun _ => leads_get_bind fun s =>
    leads_pure (R := Steady) _ s

theorem steady_finishPattern : Leads Steady (finishPattern setup) :=
  steady_synchronize.seq fun _ => leads_modify fun _ => ⟨rfl, rfl⟩

theorem steady_receipt : Leads Steady (receipt : Method K ρ (Answer K)) :=
  leads_get_bind fun s => leads_pure (R := Steady) _ s

theorem steady_beginPattern (operation : String) (purpose : Text) (pattern : Arguments) :
    Leads Steady (beginPattern setup operation purpose pattern) :=
  (leads_modify fun _ => ⟨rfl, rfl⟩).seq fun _ => leads_lift_bind fun _ _ => steady_call _

theorem steady_recordChange (operation : ChangeKind) (purpose : Text) (bounds : Bounds K)
    (volume : K) : Leads Steady (recordChange setup operation purpose bounds volume) :=
  leads_lift_bind fun _ _ => leads_modify fun _ => ⟨rfl, rfl⟩

theorem steady_runCut (arguments : Arguments) : Leads Steady (runCut setup arguments) := by
  refine leads_lift_bind fun request _ => ?_
  refine (steady_beginPattern _ _ _).seq fun _ => ?_
  refine leads_lift_bind fun bounds _ => ?_
  refine (steady_recordChange _ _ _ _).seq fun _ => ?_
  refine leads_get_bind fun s => ?_
  refine leads_lift_bind (fun left _ => ?_) s
  refine (leads_modify fun _ => ⟨rfl, rfl⟩).seq fun _ => ?_
  exact steady_finishPattern.seq fun _ => steady_receipt

theorem steady_runDeposition (arguments : Arguments) :
    Leads Steady (runDeposition setup arguments) := by
  refine leads_lift_bind fun request _ => ?_
  refine (steady_beginPattern _ _ _).seq fun _ => ?_
  refine leads_lift_bind fun bounds _ => ?_
  refine (steady_recordChange _ _ _ _).seq fun _ => ?_
  refine leads_get_bind fun s => ?_
  refine leads_lift_bind (fun part _ => ?_) s
  refine (leads_modify fun _ => ⟨rfl, rfl⟩).seq fun _ => ?_
  exact steady_finishPattern.seq fun _ => steady_receipt

theorem steady_acquireImage (arguments : Arguments) :
    Leads Steady (acquireImage setup arguments) :=
  leads_lift_bind fun _ _ => (steady_call _).seq fun _ => leads_lift _

theorem steady_moveStage (arguments : Arguments) : Leads Steady (moveStage setup arguments) :=
  leads_get_bind fun s => leads_lift_bind (fun _ _ =>
    (leads_modify fun _ => ⟨rfl, rfl⟩).seq fun _ => (steady_call _).seq fun _ =>
      leads_pure (R := Steady) _) s

theorem steady_getStagePosition : Leads Steady (getStagePosition : Method K ρ (Answer K)) :=
  leads_get_bind fun s => leads_pure (R := Steady) _ s

theorem steady_getManipulatorState :
    Leads Steady (getManipulatorState : Method K ρ (Answer K)) :=
  leads_get_bind fun s => leads_pure (R := Steady) _ s

theorem steady_stop (kind : String) : Leads Steady (stop setup kind) :=
  (steady_call _).seq fun _ => leads_pure _

theorem steady_patternStatus (arguments : Arguments) :
    Leads Steady (patternStatus arguments : Method K ρ (Answer K)) :=
  leads_lift_bind fun _ _ => leads_get_bind fun s => leads_pure (R := Steady) _ s

theorem steady_stopPattern (arguments : Arguments) :
    Leads Steady (stopPattern setup arguments) :=
  (steady_call _).seq fun _ => (leads_modify fun _ => ⟨rfl, rfl⟩).seq fun _ =>
    leads_lift_bind fun _ _ => leads_pure _

/-- The operations that reach the needle. -/
def needleOperations : List Text :=
  [txt "insert_manipulator", txt "move_manipulator", txt "retract_manipulator"]

/-- **No other operation reaches it.** -/
theorem steady_invoke {operation : Text} (arguments : Arguments)
    (other : operation ∉ needleOperations) : Leads Steady (invoke setup operation arguments) := by
  simp only [needleOperations, List.mem_cons, List.not_mem_nil, or_false, not_or] at other
  obtain ⟨insert, move, retract⟩ := other
  unfold invoke
  refine leads_ite (fun _ => (steady_call _).seq fun _ => leads_pure _) fun _ => ?_
  refine leads_ite (fun _ => leads_pure _) fun _ => ?_
  refine leads_ite (fun _ => steady_acquireImage arguments) fun _ => ?_
  refine leads_ite (fun _ => steady_getStagePosition) fun _ => ?_
  refine leads_ite (fun _ => steady_moveStage arguments) fun _ => ?_
  refine leads_ite (fun _ => steady_stop "stage") fun _ => ?_
  refine leads_ite (fun _ => steady_getManipulatorState) fun _ => ?_
  refine leads_ite (fun named => absurd named insert) fun _ => ?_
  refine leads_ite (fun named => absurd named move) fun _ => ?_
  refine leads_ite (fun named => absurd named retract) fun _ => ?_
  refine leads_ite (fun _ => steady_stop "manipulator") fun _ => ?_
  refine leads_ite (fun _ => steady_runCut arguments) fun _ => ?_
  refine leads_ite (fun _ => steady_runDeposition arguments) fun _ => ?_
  refine leads_ite (fun _ => steady_patternStatus arguments) fun _ => ?_
  exact leads_ite (fun _ => steady_stopPattern arguments) fun _ => leads_lift _

theorem invoke_insertManipulator (setup : Setup K ρ) (arguments : Arguments) :
    invoke setup (txt "insert_manipulator") arguments = insertManipulator setup arguments := by
  unfold invoke
  iterate 7 rw [if_neg (by decide)]
  rw [if_pos rfl]

theorem invoke_moveManipulator (setup : Setup K ρ) (arguments : Arguments) :
    invoke setup (txt "move_manipulator") arguments = moveManipulator setup arguments := by
  unfold invoke
  iterate 8 rw [if_neg (by decide)]
  rw [if_pos rfl]

/-! ## What moves it -/

theorem goes_moveNeedleGeometry (position : Vec K) :
    Leads (Goes position) (moveNeedleGeometry setup position) := by
  refine leads_get_bind fun s => ?_
  show Goes position s (outcome _ s).2
  rw [outcome_bind]
  dsimp only [outcome_modify]
  rw [outcome_bind, outcome_lift]
  split
  case h_1 moved t same =>
      obtain ⟨-, rfl⟩ := Prod.mk.inj same
      exact ⟨Or.inr rfl, rfl⟩
  case h_2 e t same =>
      obtain ⟨-, rfl⟩ := Prod.mk.inj same
      exact ⟨Or.inl rfl, rfl⟩

theorem goes_settled (setup : Setup K ρ) (position : Vec K) (inserted : Bool) :
    Leads (Goes position) (do
      moveNeedleGeometry setup position
      settle setup position inserted : Method K ρ (Answer K)) :=
  (goes_moveNeedleGeometry position).bind (fun _ => steady_settle position inserted)
    (fun _ _ h => h) fun _ _ _ h k => h.then_steady k

/-- **A move goes to its target**, if it gets that far. -/
theorem goes_moveManipulator (setup : Setup K ρ) (arguments : Arguments) :
    Leads (fun s t => (t.needle = s.needle ∨ targetOf setup s.needle arguments = .ok t.needle) ∧
      t.needleInserted = s.needleInserted) (moveManipulator setup arguments) := by
  refine leads_get_bind fun s => ?_
  rw [after, outcome_bind, outcome_lift]
  cases asked : targetOf setup s.needle arguments with
  | error e => exact ⟨Or.inl rfl, rfl⟩
  | ok position =>
      obtain ⟨needle, inserted⟩ := goes_settled setup position s.needleInserted s
      refine ⟨needle.imp_right fun there => ?_, inserted⟩
      rw [after] at there
      exact congrArg Except.ok there.symm

/-- **An insertion goes to its position**, if it gets that far. -/
theorem goes_insertManipulator (setup : Setup K ρ) (arguments : Arguments) :
    Leads (fun s t =>
      (t.needle = s.needle ∨ insertionOf setup s.needle arguments = .ok t.needle) ∧
        (t.needleInserted = s.needleInserted ∨ t.needleInserted = true))
      (insertManipulator setup arguments) := by
  refine leads_get_bind fun s => ?_
  rw [after, outcome_bind, outcome_lift]
  cases asked : insertionOf setup s.needle arguments with
  | error e => exact ⟨Or.inl rfl, Or.inl rfl⟩
  | ok position =>
      obtain ⟨needle, inserted⟩ :=
        goes_settled setup position true { s with needleInserted := true }
      refine ⟨needle.imp_right fun there => ?_, Or.inr inserted⟩
      rw [after] at there
      exact congrArg Except.ok there.symm

/-- **The needle is inserted** by an insertion that answers. -/
theorem inserted_of_insertion {arguments : Arguments} {s t : Backend K ρ} {answer : Answer K}
    (answered : outcome (insertManipulator setup arguments) s = (.ok answer, t)) :
    t.needleInserted = true := by
  unfold insertManipulator at answered
  rw [outcome_bind, outcome_get] at answered
  dsimp only at answered
  rw [outcome_bind, outcome_lift] at answered
  cases asked : insertionOf setup s.needle arguments with
  | error e =>
      rw [asked] at answered
      cases answered
  | ok position =>
      rw [asked] at answered
      obtain ⟨-, inserted⟩ :=
        goes_settled setup position true { s with needleInserted := true }
      have ended : (outcome (do
          moveNeedleGeometry setup position
          settle setup position true : Method K ρ (Answer K))
            { s with needleInserted := true }).2 = t := congrArg Prod.snd answered
      rw [← ended]
      exact inserted

end

end InstrumentBench.Geometry
