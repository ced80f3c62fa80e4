/-
# Fibsem.MotionLimit -- how far one operation carries the needle

The dispatcher holds a move to the scenario's `manipulator_delta_um`: it reads the needle
from the backend's state, computes the target and compares axis by axis.  The backend
computes the target again from the same arguments, and the two agree
(`targetOf_of_valid`).

An insertion that names a position is held to the safe range only.  `within_limit` is the
law for runs in which no such position is farther from the needle than the limit: every
accepted operation but a retraction keeps the needle within the limit, on every axis.

Poles: `near_insertion` and `far_insertion`.
-/
import InstrumentBench.Fibsem.Manipulator
import InstrumentBench.Theory.Binary64Order

namespace InstrumentBench.Fibsem.Microscope

set_option autoImplicit false

open InstrumentBench.Theory
open InstrumentBench.Theory.Stateful
open InstrumentBench.Theory.Binary64
open InstrumentBench.Fibsem.Service
open InstrumentBench.Geometry (Steady)

/-! ## The same numbers on both sides -/

theorem finite_isFinite {value : PyValue} {name : Text} {x : Float}
    (read : finite value name = .ok x) : x.isFinite = true := by
  cases value with
  | int i =>
      simp only [finite, floatOfInt] at read
      split at read
      case isTrue known =>
          cases read
          exact known
      case isFalse => cases read
  | float y =>
      simp only [finite] at read
      split at read
      case isTrue known =>
          cases read
          exact known
      case isFalse => cases read
  | _ => cases read

theorem vec3_ok {value : PyValue} {name : Text} {v : Vec} (read : vec3 value name = .ok v) :
    ∃ x y z, value = .seq [x, y, z] ∧ finite x name = .ok v.1 ∧ finite y name = .ok v.2.1 ∧
      finite z name = .ok v.2.2 := by
  unfold vec3 at read
  split at read
  case h_2 => cases read
  case h_1 x y z =>
  split at read
  case h_1 => cases read
  case h_2 first =>
  split at read
  case h_1 => cases read
  case h_2 second =>
  split at read
  case h_1 => cases read
  case h_2 third =>
  cases read
  exact ⟨x, y, z, rfl, first, second, third⟩

/-- The entries of a read vector are finite. -/
theorem vec3_isFinite {value : PyValue} {name : Text} {v : Vec} (read : vec3 value name = .ok v)
    (axis : Fin 3) : (axes v axis).isFinite = true := by
  obtain ⟨x, y, z, -, first, second, third⟩ := vec3_ok read
  fin_cases axis
  · exact finite_isFinite first
  · exact finite_isFinite second
  · exact finite_isFinite third

theorem finite_doubles (m : Libm) {value : PyValue} {name : Text} (name' : Text) {x : Float}
    (read : finite value name = .ok x) :
    Geometry.finite (Geometry.doubles m) value name' = .ok x := by
  have known := finite_isFinite read
  cases value with
  | int i =>
      have given : (Geometry.doubles m).float (.int i) = .ok x := read
      simp only [Geometry.finite, given]
      exact if_pos known
  | float y =>
      have same : y = x := by
        simp only [finite] at read
        split at read
        · exact Except.ok.inj read
        · cases read
      subst same
      exact if_pos known
  | _ => cases read

/-- **Both sides read one vector**: what the dispatcher reads, the backend reads. -/
theorem vec3_doubles (m : Libm) {value : PyValue} {name : Text} (name' : Text) {v : Vec}
    (read : vec3 value name = .ok v) :
    Geometry.vec3 (Geometry.doubles m) value name' = .ok (axes v) := by
  obtain ⟨x, y, z, rfl, first, second, third⟩ := vec3_ok read
  simp only [Geometry.vec3, finite_doubles m name' first, finite_doubles m name' second,
    finite_doubles m name' third]
  rfl

theorem axes_add (v w : Vec) : axes (v.add w) = axes v + axes w := by
  funext axis
  fin_cases axis <;> rfl

theorem axes_sub (v w : Vec) : axes (v.sub w) = axes v - axes w := by
  funext axis
  fin_cases axis <;> rfl

theorem any_eq_false {p : Float → Float → Bool} {v w : Vec} (none : Vec.any p v w = false)
    (axis : Fin 3) : p (axes v axis) (axes w axis) = false := by
  simp only [Vec.any, Bool.or_eq_false_iff] at none
  obtain ⟨⟨first, second⟩, third⟩ := none
  fin_cases axis
  · exact first
  · exact second
  · exact third

/-! ## The limit -/

/-- `manipulator_delta_um` -/
def movementLimit (scenario : ScenarioSpec) : Except PyError Vec :=
  match scenario.member "limits" with
  | .ok (.obj limits) =>
      vec3 (get limits (txt "manipulator_delta_um")).toPy
        (txt "manipulator" ++ txt " movement limit")
  | .ok _ => PyError.reject "scenario movement limits are invalid"
  | .error e => .error e

/-- Axis by axis, unchanged or changed by the limit at most. -/
def Within (scenario : ScenarioSpec) (position position' : Geometry.Vec Float) : Prop :=
  ∀ axis, position' axis = position axis ∨ ∃ maximum, movementLimit scenario = .ok maximum ∧
    (position' axis - position axis).abs ≤ axes maximum axis

theorem movementLimit_isFinite {scenario : ScenarioSpec} {maximum : Vec}
    (limit : movementLimit scenario = .ok maximum) (axis : Fin 3) :
    (axes maximum axis).isFinite = true := by
  unfold movementLimit PyError.reject at limit
  split at limit
  · exact vec3_isFinite limit axis
  · cases limit
  · cases limit

theorem Within.refl (scenario : ScenarioSpec) (position : Geometry.Vec Float) :
    Within scenario position position := fun _ => Or.inl rfl

section

variable {β : Type} {setup : Setup β}

/-- **What a valid move is.** -/
theorem validateMotion_ok {service : FibsemService β} {arguments : Arguments} {target : Vec}
    (valid : validateMotion setup service "manipulator" arguments = .ok target) :
    ∃ relative requested entries current maximum,
      get arguments (txt "relative") = .bool relative ∧
      vec3 (get arguments (txt "position_um")).toPy (txt "manipulator" ++ txt " position") =
        .ok requested ∧
      state setup service = .ok entries ∧
      statePosition entries "needle" = .ok (some current) ∧
      target = (if relative then current.add requested else requested) ∧
      movementLimit setup.scenario = .ok maximum ∧
      Vec.any (fun value bound => bound < value.abs) (target.sub current) maximum = false ∧
      setup.backend.motionIsSafe service.backend (txt "manipulator") target = true := by
  unfold validateMotion PyError.reject at valid
  simp only [show ("manipulator" = "stage") = False from by simp, if_false] at valid
  obtain ⟨-, -, valid⟩ := bind_ok_iff.1 valid
  split at valid
  case h_2 => cases valid
  case h_1 relative isRelative =>
  obtain ⟨_, same, valid⟩ := bind_ok_iff.1 valid
  cases same
  obtain ⟨requested, isRequested, valid⟩ := bind_ok_iff.1 valid
  obtain ⟨entries, isState, valid⟩ := bind_ok_iff.1 valid
  obtain ⟨found, isFound, valid⟩ := bind_ok_iff.1 valid
  split at valid
  case h_2 => cases valid
  case h_1 current =>
  obtain ⟨_, same, valid⟩ := bind_ok_iff.1 valid
  cases same
  obtain ⟨limits, isLimits, valid⟩ := bind_ok_iff.1 valid
  generalize aimed : (if relative = true then current.add requested else requested) = aim at valid
  split at valid
  case h_2 => cases valid
  case h_1 limits =>
  obtain ⟨_, same, valid⟩ := bind_ok_iff.1 valid
  cases same
  obtain ⟨maximum, isMaximum, valid⟩ := bind_ok_iff.1 valid
  split at valid
  case isTrue => cases valid
  case isFalse near =>
  split at valid
  case isFalse => cases valid
  case isTrue safe =>
  cases valid
  have limit : movementLimit setup.scenario = .ok maximum := by
    unfold movementLimit
    rw [isLimits]
    exact isMaximum
  exact ⟨relative, requested, entries, current, maximum, isRelative, isRequested, isState,
    isFound, aimed.symm, limit, Bool.eq_false_iff.2 near, safe⟩

theorem handler_insertManipulator (setup : Setup β) :
    handler setup (txt "insert_manipulator") = some (insertManipulator setup) := rfl

theorem handler_moveManipulator (setup : Setup β) :
    handler setup (txt "move_manipulator") = some (moveManipulator setup) := rfl

/-- A move that passes is a valid one. -/
theorem moveManipulator_valid {d : OperationDispatcher β} {arguments : Arguments} {next : FollowUp}
    (passed : moveManipulator setup d arguments = .ok next) :
    ∃ target, validateMotion setup d.service "manipulator" arguments = .ok target := by
  unfold moveManipulator PyError.reject at passed
  split at passed
  · cases passed
  · obtain ⟨target, valid, -⟩ := bind_ok_iff.1 passed
    exact ⟨target, valid⟩

/-- An insertion that passes names a safe position, if it names one. -/
theorem insertManipulator_safe {d : OperationDispatcher β} {arguments : Arguments} {next : FollowUp}
    (passed : insertManipulator setup d arguments = .ok next) {value : Json}
    (given : arguments.lookup (txt "position_um") = some value) :
    ∃ position, vec3 value.toPy (txt "manipulator position") = .ok position ∧
      setup.backend.motionIsSafe d.service.backend (txt "manipulator") position = true := by
  have asked : get arguments (txt "position_um") = value := by
    unfold get
    rw [given]
    rfl
  unfold insertManipulator PyError.reject at passed
  split at passed
  case isTrue empty =>
      have none : arguments = [] := by simpa [exactKeys, Json.keys] using empty
      rw [none] at given
      cases given
  case isFalse =>
      split at passed
      case isFalse => cases passed
      case isTrue =>
          obtain ⟨position, read, passed⟩ := bind_ok_iff.1 passed
          rw [asked] at read
          split at passed
          case isFalse => cases passed
          case isTrue safe => exact ⟨position, read, safe⟩

end

/-! ## Both compute one target -/

section

variable {ρ : Type} (it : Apparatus ρ)

theorem finite_float {x y : Float} {name : Text} (read : finite (.float x) name = .ok y) :
    y = x := by
  simp only [finite] at read
  split at read
  · exact (Except.ok.inj read).symm
  · cases read

/-- The dispatcher reads the needle where the backend has it. -/
theorem current_of_state {service : FibsemService (Geometry.Backend Float ρ)}
    {entries : List (PyKey × PyValue)} {current : Vec}
    (isState : state it.setup service = .ok entries)
    (isFound : statePosition entries "needle" = .ok (some current)) :
    axes current = service.backend.needle ∧ ∀ axis, (axes current axis).isFinite = true := by
  have listed : entries.lookup (.str (txt "needle")) = some (.seq
      [.float (service.backend.needle 0), .float (service.backend.needle 1),
        .float (service.backend.needle 2)]) := by
    cases isState
    rfl
  unfold statePosition at isFound
  rw [listed] at isFound
  dsimp only [Option.getD] at isFound
  split at isFound
  case h_2 => cases isFound
  case h_3 => cases isFound
  case h_1 position read =>
      cases isFound
      refine ⟨?_, vec3_isFinite read⟩
      obtain ⟨x, y, z, same, first, second, third⟩ := vec3_ok read
      cases same
      funext axis
      fin_cases axis
      · exact finite_float first
      · exact finite_float second
      · exact finite_float third

/-- **A valid move has one target**: the backend goes where the dispatcher checked. -/
theorem targetOf_of_valid {service : FibsemService (Geometry.Backend Float ρ)}
    {arguments : Arguments} {target : Vec}
    (valid : validateMotion it.setup service "manipulator" arguments = .ok target) :
    Geometry.targetOf it.geometry service.backend.needle arguments = .ok (axes target) := by
  obtain ⟨relative, requested, entries, current, maximum, isRelative, isRequested, isState,
    isFound, aimed, -⟩ := validateMotion_ok valid
  obtain ⟨here, -⟩ := current_of_state it isState isFound
  have named : get arguments (txt "position_um") ≠ .null := by
    intro missing
    rw [missing] at isRequested
    cases isRequested
  have relativeGiven : Geometry.field arguments "relative" = .ok (.bool relative) := by
    unfold Geometry.field
    rw [lookup_of_get isRelative (by simp)]
  have requestedGiven :
      Geometry.field arguments "position_um" = .ok (get arguments (txt "position_um")) := by
    unfold Geometry.field
    rw [lookup_of_get rfl named]
  have numerics : it.geometry.numerics = Geometry.doubles it.libm := rfl
  unfold Geometry.targetOf
  rw [requestedGiven]
  simp only [bind, Except.bind, numerics, vec3_doubles it.libm _ isRequested, relativeGiven]
  rw [aimed, ← here]
  cases relative with
  | true => exact congrArg Except.ok (axes_add current requested).symm
  | false => rfl

theorem safe_isFinite {b : Geometry.Backend Float ρ} {kind : Text} {target : Vec}
    (safe : it.setup.backend.motionIsSafe b kind target = true) (axis : Fin 3) :
    (axes target axis).isFinite = true := by
  have bounded : Geometry.motionIsSafe it.geometry kind (axes target) = true := safe
  unfold Geometry.motionIsSafe at bounded
  exact (of_decide_eq_true (Bool.and_eq_true_iff.1 bounded).2 axis).1

/-- **A valid move is within the limit.** -/
theorem within_of_valid {service : FibsemService (Geometry.Backend Float ρ)}
    {arguments : Arguments} {target : Vec}
    (valid : validateMotion it.setup service "manipulator" arguments = .ok target) :
    Within it.scenario service.backend.needle (axes target) := by
  obtain ⟨relative, requested, entries, current, maximum, -, -, isState, isFound, -, limit, near,
    safe⟩ := validateMotion_ok valid
  obtain ⟨here, known⟩ := current_of_state it isState isFound
  intro axis
  refine Or.inr ⟨maximum, limit, ?_⟩
  have bounded := any_eq_false near axis
  rw [axes_sub, Pi.sub_apply, here, decide_eq_false_iff_not] at bounded
  have reachable := safe_isFinite it safe axis
  have difference : IsNumber (axes target axis - service.backend.needle axis).abs :=
    number_abs (number_sub reachable (here ▸ known axis))
  exact le_of_not_lt difference (number_of_finite (movementLimit_isFinite limit axis)) bounded

/-! ## The law -/

/-- The position an insertion names is within the limit, if it is safe. -/
def NamesNear (d : OperationDispatcher (Geometry.Backend Float ρ)) (call : Call) : Prop :=
  ∀ position, Geometry.insertionOf it.geometry d.service.backend.needle call.arguments =
      .ok position →
    Geometry.motionIsSafe it.geometry (txt "manipulator") position = true →
      Within it.scenario d.service.backend.needle position

/-- **Step.**  A dispatch keeps the needle within the limit, but for a retraction. -/
theorem within_step {d : OperationDispatcher (Geometry.Backend Float ρ)} {call : Call}
    (near : call.operation = txt "insert_manipulator" → NamesNear it d call)
    (other : call.operation ≠ txt "retract_manipulator") :
    Within it.scenario d.service.backend.needle
      (dispatch it.setup d call).2.service.backend.needle := by
  rcases dispatch_backend it.setup d call with ⟨⟨a, d', next, invokes⟩, handles⟩ | ⟨-, same⟩
  case inr =>
      rw [same]
      exact Within.refl _ _
  obtain ⟨check, handled, passed⟩ := invokes.checked
  have before : d'.service.backend = d.service.backend := (record_frame invokes.requested).2.2
  rcases handles_needle it handles with ⟨still, -⟩ | ⟨listed, ended⟩
  · rw [still.needle]
    exact Within.refl _ _
  rw [ended]
  simp only [Geometry.needleOperations, List.mem_cons, List.not_mem_nil, or_false] at listed
  rcases listed with named | named | named
  · rw [named, Geometry.invoke_insertManipulator]
    obtain ⟨there | there, -⟩ :=
      Geometry.goes_insertManipulator it.geometry call.arguments d.service.backend
    · rw [there]
      exact Within.refl _ _
    · rw [named, handler_insertManipulator, Option.some_inj] at handled
      subst handled
      cases given : call.arguments.lookup (txt "position_um") with
      | none =>
          -- without a position the needle stays
          unfold Geometry.insertionOf at there
          rw [given] at there
          rw [← Except.ok.inj there]
          exact Within.refl _ _
      | some value =>
          obtain ⟨position, read, safe⟩ := insertManipulator_safe passed given
          have goes : Geometry.insertionOf it.geometry d.service.backend.needle call.arguments =
              .ok (axes position) := by
            unfold Geometry.insertionOf
            rw [given]
            exact vec3_doubles it.libm _ read
          have within := near named (axes position) goes safe
          rw [goes] at there
          rw [← Except.ok.inj there]
          exact within
  · rw [named, Geometry.invoke_moveManipulator]
    obtain ⟨there | there, -⟩ :=
      Geometry.goes_moveManipulator it.geometry call.arguments d.service.backend
    · rw [there]
      exact Within.refl _ _
    · rw [named, handler_moveManipulator, Option.some_inj] at handled
      subst handled
      obtain ⟨target, valid⟩ := moveManipulator_valid passed
      have goes := targetOf_of_valid it valid
      have within := within_of_valid it valid
      rw [before] at goes within
      rw [goes] at there
      rw [← Except.ok.inj there]
      exact within
  · exact absurd named other

/-- **An operation carries the needle by the limit at most**, in every run whose insertions
name no position farther away. -/
theorem within_limit (d : OperationDispatcher (Geometry.Backend Float ρ)) (calls : List Call)
    (near : AlongPast it.setup (fun _ d call =>
      call.operation = txt "insert_manipulator" → NamesNear it d call) [] d calls) :
    AlongPast it.setup (fun _ d call =>
      call.operation ≠ txt "retract_manipulator" → Accepted it.setup d call →
        Within it.scenario d.service.backend.needle
          (dispatch it.setup d call).2.service.backend.needle) [] d calls :=
  AlongPast.of_step (I := fun _ _ => True)
    (fun _ _ _ _ near => ⟨fun other _ => within_step it near other, trivial⟩) trivial near

end

/-! ## Poles -/

/-- An insertion a micrometer from where the needle stands. -/
def nearby : Call :=
  ⟨txt "1", txt "insert_manipulator", [(txt "position_um", .arr [.int (-39), .int 0, .int 0])]⟩

/-- An insertion beyond the limit, at a safe position. -/
def faraway : Call :=
  ⟨txt "1", txt "insert_manipulator", [(txt "position_um", .arr [.int 3000, .int 0, .int 0])]⟩

/-- A near insertion, and a move after it. -/
theorem near_insertion : ∃ d, Fresh stand.setup d ∧
    AlongPast stand.setup (fun _ d call =>
      call.operation ≠ txt "retract_manipulator" → Accepted stand.setup d call →
        Within stand.scenario d.service.backend.needle
          (dispatch stand.setup d call).2.service.backend.needle) [] d [nearby, stepAside] := by
  have evaluates : (standing.toOption.any fun d =>
      (movementLimit stand.scenario).toOption.any fun maximum =>
        (Geometry.insertionOf stand.geometry d.service.backend.needle
            nearby.arguments).toOption.any fun position =>
          decide (∀ axis, (position axis - d.service.backend.needle axis).abs ≤
            axes maximum axis)) = true := by
    decide +kernel
  obtain ⟨d, stands⟩ := exists_standing
  rw [stands] at evaluates
  simp only [show ((.ok d : Except PyError _).toOption = some d) from rfl, Option.any_some]
    at evaluates
  obtain ⟨maximum, limit, evaluates⟩ := (Option.any_eq_true _ _).1 evaluates
  obtain ⟨position, named, near⟩ := (Option.any_eq_true _ _).1 evaluates
  refine ⟨d, fresh_of_standing stands, within_limit stand d _ ⟨?_, ?_, trivial⟩⟩
  · intro _ position' named' _ axis
    have same := (ok_of_toOption named).symm.trans named'
    cases same
    exact Or.inr ⟨maximum, ok_of_toOption limit, of_decide_eq_true near axis⟩
  · intro named
    exact absurd named (by decide +kernel)

/-- **An insertion beyond the limit is accepted.**  The needle goes there in one operation. -/
theorem far_insertion : ∃ d, Fresh stand.setup d ∧
    ¬AlongPast stand.setup (fun _ d call =>
      call.operation ≠ txt "retract_manipulator" → Accepted stand.setup d call →
        Within stand.scenario d.service.backend.needle
          (dispatch stand.setup d call).2.service.backend.needle) [] d [faraway] := by
  have evaluates : (standing.toOption.any fun d => (answered stand.setup d faraway).any fun d' =>
      (decide (d.service.backend.needle 0 ≤ d.service.backend.needle 0) &&
        !decide (d'.service.backend.needle 0 ≤ d.service.backend.needle 0)) &&
      (movementLimit stand.scenario).toOption.all fun maximum =>
        !decide ((d'.service.backend.needle 0 - d.service.backend.needle 0).abs ≤
          axes maximum 0)) = true := by
    decide +kernel
  obtain ⟨d, stands⟩ := exists_standing
  rw [stands] at evaluates
  simp only [Except.toOption, Option.any_some] at evaluates
  obtain ⟨d', answers, evaluates⟩ := (Option.any_eq_true _ _).1 evaluates
  simp only [Bool.and_eq_true, Bool.not_eq_true', decide_eq_true_iff, decide_eq_false_iff_not]
    at evaluates
  obtain ⟨⟨still, moved⟩, beyond⟩ := evaluates
  obtain ⟨room, new⟩ := roomy_standing stands
  obtain ⟨journal, after, -, -⟩ := dispatch_of_answered timely_stand answers room (by omega)
  have listable : d.service.journal.events.length + 1 < 2 ^ 62 := by omega
  have accepted : Accepted stand.setup d faraway :=
    accepted_of_answered timely_stand answers room listable
  have left : (dispatch stand.setup d faraway).2.service.backend.needle =
      d'.service.backend.needle := by
    rw [show d = { d with service.journal := d.service.journal } from rfl, after]
  refine ⟨d, fresh_of_standing stands, ?_⟩
  rintro ⟨kept, -⟩
  have other : faraway.operation ≠ txt "retract_manipulator" := by decide
  have within := kept other accepted 0
  rw [left] at within
  rcases within with same | ⟨maximum, limit, within⟩
  · rw [same] at moved
    exact moved still
  · rw [limit] at beyond
    simp only [Option.all_some, Bool.not_eq_true', decide_eq_false_iff_not] at beyond
    exact beyond within

end InstrumentBench.Fibsem.Microscope
