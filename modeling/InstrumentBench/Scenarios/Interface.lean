/-
# Scenarios.Interface -- whether the generator keeps the target joint region in place

The interface of sample and target stands half a sample before the target pose, a frame;
the target joint region stands in a frame of its own.  The generator scales the region's
center with the sample, and leaves both frames where they are.

* `worldPosition_ok_iff`: a frame stands at the sum of the places on its path to the world;
* `onInterface_iff`: the region contains the interface iff the offset from the region's
  frame to the target pose is, less half a sample, within half the region's size of its
  center;
* `varied_onInterface_iff`: a generated document keeps this iff the same offset, which the
  scale does not touch, is within the scaled bounds (`Keeps`);
* `keeps_iff_interval`: where no number is rounded, these are the offsets between the
  scaled ends of an interval, and `keeps_of_coincident`: a region framed at the target pose
  is kept at every scale.

Poles: `nominal_kept` (the nominal document at the scale of the large world) and
`small_misses` (the same at the scale of the small one).
-/
import InstrumentBench.Geometry.Extremes
import InstrumentBench.Scenarios.Generator
import InstrumentBench.Theory.ParentPath
import Mathlib.Tactic.Linarith
import Mathlib.Tactic.NormNum
import Mathlib.Tactic.Ring

namespace InstrumentBench.Scenarios

set_option autoImplicit false
set_option linter.unusedSectionVars false

open InstrumentBench.Theory
open InstrumentBench.Geometry
open InstrumentBench.Fibsem (PyError)

section

variable {K : Type} [Field K] [LinearOrder K] [IsStrictOrderedRing K] [FloorRing K]

/-- The target joint region of a document contains the center of its interface. -/
def OnInterface (d : Document K) : Prop := onInterface d = .ok true

/-! ## Where a frame stands -/

/-- `frames[name].relative_to` -/
def parentOf (frames : Frames K) (name : Text) : Option Text :=
  (frames.lookup name).map PoseSpec.relativeTo

/-- `frames[name].position_um` -/
def placeOf (frames : Frames K) (name : Text) : Vec K :=
  ((frames.lookup name).map PoseSpec.position).getD 0

/-- A vector of exact zeros. -/
theorem origin_eq : (![0.0, 0.0, 0.0] : Vec K) = 0 := by
  have zero : (0.0 : K) = 0 := by norm_num
  funext axis
  fin_cases axis <;> exact zero

theorem resolve_ok_iff {frames : Frames K} {fuel : Nat} {seen : List Text} {name : Text}
    {v : Vec K} :
    ScenarioSpec.resolve frames fuel seen name = .ok v ↔
      ∃ names, ParentPath.path (txt "world") (parentOf frames) fuel seen name = some names ∧
        v = (names.map (placeOf frames)).sum := by
  induction fuel generalizing seen name v with
  | zero => simp [ScenarioSpec.resolve, ParentPath.path, PyError.value]
  | succ fuel ih =>
      unfold ScenarioSpec.resolve ParentPath.path
      by_cases world : name = txt "world"
      · rw [if_pos world, if_pos world, origin_eq]
        simp [eq_comm]
      rw [if_neg world, if_neg world]
      by_cases again : name ∈ seen
      · rw [if_pos again, if_pos again]
        simp [PyError.value]
      rw [if_neg again, if_neg again]
      cases found : frames.lookup name with
      | none => simp [parentOf, found]
      | some pose =>
          have parent : parentOf frames name = some pose.relativeTo := by simp [parentOf, found]
          have place : placeOf frames name = pose.position := by simp [placeOf, found]
          rw [parent, Option.bind_some]
          dsimp only
          constructor
          · intro climbed
            split at climbed
            case h_1 => cases climbed
            case h_2 above resolved =>
                cases climbed
                obtain ⟨names, path, rfl⟩ := ih.1 resolved
                refine ⟨name :: names, by rw [path]; rfl, ?_⟩
                rw [List.map_cons, List.sum_cons, place, add_comm]
          · rintro ⟨names, path, rfl⟩
            obtain ⟨upper, climbed, rfl⟩ := Option.map_eq_some_iff.1 path
            rw [ih.2 ⟨upper, climbed, rfl⟩]
            dsimp only
            rw [List.map_cons, List.sum_cons, place, add_comm]

namespace Document

/-- The frames from one up to the world. -/
def path (d : Document K) (name : Text) : Option (List Text) :=
  ParentPath.path (txt "world") (parentOf d.frames) (d.frames.length + 2) [] name

/-- Where a frame stands in the world, if it does. -/
def standing (d : Document K) (name : Text) : Vec K :=
  (((d.path name).getD []).map (placeOf d.frames)).sum

/-- The offset from the frame of the target joint region to the target pose. -/
def poseOffset (d : Document K) : Vec K :=
  d.standing (txt "target_pose") - d.standing d.targetJointRegion.frame

/-- **A frame stands at the sum of the places on its path.** -/
theorem worldPosition_ok_iff {d : Document K} {name : Text} {v : Vec K} :
    d.worldPosition name = .ok v ↔ (d.path name).isSome = true ∧ v = d.standing name := by
  unfold worldPosition standing path
  rw [resolve_ok_iff, Option.isSome_iff_exists]
  constructor
  · rintro ⟨names, found, rfl⟩
    exact ⟨⟨names, found⟩, by rw [found]; rfl⟩
  · rintro ⟨⟨names, found⟩, rfl⟩
    exact ⟨names, found, by rw [found]; rfl⟩

end Document

/-! ## When a document is on its interface -/

/-- The frames `from_dict` takes. -/
def Framed (frames : Frames K) : Prop :=
  (∀ frame ∈ frames, frame.2.relativeTo ≠ []) ∧
    (∀ name ∈ expectedFrames, name ∈ frames.map Prod.fst) ∧
      ∀ name ∈ frames.map Prod.fst, name ∈ expectedFrames

/-- Half a sample along the first axis. -/
def halfSample (dimensions : Vec K) : Vec K := ![dimensions 0 / 2, 0, 0]

theorem not_leastOf_iff (v : Vec K) : ¬leastOf v ≤ 0.0 ↔ ∀ axis, 0 < v axis := by
  have zero : (0.0 : K) = 0 := by norm_num
  rw [not_le, lt_leastOf_iff, zero]

theorem fromDict_ok_iff {d e : Document K} :
    d.fromDict = .ok e ↔ d = e ∧ (∀ axis, 0 < d.sampleDimensions axis) ∧ Framed d.frames := by
  unfold Document.fromDict Framed
  rw [← not_leastOf_iff]
  by_cases flat : leastOf d.sampleDimensions ≤ 0.0
  · simp [flat, PyError.value]
  rw [if_neg flat]
  by_cases orphan : ∃ frame ∈ d.frames, frame.2.relativeTo = []
  · rw [if_pos orphan]
    obtain ⟨frame, inside, bare⟩ := orphan
    refine ⟨fun made => (nomatch made), ?_⟩
    rintro ⟨-, -, parented, -⟩
    exact absurd bare (parented frame inside)
  rw [if_neg orphan]
  push Not at orphan
  by_cases complete : (∀ name ∈ expectedFrames, name ∈ d.frames.map Prod.fst) ∧
      ∀ name ∈ d.frames.map Prod.fst, name ∈ expectedFrames
  · rw [if_neg (not_not_intro complete)]
    constructor
    · intro made
      exact ⟨Except.ok.inj made, flat, orphan, complete⟩
    · rintro ⟨rfl, -⟩
      rfl
  · rw [if_pos complete]
    refine ⟨fun made => (nomatch made), ?_⟩
    rintro ⟨-, -, -, named⟩
    exact absurd named complete

theorem boxBounds_ok_iff {d : Document K} {box : BoxSpec K} {name : Text} {b : Bounds K} :
    d.boxBounds box name = .ok b ↔
      (d.frames.lookup box.frame).isSome = true ∧ (∀ axis, 0 < box.size axis) ∧
        (d.path box.frame).isSome = true ∧
          (∀ axis, b.minimum axis =
            d.standing box.frame axis + box.center axis - box.size axis / 2) ∧
          ∀ axis, b.maximum axis =
            d.standing box.frame axis + box.center axis + box.size axis / 2 := by
  have two : (2.0 : K) = 2 := by norm_num
  unfold Document.boxBounds
  rw [← not_leastOf_iff, Option.isSome_iff_ne_none]
  by_cases unknown : d.frames.lookup box.frame = none
  · simp [unknown]
  rw [if_neg (by simpa using unknown)]
  by_cases flat : leastOf box.size ≤ 0.0
  · simp [flat]
  rw [if_neg flat, bind_ok_iff]
  have positive := (not_leastOf_iff box.size).1 flat
  have ordered (v : Vec K) (axis : Fin 3) :
      ¬v axis + box.size axis / 2 < v axis - box.size axis / 2 := by
    have := positive axis
    rw [not_lt]
    linarith
  constructor
  · rintro ⟨origin, stands, made⟩
    obtain ⟨known, rfl⟩ := Document.worldPosition_ok_iff.1 stands
    unfold Bounds.around Bounds.new at made
    rw [two] at made
    split at made
    case isFalse => cases made
    case isTrue =>
      cases made
      exact ⟨unknown, flat, known, fun axis => rfl, fun axis => rfl⟩
  · rintro ⟨-, -, known, low, high⟩
    refine ⟨_, Document.worldPosition_ok_iff.2 ⟨known, rfl⟩, ?_⟩
    unfold Bounds.around Bounds.new
    rw [two, dif_pos (ordered _)]
    obtain ⟨minimum, maximum, upright⟩ := b
    obtain rfl : minimum = fun axis =>
        (d.standing box.frame + box.center) axis - box.size axis / 2 := funext low
    obtain rfl : maximum = fun axis =>
        (d.standing box.frame + box.center) axis + box.size axis / 2 := funext high
    rfl

/-- **When the target joint region contains the interface.** -/
theorem onInterface_iff (d : Document K) :
    OnInterface d ↔
      ((∀ axis, 0 < d.sampleDimensions axis) ∧ Framed d.frames) ∧
        ((d.frames.lookup d.targetJointRegion.frame).isSome = true ∧
          (∀ axis, 0 < d.targetJointRegion.size axis) ∧
            (d.path d.targetJointRegion.frame).isSome = true) ∧
          (d.path (txt "target_pose")).isSome = true ∧
            ∀ axis, |d.poseOffset axis - halfSample d.sampleDimensions axis -
              d.targetJointRegion.center axis| ≤ d.targetJointRegion.size axis / 2 := by
  have two : (2.0 : K) = 2 := by norm_num
  have point (v : Vec K) : (![v 0 - d.sampleDimensions 0 / 2.0, v 1, v 2] : Vec K) =
      v - halfSample d.sampleDimensions := by
    funext axis
    fin_cases axis <;> simp [halfSample, two]
  unfold OnInterface onInterface Document.interfaceCentre
  constructor
  · intro judged
    obtain ⟨spec, loaded, judged⟩ := bind_ok_iff.1 judged
    obtain ⟨rfl, sound⟩ := fromDict_ok_iff.1 loaded
    obtain ⟨b, resolved, judged⟩ := bind_ok_iff.1 judged
    obtain ⟨known, positive, stands, low, high⟩ := boxBounds_ok_iff.1 resolved
    obtain ⟨centre, put, judged⟩ := bind_ok_iff.1 judged
    obtain ⟨pose, posed, put⟩ := bind_ok_iff.1 put
    obtain ⟨reached, rfl⟩ := Document.worldPosition_ok_iff.1 posed
    have centre' := Except.ok.inj put
    rw [point] at centre'
    subst centre'
    have inside : pointInside _ b = true := Except.ok.inj judged
    refine ⟨sound, ⟨known, positive, stands⟩, reached, fun axis => ?_⟩
    obtain ⟨after, before⟩ := of_decide_eq_true inside axis
    rw [low] at after
    rw [high] at before
    simp only [Document.poseOffset, Pi.sub_apply] at after before ⊢
    rw [abs_le]
    constructor <;> linarith
  · rintro ⟨sound, ⟨known, positive, stands⟩, reached, inside⟩
    have loaded : d.fromDict = .ok d := fromDict_ok_iff.2 ⟨rfl, sound⟩
    have ordered (axis : Fin 3) :
        ¬d.standing d.targetJointRegion.frame axis + d.targetJointRegion.center axis +
            d.targetJointRegion.size axis / 2 <
          d.standing d.targetJointRegion.frame axis + d.targetJointRegion.center axis -
            d.targetJointRegion.size axis / 2 := by
      have := positive axis
      rw [not_lt]
      linarith
    have resolved : d.boxBounds d.targetJointRegion (txt "target.joint_region") =
        .ok ⟨_, _, ordered⟩ :=
      boxBounds_ok_iff.2 ⟨known, positive, stands, fun axis => rfl, fun axis => rfl⟩
    have posed := Document.worldPosition_ok_iff.2 ⟨reached, rfl⟩
    refine bind_ok_iff.2 ⟨d, loaded, bind_ok_iff.2 ⟨_, resolved, bind_ok_iff.2
      ⟨_, bind_ok_iff.2 ⟨_, posed, rfl⟩, ?_⟩⟩⟩
    rw [point]
    refine congrArg Except.ok (decide_eq_true fun axis => ?_)
    have near := abs_le.1 (inside axis)
    simp only [Document.poseOffset, Pi.sub_apply] at near ⊢
    constructor <;> linarith

/-! ## What the generator leaves of the frames -/

theorem exists_of_framed {frames : Frames K} (framed : Framed frames) (name : String)
    (expected : txt name ∈ expectedFrames) : ∃ pose, frames.lookup (txt name) = some pose := by
  obtain ⟨-, complete, -⟩ := framed
  refine Option.isSome_iff_exists.1 ((PyDict.lookup_isSome_iff _ _).2 ?_)
  exact List.mem_map.1 (complete _ expected)

/-- A frame in another place, with the same parent. -/
theorem framed_set {frames : Frames K} {name : Text} {pose : PoseSpec K} (new : PoseSpec K)
    (framed : Framed frames)
    (found : frames.lookup name = some pose) (same : new.relativeTo = pose.relativeTo) :
    Framed (PyDict.set name new frames) ∧
      (PyDict.set name new frames).length = frames.length ∧
        ∀ other, parentOf (PyDict.set name new frames) other = parentOf frames other := by
  obtain ⟨parented, named⟩ := framed
  have listed : name ∈ frames.map Prod.fst :=
    List.mem_map.2 ⟨_, PyDict.mem_of_lookup found, rfl⟩
  have keys : (PyDict.set name new frames).map Prod.fst = frames.map Prod.fst := by
    rw [PyDict.keys_set, if_pos listed]
  refine ⟨⟨?_, by rw [keys]; exact named⟩, by simpa using congrArg List.length keys, ?_⟩
  · intro frame inside
    rcases PyDict.mem_set inside with old | rfl
    · exact parented frame old
    · rw [same]
      exact parented _ (PyDict.mem_of_lookup found)
  · intro other
    unfold parentOf
    rw [PyDict.lookup_set]
    split
    case isTrue here => rw [here, found, Option.map_some, Option.map_some, same]
    case isFalse => rfl

theorem placeOf_set {frames : Frames K} {name : Text} {new : PoseSpec K} (other : Text) :
    placeOf (PyDict.set name new frames) other =
      placeOf frames other + if other = name then new.position - placeOf frames name else 0 := by
  unfold placeOf
  rw [PyDict.lookup_set]
  split
  case isTrue here =>
      subst here
      simp
  case isFalse => simp

/-- How far the generator moves the needle frame in its parent. -/
def needleShift (d : Document K) (offset : Vec K) : Vec K :=
  addVectors (placeOf d.frames (txt "needle")) offset - placeOf d.frames (txt "needle")

/-- How far it moves the target pose in its parent. -/
def poseShift (d : Document K) (translation : Vec K) : Vec K :=
  addVectors (placeOf d.frames (txt "target_pose")) translation -
    placeOf d.frames (txt "target_pose")

/-- How far that carries a frame, which hangs on the ones it comes by. -/
def carried (d : Document K) (offset translation : Vec K) (name : Text) : Vec K :=
  (if txt "needle" ∈ (d.path name).getD [] then needleShift d offset else 0) +
    if txt "target_pose" ∈ (d.path name).getD [] then poseShift d translation else 0

/-- **What the generator makes of a document**: the sample and the region scaled, the
frames on the same paths and carried by the two that move. -/
theorem variedDocument_spec (nominal : Document K) (framed : Framed nominal.frames)
    (id : ScenarioId) (seed : Nat) {scale : K} (admissible : 0.5 ≤ scale ∧ scale ≤ 1.5)
    (offset translation rotation : Vec K) :
    ∃ d, variedDocument nominal id seed scale offset translation rotation = .ok d ∧
      d.sampleDimensions = scaleVector nominal.sampleDimensions scale ∧
      d.targetJointRegion = scaleBox nominal.targetJointRegion scale ∧
      Framed d.frames ∧ (∀ name, d.path name = nominal.path name) ∧
      (∀ name, (d.frames.lookup name).isSome = (nominal.frames.lookup name).isSome) ∧
      ∀ name, d.standing name = nominal.standing name + carried nominal offset translation name := by
  obtain ⟨needle, atNeedle⟩ := exists_of_framed framed "needle" (by decide)
  obtain ⟨target, atTarget⟩ := exists_of_framed framed "target_pose" (by decide)
  have other : txt "target_pose" ≠ txt "needle" := by decide
  let needle' : PoseSpec K := { needle with position := addVectors needle.position offset }
  let target' : PoseSpec K := { target with
    position := addVectors target.position translation
    orientation := addVectors target.orientation rotation }
  let inner := PyDict.set (txt "needle") needle' nominal.frames
  have inTarget : inner.lookup (txt "target_pose") = some target := by
    rw [PyDict.lookup_set, if_neg other, atTarget]
  obtain ⟨framed₁, length₁, parents₁⟩ := framed_set needle' framed atNeedle rfl
  obtain ⟨framed₂, length₂, parents₂⟩ := framed_set target' framed₁ inTarget rfl
  have read : frameOf nominal.frames "needle" = .ok needle := by rw [frameOf, atNeedle]
  have readTarget : frameOf inner "target_pose" = .ok target := by rw [frameOf, inTarget]
  obtain ⟨d, made, dimensions, region, frames⟩ : ∃ d : Document K,
      variedDocument nominal id seed scale offset translation rotation = .ok d ∧
        d.sampleDimensions = scaleVector nominal.sampleDimensions scale ∧
        d.targetJointRegion = scaleBox nominal.targetJointRegion scale ∧
        d.frames = PyDict.set (txt "target_pose") target' inner := by
    rw [variedDocument, if_neg (not_not_intro admissible), read]
    exact ⟨_, bind_ok_iff.2 ⟨needle, rfl, bind_ok_iff.2 ⟨target, readTarget, rfl⟩⟩, rfl, rfl, rfl⟩
  have same (name : Text) : d.path name = nominal.path name := by
    unfold Document.path
    rw [frames, length₂, length₁]
    exact ParentPath.path_congr _ (fun n => (parents₂ n).trans (parents₁ n)) _ _ _
  have places (name : Text) : placeOf d.frames name = placeOf nominal.frames name +
      (if name = txt "needle" then needleShift nominal offset else 0) +
        if name = txt "target_pose" then poseShift nominal translation else 0 := by
    have inNeedle : needle'.position - placeOf nominal.frames (txt "needle") =
        needleShift nominal offset := by
      rw [needleShift, placeOf, atNeedle]
      rfl
    have inPose : target'.position - placeOf inner (txt "target_pose") =
        poseShift nominal translation := by
      rw [poseShift, placeOf, placeOf, inTarget, atTarget]
      rfl
    rw [frames, placeOf_set, placeOf_set, inNeedle, inPose]
  refine ⟨d, made, dimensions, region, ?_, same, ?_, ?_⟩
  · rw [frames]
    exact framed₂
  · intro name
    have parents := (parents₂ name).trans (parents₁ name)
    rw [← frames] at parents
    simpa [parentOf] using congrArg Option.isSome parents
  · intro name
    unfold Document.standing carried
    rw [same]
    cases found : nominal.path name with
    | none => simp
    | some names =>
        obtain ⟨apart, -⟩ := ParentPath.path_nodup _ found
        rw [Option.getD_some, List.map_congr_left fun n _ => places n,
          ParentPath.sum_map_add_of_nodup _ _ _ apart, ParentPath.sum_map_add_of_nodup _ _ _ apart,
          add_assoc]
        -- Membership is decided by two instances that agree.
        congr

/-! ## When the generator keeps a document on its interface -/

/-- On each axis the offset from the region's frame to the target pose, with what the needle
offset and the rounding of the two written places make of it, is within the scaled bounds. -/
structure Keeps (nominal : Document K) (scale : K) (offset : Vec K) : Prop where
  dimensions : ∀ axis, 0 < stableFloat (nominal.sampleDimensions axis * scale)
  size : ∀ axis, 0 < stableFloat (nominal.targetJointRegion.size axis * scale)
  near : ∀ axis, |nominal.poseOffset axis +
      (carried nominal offset 0 (txt "target_pose") axis -
        carried nominal offset 0 nominal.targetJointRegion.frame axis) -
      halfSample (scaleVector nominal.sampleDimensions scale) axis -
      stableFloat (nominal.targetJointRegion.center axis * scale)| ≤
    stableFloat (nominal.targetJointRegion.size axis * scale) / 2

/-- **The generator keeps a document on its interface** exactly where the offset it does not
scale is within the bounds it scales. -/
theorem varied_onInterface_iff (nominal : Document K) (placed : OnInterface nominal)
    (id : ScenarioId) (seed : Nat) (scale : K) (admissible : 0.5 ≤ scale ∧ scale ≤ 1.5)
    (offset rotation : Vec K) :
    (∃ d, variedDocument nominal id seed scale offset 0 rotation = .ok d ∧ OnInterface d) ↔
      Keeps nominal scale offset := by
  obtain ⟨⟨-, framed⟩, ⟨known, -, stands⟩, reached, -⟩ := (onInterface_iff nominal).1 placed
  obtain ⟨d, made, dimensions, region, framed', path, lookup, standing⟩ :=
    variedDocument_spec nominal framed id seed admissible offset 0 rotation
  have apart (axis : Fin 3) : d.poseOffset axis = nominal.poseOffset axis +
      (carried nominal offset 0 (txt "target_pose") axis -
        carried nominal offset 0 nominal.targetJointRegion.frame axis) := by
    unfold Document.poseOffset
    rw [standing, standing, region]
    simp only [scaleBox, Pi.sub_apply, Pi.add_apply]
    ring
  have judged : OnInterface d ↔ Keeps nominal scale offset := by
    rw [onInterface_iff, lookup, path, path, dimensions, region]
    simp only [apart]
    constructor
    · rintro ⟨⟨thick, -⟩, ⟨-, wide, -⟩, -, near⟩
      exact ⟨thick, wide, near⟩
    · rintro ⟨thick, wide, near⟩
      exact ⟨⟨thick, framed'⟩, ⟨known, wide, stands⟩, reached, near⟩
  constructor
  · rintro ⟨d', made', on⟩
    rw [made] at made'
    cases made'
    exact judged.1 on
  · intro keeps
    exact ⟨d, made, judged.2 keeps⟩

/-! ## Without rounding -/

/-- What `_stable_float` leaves alone. -/
def Stable (value : K) : Prop := stableFloat value = value

/-- Nothing the generator writes of the target joint region and the two frames is rounded,
and neither frame hangs on the needle. -/
structure Unrounded (nominal : Document K) (scale : K) : Prop where
  dimensions : ∀ axis, Stable (nominal.sampleDimensions axis * scale)
  center : ∀ axis, Stable (nominal.targetJointRegion.center axis * scale)
  size : ∀ axis, Stable (nominal.targetJointRegion.size axis * scale)
  place : ∀ axis, Stable (placeOf nominal.frames (txt "target_pose") axis)
  pose : txt "needle" ∉ (nominal.path (txt "target_pose")).getD []
  region : txt "needle" ∉ (nominal.path nominal.targetJointRegion.frame).getD []

/-- **The offsets at which a document is kept**: those between the scaled ends of one
interval on each axis, of which the nominal document says only that it holds its own. -/
theorem keeps_iff_interval (nominal : Document K) (placed : OnInterface nominal) (scale : K)
    (positive : 0 < scale) (offset : Vec K) (unrounded : Unrounded nominal scale) :
    Keeps nominal scale offset ↔ ∀ axis,
      let middle := halfSample nominal.sampleDimensions axis +
        nominal.targetJointRegion.center axis
      let reach := nominal.targetJointRegion.size axis / 2
      scale * (middle - reach) ≤ nominal.poseOffset axis ∧
        nominal.poseOffset axis ≤ scale * (middle + reach) := by
  obtain ⟨⟨thick, -⟩, ⟨-, wide, -⟩, -⟩ := (onInterface_iff nominal).1 placed
  obtain ⟨dimensions, center, size, place, pose, region⟩ := unrounded
  have still : poseShift nominal 0 = 0 := by
    funext axis
    have := place axis
    unfold Stable at this
    simp [poseShift, addVectors, this]
  have settled (name : Text) (free : txt "needle" ∉ (nominal.path name).getD []) :
      carried nominal offset 0 name = 0 := by
    rw [carried, if_neg free, still]
    simp
  have half (axis : Fin 3) : halfSample (scaleVector nominal.sampleDimensions scale) axis =
      halfSample nominal.sampleDimensions axis * scale := by
    have first : stableFloat (nominal.sampleDimensions 0 * scale) = _ := dimensions 0
    fin_cases axis
    · show stableFloat (nominal.sampleDimensions 0 * scale) / 2 =
        nominal.sampleDimensions 0 / 2 * scale
      rw [first]
      ring
    · simp [halfSample]
    · simp [halfSample]
  have near (axis : Fin 3) : (|nominal.poseOffset axis +
        (carried nominal offset 0 (txt "target_pose") axis -
          carried nominal offset 0 nominal.targetJointRegion.frame axis) -
        halfSample (scaleVector nominal.sampleDimensions scale) axis -
        stableFloat (nominal.targetJointRegion.center axis * scale)| ≤
      stableFloat (nominal.targetJointRegion.size axis * scale) / 2) ↔
      scale * (halfSample nominal.sampleDimensions axis + nominal.targetJointRegion.center axis -
          nominal.targetJointRegion.size axis / 2) ≤ nominal.poseOffset axis ∧
        nominal.poseOffset axis ≤ scale * (halfSample nominal.sampleDimensions axis +
          nominal.targetJointRegion.center axis + nominal.targetJointRegion.size axis / 2) := by
    rw [settled _ pose, settled _ region, half, center axis, size axis, abs_le]
    simp only [Pi.zero_apply]
    constructor
    · rintro ⟨low, high⟩
      constructor <;> linarith
    · rintro ⟨low, high⟩
      constructor <;> linarith
  constructor
  · intro keeps axis
    exact (near axis).1 (keeps.near axis)
  · intro within
    refine ⟨fun axis => ?_, fun axis => ?_, fun axis => (near axis).2 (within axis)⟩
    · rw [dimensions axis]
      exact mul_pos (thick axis) positive
    · rw [size axis]
      exact mul_pos (wide axis) positive

/-- A region framed where the target pose stands is kept at every scale. -/
theorem keeps_of_coincident (nominal : Document K) (placed : OnInterface nominal) (scale : K)
    (positive : 0 < scale) (offset : Vec K) (unrounded : Unrounded nominal scale)
    (coincident : nominal.poseOffset = 0) : Keeps nominal scale offset := by
  obtain ⟨-, -, -, near⟩ := (onInterface_iff nominal).1 placed
  refine (keeps_iff_interval nominal placed scale positive offset unrounded).2 fun axis => ?_
  have inside := near axis
  rw [coincident, Pi.zero_apply, abs_le] at inside
  rw [coincident, Pi.zero_apply]
  constructor
  · exact mul_nonpos_of_nonneg_of_nonpos positive.le (by linarith)
  · exact mul_nonneg positive.le (by linarith)

end

/-! ## Poles -/

/-- The document whose scaled copies are the fixed small and large worlds. -/
def nominalDocument : Document ℚ where
  scenarioId := ⟨txt "nominal", by decide⟩
  seed := 0
  frames :=
    [(txt "source", ⟨txt "world", 0, 0⟩), (txt "sample", ⟨txt "source", ![0, 0, 5], 0⟩),
      (txt "needle", ⟨txt "world", ![-28, 0, 7], 0⟩),
      (txt "target", ⟨txt "world", ![-980, 0, 0], 0⟩),
      (txt "coupon", ⟨txt "world", ![50, 40, 0], 0⟩),
      (txt "needle_approach", ⟨txt "sample", ![-8.5, 0, 0], 0⟩),
      (txt "target_pose", ⟨txt "target", ![-9, 0, 6], 0⟩)]
  sampleDimensions := ![14, 8, 10]
  sourceBridge := ⟨txt "sample", ![7, 0, -4], ![1, 2, 2]⟩
  protectedRegion := ⟨txt "sample", ![0, 0, 5], ![12, 2, 1]⟩
  workEnvelopes :=
    { preflight := ⟨txt "coupon", ![0, 0, 2], ![12, 12, 6]⟩
      step1 := ⟨txt "sample", 0, ![24, 18, 16]⟩
      step2 := ⟨txt "sample", 0, ![24, 18, 16]⟩
      step3 := ⟨txt "target", ![-9, 0, 6], ![28, 20, 18]⟩
      step4 := ⟨txt "target", ![-9, 0, 6], ![28, 20, 18]⟩ }
  needleInitialOffset := 0
  needleJointRegion := ⟨txt "sample", ![-7, 0, 0], ![4, 4, 4]⟩
  targetJointRegion := ⟨txt "target", ![-16, 0, 6], ![4, 6, 6]⟩

theorem nominal_onInterface : OnInterface nominalDocument := ok_of_toOption (by decide +kernel)

/-- The nominal document at the scale of the large world. -/
theorem nominal_kept :
    ∃ d, variedDocument nominalDocument ⟨txt "large", by decide⟩ 46102 (5 / 4) 0 0 0 = .ok d ∧
      OnInterface d :=
  (varied_onInterface_iff nominalDocument nominal_onInterface _ _ (5 / 4) (by norm_num) 0 0).2
    ⟨by decide +kernel, by decide +kernel, by decide +kernel⟩

/-- **The small world misses.**  At three quarters of the nominal sample the region ends
three quarters of a micrometer after the interface. -/
theorem small_misses :
    OnInterface nominalDocument ∧
      (variedDocument nominalDocument ⟨txt "small", by decide⟩ 46101 (3 / 4) 0 0 0 >>=
        onInterface) = .ok false :=
  ⟨ok_of_toOption (by decide +kernel), ok_of_toOption (by decide +kernel)⟩

end InstrumentBench.Scenarios
