/-
# Fibsem.Scenario -- numbers, frames and boxes

The validators `finite` and `vec3` through which every number of a scenario and
of a candidate's arguments passes, the frame tree of a scenario, and the
axis-aligned boxes its work envelopes are.
-/
import InstrumentBench.Theory.PyValue

namespace InstrumentBench.Fibsem

set_option autoImplicit false

open InstrumentBench.Theory

/-- An exception, by what the handlers distinguish. -/
inductive PyError where
  | rejected (message : Text)
  | journalError (message : Text)
  | valueError (message : Text)
  | typeError (message : Text)
  | keyError (message : Text)
  | other (typeName message : Text)
deriving DecidableEq

namespace PyError

def value {α : Type} (message : String) : Except PyError α := .error (.valueError (txt message))

def reject {α : Type} (message : String) : Except PyError α := .error (.rejected (txt message))

def runtime {α : Type} (message : String) : Except PyError α :=
  .error (.other (txt "RuntimeError") (txt message))

end PyError

/-- `tuple[float, float, float]` -/
abbrev Vec := Float × Float × Float

namespace Vec

def add (a b : Vec) : Vec := (a.1 + b.1, a.2.1 + b.2.1, a.2.2 + b.2.2)

def sub (a b : Vec) : Vec := (a.1 - b.1, a.2.1 - b.2.1, a.2.2 - b.2.2)

/-- `any(..)` and `all(..)` over two vectors. -/
def any (p : Float → Float → Bool) (a b : Vec) : Bool :=
  p a.1 b.1 || p a.2.1 b.2.1 || p a.2.2 b.2.2

def all (p : Float → Float → Bool) (a b : Vec) : Bool :=
  p a.1 b.1 && p a.2.1 b.2.1 && p a.2.2 b.2.2

end Vec

/-! ## Numbers -/

/-- `float(i)` of an `int`: the nearest double, ties to even. -/
def floatOfInt (i : Int) : Except PyError Float :=
  let x := Float.ofInt i
  if x.isFinite then .ok x
  else .error (.other (txt "OverflowError") (txt "int too large to convert to float"))

/-- `finite` -/
def finite (value : PyValue) (name : Text) : Except PyError Float :=
  match value with
  | .int i => floatOfInt i
  | .float x => if x.isFinite then .ok x else .error (.valueError (name ++ txt " must be finite"))
  | _ => .error (.valueError (name ++ txt " must be numeric"))

/-- `vec3` -/
def vec3 (value : PyValue) (name : Text) : Except PyError Vec :=
  match value with
  | .seq [x, y, z] =>
      match finite x name with
      | .error e => .error e
      | .ok x =>
          match finite y name with
          | .error e => .error e
          | .ok y =>
              match finite z name with
              | .error e => .error e
              | .ok z => .ok (x, y, z)
  | _ => .error (.valueError (name ++ txt " must contain three finite numbers"))

/-! ## Scenarios -/

structure PoseSpec where
  relativeTo : Text
  positionUm : Vec
  orientationDegrees : Vec

/-- The parts of a scenario the dispatcher and the service read. -/
structure ScenarioSpec where
  scenarioId : Text
  frames : List (Text × PoseSpec)
  data : List (Text × Json)

namespace ScenarioSpec

/-- `resolve`; `seen` are the frames on the path so far, and the fuel bounds
their number. -/
def resolve (frames : List (Text × PoseSpec)) : Nat → List Text → Text → Except PyError Vec
  | 0, _, _ => PyError.value "scenario frame cycle"
  | fuel + 1, seen, name =>
      if name = txt "world" then .ok (0.0, 0.0, 0.0)
      else if name ∈ seen then PyError.value "scenario frame cycle"
      else
        match frames.lookup name with
        | none => .error (.keyError name)
        | some pose =>
            match resolve frames fuel (name :: seen) pose.relativeTo with
            | .error e => .error e
            | .ok parent => .ok (parent.add pose.positionUm)

/-- `world_position`; a path visits each frame once before it ends or cycles. -/
def worldPosition (scenario : ScenarioSpec) (frame : Text) : Except PyError Vec :=
  resolve scenario.frames (scenario.frames.length + 2) [] frame

/-- `scenario.data[key]` -/
def member (scenario : ScenarioSpec) (key : String) : Except PyError Json :=
  match scenario.data.lookup (txt key) with
  | some value => .ok value
  | none => .error (.keyError (txt key))

end ScenarioSpec

/-- `value.get(key)` -/
def get (fields : List (Text × Json)) (key : Text) : Json := (fields.lookup key).getD .null

/-! ## Boxes -/

/-- A box; the constructor refuses one whose maximum is below its minimum. -/
structure Bounds where
  minimum : Vec
  maximum : Vec
  ordered : Vec.any (fun low high => high < low) minimum maximum = false

namespace Bounds

/-- `Bounds(minimum, maximum)` -/
def new (minimum maximum : Vec) : Except PyError Bounds :=
  if ordered : Vec.any (fun low high => high < low) minimum maximum = false then
    .ok ⟨minimum, maximum, ordered⟩
  else PyError.value "bounds maximum is below minimum"

def size (b : Bounds) : Vec := b.maximum.sub b.minimum

/-- `contains`, with its default tolerance. -/
def contains (b other : Bounds) : Bool :=
  Vec.all (fun mine theirs => mine - 1e-9 ≤ theirs) b.minimum other.minimum &&
    Vec.all (fun theirs mine => theirs ≤ mine + 1e-9) other.maximum b.maximum

/-- The box of a size around a center, as the dispatcher and the backend build it. -/
def around (center extent : Vec) : Except PyError Bounds :=
  new (center.1 - extent.1 / 2, center.2.1 - extent.2.1 / 2, center.2.2 - extent.2.2 / 2)
    (center.1 + extent.1 / 2, center.2.1 + extent.2.1 / 2, center.2.2 + extent.2.2 / 2)

end Bounds

/-- The C library's sine and cosine. -/
structure Libm where
  cos : Float → Float
  sin : Float → Float

/-- `math.radians` -/
def radians (degrees : Float) : Float := degrees * 0.017453292519943295

/-- A rectangle's extent along the axes after a rotation about the third. -/
def rotatedExtent (m : Libm) (rotation : Float) (size : Vec) : Vec :=
  let angle := radians rotation
  ((m.cos angle).abs * size.1 + (m.sin angle).abs * size.2.1,
    (m.sin angle).abs * size.1 + (m.cos angle).abs * size.2.1,
    size.2.2)

end InstrumentBench.Fibsem
