/-
# Theory.PyValue -- the Python values the programs pass around

`PyValue` is a dynamically typed value: JSON data, the bytes and non-string keys
JSON does not have, and an object of some other class.  `Json.toPy` is the
value `json.loads` builds.
-/
import InstrumentBench.Theory.Json

namespace InstrumentBench.Theory

set_option autoImplicit false

/-- A mapping key: a `str`, or anything else that hashes. -/
inductive PyKey where
  | str (t : Text)
  | other
deriving DecidableEq

inductive PyValue where
  | none
  | bool (b : Bool)
  | int (i : Int)
  | float (x : Float)
  | str (t : Text)
  | bytes (b : Bytes)
  | seq (items : List PyValue)
  | mapping (entries : List (PyKey × PyValue))
  | other (typeName : Text)

instance : Inhabited PyValue := ⟨.none⟩

namespace Json

mutual

def toPy : Json → PyValue
  | .null => .none
  | .bool b => .bool b
  | .int i => .int i
  | .float x => .float x
  | .str t => .str t
  | .arr items => .seq (toPyItems items)
  | .obj fields => .mapping (toPyFields fields)

def toPyItems : List Json → List PyValue
  | [] => []
  | v :: vs => toPy v :: toPyItems vs

def toPyFields : List (Text × Json) → List (PyKey × PyValue)
  | [] => []
  | (k, v) :: fs => (.str k, toPy v) :: toPyFields fs

end

end Json

end InstrumentBench.Theory
