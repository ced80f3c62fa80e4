/-
# Visa.WorldContract -- the file a world is handed to the container in

`dump_world` writes a `WorldSpec` as one JSON object and `load_world` reads it
back; the same `_validate_value` stands behind both.  Between the two stands the
schema of a specification (`Admits`), which speaks of no document:

* `admits_of_validateFields`: what the validator accepts spells a specification
  the schema admits, and the loader builds it;
* `validateFields_of_written`: the object written for such a specification is
  accepted (`Written` says what it holds);
* `build_of_written`: the loader builds the specification it was written for.

The validator takes `str.isdigit` of one code point as a parameter.  It reads a
document through `value[name]` alone, so the order of the members plays no part.
The temporary file, the symbolic link and the errors of the operating system are
left out: a file is the bytes it holds.
-/
import InstrumentBench.Theory.JsonLoaded
import InstrumentBench.Theory.Binary64Bounds
import InstrumentBench.Theory.Stateful
import InstrumentBench.Fibsem.Journal
import Mathlib.Data.Finset.Sort
import Mathlib.Data.List.Lex

namespace InstrumentBench.Visa.WorldContract

set_option autoImplicit false

open InstrumentBench.Theory
open InstrumentBench.Fibsem.Journal (asciiBytes field)

def MAX_WORLD_BYTES : Nat := 65536

/-- A `WorldSpec`; a `frozenset` is a finite set. -/
structure WorldSpec where
  worldId : Text
  seed : Int
  gain : Float
  offsetV : Float
  dmmNoiseV : Float
  scopeNoiseV : Float
  settleMs : Int
  supplyVoltageV : Float
  requiredRoutes : Finset Text
  gainMin : Float
  gainMax : Float
  crossErrorMaxV : Float
  dmmFormat : Text
  binaryLengthDigits : Int
  initialPsuOutput : Bool
  initialAwgOutput : Bool
  initialClosedRoutes : Finset Text
  resourceMap : List (Text × Text)
  distractors : List (Text × Text)
  transientErrorRole : Option Text
  transientErrorCommand : Option Text
  transientErrorCount : Int
deriving DecidableEq

/-- `field.name for field in fields(WorldSpec)` -/
def fieldNames : List String :=
  ["world_id", "seed", "gain", "offset_v", "dmm_noise_v", "scope_noise_v", "settle_ms",
   "supply_voltage_v", "required_routes", "gain_min", "gain_max", "cross_error_max_v",
   "dmm_format", "binary_length_digits", "initial_psu_output", "initial_awg_output",
   "initial_closed_routes", "resource_map", "distractors", "transient_error_role",
   "transient_error_command", "transient_error_count"]

def WORLD_KEYS : Finset Text := (fieldNames.map txt).toFinset

def ROLES : Finset Text := (["psu", "switch", "awg", "scope", "dmm"].map txt).toFinset

/-- What `dump_world` and `load_world` raise. -/
inductive WorldError where
  /-- `WorldContractError` -/
  | contract (message : Text)
  /-- `ValueError` of an integer past the digit limit -/
  | digits
  /-- `OverflowError`: an integer that is no double -/
  | overflow
  /-- `TypeError`: a list or a dict looked up in a set -/
  | unhashable
  /-- A constant `NaN` or `Infinity`: `json.loads` reads it, and the check of the
  member it stands in refuses it. -/
  | constant
deriving DecidableEq

def refuse {α : Type} (message : String) : Except WorldError α := .error (.contract (txt message))

/-- `if not holds: raise WorldContractError(message)` -/
def check (holds : Bool) (message : String) : Except WorldError Unit :=
  if holds then .ok () else refuse message

/-! ## Values of the declared types -/

def text? : Json → Option Text
  | .str t => some t
  | _ => none

/-- `isinstance(item, int)`, a `bool` left out. -/
def integer? : Json → Option Int
  | .int i => some i
  | _ => none

def flag? : Json → Option Bool
  | .bool b => some b
  | _ => none

/-- `float(item)` of a number. -/
def float? : Json → Option Float
  | .int i => some (Float.ofInt i)
  | .float x => some x
  | _ => none

/-- A list of strings. -/
def texts? : Json → Option (List Text)
  | .arr items => items.mapM text?
  | _ => none

/-- A list of two nonempty strings. -/
def pair? : Json → Option (Text × Text)
  | .arr [.str a, .str b] => if a ≠ [] ∧ b ≠ [] then some (a, b) else none
  | _ => none

/-- The pairs of a value that passes `_pairs`. -/
def pairs? : Json → Option (List (Text × Text))
  | .arr items => items.mapM pair?
  | _ => none

/-- A string or `None`. -/
def optional? : Json → Option (Option Text)
  | .null => some none
  | .str t => some (some t)
  | _ => none

/-! ## `_validate_value` -/

section Validate

variable (isdigit : CodePoint → Bool)

/-- `route.isdigit()` -/
def isRoute (route : Text) : Bool := route ≠ [] && route.all isdigit

def checkNumber (value : String → Json) (name : String) : Except WorldError Unit :=
  match value name with
  | .int i => if (Float.ofInt i).isFinite then .ok () else .error .overflow
  | .float x => check x.isFinite ("invalid " ++ name)
  | _ => refuse ("invalid " ++ name)

/-- `item < 0` of a number. -/
def isNegative : Json → Bool
  | .int i => i < 0
  | .float x => x < 0.0
  | _ => false

/-- `if item not in members: raise WorldContractError(message)` -/
def checkMember (item : Json) (members : Finset Text) (message : String) : Except WorldError Unit :=
  match item with
  | .str t => check (t ∈ members) message
  | .arr _ | .obj _ => .error .unhashable
  | _ => refuse message

/-- `if role is not None and role not in ROLES: raise` -/
def checkRole (role : Json) : Except WorldError Unit :=
  if role = .null then .ok () else checkMember role ROLES "invalid transient error role"

/-- The checks of `_validate_value` behind the one of the keys. -/
def validateFields (value : String → Json) : Except WorldError Unit := do
  check ((text? (value "world_id")).any (· ≠ [])) "invalid world_id"
  check (integer? (value "seed")).isSome "invalid seed"
  check (integer? (value "settle_ms")).isSome "invalid settle_ms"
  check (integer? (value "binary_length_digits")).isSome "invalid binary_length_digits"
  check (integer? (value "transient_error_count")).isSome "invalid transient_error_count"
  check ((integer? (value "settle_ms")).any (1 ≤ ·) &&
    (integer? (value "binary_length_digits")).any fun n => 1 ≤ n && n ≤ 3)
    "invalid timing or binary format"
  check ((integer? (value "transient_error_count")).any (0 ≤ ·)) "invalid transient error count"
  checkNumber value "gain"
  checkNumber value "offset_v"
  checkNumber value "dmm_noise_v"
  checkNumber value "scope_noise_v"
  checkNumber value "supply_voltage_v"
  checkNumber value "gain_min"
  checkNumber value "gain_max"
  checkNumber value "cross_error_max_v"
  check (!isNegative (value "dmm_noise_v") && !isNegative (value "scope_noise_v"))
    "noise must be non-negative"
  checkMember (value "dmm_format") {txt "decimal", txt "scientific"} "invalid dmm_format"
  check (flag? (value "initial_psu_output")).isSome "invalid initial_psu_output"
  check (flag? (value "initial_awg_output")).isSome "invalid initial_awg_output"
  check ((texts? (value "required_routes")).any fun routes =>
    routes.all (isRoute isdigit) && routes.length = routes.toFinset.card) "invalid required_routes"
  check ((texts? (value "initial_closed_routes")).any fun routes =>
    routes.all (isRoute isdigit) && routes.length = routes.toFinset.card)
    "invalid initial_closed_routes"
  check ((pairs? (value "resource_map")).any fun mapping =>
    mapping.length = 5 && (mapping.map Prod.fst).toFinset = ROLES)
    "resource_map must define five roles"
  check ((pairs? (value "distractors")).any fun distractors => distractors.length ≤ 3)
    "invalid distractors"
  check ((pairs? (value "resource_map")).any fun mapping =>
    (pairs? (value "distractors")).any fun distractors =>
      let resources := mapping.map Prod.snd ++ distractors.map Prod.fst
      resources.length = resources.toFinset.card) "resource names must be unique"
  checkRole (value "transient_error_role")
  check (value "transient_error_command" = .null ||
    (text? (value "transient_error_command")).any (· ≠ [])) "invalid transient error command"
  check (value "transient_error_count" = .int 0 ||
    !(value "transient_error_role" = .null || value "transient_error_command" = .null))
    "incomplete transient error"

/-- `_validate_value` -/
def validateValue (value : Json) : Except WorldError Unit :=
  match value with
  | .obj fields =>
      if (Json.keys fields).toFinset = WORLD_KEYS then validateFields isdigit (field fields)
      else refuse "world fields do not match schema"
  | _ => refuse "world fields do not match schema"

end Validate

/-! ## `dump_world` -/

/-- `sorted(routes)` of a frozenset. -/
def sortedRoutes (routes : Finset Text) : List Text := routes.sort

def textArray (texts : List Text) : Json := .arr (texts.map .str)

def pairArray (pairs : List (Text × Text)) : Json :=
  .arr (pairs.map fun item => .arr [.str item.1, .str item.2])

def optionalText : Option Text → Json
  | none => .null
  | some t => .str t

/-- The value `dump_world` writes. -/
def WorldSpec.toDict (spec : WorldSpec) : List (Text × Json) :=
  [(txt "world_id", .str spec.worldId),
   (txt "seed", .int spec.seed),
   (txt "gain", .float spec.gain),
   (txt "offset_v", .float spec.offsetV),
   (txt "dmm_noise_v", .float spec.dmmNoiseV),
   (txt "scope_noise_v", .float spec.scopeNoiseV),
   (txt "settle_ms", .int spec.settleMs),
   (txt "supply_voltage_v", .float spec.supplyVoltageV),
   (txt "required_routes", textArray (sortedRoutes spec.requiredRoutes)),
   (txt "gain_min", .float spec.gainMin),
   (txt "gain_max", .float spec.gainMax),
   (txt "cross_error_max_v", .float spec.crossErrorMaxV),
   (txt "dmm_format", .str spec.dmmFormat),
   (txt "binary_length_digits", .int spec.binaryLengthDigits),
   (txt "initial_psu_output", .bool spec.initialPsuOutput),
   (txt "initial_awg_output", .bool spec.initialAwgOutput),
   (txt "initial_closed_routes", textArray (sortedRoutes spec.initialClosedRoutes)),
   (txt "resource_map", pairArray spec.resourceMap),
   (txt "distractors", pairArray spec.distractors),
   (txt "transient_error_role", optionalText spec.transientErrorRole),
   (txt "transient_error_command", optionalText spec.transientErrorCommand),
   (txt "transient_error_count", .int spec.transientErrorCount)]

/-- `dump_world`: the bytes of the file. -/
def dumpWorld (isdigit : CodePoint → Bool) (spec : WorldSpec) : Except WorldError Bytes := do
  let value := Json.obj spec.toDict
  validateValue isdigit value
  if value.withinDigits then
    let payload := asciiBytes value.dumps
    if payload.length ≤ MAX_WORLD_BYTES then .ok payload
    else refuse "world definition is too large"
  else .error .digits

/-! ## `load_world` -/

/-- The newlines of `read_text`: `\r\n` and `\r` are read as `\n`. -/
def universalNewlines : Text → Text
  | [] => []
  | c :: rest =>
      if c = 13 then
        match rest with
        | [] => [10]
        | d :: rest =>
            if d = 10 then 10 :: universalNewlines rest else 10 :: universalNewlines (d :: rest)
      else c :: universalNewlines rest

/-- `path.read_text(encoding="utf-8")` and `json.loads` of it. -/
def readDocument (document : Bytes) : Except WorldError Json :=
  match decodeUtf8 false document with
  | none => refuse "cannot read world definition"
  | some t =>
      match Json.loads (universalNewlines t) with
      | .ok value => .ok value
      | .error .malformed | .error .undecodable => refuse "cannot read world definition"
      | .error (.duplicateKey _) => refuse "duplicate world field"
      | .error (.constant _) => .error .constant
      | .error .tooManyDigits => .error .digits

/-- The `WorldSpec` `load_world` returns; `none` where a value has not the type of its
field, which the validator has excluded. -/
def build (value : String → Json) : Option WorldSpec := do
  let worldId ← text? (value "world_id")
  let seed ← integer? (value "seed")
  let gain ← float? (value "gain")
  let offsetV ← float? (value "offset_v")
  let dmmNoiseV ← float? (value "dmm_noise_v")
  let scopeNoiseV ← float? (value "scope_noise_v")
  let settleMs ← integer? (value "settle_ms")
  let supplyVoltageV ← float? (value "supply_voltage_v")
  let requiredRoutes ← texts? (value "required_routes")
  let gainMin ← float? (value "gain_min")
  let gainMax ← float? (value "gain_max")
  let crossErrorMaxV ← float? (value "cross_error_max_v")
  let dmmFormat ← text? (value "dmm_format")
  let binaryLengthDigits ← integer? (value "binary_length_digits")
  let initialPsuOutput ← flag? (value "initial_psu_output")
  let initialAwgOutput ← flag? (value "initial_awg_output")
  let initialClosedRoutes ← texts? (value "initial_closed_routes")
  let resourceMap ← pairs? (value "resource_map")
  let distractors ← pairs? (value "distractors")
  let transientErrorRole ← optional? (value "transient_error_role")
  let transientErrorCommand ← optional? (value "transient_error_command")
  let transientErrorCount ← integer? (value "transient_error_count")
  some
    { worldId, seed, gain, offsetV, dmmNoiseV, scopeNoiseV, settleMs, supplyVoltageV
      requiredRoutes := requiredRoutes.toFinset
      gainMin, gainMax, crossErrorMaxV, dmmFormat, binaryLengthDigits, initialPsuOutput
      initialAwgOutput
      initialClosedRoutes := initialClosedRoutes.toFinset
      resourceMap, distractors, transientErrorRole, transientErrorCommand, transientErrorCount }

/-- `load_world` of a file that holds `document`. -/
def loadWorld (isdigit : CodePoint → Bool) (document : Bytes) : Except WorldError WorldSpec := do
  if document.length ≤ MAX_WORLD_BYTES then
    let value ← readDocument document
    validateValue isdigit value
    match value with
    | .obj fields =>
        match build (field fields) with
        | some spec => .ok spec
        | none => refuse "world fields do not match schema"
    | _ => refuse "world fields do not match schema"
  else refuse "invalid world definition file"

/-! ## What the readers of one member accept -/

theorem mapM_some_iff {α β : Type} {f : α → Option β} {g : β → α} {P : β → Prop}
    (each : ∀ a b, f a = some b ↔ a = g b ∧ P b) (items : List α) (values : List β) :
    items.mapM f = some values ↔ items = values.map g ∧ ∀ b ∈ values, P b := by
  induction items generalizing values with
  | nil =>
      cases values with
      | nil => simp
      | cons b values => simp
  | cons a items ih =>
      rw [List.mapM_cons]
      simp only [Option.bind_eq_bind, Option.bind_eq_some_iff, Option.pure_def, each, ih]
      cases values with
      | nil => simp
      | cons b values =>
          simp only [List.map_cons, List.cons.injEq, List.forall_mem_cons, Option.some.injEq]
          constructor
          · rintro ⟨b', ⟨here, good⟩, values', ⟨there, rest⟩, rfl, rfl⟩
            exact ⟨⟨here, there⟩, good, rest⟩
          · rintro ⟨⟨here, there⟩, good, rest⟩
            exact ⟨b, ⟨here, good⟩, values, ⟨there, rest⟩, rfl, rfl⟩

theorem text?_iff (v : Json) (t : Text) : text? v = some t ↔ v = .str t := by
  cases v <;> simp [text?]

theorem integer?_iff (v : Json) (i : Int) : integer? v = some i ↔ v = .int i := by
  cases v <;> simp [integer?]

theorem texts?_iff (v : Json) (texts : List Text) :
    texts? v = some texts ↔ v = textArray texts := by
  have each : ∀ a b, text? a = some b ↔ a = .str b ∧ True := fun a b => by
    rw [text?_iff, and_true]
  cases v with
  | arr items =>
      rw [texts?, mapM_some_iff each, textArray, Json.arr.injEq]
      simp
  | _ => simp [texts?, textArray]

/-- Both strings of a pair have something in them. -/
def Filled (item : Text × Text) : Prop := item.1 ≠ [] ∧ item.2 ≠ []

theorem pair?_iff (v : Json) (item : Text × Text) :
    pair? v = some item ↔ v = .arr [.str item.1, .str item.2] ∧ Filled item := by
  obtain ⟨a, b⟩ := item
  unfold pair?
  split
  · rename_i a' b'
    simp only [Json.arr.injEq, List.cons.injEq, Json.str.injEq, and_true, Filled]
    constructor
    · intro read
      split at read
      · rename_i filled
        cases read
        exact ⟨⟨rfl, rfl⟩, filled⟩
      · cases read
    · rintro ⟨⟨rfl, rfl⟩, filled⟩
      rw [if_pos filled]
  · rename_i other
    refine iff_of_false (by simp) ?_
    rintro ⟨rfl, -⟩
    exact other a b rfl

theorem pairs?_iff (v : Json) (pairs : List (Text × Text)) :
    pairs? v = some pairs ↔ v = pairArray pairs ∧ ∀ item ∈ pairs, Filled item := by
  cases v with
  | arr items => rw [pairs?, mapM_some_iff pair?_iff, pairArray, Json.arr.injEq]
  | _ => simp [pairs?, pairArray]

theorem optional?_iff (v : Json) (t : Option Text) : optional? v = some t ↔ v = optionalText t := by
  cases v <;> cases t <;> simp [optional?, optionalText]

/-! ## What the validator accepts -/

/-- **The schema of a specification**: what `_validate_value` asks of its values. -/
structure Admits (isdigit : CodePoint → Bool) (spec : WorldSpec) : Prop where
  named : spec.worldId ≠ []
  settles : 1 ≤ spec.settleMs
  length : 1 ≤ spec.binaryLengthDigits ∧ spec.binaryLengthDigits ≤ 3
  count : 0 ≤ spec.transientErrorCount
  finite : ∀ x ∈ [spec.gain, spec.offsetV, spec.dmmNoiseV, spec.scopeNoiseV, spec.supplyVoltageV,
    spec.gainMin, spec.gainMax, spec.crossErrorMaxV], x.isFinite = true
  noise : ¬spec.dmmNoiseV < 0.0 ∧ ¬spec.scopeNoiseV < 0.0
  format : spec.dmmFormat = txt "decimal" ∨ spec.dmmFormat = txt "scientific"
  routes : ∀ route ∈ spec.requiredRoutes ∪ spec.initialClosedRoutes, isRoute isdigit route = true
  filled : ∀ item ∈ spec.resourceMap ++ spec.distractors, Filled item
  roles : spec.resourceMap.length = 5 ∧ (spec.resourceMap.map Prod.fst).toFinset = ROLES
  few : spec.distractors.length ≤ 3
  resources : (spec.resourceMap.map Prod.snd ++ spec.distractors.map Prod.fst).Nodup
  role : ∀ role ∈ spec.transientErrorRole, role ∈ ROLES
  command : spec.transientErrorCommand ≠ some []
  complete : spec.transientErrorCount ≠ 0 →
    spec.transientErrorRole ≠ none ∧ spec.transientErrorCommand ≠ none

theorem seq_ok_iff {ε α : Type} {x : Except ε Unit} {y : Except ε α} {a : α} :
    (x >>= fun _ => y) = .ok a ↔ x = .ok () ∧ y = .ok a := by
  cases x <;> simp [bind, Except.bind]

theorem check_ok_iff (holds : Bool) (message : String) :
    check holds message = .ok () ↔ holds = true := by
  cases holds <;> simp [check, refuse]

theorem checkNumber_ok_iff (value : String → Json) (name : String) :
    checkNumber value name = .ok () ↔ ∃ x, float? (value name) = some x ∧ x.isFinite = true := by
  unfold checkNumber
  split
  · rename_i i found
    simp [found, float?]
  · rename_i x found
    rw [check_ok_iff]
    simp [found, float?]
  · rename_i noInt noFloat
    refine iff_of_false (by simp [refuse]) ?_
    rintro ⟨x, read, -⟩
    cases found : value name with
    | int i => exact noInt i found
    | float x => exact noFloat x found
    | _ => rw [found] at read; cases read

theorem checkMember_ok_iff (item : Json) (members : Finset Text) (message : String) :
    checkMember item members message = .ok () ↔ ∃ t ∈ members, item = .str t := by
  cases item <;> simp [checkMember, check_ok_iff, refuse]

theorem checkRole_ok_iff (item : Json) :
    checkRole item = .ok () ↔ ∃ role, optional? item = some role ∧ ∀ t ∈ role, t ∈ ROLES := by
  unfold checkRole
  split
  · rename_i none
    rw [none]
    simp [optional?]
  · rename_i present
    rw [checkMember_ok_iff]
    simp only [optional?_iff]
    constructor
    · rintro ⟨t, member, rfl⟩
      exact ⟨some t, rfl, fun _ same => Option.some.inj same ▸ member⟩
    · rintro ⟨role, rfl, member⟩
      cases role with
      | none => exact absurd rfl present
      | some t => exact ⟨t, member t rfl, rfl⟩

theorem length_eq_card_iff {α : Type} [DecidableEq α] (items : List α) :
    items.length = items.toFinset.card ↔ items.Nodup := by
  rw [eq_comm]
  exact Multiset.toFinset_card_eq_card_iff_nodup (m := (items : Multiset α))

/-- What the validator asks of a list of routes. -/
theorem routes_any_iff (isdigit : CodePoint → Bool) (v : Json) :
    ((texts? v).any fun routes =>
      routes.all (isRoute isdigit) && routes.length = routes.toFinset.card) = true ↔
      ∃ routes, texts? v = some routes ∧ (∀ route ∈ routes, isRoute isdigit route = true) ∧
        routes.Nodup := by
  simp [Option.any_eq_true, length_eq_card_iff]

/-- What the validator asks of the command. -/
theorem command_any_iff (v : Json) :
    (decide (v = .null) || (text? v).any (· ≠ [])) = true ↔
      ∃ command, optional? v = some command ∧ command ≠ some [] := by
  cases v <;> simp [optional?, text?]

theorem not_lt_zero {v : Json} {x : Float} (read : float? v = some x)
    (nonneg : isNegative v = false) : ¬x < 0.0 := by
  cases v with
  | int i =>
      cases read
      exact (Binary64.nonneg_ofInt (by simpa [isNegative] using nonneg)).not_lt_zero
  | float y =>
      cases read
      simpa [isNegative] using nonneg
  | _ => cases read

/-- **An accepted document spells a specification the schema admits.** -/
theorem admits_of_validateFields {isdigit : CodePoint → Bool} {value : String → Json}
    (valid : validateFields isdigit value = .ok ()) :
    ∃ spec, build value = some spec ∧ Admits isdigit spec := by
  simp only [validateFields, seq_ok_iff, check_ok_iff, checkNumber_ok_iff, checkMember_ok_iff,
    checkRole_ok_iff, routes_any_iff, command_any_iff] at valid
  simp only [Option.any_eq_true, Option.isSome_iff_exists] at valid
  obtain ⟨⟨worldId, readWorldId, named⟩, ⟨seed, readSeed⟩, ⟨settleMs, readSettleMs⟩,
    ⟨digits, readDigits⟩, ⟨count, readCount⟩, timing, counted, ⟨gain, readGain, finiteGain⟩,
    ⟨offset, readOffset, finiteOffset⟩, ⟨dmmNoise, readDmmNoise, finiteDmmNoise⟩,
    ⟨scopeNoise, readScopeNoise, finiteScopeNoise⟩, ⟨supply, readSupply, finiteSupply⟩,
    ⟨gainMin, readGainMin, finiteGainMin⟩, ⟨gainMax, readGainMax, finiteGainMax⟩,
    ⟨crossError, readCrossError, finiteCrossError⟩, quiet, ⟨format, member, isFormat⟩,
    ⟨psu, readPsu⟩, ⟨awg, readAwg⟩, ⟨required, readRequired, requiredRoutes, -⟩,
    ⟨closed, readClosed, closedRoutes, -⟩, ⟨mapping, readMapping, roles⟩,
    ⟨distractors, readDistractors, few⟩, unique, ⟨role, readRole, isRole⟩,
    ⟨command, readCommand, someCommand⟩, complete⟩ := valid
  have filledMapping := ((pairs?_iff _ _).1 readMapping).2
  have filledDistractors := ((pairs?_iff _ _).1 readDistractors).2
  rw [readSettleMs, readDigits] at timing
  rw [readCount] at counted
  rw [readMapping, readDistractors] at unique
  rw [(integer?_iff _ _).1 readCount, (optional?_iff _ _).1 readRole,
    (optional?_iff _ _).1 readCommand] at complete
  have readFormat : text? (value "dmm_format") = some format := (text?_iff _ _).2 isFormat
  refine ⟨_, by
    simp only [build, readWorldId, readSeed, readSettleMs, readDigits, readCount, readGain,
      readOffset, readDmmNoise, readScopeNoise, readSupply, readGainMin, readGainMax,
      readCrossError, readFormat, readPsu, readAwg, readRequired, readClosed, readMapping,
      readDistractors, readRole, readCommand, Option.bind_eq_bind, Option.bind_some]
    rfl, ?_⟩
  simp only [Bool.and_eq_true, Bool.not_eq_true'] at quiet
  simp only [Option.any_some, Bool.and_eq_true, decide_eq_true_eq] at timing
  constructor
  case named => simpa using named
  case settles => exact timing.1
  case length => exact timing.2
  case count => simpa using counted
  case finite =>
    simp only [List.forall_mem_cons]
    exact ⟨finiteGain, finiteOffset, finiteDmmNoise, finiteScopeNoise, finiteSupply, finiteGainMin,
      finiteGainMax, finiteCrossError, by simp⟩
  case noise => exact ⟨not_lt_zero readDmmNoise quiet.1, not_lt_zero readScopeNoise quiet.2⟩
  case format => simpa using member
  case routes =>
    intro route inside
    rcases Finset.mem_union.1 inside with inside | inside
    · exact requiredRoutes route (List.mem_toFinset.1 inside)
    · exact closedRoutes route (List.mem_toFinset.1 inside)
  case filled =>
    intro item inside
    rcases List.mem_append.1 inside with inside | inside
    · exact filledMapping item inside
    · exact filledDistractors item inside
  case roles => simpa using roles
  case few => simpa using few
  case resources =>
    simp only [Option.some.injEq, exists_eq_left', decide_eq_true_eq, length_eq_card_iff] at unique
    exact unique
  case role => exact isRole
  case command => exact someCommand
  case complete =>
    intro some
    cases role <;> cases command <;> simp_all [optionalText]

/-! ## What is written for a specification -/

/-- The members of the object `dump_world` writes, in whatever order. -/
structure Written (value : String → Json) (spec : WorldSpec) : Prop where
  worldId : value "world_id" = .str spec.worldId
  seed : value "seed" = .int spec.seed
  gain : value "gain" = .float spec.gain
  offsetV : value "offset_v" = .float spec.offsetV
  dmmNoiseV : value "dmm_noise_v" = .float spec.dmmNoiseV
  scopeNoiseV : value "scope_noise_v" = .float spec.scopeNoiseV
  settleMs : value "settle_ms" = .int spec.settleMs
  supplyVoltageV : value "supply_voltage_v" = .float spec.supplyVoltageV
  requiredRoutes : value "required_routes" = textArray (sortedRoutes spec.requiredRoutes)
  gainMin : value "gain_min" = .float spec.gainMin
  gainMax : value "gain_max" = .float spec.gainMax
  crossErrorMaxV : value "cross_error_max_v" = .float spec.crossErrorMaxV
  dmmFormat : value "dmm_format" = .str spec.dmmFormat
  binaryLengthDigits : value "binary_length_digits" = .int spec.binaryLengthDigits
  initialPsuOutput : value "initial_psu_output" = .bool spec.initialPsuOutput
  initialAwgOutput : value "initial_awg_output" = .bool spec.initialAwgOutput
  initialClosedRoutes :
    value "initial_closed_routes" = textArray (sortedRoutes spec.initialClosedRoutes)
  resourceMap : value "resource_map" = pairArray spec.resourceMap
  distractors : value "distractors" = pairArray spec.distractors
  transientErrorRole : value "transient_error_role" = optionalText spec.transientErrorRole
  transientErrorCommand : value "transient_error_command" = optionalText spec.transientErrorCommand
  transientErrorCount : value "transient_error_count" = .int spec.transientErrorCount

theorem written_toDict (spec : WorldSpec) : Written (field spec.toDict) spec := by
  constructor <;> rfl

variable {isdigit : CodePoint → Bool} {value : String → Json} {spec : WorldSpec}

theorem Written.pairs_resourceMap (w : Written value spec) (a : Admits isdigit spec) :
    pairs? (value "resource_map") = some spec.resourceMap :=
  (pairs?_iff _ _).2
    ⟨w.resourceMap, fun item member => a.filled item (List.mem_append_left _ member)⟩

theorem Written.pairs_distractors (w : Written value spec) (a : Admits isdigit spec) :
    pairs? (value "distractors") = some spec.distractors :=
  (pairs?_iff _ _).2
    ⟨w.distractors, fun item member => a.filled item (List.mem_append_right _ member)⟩

/-- **The validator accepts what is written** for a specification the schema admits. -/
theorem validateFields_of_written (w : Written value spec) (a : Admits isdigit spec) :
    validateFields isdigit value = .ok () := by
  have number {name : String} {x : Float} (is : value name = .float x)
      (finite : x.isFinite = true) : ∃ x, float? (value name) = some x ∧ x.isFinite = true :=
    ⟨x, by rw [is, float?], finite⟩
  have routed (routes : Finset Text)
      (inside : routes ⊆ spec.requiredRoutes ∪ spec.initialClosedRoutes) :
      ∃ list, texts? (textArray (sortedRoutes routes)) = some list ∧
        (∀ route ∈ list, isRoute isdigit route = true) ∧ list.Nodup :=
    ⟨_, (texts?_iff _ _).2 rfl,
      fun route member => a.routes route (inside (by simpa [sortedRoutes] using member)),
      Finset.sort_nodup _ _⟩
  have finite := a.finite
  simp only [List.forall_mem_cons] at finite
  obtain ⟨finiteGain, finiteOffset, finiteDmmNoise, finiteScopeNoise, finiteSupply, finiteGainMin,
    finiteGainMax, finiteCrossError, -⟩ := finite
  simp only [validateFields, seq_ok_iff, check_ok_iff, checkNumber_ok_iff, checkMember_ok_iff,
    checkRole_ok_iff, routes_any_iff, command_any_iff, w.pairs_resourceMap a, w.pairs_distractors a]
  rw [w.requiredRoutes, w.initialClosedRoutes, w.worldId, w.seed, w.settleMs, w.binaryLengthDigits,
    w.transientErrorCount, w.dmmFormat, w.initialPsuOutput, w.initialAwgOutput,
    w.transientErrorRole, w.transientErrorCommand]
  refine ⟨by simpa [text?] using a.named, rfl, rfl, rfl, rfl, ?_, by simpa [integer?] using a.count,
    number w.gain finiteGain, number w.offsetV finiteOffset, number w.dmmNoiseV finiteDmmNoise,
    number w.scopeNoiseV finiteScopeNoise, number w.supplyVoltageV finiteSupply,
    number w.gainMin finiteGainMin, number w.gainMax finiteGainMax,
    number w.crossErrorMaxV finiteCrossError, ?_, ⟨_, by simpa using a.format, rfl⟩, rfl, rfl,
    routed _ Finset.subset_union_left, routed _ Finset.subset_union_right, ?_,
    by simpa using a.few, ?_, ⟨_, (optional?_iff _ _).2 rfl, a.role⟩,
    ⟨_, (optional?_iff _ _).2 rfl, a.command⟩, ?_⟩
  · simpa [integer?] using ⟨a.settles, a.length⟩
  · simpa [w.dmmNoiseV, w.scopeNoiseV, isNegative] using a.noise
  · simpa using a.roles
  · simp only [Option.any_some, decide_eq_true_eq, length_eq_card_iff]
    exact a.resources
  · by_cases none : spec.transientErrorCount = 0
    · simp [none]
    · obtain ⟨someRole, someCommand⟩ := a.complete none
      obtain ⟨role, isRole⟩ := Option.ne_none_iff_exists'.1 someRole
      obtain ⟨command, isCommand⟩ := Option.ne_none_iff_exists'.1 someCommand
      simp [isRole, isCommand, optionalText]

theorem texts?_textArray (texts : List Text) : texts? (textArray texts) = some texts :=
  (texts?_iff _ _).2 rfl

theorem optional?_optionalText (t : Option Text) : optional? (optionalText t) = some t :=
  (optional?_iff _ _).2 rfl

theorem pairs?_pairArray {pairs read : List (Text × Text)}
    (done : pairs? (pairArray pairs) = some read) : read = pairs := by
  have same := ((pairs?_iff _ _).1 done).1
  rw [pairArray, pairArray, Json.arr.injEq] at same
  refine (List.map_injective_iff.2 ?_ same).symm
  rintro ⟨a, b⟩ ⟨c, d⟩ equal
  simpa using equal

/-- **The loader builds the specification that was written.** -/
theorem build_of_written (w : Written value spec) {built : WorldSpec}
    (done : build value = some built) : built = spec := by
  simp only [build, w.worldId, w.seed, w.gain, w.offsetV, w.dmmNoiseV, w.scopeNoiseV, w.settleMs,
    w.supplyVoltageV, w.requiredRoutes, w.gainMin, w.gainMax, w.crossErrorMaxV, w.dmmFormat,
    w.binaryLengthDigits, w.initialPsuOutput, w.initialAwgOutput, w.initialClosedRoutes,
    w.resourceMap, w.distractors, w.transientErrorRole, w.transientErrorCommand,
    w.transientErrorCount, text?, integer?, float?, flag?, texts?_textArray, optional?_optionalText,
    Option.bind_eq_bind, Option.bind_some, Option.bind_eq_some_iff, sortedRoutes,
    Finset.sort_toFinset] at done
  obtain ⟨resourceMap, readMapping, distractors, readDistractors, same⟩ := done
  rw [← Option.some.inj same, pairs?_pairArray readMapping, pairs?_pairArray readDistractors]

/-- The members of a document the loader builds `spec` of, but for its numbers. -/
structure Spelled (value : String → Json) (spec : WorldSpec) : Prop where
  worldId : text? (value "world_id") = some spec.worldId
  seed : integer? (value "seed") = some spec.seed
  settleMs : integer? (value "settle_ms") = some spec.settleMs
  requiredRoutes :
    ∃ routes, texts? (value "required_routes") = some routes ∧ routes.toFinset = spec.requiredRoutes
  dmmFormat : text? (value "dmm_format") = some spec.dmmFormat
  binaryLengthDigits : integer? (value "binary_length_digits") = some spec.binaryLengthDigits
  initialClosedRoutes : ∃ routes,
    texts? (value "initial_closed_routes") = some routes ∧ routes.toFinset = spec.initialClosedRoutes
  resourceMap : pairs? (value "resource_map") = some spec.resourceMap
  distractors : pairs? (value "distractors") = some spec.distractors
  transientErrorRole : optional? (value "transient_error_role") = some spec.transientErrorRole
  transientErrorCommand :
    optional? (value "transient_error_command") = some spec.transientErrorCommand
  transientErrorCount : integer? (value "transient_error_count") = some spec.transientErrorCount

theorem spelled_of_build (done : build value = some spec) : Spelled value spec := by
  unfold build at done
  -- one step for each member
  iterate 22 obtain ⟨_, _, done⟩ := Option.bind_eq_some_iff.1 done
  rw [← Option.some.inj done]
  constructor
  case requiredRoutes => exact ⟨_, by assumption, rfl⟩
  case initialClosedRoutes => exact ⟨_, by assumption, rfl⟩
  all_goals assumption

end InstrumentBench.Visa.WorldContract
