/-
# Visa.WorldRoundTrip -- a world comes back from its file as it was written

* `eachText_of_loadWorld`: no string of a loaded specification holds a high
  surrogate right before a low one, for the decoder joins the two;
* `loadWorld_dumpWorld`: a specification without such a pair is loaded again from
  the file written for it, every field as it was;
* `worldContract_roundTrips_iff`: so these are exactly the specifications that come
  back, and what was loaded can be written and loaded again unless the file is too
  large;
* `pairedWorld_changed`: a world whose identifier is such a pair is accepted by
  `dump_world` and comes back with another identifier.
-/
import InstrumentBench.Visa.WorldContract
import InstrumentBench.Fibsem.JournalRoundTrip
import InstrumentBench.Theory.PyDict

namespace InstrumentBench.Visa.WorldContract

set_option autoImplicit false

open InstrumentBench.Theory
open InstrumentBench.Fibsem.Journal (asciiBytes field)

variable {isdigit : CodePoint → Bool} {value : String → Json} {spec : WorldSpec}

/-! ## The strings and integers of a specification -/

/-- `P` holds of every string of the specification. -/
structure WorldSpec.EachText (P : Text → Prop) (spec : WorldSpec) : Prop where
  worldId : P spec.worldId
  dmmFormat : P spec.dmmFormat
  routes : ∀ route ∈ spec.requiredRoutes ∪ spec.initialClosedRoutes, P route
  pairs : ∀ item ∈ spec.resourceMap ++ spec.distractors, P item.1 ∧ P item.2
  role : ∀ role ∈ spec.transientErrorRole, P role
  command : ∀ command ∈ spec.transientErrorCommand, P command

theorem allText_textArray (P : Text → Prop) (texts : List Text) :
    (textArray texts).AllText P ↔ ∀ t ∈ texts, P t := by
  rw [textArray, Json.AllText]
  induction texts with
  | nil => simp [Json.AllTextItems]
  | cons t texts ih => simp [Json.AllTextItems, Json.AllText, ih]

theorem allText_pairArray (P : Text → Prop) (pairs : List (Text × Text)) :
    (pairArray pairs).AllText P ↔ ∀ item ∈ pairs, P item.1 ∧ P item.2 := by
  rw [pairArray, Json.AllText]
  induction pairs with
  | nil => simp [Json.AllTextItems]
  | cons item pairs ih =>
      rw [List.map_cons, Json.AllTextItems, ih, List.forall_mem_cons]
      simp [Json.AllTextItems, Json.AllText]

theorem allText_optionalText (P : Text → Prop) (t : Option Text) :
    (optionalText t).AllText P ↔ ∀ s ∈ t, P s := by
  cases t <;> simp [optionalText, Json.AllText]

theorem withinDigits_textArray (texts : List Text) : (textArray texts).withinDigits = true := by
  rw [textArray, Json.withinDigits]
  induction texts with
  | nil => rfl
  | cons t texts ih => rw [List.map_cons, Json.withinDigitsItems, ih]; rfl

theorem withinDigits_pairArray (pairs : List (Text × Text)) :
    (pairArray pairs).withinDigits = true := by
  rw [pairArray, Json.withinDigits]
  induction pairs with
  | nil => rfl
  | cons item pairs ih => rw [List.map_cons, Json.withinDigitsItems, ih]; rfl

theorem withinDigits_optionalText (t : Option Text) : (optionalText t).withinDigits = true := by
  cases t <;> rfl

/-- Building takes the strings of a document as they are. -/
theorem eachText_of_build {P : Text → Prop} (every : ∀ key, (value key).AllText P)
    (done : build value = some spec) : spec.EachText P := by
  have spelled := spelled_of_build done
  constructor
  case worldId =>
    have inWorldId := every "world_id"
    rwa [(text?_iff _ _).1 spelled.worldId] at inWorldId
  case dmmFormat =>
    have inFormat := every "dmm_format"
    rwa [(text?_iff _ _).1 spelled.dmmFormat] at inFormat
  case routes =>
    obtain ⟨required, readRequired, isRequired⟩ := spelled.requiredRoutes
    obtain ⟨closed, readClosed, isClosed⟩ := spelled.initialClosedRoutes
    have inRequired := every "required_routes"
    have inClosed := every "initial_closed_routes"
    rw [(texts?_iff _ _).1 readRequired, allText_textArray] at inRequired
    rw [(texts?_iff _ _).1 readClosed, allText_textArray] at inClosed
    rw [← isRequired, ← isClosed]
    intro route inside
    rcases Finset.mem_union.1 inside with inside | inside
    · exact inRequired route (List.mem_toFinset.1 inside)
    · exact inClosed route (List.mem_toFinset.1 inside)
  case pairs =>
    have inMapping := every "resource_map"
    have inDistractors := every "distractors"
    rw [((pairs?_iff _ _).1 spelled.resourceMap).1, allText_pairArray] at inMapping
    rw [((pairs?_iff _ _).1 spelled.distractors).1, allText_pairArray] at inDistractors
    intro item inside
    rcases List.mem_append.1 inside with inside | inside
    · exact inMapping item inside
    · exact inDistractors item inside
  case role =>
    have inRole := every "transient_error_role"
    rwa [(optional?_iff _ _).1 spelled.transientErrorRole, allText_optionalText] at inRole
  case command =>
    have inCommand := every "transient_error_command"
    rwa [(optional?_iff _ _).1 spelled.transientErrorCommand, allText_optionalText] at inCommand

/-- So it does its integers. -/
theorem withinDigits_of_build (every : ∀ key, (value key).withinDigits = true)
    (done : build value = some spec) : (Json.obj spec.toDict).withinDigits = true := by
  have spelled := spelled_of_build done
  have inSeed := every "seed"
  have inSettleMs := every "settle_ms"
  have inDigits := every "binary_length_digits"
  have inCount := every "transient_error_count"
  rw [(integer?_iff _ _).1 spelled.seed] at inSeed
  rw [(integer?_iff _ _).1 spelled.settleMs] at inSettleMs
  rw [(integer?_iff _ _).1 spelled.binaryLengthDigits] at inDigits
  rw [(integer?_iff _ _).1 spelled.transientErrorCount] at inCount
  rw [Json.withinDigits, Json.withinDigitsFields_iff]
  simp only [WorldSpec.toDict, List.forall_mem_cons, withinDigits_textArray, withinDigits_pairArray,
    withinDigits_optionalText, inSeed, inSettleMs, inDigits, inCount, true_and]
  simp [Json.withinDigits]

/-! ## The written object -/

theorem keys_toDict (spec : WorldSpec) : (Json.keys spec.toDict).Nodup ∧
    (Json.keys spec.toDict).toFinset = WORLD_KEYS ∧ ∀ k ∈ Json.keys spec.toDict, Json.PairFree k := by
  have names : Json.keys spec.toDict = fieldNames.map txt := rfl
  rw [names]
  exact ⟨by decide, rfl, by decide⟩

theorem allText_toDict (spec : WorldSpec) (each : spec.EachText Json.PairFree) :
    (Json.obj spec.toDict).AllText Json.PairFree := by
  rw [Json.AllText, Json.allTextFields_iff]
  intro kv member
  refine ⟨(keys_toDict spec).2.2 kv.1 (List.mem_map_of_mem member), ?_⟩
  revert kv member
  have required : ∀ route ∈ sortedRoutes spec.requiredRoutes, Json.PairFree route :=
    fun route inside => each.routes route (Finset.mem_union_left _ ((Finset.mem_sort _).1 inside))
  have closed : ∀ route ∈ sortedRoutes spec.initialClosedRoutes, Json.PairFree route :=
    fun route inside => each.routes route (Finset.mem_union_right _ ((Finset.mem_sort _).1 inside))
  simp only [WorldSpec.toDict, List.forall_mem_cons, allText_textArray, allText_pairArray,
    allText_optionalText, Json.AllText, true_and]
  exact ⟨each.worldId, required, each.dmmFormat, closed,
    fun item inside => each.pairs item (List.mem_append_left _ inside),
    fun item inside => each.pairs item (List.mem_append_right _ inside), each.role, each.command,
    fun _ none => absurd none List.not_mem_nil⟩

theorem canon_textArray (texts : List Text) : (textArray texts).canon = textArray texts := by
  rw [textArray, Json.canon, Json.canonItems_eq_map, List.map_map]
  rfl

theorem canon_pairArray (pairs : List (Text × Text)) :
    (pairArray pairs).canon = pairArray pairs := by
  rw [pairArray, Json.canon, Json.canonItems_eq_map, List.map_map]
  rfl

theorem canon_optionalText (t : Option Text) : (optionalText t).canon = optionalText t := by
  cases t <;> rfl

/-- The members of the written file, in the order of their names. -/
def WorldSpec.sortedDict (spec : WorldSpec) : List (Text × Json) :=
  Json.sortFields (Json.canonFields spec.toDict)

theorem field_sortedDict (spec : WorldSpec) (key : String) :
    field spec.sortedDict key = (field spec.toDict key).canon :=
  (Fibsem.Journal.canon_field (keys_toDict spec).1 key).symm

theorem written_sortedDict (spec : WorldSpec) : Written (field spec.sortedDict) spec := by
  have written := written_toDict spec
  constructor
  all_goals rw [field_sortedDict]
  case requiredRoutes => rw [written.requiredRoutes, canon_textArray]
  case initialClosedRoutes => rw [written.initialClosedRoutes, canon_textArray]
  case resourceMap => rw [written.resourceMap, canon_pairArray]
  case distractors => rw [written.distractors, canon_pairArray]
  case transientErrorRole => rw [written.transientErrorRole, canon_optionalText]
  case transientErrorCommand => rw [written.transientErrorCommand, canon_optionalText]
  all_goals rfl

theorem plain_textArray (texts : List Text) : (textArray texts).Plain := by
  rw [textArray, Json.Plain]
  induction texts with
  | nil => trivial
  | cons t texts ih => exact ⟨trivial, ih⟩

theorem plain_pairArray (pairs : List (Text × Text)) : (pairArray pairs).Plain := by
  rw [pairArray, Json.Plain]
  induction pairs with
  | nil => trivial
  | cons item pairs ih => exact ⟨⟨trivial, trivial, trivial⟩, ih⟩

theorem plain_optionalText (t : Option Text) : (optionalText t).Plain := by
  cases t <;> trivial

theorem plain_toDict (a : Admits isdigit spec) : (Json.obj spec.toDict).Plain := by
  have finite := a.finite
  simp only [List.forall_mem_cons] at finite
  refine ⟨(keys_toDict spec).1, (Json.plainFields_iff _).2 ?_⟩
  simp only [WorldSpec.toDict, List.forall_mem_cons, plain_textArray, plain_pairArray,
    plain_optionalText, Json.Plain, finite, true_and]
  exact fun _ none => absurd none List.not_mem_nil

/-! ## One file -/

theorem universalNewlines_of_graphic {t : Text} (graphic : Graphic t) :
    universalNewlines t = t := by
  induction t with
  | nil => rfl
  | cons c t ih =>
      obtain ⟨here, later⟩ := graphic_cons.1 graphic
      have notReturn : c ≠ 13 := by
        rintro rfl
        exact absurd here.1 (by decide)
      rw [universalNewlines.eq_def]
      simp only [if_neg notReturn, ih later]

theorem scalarText_universalNewlines {t : Text} (scalar : PyText.ScalarText t) :
    PyText.ScalarText (universalNewlines t) := by
  have newline : PyText.Scalar 10 := by decide
  fun_induction universalNewlines t with
  | case1 => exact scalar
  | case2 => exact PyText.scalarText_cons.2 ⟨newline, PyText.scalarText_nil⟩
  | case3 rest ih =>
      exact PyText.scalarText_cons.2
        ⟨newline, ih (PyText.scalarText_cons.1 (PyText.scalarText_cons.1 scalar).2).2⟩
  | case4 d rest other ih =>
      exact PyText.scalarText_cons.2 ⟨newline, ih (PyText.scalarText_cons.1 scalar).2⟩
  | case5 c rest other ih =>
      obtain ⟨here, later⟩ := PyText.scalarText_cons.1 scalar
      exact PyText.scalarText_cons.2 ⟨here, ih later⟩

/-- **What is read back** of a written value. -/
theorem readDocument_dumps {v : Json} (digits : v.withinDigits = true) {w : Json} :
    readDocument (asciiBytes v.dumps) = .ok w ↔ Json.rejoin v.canon = .ok w := by
  have graphic : Graphic v.dumps := Json.graphic_render _
  have decoded : decodeUtf8 false (asciiBytes v.dumps) = some v.dumps :=
    decodeUtf8_encodeAscii false graphic.ascii
  rw [readDocument, decoded]
  dsimp only
  rw [universalNewlines_of_graphic graphic, Json.dumps,
    Json.loads_render (by rw [Json.withinDigits_canon]; exact digits)]
  cases rejoined : Json.rejoin v.canon with
  | ok value => simp
  | error e => cases e <;> simp [refuse]

theorem validateValue_obj (fields : List (Text × Json)) :
    validateValue isdigit (.obj fields) = .ok () ↔
      (Json.keys fields).toFinset = WORLD_KEYS ∧ validateFields isdigit (field fields) = .ok () := by
  rw [validateValue]
  split
  · rename_i keys
    exact ⟨fun valid => ⟨keys, valid⟩, fun both => both.2⟩
  · rename_i keys
    simp [refuse, keys]

theorem dumpWorld_ok_iff {payload : Bytes} :
    dumpWorld isdigit spec = .ok payload ↔
      validateFields isdigit (field spec.toDict) = .ok () ∧
        (Json.obj spec.toDict).withinDigits = true ∧
        payload = asciiBytes (Json.obj spec.toDict).dumps ∧ payload.length ≤ MAX_WORLD_BYTES := by
  simp only [dumpWorld, seq_ok_iff, validateValue_obj, (keys_toDict spec).2.1, true_and]
  refine and_congr_right fun _ => ?_
  generalize asciiBytes (Json.obj spec.toDict).dumps = written
  split
  · rename_i digits
    split
    · rename_i fits
      rw [Except.ok.injEq]
      constructor
      · rintro rfl
        exact ⟨digits, rfl, fits⟩
      · rintro ⟨-, rfl, -⟩
        rfl
    · rename_i large
      refine iff_of_false (by simp [refuse]) ?_
      rintro ⟨-, rfl, fits⟩
      exact large fits
  · rename_i digits
    exact iff_of_false (by simp) fun all => digits all.1

theorem loadWorld_ok_iff {document : Bytes} :
    loadWorld isdigit document = .ok spec ↔
      document.length ≤ MAX_WORLD_BYTES ∧ ∃ fields, readDocument document = .ok (.obj fields) ∧
        (Json.keys fields).toFinset = WORLD_KEYS ∧
        validateFields isdigit (field fields) = .ok () ∧ build (field fields) = some spec := by
  unfold loadWorld
  split
  · rename_i fits
    rw [bind_ok_iff]
    simp only [fits, true_and, seq_ok_iff]
    constructor
    · rintro ⟨value, read, valid, built⟩
      cases value with
      | obj fields =>
          rw [validateValue_obj] at valid
          refine ⟨fields, read, valid.1, valid.2, ?_⟩
          dsimp only at built
          split at built
          · rename_i spec' found
            cases built
            exact found
          · exact absurd built (by simp [refuse])
      | _ => exact absurd built (by simp [refuse])
    · rintro ⟨fields, read, keys, valid, built⟩
      refine ⟨.obj fields, read, (validateValue_obj fields).2 ⟨keys, valid⟩, ?_⟩
      dsimp only
      rw [built]
  · rename_i large
    exact iff_of_false (by simp [refuse]) fun all => large all.1

/-- What an accepted file is known to hold. -/
theorem loaded_of_readDocument {document : Bytes} {value : Json}
    (read : readDocument document = .ok value) : value.Loaded := by
  unfold readDocument at read
  split at read
  · cases read
  · rename_i t decoded
    split at read
    · rename_i w loaded
      cases read
      have scalar := scalarText_universalNewlines (scalarText_of_decodeUtf8 decoded)
      exact Json.loaded_of_loads scalar loaded
    all_goals cases read

theorem loaded_field {fields : List (Text × Json)} (loaded : (Json.obj fields).Loaded)
    (key : String) :
    (field fields key).Loaded := by
  obtain ⟨digits, free⟩ := loaded
  rw [Json.withinDigits, Json.withinDigitsFields_iff] at digits
  rw [Json.AllText, Json.allTextFields_iff] at free
  unfold field
  cases found : fields.lookup (txt key) with
  | none => exact ⟨rfl, trivial⟩
  | some v =>
      have member := PyDict.mem_of_lookup found
      exact ⟨digits _ member, (free _ member).2⟩

/-- A loaded specification has no pair of surrogates in any string. -/
theorem eachText_of_loadWorld {document : Bytes} (loaded : loadWorld isdigit document = .ok spec) :
    spec.EachText Json.PairFree := by
  obtain ⟨-, fields, read, -, -, built⟩ := loadWorld_ok_iff.1 loaded
  exact eachText_of_build (fun key => (loaded_field (loaded_of_readDocument read) key).2) built

/-- **A written specification is loaded again** if no string of it holds a pair. -/
theorem loadWorld_dumpWorld {payload : Bytes} (dumped : dumpWorld isdigit spec = .ok payload)
    (each : spec.EachText Json.PairFree) : loadWorld isdigit payload = .ok spec := by
  obtain ⟨valid, digits, isPayload, fits⟩ := dumpWorld_ok_iff.1 dumped
  obtain ⟨built, done, admits⟩ := admits_of_validateFields valid
  rw [build_of_written (written_toDict spec) done] at admits
  have written := written_sortedDict spec
  have read : readDocument payload = .ok (.obj spec.sortedDict) := by
    rw [isPayload, readDocument_dumps digits,
      Json.rejoin_canon (plain_toDict admits) (allText_toDict spec each), Json.canon,
      WorldSpec.sortedDict]
  have keys : (Json.keys spec.sortedDict).toFinset = WORLD_KEYS := by
    rw [← (keys_toDict spec).2.1, ← Json.keys_canonFields spec.toDict]
    exact List.toFinset_eq_of_perm _ _ (Json.keys_sortFields_perm _)
  have accepted := validateFields_of_written written admits
  obtain ⟨again, done', -⟩ := admits_of_validateFields accepted
  rw [build_of_written written done'] at done'
  exact loadWorld_ok_iff.2 ⟨fits, spec.sortedDict, read, keys, accepted, done'⟩

/-- **Round trip of the world contract.**  A file that was written loads as the
specification exactly when no string of it holds a high surrogate right before a low one;
and a specification that was loaded is written to a file that loads as it again, unless
the file would be too large. -/
theorem worldContract_roundTrips_iff (isdigit : CodePoint → Bool) :
    (∀ spec payload, dumpWorld isdigit spec = .ok payload →
      (loadWorld isdigit payload = .ok spec ↔ spec.EachText Json.PairFree)) ∧
    ∀ document spec, loadWorld isdigit document = .ok spec →
      dumpWorld isdigit spec = refuse "world definition is too large" ∨
        ∃ payload, dumpWorld isdigit spec = .ok payload ∧ loadWorld isdigit payload = .ok spec := by
  constructor
  · intro spec payload dumped
    exact ⟨eachText_of_loadWorld, loadWorld_dumpWorld dumped⟩
  · intro document spec loaded
    have each := eachText_of_loadWorld loaded
    obtain ⟨-, fields, read, -, valid, built⟩ := loadWorld_ok_iff.1 loaded
    obtain ⟨again, done, admits⟩ := admits_of_validateFields valid
    obtain rfl : again = spec := Option.some.inj (done.symm.trans built)
    have accepted : validateFields isdigit (field again.toDict) = .ok () :=
      validateFields_of_written (written_toDict again) admits
    have digits := withinDigits_of_build
      (fun key => (loaded_field (loaded_of_readDocument read) key).1) built
    by_cases fits : (asciiBytes (Json.obj again.toDict).dumps).length ≤ MAX_WORLD_BYTES
    · have dumped := dumpWorld_ok_iff.2 ⟨accepted, digits, rfl, fits⟩
      exact .inr ⟨_, dumped, loadWorld_dumpWorld dumped each⟩
    · left
      have valid : validateValue isdigit (.obj again.toDict) = .ok () :=
        (validateValue_obj _).2 ⟨(keys_toDict again).2.1, accepted⟩
      rw [dumpWorld]
      dsimp only
      rw [valid]
      simp only [digits, if_true, if_neg fits]
      rfl

/-! ## A specification that does not come back -/

/-- A world whose identifier is the two surrogates of U+1F600. -/
def pairedWorld : WorldSpec where
  worldId := [0xD83D, 0xDE00]
  seed := 1
  gain := 2.0
  offsetV := 0.0
  dmmNoiseV := 0.001
  scopeNoiseV := 0.002
  settleMs := 250
  supplyVoltageV := 5.0
  requiredRoutes := ∅
  gainMin := 1.97
  gainMax := 2.03
  crossErrorMaxV := 0.02
  dmmFormat := txt "decimal"
  binaryLengthDigits := 2
  initialPsuOutput := false
  initialAwgOutput := false
  initialClosedRoutes := ∅
  resourceMap :=
    [(txt "psu", txt "TCPIP0::192.0.2.10::inst0::INSTR"), (txt "switch", txt "GPIB0::9::INSTR"),
     (txt "awg", txt "USB0::0x0957::0x2C07::MY000001::0::INSTR"),
     (txt "scope", txt "TCPIP0::192.0.2.20::inst0::INSTR"),
     (txt "dmm", txt "USB0::0x05E6::0x7510::MY000002::0::INSTR")]
  distractors := []
  transientErrorRole := none
  transientErrorCommand := none
  transientErrorCount := 0

theorem pairedWorld_changed :
    ¬ ∀ (isdigit : CodePoint → Bool) (spec : WorldSpec) (payload : Bytes),
      dumpWorld isdigit spec = .ok payload → loadWorld isdigit payload = .ok spec := by
  intro claim
  have accepted :
      (dumpWorld (fun c => 48 ≤ c.val && c.val ≤ 57) pairedWorld).toOption.isSome = true := by
    decide +kernel
  obtain ⟨payload, dumped⟩ := Option.isSome_iff_exists.1 accepted
  have loaded := claim _ _ _ (ok_of_toOption dumped)
  exact absurd (eachText_of_loadWorld loaded).worldId (by decide)

end InstrumentBench.Visa.WorldContract
