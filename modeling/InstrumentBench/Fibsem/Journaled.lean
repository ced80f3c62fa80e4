/-
# Fibsem.Journaled -- a short call is answered as its handler answers

The journal refuses a record that is too large.  A call that is short enough cannot meet
that limit, whatever the journal holds: `dispatch_short` says what such a call leaves
behind, without a look at any hash.
-/
import InstrumentBench.Fibsem.PreflightGate
import InstrumentBench.Theory.Stateful

namespace InstrumentBench.Fibsem.Microscope

set_option autoImplicit false

open InstrumentBench.Theory
open InstrumentBench.Fibsem.Journal
open InstrumentBench.Fibsem.Service

section

variable {β : Type} {setup : Setup β}

/-! ## Short records -/

/-- The journal has room: short identities, a digest at its head, a list's length. -/
structure Roomy (journal : EventJournal) : Prop where
  run : (Json.renderText journal.runId).length ≤ 1024
  world : (Json.renderText journal.worldId).length ≤ 1024
  headed : isHexDigest journal.headHash = true
  listable : journal.events.length < 2 ^ 62

/-- The clock of a list's length is a machine's. -/
def Timely (setup : Setup β) : Prop :=
  ∀ n < 2 ^ 62, 0 ≤ setup.clock n ∧ setup.clock n < 2 ^ 63

/-- A record of short members can be written. -/
theorem writable_of_short {service : FibsemService β} {kind : Text}
    {fields : List (Text × PyValue)} {members : List (Text × Json)}
    (room : Roomy service.journal) (clock : Timely setup)
    (made : plainEntries rootPath [] (fields.map fun kv => (.str kv.1, kv.2)) = .ok members)
    (digits : (Json.obj members).withinDigits = true)
    (kindShort : (Json.renderText kind).length ≤ 1024)
    (short : (Json.render (.obj members)).length ≤ 1000000)
    (shallow : ∀ kv ∈ members, Fits setup.stack (setup.stack.left - 6) kv.2) :
    Writable setup service 0 kind fields := by
  have reading := length_clock (clock _ room.listable)
  have sequence : (decimalDigits (service.journal.events.length + 1)).length ≤ 19 :=
    (length_decimalDigits_le_iff (by omega) _).2 (by have := room.listable; omega)
  have schema : (decimalDigits JOURNAL_SCHEMA_VERSION.natAbs).length = 1 := by decide
  refine ⟨members, made, ?_, ?_, fits_base (Nat.zero_le 4) shallow⟩
  · simp only [EventJournal.draft, JournalEvent.base, Json.withinDigits, Json.withinDigitsFields,
      Json.maxStrDigits, Int.natAbs_natCast, schema, Bool.and_true, Bool.and_eq_true] at digits ⊢
    refine ⟨rfl, decide_eq_true ?_, trivial, trivial, decide_eq_true ?_, trivial, digits⟩ <;> omega
  · have run := room.run
    have world := room.world
    rw [canonicalSize_base]
    simp only [EventJournal.draft, MAX_CANONICAL_BYTES, length_renderText_digest room.headed]
    omega

/-- What a written record leaves room for. -/
theorem Roomy.record {d d' : OperationDispatcher β} {depth : Nat} {kind : String}
    {fields : List (Text × PyValue)} (room : Roomy d.service.journal)
    (recorded : record setup depth d kind fields = .ok d')
    (listable : d.service.journal.events.length + 1 < 2 ^ 62) : Roomy d'.service.journal := by
  obtain ⟨event, rfl, -, -, hash, -⟩ := record_ok recorded
  exact ⟨room.run, room.world, by rw [headHash_append]; exact hash, by simpa using listable⟩

theorem plainEntries_cons_ok {path key : Text} {seen : List Text} {item : PyValue} {value : Json}
    {rest : List (PyKey × PyValue)} {fields : List (Text × Json)} (fresh : key ∉ seen)
    (made : plain (path ++ txt "." ++ key) item = .ok value)
    (others : plainEntries path (key :: seen) rest = .ok fields) :
    plainEntries path seen ((.str key, item) :: rest) = .ok ((key, value) :: fields) := by
  rw [plainEntries, if_neg fresh, made]
  dsimp only
  rw [others]

/-- A written record is one event more. -/
theorem length_record {d d' : OperationDispatcher β} {depth : Nat} {kind : String}
    {fields : List (Text × PyValue)} (recorded : record setup depth d kind fields = .ok d') :
    d'.service.journal.events.length = d.service.journal.events.length + 1 := by
  obtain ⟨event, rfl, -⟩ := record_ok recorded
  simp

/-- More members are written after those before them. -/
theorem plainEntries_append {path : Text} {seen : List Text} {ps qs : List (PyKey × PyValue)}
    {fs gs : List (Text × Json)} (first : plainEntries path seen ps = .ok fs)
    (others : plainEntries path ((Json.keys fs).reverse ++ seen) qs = .ok gs) :
    plainEntries path seen (ps ++ qs) = .ok (fs ++ gs) := by
  induction ps generalizing seen fs with
  | nil =>
      cases first
      exact others
  | cons p ps ih =>
      obtain ⟨k, item⟩ := p
      cases k with
      | other => cases first
      | str key =>
          rw [List.cons_append, plainEntries]
          rw [plainEntries] at first
          split at first
          · cases first
          · rename_i fresh
            rw [if_neg fresh]
            split at first
            · cases first
            · split at first
              · cases first
              · rename_i fields rest
                cases first
                rw [ih rest (by simpa [Json.keys] using others)]
                rfl

theorem isHexDigest_stateHash {depth : Nat} {service : FibsemService β} {digest : Text}
    (hashed : stateHash setup depth service = .ok digest) : isHexDigest digest = true := by
  unfold stateHash at hashed
  split at hashed
  · cases hashed
  · exact isHexDigest_canonicalDigest hashed

/-! ## Short calls -/

/-- What a call and its answer put into the records. -/
structure Short (stack : Stack) (a : Audit) (result : PyValue) : Prop where
  digest : ∃ digest, a.argumentDigest = some digest ∧ isHexDigest digest = true
  before : isHexDigest a.beforeHash = true
  details : (Json.obj a.details).Plain
  results : ∃ members, plain (rootPath ++ txt "." ++ txt "result_details")
      (.mapping (resultDetails result)) = .ok (.obj members) ∧
    (Json.obj a.details).withinDigits = true ∧ (Json.obj members).withinDigits = true ∧
    Fits stack (stack.left - 6) (.obj a.details) ∧ Fits stack (stack.left - 6) (.obj members) ∧
    (Json.renderText a.requestId).length + (Json.renderText a.operation).length +
      (Json.render (.obj a.details)).length + (Json.render (.obj members)).length ≤ 900000

namespace Short

variable {stack : Stack} {a : Audit} {result : PyValue}

/-- The members of the request's record. -/
def requestedMembers (a : Audit) (digest : Text) : List (Text × Json) :=
  [(txt "request_id", .str a.requestId), (txt "operation", .str a.operation),
    (txt "argument_digest", .str digest), (txt "details", .obj a.details),
    (txt "before_state_hash", .str a.beforeHash)]

theorem requested (short : Short stack a result) {digest : Text}
    (digested : a.argumentDigest = some digest) :
    plainEntries rootPath [] (a.requested.map fun kv => (.str kv.1, kv.2)) =
      .ok (requestedMembers a digest) := by
  have one : txt "operation" ∉ [txt "request_id"] := by decide
  have two : txt "argument_digest" ∉ [txt "operation", txt "request_id"] := by decide
  have three : txt "details" ∉ [txt "argument_digest", txt "operation", txt "request_id"] := by
    decide
  have four : txt "before_state_hash" ∉
      [txt "details", txt "argument_digest", txt "operation", txt "request_id"] := by
    decide
  simp only [Audit.requested, digested, Option.map_some, Option.getD_some, List.map_cons,
    List.map_nil]
  exact plainEntries_cons_ok List.not_mem_nil rfl (plainEntries_cons_ok one rfl
    (plainEntries_cons_ok two rfl (plainEntries_cons_ok three (plain_toPy _ _ short.details)
      (plainEntries_cons_ok four rfl rfl))))

theorem completed (short : Short stack a result) {digest resultDigest afterHash : Text}
    {members : List (Text × Json)} (digested : a.argumentDigest = some digest)
    (results : plain (rootPath ++ txt "." ++ txt "result_details")
      (.mapping (resultDetails result)) = .ok (.obj members)) :
    plainEntries rootPath [] ((a.completed result resultDigest afterHash).map
        fun kv => (.str kv.1, kv.2)) =
      .ok (requestedMembers a digest ++ [(txt "result_details", .obj members),
        (txt "result_digest", .str resultDigest), (txt "after_state_hash", .str afterHash)]) := by
  have one : txt "result_details" ∉ (Json.keys (requestedMembers a digest)).reverse ++ [] := by
    simp only [requestedMembers, Json.keys, List.map_cons, List.map_nil]
    decide
  have two : txt "result_digest" ∉
      txt "result_details" :: ((Json.keys (requestedMembers a digest)).reverse ++ []) := by
    simp only [requestedMembers, Json.keys, List.map_cons, List.map_nil]
    decide
  have three : txt "after_state_hash" ∉ txt "result_digest" :: txt "result_details" ::
      ((Json.keys (requestedMembers a digest)).reverse ++ []) := by
    simp only [requestedMembers, Json.keys, List.map_cons, List.map_nil]
    decide
  rw [Audit.completed, List.map_append]
  apply plainEntries_append (short.requested digested)
  exact plainEntries_cons_ok one results (plainEntries_cons_ok two rfl
    (plainEntries_cons_ok three rfl rfl))

/-- Both records of a short call are short. -/
theorem length_le (short : Short stack a result) {digest resultDigest afterHash : Text}
    {members : List (Text × Json)} (digestIs : isHexDigest digest = true)
    (resultIs : isHexDigest resultDigest = true) (afterIs : isHexDigest afterHash = true)
    (room : (Json.renderText a.requestId).length + (Json.renderText a.operation).length +
      (Json.render (.obj a.details)).length + (Json.render (.obj members)).length ≤ 900000) :
    (Json.render (.obj (requestedMembers a digest))).length ≤ 1000000 ∧
      (Json.render (.obj (requestedMembers a digest ++ [(txt "result_details", .obj members),
        (txt "result_digest", .str resultDigest),
        (txt "after_state_hash", .str afterHash)]))).length ≤ 1000000 := by
  have keys : (Json.renderText (txt "request_id")).length = 12 ∧
      (Json.renderText (txt "operation")).length = 11 ∧
      (Json.renderText (txt "argument_digest")).length = 17 ∧
      (Json.renderText (txt "details")).length = 9 ∧
      (Json.renderText (txt "before_state_hash")).length = 19 ∧
      (Json.renderText (txt "result_details")).length = 16 ∧
      (Json.renderText (txt "result_digest")).length = 15 ∧
      (Json.renderText (txt "after_state_hash")).length = 18 := by decide
  have str : ∀ t, Json.render (.str t) = Json.renderText t := fun _ => rfl
  constructor
  · rw [Json.length_render_obj (by simp [requestedMembers])]
    simp only [requestedMembers, List.map_cons, List.map_nil, List.sum_cons, List.sum_nil,
      Json.memberLength, str, keys, length_renderText_digest digestIs,
      length_renderText_digest short.before]
    omega
  · rw [Json.length_render_obj (by simp [requestedMembers])]
    simp only [requestedMembers, List.cons_append, List.nil_append, List.map_cons, List.map_nil,
      List.sum_cons, List.sum_nil, Json.memberLength, str, keys, length_renderText_digest digestIs,
      length_renderText_digest short.before, length_renderText_digest resultIs,
      length_renderText_digest afterIs]
    omega

/-- Neither record nests too deep. -/
theorem fits (digest resultDigest afterHash : Text) {members : List (Text × Json)}
    (text : ∀ t, Fits stack (stack.left - 6) (.str t)) (details : Fits stack (stack.left - 6) (.obj a.details))
    (results : Fits stack (stack.left - 6) (.obj members)) :
    (∀ kv ∈ requestedMembers a digest, Fits stack (stack.left - 6) kv.2) ∧
      ∀ kv ∈ requestedMembers a digest ++ [(txt "result_details", .obj members),
        (txt "result_digest", .str resultDigest), (txt "after_state_hash", .str afterHash)],
        Fits stack (stack.left - 6) kv.2 := by
  simp [requestedMembers, text, details, results]

end Short

theorem followUp_journal (setup : Setup β) (d : OperationDispatcher β) (result : PyValue)
    (journal : EventJournal)
    {next : FollowUp} (uncounted : next.counted = 0) :
    next.run setup { d with service.journal := journal } result =
      ((next.run setup d result).1,
        { (next.run setup d result).2 with service.journal := journal }) := by
  cases next with
  | checkpoint stepId => cases uncounted
  | newPattern | patternReceipt =>
      simp only [FollowUp.run]
      split <;> rfl
  | _ => rfl

/-- A handler but that of a checkpoint does not read the journal. -/
theorem perform_journal {d d' : OperationDispatcher β} {operation : Text} {arguments : Arguments}
    {next : FollowUp} {result : PyValue} (journal : EventJournal)
    (other : operation ≠ txt "checkpoint") (uncounted : next.counted = 0)
    (performed : perform setup d operation arguments next = (.ok result, d')) :
    perform setup { d with service.journal := journal } operation arguments next =
      (.ok result, { d' with service.journal := journal }) := by
  have invoke : ∀ service : FibsemService β, service.invoke setup operation arguments =
      ((setup.backend.invoke operation arguments service.backend).1,
        { service with backend := (setup.backend.invoke operation arguments service.backend).2 }) := by
    intro service
    rw [FibsemService.invoke, if_neg other]
  unfold perform at performed ⊢
  rw [invoke] at performed ⊢
  cases answered : setup.backend.invoke operation arguments d.service.backend with
  | mk answer b =>
      rw [answered] at performed
      cases answer with
      | error e => cases performed
      | ok value =>
          dsimp only at performed ⊢
          have run := followUp_journal setup
            { d with service := { d.service with backend := b } } value journal uncounted
          rw [run]
          split at performed
          · cases performed
          · rename_i ran
            cases performed
            rw [ran]

/-- A call whose request is short is handed to the service. -/
theorem invokes_short (clock : Timely setup)
    {d : OperationDispatcher β} {call : Call} {a : Audit} {check : Check β} {next : FollowUp}
    {result : PyValue} (room : Roomy d.service.journal)
    (listable : d.service.journal.events.length + 1 < 2 ^ 62) (short : Short setup.stack a result)
    (named : a.requestId = call.requestId ∧ a.operation = call.operation)
    (hashed : stateHash setup 0 d.service = .ok a.beforeHash)
    (detailed : auditDetails setup call.operation call.arguments = .ok a.details)
    (digested : ∃ digest, canonicalDigestWithin setup.stack 0 (Json.obj call.arguments).toPy =
      .ok digest ∧
      a.argumentDigest = some digest)
    (handled : handler setup call.operation = some check)
    (passed : check d call.arguments = .ok next) :
    ∃ journal, Invokes setup d call a { d with service.journal := journal } next ∧ Roomy journal ∧
      journal.events.length = d.service.journal.events.length + 1 := by
  obtain ⟨digest, made, digestIs⟩ := digested
  obtain ⟨members, results, digits, -, shallow, shallow', fits⟩ := short.results
  have sizes := short.length_le (isHexDigest_canonicalDigest made)
    (isHexDigest_canonicalDigest made) (isHexDigest_canonicalDigest made) fits
  have kindShort : (Json.renderText (txt "rpc.requested")).length ≤ 1024 := by decide
  have nested := Short.fits digest digest digest (fits_text (Nat.zero_le 4)) shallow shallow'
  have writable : Writable setup d.service 0 (txt "rpc.requested") a.requested :=
    writable_of_short room clock (short.requested digestIs) (by
      simpa [Short.requestedMembers, Json.withinDigits, Json.withinDigitsFields] using digits)
      kindShort sizes.1 nested.1
  obtain ⟨journal, recorded, -⟩ := record_writable (by decide) rfl writable
  refine ⟨journal, ?_, room.record recorded listable, length_record recorded⟩
  exact
    { requestId := named.1
      operation := named.2
      beforeHash := hashed
      details := detailed
      digest := ⟨digest, made, digestIs⟩
      requested := recorded
      checked := ⟨check, handled, by rw [handler_journal handled]; exact passed⟩ }

/-- Every follow-up but a checkpoint's is uncounted. -/
theorem uncounted_of_passed {d : OperationDispatcher β} {call : Call} {check : Check β}
    {next : FollowUp} (handled : handler setup call.operation = some check)
    (passed : check d call.arguments = .ok next) (other : call.operation ≠ txt "checkpoint") :
    next.counted = 0 := by
  have allowed : Passes d.policy call next := passes handled passed
  rcases allowed.counted with ⟨isCheckpoint, -⟩ | ⟨-, none⟩
  · exact absurd isCheckpoint other
  · exact none

/-- **A short call** is answered as its handler answers, and leaves room in the journal. -/
theorem dispatch_short (clock : Timely setup)
    {d d' : OperationDispatcher β} {call : Call} {a : Audit} {check : Check β} {next : FollowUp}
    {result : PyValue} {afterHash : Text} (room : Roomy d.service.journal)
    (listable : d.service.journal.events.length + 2 < 2 ^ 62) (short : Short setup.stack a result)
    (named : a.requestId = call.requestId ∧ a.operation = call.operation)
    (hashed : stateHash setup 0 d.service = .ok a.beforeHash)
    (detailed : auditDetails setup call.operation call.arguments = .ok a.details)
    (digested : ∃ digest, canonicalDigestWithin setup.stack 0 (Json.obj call.arguments).toPy =
      .ok digest ∧
      a.argumentDigest = some digest)
    (handled : handler setup call.operation = some check)
    (passed : check d call.arguments = .ok next)
    (other : call.operation ≠ txt "checkpoint")
    (performed : perform setup d call.operation call.arguments next = (.ok result, d'))
    (hashedAfter : stateHash setup 0 d'.service = .ok afterHash)
    (resultDigested : ∃ digest, canonicalDigestWithin setup.stack 0 result = .ok digest) :
    ∃ journal, (dispatch setup d call).2 = { d' with service.journal := journal } ∧ Roomy journal ∧
      journal.events.length = d.service.journal.events.length + 2 := by
  obtain ⟨journal, invokes, room₁, length₁⟩ := invokes_short clock room (by omega) short named
    hashed detailed digested handled passed
  obtain ⟨digest, made, digestIs⟩ := digested
  obtain ⟨resultDigest, resultMade⟩ := resultDigested
  obtain ⟨members, results, digits, digits', shallow, shallow', fits⟩ := short.results
  have sizes := short.length_le (isHexDigest_canonicalDigest made)
    (isHexDigest_canonicalDigest resultMade) (isHexDigest_stateHash hashedAfter) fits
  have kindShort : (Json.renderText (txt "rpc.completed")).length ≤ 1024 := by decide
  have nested := Short.fits digest resultDigest afterHash (fits_text (Nat.zero_le 4)) shallow
    shallow'
  have writable : Writable setup { d' with service.journal := journal }.service 0
      (txt "rpc.completed") (a.completed result resultDigest afterHash) :=
    writable_of_short room₁ clock (short.completed digestIs results) (by
      simpa [Short.requestedMembers, Json.withinDigits, Json.withinDigitsFields] using
        And.intro digits digits') kindShort sizes.2 nested.2
  obtain ⟨journal', recorded', -⟩ := record_writable (by decide) rfl writable
  have room₂ : Roomy ({ d' with service.journal := journal' } : OperationDispatcher β).service.journal :=
    Roomy.record (d := { d' with service.journal := journal }) room₁ recorded'
      (by show journal.events.length + 1 < 2 ^ 62; omega)
  refine ⟨journal', ?_, room₂, ?_⟩
  · have same : stateHash setup 0 { d' with service.journal := journal }.service = .ok afterHash :=
      hashedAfter
    rw [invokes.dispatches, perform_journal journal other
      (uncounted_of_passed handled passed other) performed, finish, complete, same, resultMade]
    dsimp only
    rw [recorded']
  · have length₂ : journal'.events.length = journal.events.length + 1 := length_record recorded'
    omega

/-! ## Short calls, computed -/

/-- The records of the call are short when it is answered with `result`. -/
def shortRecords (setup : Setup β) (call : Call) (result : PyValue) : Bool :=
  match auditDetails setup call.operation call.arguments with
  | .error _ => false
  | .ok details =>
      match canonicalDigestWithin setup.stack 0 (Json.obj call.arguments).toPy,
          plain [] (Json.obj details).toPy,
          plain (rootPath ++ txt "." ++ txt "result_details") (.mapping (resultDetails result)),
          canonicalDigestWithin setup.stack 0 result with
      | .ok _, .ok _, .ok (.obj results), .ok _ =>
          (Json.obj details).withinDigits && (Json.obj results).withinDigits &&
          decide (Fits setup.stack (setup.stack.left - 6) (.obj details)) &&
          decide (Fits setup.stack (setup.stack.left - 6) (.obj results)) &&
          (Json.renderText call.requestId).length + (Json.renderText call.operation).length +
            (Json.render (.obj details)).length + (Json.render (.obj results)).length ≤ 900000
      | _, _, _, _ => false

/-- What short records are made from. -/
theorem short_of_shortRecords {call : Call} {result : PyValue}
    (records : shortRecords setup call result = true) {before : Text} (hex : isHexDigest before = true) :
    ∃ digest details,
      Short setup.stack ⟨call.requestId, call.operation, some digest, details, before⟩ result ∧
      auditDetails setup call.operation call.arguments = .ok details ∧
      canonicalDigestWithin setup.stack 0 (Json.obj call.arguments).toPy = .ok digest ∧
      ∃ resultDigest, canonicalDigestWithin setup.stack 0 result = .ok resultDigest := by
  unfold shortRecords at records
  split at records
  case h_1 => cases records
  case h_2 details detailed =>
    split at records
    case h_2 => cases records
    case h_1 digest plainDetails members resultDigest digested plains results resultDigested =>
      simp only [Bool.and_eq_true, decide_eq_true_eq] at records
      obtain ⟨⟨⟨⟨digits, digits'⟩, shallow⟩, shallow'⟩, fits⟩ := records
      have detailsPlain : (Json.obj details).Plain :=
        plain_toPy_eq _ _ plains ▸ plain_ok _ _ plains
      exact ⟨digest, details,
        { digest := ⟨digest, rfl, isHexDigest_canonicalDigest digested⟩
          before := hex
          details := detailsPlain
          results := ⟨members, results, digits, digits', shallow, shallow', fits⟩ },
        detailed, digested, resultDigest, resultDigested⟩

/-- The follow-up of a call whose request is short. -/
def asked (setup : Setup β) (d : OperationDispatcher β) (call : Call) (result : PyValue) :
    Option FollowUp :=
  if (stateHash setup 0 d.service).toOption.isSome ∧ shortRecords setup call result = true then
    (handler setup call.operation).bind fun check => (check d call.arguments).toOption
  else none

/-- What a short call leaves behind when it is answered.  The journal is left as it was, and
nothing is hashed. -/
def answered (setup : Setup β) (d : OperationDispatcher β) (call : Call) :
    Option (OperationDispatcher β) :=
  (handler setup call.operation).bind fun check =>
    (check d call.arguments).toOption.bind fun next =>
      match perform setup d call.operation call.arguments next with
      | (.error _, _) => none
      | (.ok result, d') =>
          if call.operation ≠ txt "checkpoint" ∧ (asked setup d call result).isSome ∧
              (stateHash setup 0 d'.service).toOption.isSome then some d'
          else none

theorem exists_of_toOption_isSome {ε α : Type} {e : Except ε α} (some' : e.toOption.isSome = true) :
    ∃ a, e = .ok a := by
  cases e with
  | error e => cases some'
  | ok a => exact ⟨a, rfl⟩

/-- **A call that is asked for is handed to the service**, whatever the journal holds. -/
theorem invokes_of_asked (clock : Timely setup)
    {d : OperationDispatcher β} {call : Call} {result : PyValue} {next : FollowUp}
    (asks : asked setup d call result = some next) {journal : EventJournal} (room : Roomy journal)
    (listable : journal.events.length + 1 < 2 ^ 62) :
    ∃ a journal', Invokes setup { d with service.journal := journal } call a
      { d with service.journal := journal' } next := by
  unfold asked at asks
  split at asks
  case isFalse => cases asks
  case isTrue holds =>
    obtain ⟨check, handled, passed⟩ := Option.bind_eq_some_iff.1 asks
    obtain ⟨before, hashed⟩ := exists_of_toOption_isSome holds.1
    obtain ⟨digest, details, short, detailed, digested, -⟩ :=
      short_of_shortRecords holds.2 (isHexDigest_stateHash hashed)
    have passed' : check { d with service.journal := journal } call.arguments = .ok next := by
      rw [handler_journal handled]
      exact ok_of_toOption passed
    obtain ⟨journal', invokes, -⟩ := invokes_short
      (d := { d with service.journal := journal }) clock room listable short ⟨rfl, rfl⟩ hashed
      detailed ⟨digest, digested, rfl⟩ handled passed'
    exact ⟨_, journal', invokes⟩

/-- **A call that is answered** leaves behind what is computed, whatever the journal holds. -/
theorem dispatch_of_answered (clock : Timely setup)
    {d d' : OperationDispatcher β} {call : Call} (answers : answered setup d call = some d')
    {journal : EventJournal} (room : Roomy journal)
    (listable : journal.events.length + 2 < 2 ^ 62) :
    ∃ journal', (dispatch setup { d with service.journal := journal } call).2 =
        { d' with service.journal := journal' } ∧ Roomy journal' ∧
      journal'.events.length = journal.events.length + 2 := by
  obtain ⟨check, handled, answers⟩ := Option.bind_eq_some_iff.1 answers
  obtain ⟨next, passed, answers⟩ := Option.bind_eq_some_iff.1 answers
  split at answers
  case h_1 => cases answers
  case h_2 result after performed =>
    split at answers
    case isFalse => cases answers
    case isTrue holds =>
      cases answers
      obtain ⟨other, asks, hashesAfter⟩ := holds
      unfold asked at asks
      split at asks
      case isFalse => cases asks
      case isTrue holds =>
        obtain ⟨before, hashed⟩ := exists_of_toOption_isSome holds.1
        obtain ⟨afterHash, hashedAfter⟩ := exists_of_toOption_isSome hashesAfter
        obtain ⟨digest, details, short, detailed, digested, resultDigested⟩ :=
          short_of_shortRecords holds.2 (isHexDigest_stateHash hashed)
        have passes' := ok_of_toOption passed
        have passed' : check { d with service.journal := journal } call.arguments = .ok next := by
          rw [handler_journal handled]
          exact passes'
        have performed' : perform setup { d with service.journal := journal } call.operation
            call.arguments next = (.ok result, { d' with service.journal := journal }) :=
          perform_journal journal other (uncounted_of_passed handled passes' other) performed
        have answered := dispatch_short (d := { d with service.journal := journal }) clock room
          listable short ⟨rfl, rfl⟩ hashed detailed ⟨digest, digested, rfl⟩ handled passed' other
          performed' hashedAfter resultDigested
        exact answered

end

end InstrumentBench.Fibsem.Microscope
