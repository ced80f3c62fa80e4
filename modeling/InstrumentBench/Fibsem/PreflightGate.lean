/-
# Fibsem.PreflightGate -- the preflight gate and the checkpoint lockstep

No task pattern and no checkpoint reaches the backend before preflight is complete,
completion is never taken back, and the service's checkpoints stay the steps the
dispatcher has counted.  The lockstep rests on one record: a checkpoint once exported is
always journaled, because its record is smaller than the one of its own request.
-/
import InstrumentBench.Fibsem.Dispatch

namespace InstrumentBench.Fibsem.Microscope

set_option autoImplicit false

open InstrumentBench.Theory
open InstrumentBench.Fibsem.Journal
open InstrumentBench.Fibsem.Service

section

variable {β : Type} {setup : Setup β}

/-- The call is handed to the service, and by it to the backend or the exporter. -/
def Reaches (setup : Setup β) (d : OperationDispatcher β) (call : Call) : Prop :=
  ∃ a d' next, Invokes setup d call a d' next

/-- **The gate.** -/
structure Gated (setup : Setup β) (d : OperationDispatcher β) (call : Call) : Prop where
  pattern : Reaches setup d call →
    call.operation = txt "run_cut" ∨ call.operation = txt "run_deposition" →
    (∀ purpose ∈ preflightPurposes, purposeOf call.arguments ≠ some purpose) →
    d.policy.preflight.complete = true
  checkpoint : Reaches setup d call → call.operation = txt "checkpoint" →
    d.policy.preflight.complete = true ∧ d.policy.active = false

/-- **The lockstep.** -/
def Lockstep (d : OperationDispatcher β) : Prop :=
  d.service.checkpoints = STEPS.take d.policy.checkpointIndex ∧
    d.policy.checkpointIndex ≤ STEPS.length

/-! ## The record of an exported checkpoint -/

/-- `time.monotonic_ns` reads a C `int64`, and the exporter's digests are SHA-256. -/
structure Hosted (setup : Setup β) : Prop where
  clock : ∀ n, 0 ≤ setup.clock n ∧ setup.clock n < 2 ^ 63
  digests : ∀ stepId sequence head b evidence,
    (setup.backend.exportCheckpoint stepId sequence head b).1 = .ok evidence →
      isHexDigest evidence.bundleSha256 = true ∧ isHexDigest evidence.geometryHash = true

/-- The journal is a Python list. -/
def Listable (d : OperationDispatcher β) : Prop := d.service.journal.events.length < 2 ^ 63

/-- What `rpc.requested` records. -/
theorem requested_fields {a : Audit} {digest : Text} (digested : a.argumentDigest = some digest)
    {fields : List (Text × Json)}
    (made : plainEntries rootPath [] (a.requested.map fun kv => (.str kv.1, kv.2)) = .ok fields) :
    ∃ details, fields = [(txt "request_id", .str a.requestId), (txt "operation", .str a.operation),
      (txt "argument_digest", .str digest), (txt "details", details),
      (txt "before_state_hash", .str a.beforeHash)] := by
  simp only [Audit.requested, digested, Option.map_some, Option.getD_some, List.map_cons,
    List.map_nil] at made
  obtain ⟨requestId, fields, rfl, first, four⟩ := plainEntries_cons made
  obtain ⟨operation, fields, rfl, second, three⟩ := plainEntries_cons four
  obtain ⟨argument, fields, rfl, third, two⟩ := plainEntries_cons three
  obtain ⟨details, fields, rfl, -, one⟩ := plainEntries_cons two
  obtain ⟨before, fields, rfl, last, none⟩ := plainEntries_cons one
  cases first
  cases second
  cases third
  cases last
  cases none
  exact ⟨details, rfl⟩

theorem length_render_nat (n : Nat) : (Json.render (.int n)).length = (decimalDigits n).length := by
  simp [Json.render, Json.intLiteral, NumberLiteral.render, NumberLiteral.signText,
    NumberLiteral.fractionText, NumberLiteral.exponentText, digitText]

/-- The size of a record without its hash. -/
theorem canonicalSize_base (e : JournalEvent) : canonicalSize (.obj e.base) =
    104 + (decimalDigits e.sequence).length + (Json.renderText e.runId).length +
      (Json.renderText e.worldId).length + (Json.render (.int e.recordedNs)).length +
      (Json.renderText e.kind).length + (Json.render (.obj e.fields)).length +
      (Json.renderText e.previousHash).length := by
  have keys : (Json.renderText (txt "schema_version")).length = 16 ∧
      (Json.renderText (txt "sequence")).length = 10 ∧
      (Json.renderText (txt "run_id")).length = 8 ∧
      (Json.renderText (txt "world_id")).length = 10 ∧
      (Json.renderText (txt "recorded_ns")).length = 13 ∧
      (Json.renderText (txt "kind")).length = 6 ∧
      (Json.renderText (txt "fields")).length = 8 ∧
      (Json.renderText (txt "previous_hash")).length = 15 ∧
      (Json.render (.int JOURNAL_SCHEMA_VERSION)).length = 1 := by decide
  obtain ⟨schema, sequence, run, world, time, kind, fields, previous, version⟩ := keys
  rw [canonicalSize_eq, Json.length_render_obj (by simp [JournalEvent.base])]
  simp only [JournalEvent.base, List.map_cons, List.map_nil, List.sum_cons, List.sum_nil,
    Json.memberLength, schema, sequence, run, world, time, kind, fields, previous, version,
    length_render_nat]
  simp only [show ∀ t, Json.render (.str t) = Json.renderText t from fun _ => rfl]
  omega


theorem two_le_renderText (t : Text) : 2 ≤ (Json.renderText t).length := by
  simp [Json.renderText]

theorem length_requested (requestId operation : Text) (details : Json) {digest before : Text}
    (digestIs : isHexDigest digest = true) (beforeIs : isHexDigest before = true) :
    215 ≤ (Json.render (.obj [(txt "request_id", .str requestId),
      (txt "operation", .str operation), (txt "argument_digest", .str digest),
      (txt "details", details), (txt "before_state_hash", .str before)])).length := by
  have keys : (Json.renderText (txt "request_id")).length = 12 ∧
      (Json.renderText (txt "operation")).length = 11 ∧
      (Json.renderText (txt "argument_digest")).length = 17 ∧
      (Json.renderText (txt "details")).length = 9 ∧
      (Json.renderText (txt "before_state_hash")).length = 19 := by decide
  have one := two_le_renderText requestId
  have two := two_le_renderText operation
  rw [Json.length_render_obj (by simp)]
  simp only [List.map_cons, List.map_nil, List.sum_cons, List.sum_nil, Json.memberLength,
    show ∀ t, Json.render (.str t) = Json.renderText t from fun _ => rfl,
    length_renderText_digest digestIs, length_renderText_digest beforeIs, keys]
  omega

theorem length_exported {stepId bundle geometry : Text} (step : stepId ∈ STEPS)
    (bundleIs : isHexDigest bundle = true) (geometryIs : isHexDigest geometry = true) :
    (Json.render (.obj [(txt "step_id", .str stepId), (txt "artifact_digest", .str bundle),
      (txt "geometry_hash", .str geometry)])).length = 188 := by
  have keys : (Json.renderText (txt "step_id")).length = 9 ∧
      (Json.renderText (txt "artifact_digest")).length = 17 ∧
      (Json.renderText (txt "geometry_hash")).length = 15 := by decide
  have steps : ∀ stepId ∈ STEPS, (Json.renderText stepId).length = 8 := by decide
  rw [Json.length_render_obj (by simp)]
  simp only [List.map_cons, List.map_nil, List.sum_cons, List.sum_nil, Json.memberLength,
    show ∀ t, Json.render (.str t) = Json.renderText t from fun _ => rfl,
    length_renderText_digest bundleIs, length_renderText_digest geometryIs, keys, steps _ step]
  rfl

/-- A reading of the clock takes one to nineteen digits. -/
theorem length_clock {now : Int} (reading : 0 ≤ now ∧ now < 2 ^ 63) :
    1 ≤ (Json.render (.int now)).length ∧ (Json.render (.int now)).length ≤ 19 ∧
      (decimalDigits now.natAbs).length ≤ 19 := by
  obtain ⟨n, rfl⟩ := Int.eq_ofNat_of_zero_le reading.1
  have small : (decimalDigits n).length ≤ 19 :=
    (length_decimalDigits_le_iff (by omega) n).2 (by omega)
  rw [length_render_nat]
  exact ⟨List.length_pos_of_ne_nil (decimalDigits_ne_nil n), small, small⟩

/-- **An export is always journaled.**  Its record is written two events after the one of
its request, and is smaller: the digits its sequence and clock may have more do not make
up for the members it has less. -/
theorem exported_writable {service service' : FibsemService β} {a : Audit} {digest : Text}
    (digested : a.argumentDigest = some digest) (digestIs : isHexDigest digest = true)
    (beforeIs : isHexDigest a.beforeHash = true) (headIs : isHexDigest service.journal.headHash = true)
    (requested : Writable setup service 0 (txt "rpc.requested") a.requested)
    (run : service'.journal.runId = service.journal.runId)
    (world : service'.journal.worldId = service.journal.worldId)
    (two : service'.journal.events.length = service.journal.events.length + 2)
    (headIs' : isHexDigest service'.journal.headHash = true)
    (clock : ∀ n, 0 ≤ setup.clock n ∧ setup.clock n < 2 ^ 63)
    (short : service.journal.events.length < 2 ^ 63) {stepId : Text} (step : stepId ∈ STEPS)
    {evidence : Evidence} (bundleIs : isHexDigest evidence.bundleSha256 = true)
    (geometryIs : isHexDigest evidence.geometryHash = true) :
    Writable setup service' 4 (txt "checkpoint.exported")
      [(txt "step_id", .str stepId), (txt "artifact_digest", .str evidence.bundleSha256),
       (txt "geometry_hash", .str evidence.geometryHash)] := by
  obtain ⟨fields, made, -, small, -⟩ := requested
  obtain ⟨details, rfl⟩ := requested_fields digested made
  have written : plainEntries rootPath [] ([(txt "step_id", PyValue.str stepId),
      (txt "artifact_digest", .str evidence.bundleSha256),
      (txt "geometry_hash", .str evidence.geometryHash)].map fun kv => (PyKey.str kv.1, kv.2)) =
      .ok [(txt "step_id", .str stepId), (txt "artifact_digest", .str evidence.bundleSha256),
        (txt "geometry_hash", .str evidence.geometryHash)] := by
    have distinct : txt "artifact_digest" ∉ [txt "step_id"] ∧
        txt "geometry_hash" ∉ [txt "artifact_digest", txt "step_id"] := by decide
    simp [plainEntries, plain, distinct]
  have kinds : (Json.renderText (txt "rpc.requested")).length = 15 ∧
      (Json.renderText (txt "checkpoint.exported")).length = 21 := by decide
  have before := length_clock (clock service.journal.events.length)
  have after := length_clock (clock (service.journal.events.length + 2))
  have counted : (decimalDigits (service.journal.events.length + 2 + 1)).length ≤
      (decimalDigits (service.journal.events.length + 1)).length + 1 :=
    length_decimalDigits_add_two (service.journal.events.length + 1)
  refine ⟨_, written, ?_, ?_, ?_⟩
  · have schema : (decimalDigits JOURNAL_SCHEMA_VERSION.natAbs).length = 1 := by decide
    have sequence : (decimalDigits (service.journal.events.length + 2 + 1)).length ≤ 20 :=
      (length_decimalDigits_le_iff (by omega) _).2 (by omega)
    simp only [EventJournal.draft, JournalEvent.base, Json.withinDigits, Json.withinDigitsFields,
      Json.maxStrDigits, Int.natAbs_natCast, two, schema, decide_eq_true_eq, Bool.and_true,
      Bool.and_eq_true]
    refine ⟨by omega, decide_eq_true ?_, trivial, trivial, decide_eq_true ?_⟩ <;> omega
  · have members := length_requested a.requestId a.operation details digestIs beforeIs
    rw [canonicalSize_base] at small ⊢
    simp only [EventJournal.draft, run, world, two, kinds, length_renderText_digest headIs,
      length_renderText_digest headIs', length_exported step bundleIs geometryIs] at small ⊢
    omega
  · have text : ∀ t, Fits setup.stack (setup.stack.left - 10) (.str t) := fits_text (le_refl 4)
    exact fits_base (le_refl 4) (by simp [EventJournal.draft, text])


/-! ## The lockstep of one dispatch -/

/-- The journal's head is a digest. -/
def Headed (d : OperationDispatcher β) : Prop := isHexDigest d.service.journal.headHash = true

theorem headHash_append (journal : EventJournal) (event : JournalEvent) :
    EventJournal.headHash { journal with events := journal.events ++ [event] } = event.eventHash := by
  simp [EventJournal.headHash]

theorem append_headed {service service' : FibsemService β} {depth : Nat} {kind : Text}
    {fields : List (Text × PyValue)}
    (appended : service.append setup depth kind fields = .ok service') :
    isHexDigest service'.journal.headHash = true := by
  obtain ⟨event, rfl, -, -, hash, -⟩ := append_ok appended
  rwa [headHash_append]

/-- The record of an export can be written once the request to freeze is. -/
def Exports (setup : Setup β) (service : FibsemService β) (stepId : Text) : Prop :=
  ∀ (service' : FibsemService β) (event : JournalEvent) (evidence : Evidence),
    service'.journal = { service.journal with events := service.journal.events ++ [event] } →
    isHexDigest event.eventHash = true → isHexDigest evidence.bundleSha256 = true →
    isHexDigest evidence.geometryHash = true →
    Writable setup service' 4 (txt "checkpoint.exported")
      [(txt "step_id", .str stepId), (txt "artifact_digest", .str evidence.bundleSha256),
       (txt "geometry_hash", .str evidence.geometryHash)]

/-- The step is counted when the call is answered, and not when it raises. -/
def Counts (before after : FibsemService β) (stepId : Text) : Except PyError PyValue → Prop
  | .error _ => after.checkpoints = before.checkpoints
  | .ok _ => after.checkpoints = before.checkpoints ++ [stepId]

theorem checkpoint_counts (host : Hosted setup) {service after : FibsemService β} {stepId : Text}
    {summary : Json} {answer : Except PyError PyValue} (fits : Exports setup service stepId)
    (made : service.checkpoint setup stepId summary = (answer, after)) :
    Counts service after stepId answer := by
  have kindOk : ¬ (txt "checkpoint.exported" = [] ∨ 128 < (txt "checkpoint.exported").length) := by
    decide
  unfold FibsemService.checkpoint at made
  split at made
  · cases made
    rfl
  · split at made
    · cases made
      rfl
    · rename_i requested appended
      obtain ⟨event, rfl, -, -, hash, -⟩ := append_ok appended
      split at made
      · cases made
        rfl
      · rename_i evidence b exported
        obtain ⟨bundle, geometry⟩ := host.digests _ _ _ _ evidence (by rw [exported])
        obtain ⟨event', written, -⟩ := append_writable kindOk
          (fits { service with
              backend := b
              journal := { service.journal with events := service.journal.events ++ [event] }
              checkpoints := service.checkpoints ++ [stepId] } event evidence rfl hash bundle geometry)
        dsimp only at made
        rw [written] at made
        cases made
        rfl

theorem invoke_counts (host : Hosted setup) {service after : FibsemService β}
    {arguments : Arguments} {stepId : Text} {answer : Except PyError PyValue}
    (given : arguments.lookup (txt "step_id") = some (.str stepId))
    (fits : Exports setup service stepId)
    (made : service.invoke setup (txt "checkpoint") arguments = (answer, after)) :
    Counts service after stepId answer := by
  unfold FibsemService.invoke at made
  rw [if_pos rfl, given] at made
  cases summary : FibsemService.summaryOf arguments with
  | none =>
      rw [summary] at made
      cases made
      rfl
  | some summary' =>
      rw [summary] at made
      dsimp only at made
      split at made
      · rename_i e _ answered
        cases made
        have raised : Counts service after stepId (.error e) := checkpoint_counts host fits answered
        exact raised
      · rename_i answered
        cases made
        exact checkpoint_counts host fits answered

theorem invoke_frame (setup : Setup β) (service : FibsemService β) {operation : Text}
    (arguments : Arguments) (other : operation ≠ txt "checkpoint") :
    (service.invoke setup operation arguments).2.checkpoints = service.checkpoints ∧
      (service.invoke setup operation arguments).2.journal = service.journal := by
  unfold FibsemService.invoke
  rw [if_neg other]
  exact ⟨rfl, rfl⟩


/-- A record changes the journal only. -/
theorem record_frame {d d' : OperationDispatcher β} {depth : Nat} {kind : String}
    {fields : List (Text × PyValue)} (recorded : record setup depth d kind fields = .ok d') :
    d'.policy = d.policy ∧ d'.service.checkpoints = d.service.checkpoints ∧
      d'.service.backend = d.service.backend := by
  obtain ⟨event, rfl, -⟩ := record_ok recorded
  exact ⟨rfl, rfl, rfl⟩

/-- What a follow-up counts. -/
def FollowUp.counted : FollowUp → Nat
  | .checkpoint _ => 1
  | _ => 0

/-- Only the follow-up of a checkpoint counts a step, and none adds one. -/
theorem followUp_frame (setup : Setup β) (d : OperationDispatcher β) (result : PyValue)
    (next : FollowUp) :
    (next.run setup d result).2.service.checkpoints = d.service.checkpoints ∧
      (next.run setup d result).2.policy.checkpointIndex =
        d.policy.checkpointIndex + next.counted := by
  cases next with
  | newPattern purpose operation =>
      simp only [FollowUp.run]
      split
      · exact ⟨rfl, rfl⟩
      · rename_i policy made
        obtain ⟨id, status, -, -, rfl⟩ := Policy.recordNewPattern_ok made
        exact ⟨rfl, by simp [FollowUp.counted]⟩
  | patternReceipt id operation =>
      simp only [FollowUp.run]
      split
      · exact ⟨rfl, rfl⟩
      · rename_i policy made
        obtain ⟨status, pattern, -, -, -, rfl⟩ := Policy.recordReceipt_ok made
        exact ⟨rfl, by simp [FollowUp.counted, Policy.setStatus]⟩
  | checkpoint stepId =>
      simp only [FollowUp.run]
      split
      · exact ⟨rfl, rfl⟩
      · rename_i service appended
        obtain ⟨event, rfl, -⟩ := append_ok appended
        exact ⟨rfl, rfl⟩
  | _ => exact ⟨rfl, rfl⟩

/-- The calls of `checkpoint` are those whose follow-up counts. -/
theorem Passes.counted {policy : Policy} {call : Call} {next : FollowUp}
    (allowed : Passes policy call next) :
    call.operation = txt "checkpoint" ∧ (∃ stepId, next = .checkpoint stepId) ∨
      call.operation ≠ txt "checkpoint" ∧ next.counted = 0 := by
  have named := allowed.operation
  cases next with
  | checkpoint stepId => exact Or.inl ⟨allowed.1, stepId, rfl⟩
  | _ =>
      refine Or.inr ⟨fun same => absurd (same ▸ named) ?_, rfl⟩
      simp only [FollowUp.operations]
      decide

/-- The calls that pattern are those whose follow-up records a pattern. -/
theorem Passes.patterns {policy : Policy} {call : Call} {next : FollowUp}
    (allowed : Passes policy call next)
    (operation : call.operation = txt "run_cut" ∨ call.operation = txt "run_deposition") :
    ∃ purpose, next = .newPattern purpose call.operation := by
  have named := allowed.operation
  cases next with
  | newPattern purpose operation => exact ⟨purpose, by rw [allowed.1]⟩
  | _ =>
      rcases operation with same | same
      all_goals
        refine absurd (same ▸ named) ?_
        simp only [FollowUp.operations]
        decide

theorem Passes.image {policy : Policy} {call : Call} {next : FollowUp}
    (allowed : Passes policy call next) (operation : call.operation = txt "acquire_image") :
    ∃ beam, next = .beam beam := by
  have named := allowed.operation
  cases next with
  | beam name => exact ⟨name, rfl⟩
  | _ =>
      refine absurd (operation ▸ named) ?_
      simp only [FollowUp.operations]
      decide

theorem Passes.newPattern {policy : Policy} {call : Call} {next : FollowUp}
    (allowed : Passes policy call next) {purpose operation : Text}
    (isNew : next = .newPattern purpose operation) :
    call.operation = txt "run_cut" ∨ call.operation = txt "run_deposition" := by
  subst isNew
  exact allowed.2.2.1.imp And.left And.left

/-- **Step, in the handler.** -/
theorem perform_lockstep (host : Hosted setup) {d : OperationDispatcher β} {call : Call}
    {next : FollowUp} (allowed : Passes d.policy call next)
    (fits : ∀ stepId ∈ STEPS, Exports setup d.service stepId) (lock : Lockstep d) :
    Lockstep (perform setup d call.operation call.arguments next).2 := by
  unfold perform
  cases invoked : d.service.invoke setup call.operation call.arguments with
  | mk answer service =>
      have after : ∀ result, answer = .ok result →
          Lockstep (next.run setup { d with service } result).2 := by
        rintro result rfl
        have frame := followUp_frame setup { d with service } result next
        rcases allowed.counted with ⟨operation, stepId, rfl⟩ | ⟨operation, counted⟩
        · obtain ⟨-, -, -, step, given⟩ := allowed
          rw [operation] at invoked
          have counts : service.checkpoints = d.service.checkpoints ++ [stepId] :=
            invoke_counts host given (fits stepId (List.mem_of_getElem? step)) invoked
          obtain ⟨bound, -⟩ := List.getElem?_eq_some_iff.1 step
          refine ⟨?_, frame.2 ▸ bound⟩
          rw [frame.1, frame.2]
          show service.checkpoints = STEPS.take (d.policy.checkpointIndex + 1)
          rw [counts, lock.1, List.take_add_one, step]
          rfl
        · have same := (invoke_frame setup d.service call.arguments operation).1
          rw [invoked] at same
          refine ⟨?_, ?_⟩
          · rw [frame.1, frame.2, counted]
            exact same.trans lock.1
          · rw [frame.2, counted]
            exact lock.2
      cases answer with
      | error e =>
          refine ⟨?_, lock.2⟩
          rcases allowed.counted with ⟨operation, stepId, rfl⟩ | ⟨operation, -⟩
          · obtain ⟨-, -, -, step, given⟩ := allowed
            rw [operation] at invoked
            have same : service.checkpoints = d.service.checkpoints :=
              invoke_counts host given (fits stepId (List.mem_of_getElem? step)) invoked
            exact same.trans lock.1
          · have same := (invoke_frame setup d.service call.arguments operation).1
            rw [invoked] at same
            exact same.trans lock.1
      | ok result =>
          have after := after result rfl
          dsimp only
          split
          · rename_i made
            rw [made] at after
            exact after
          · rename_i made
            rw [made] at after
            exact after


theorem isHexDigest_canonicalDigest {stack : Stack} {depth : Nat} {value : PyValue} {digest : Text}
    (made : canonicalDigestWithin stack depth value = .ok digest) : isHexDigest digest = true := by
  unfold canonicalDigestWithin at made
  split at made
  · cases made
  · rename_i payload _
    cases made
    exact isHexDigest_hexdigest payload

/-- A call that is handed on may have its checkpoint exported. -/
theorem Invokes.exports (host : Hosted setup) {d d' : OperationDispatcher β} {call : Call}
    {a : Audit} {next : FollowUp} (invokes : Invokes setup d call a d' next) (headed : Headed d)
    (listable : Listable d) : ∀ stepId ∈ STEPS, Exports setup d'.service stepId := by
  intro stepId step service event evidence journal hash bundle geometry
  obtain ⟨digest, digested, argument⟩ := invokes.digest
  obtain ⟨requested, rfl, -, -, -, -, writable⟩ := record_ok invokes.requested
  refine exported_writable argument ?_ ?_ headed writable ?_ ?_ ?_ ?_ host.clock listable step
    bundle geometry
  · exact isHexDigest_canonicalDigest digested
  · have hashed := invokes.beforeHash
    unfold stateHash at hashed
    split at hashed
    · cases hashed
    · exact isHexDigest_canonicalDigest hashed
  · rw [journal]
  · rw [journal]
  · rw [journal]
    simp
  · rw [journal, headHash_append]
    exact hash

/-! ## Completion -/

theorem complete_iff (p : PreflightState) : p.complete = true ↔
    p.ping = true ∧ p.capabilities = true ∧
      ((∀ b ∈ p.beams, b = txt "SEM" ∨ b = txt "FIB") ∧ txt "SEM" ∈ p.beams ∧ txt "FIB" ∈ p.beams) ∧
      p.stageMoved = true ∧ p.stageReturned = true ∧ p.needleInserted = true ∧
      p.needleMoved = true ∧ p.needleRetracted = true ∧ p.couponCut = true ∧
      p.couponDeposition = true := by
  simp only [PreflightState.complete, Bool.and_eq_true, List.all_eq_true, Bool.or_eq_true,
    decide_eq_true_eq, List.contains_iff_mem]
  tauto

theorem afterReceipt_complete {policy : Policy} (purpose status : Text)
    (complete : policy.preflight.complete = true) :
    (policy.afterReceipt purpose status).preflight.complete = true := by
  unfold Policy.afterReceipt Policy.completePatternEffect
  rw [complete_iff] at complete ⊢
  repeat' split
  all_goals tauto

/-- **Completion is never taken back** by a follow-up. -/
theorem followUp_complete (setup : Setup β) {d : OperationDispatcher β} {call : Call}
    (result : PyValue) {next : FollowUp} {policy : Policy} (allowed : Passes policy call next)
    (complete : d.policy.preflight.complete = true) :
    (next.run setup d result).2.policy.preflight.complete = true := by
  cases next with
  | newPattern purpose operation =>
      simp only [FollowUp.run]
      split
      · exact complete
      · rename_i policy made
        obtain ⟨id, status, -, -, rfl⟩ := Policy.recordNewPattern_ok made
        exact afterReceipt_complete purpose status complete
  | patternReceipt id operation =>
      simp only [FollowUp.run]
      split
      · exact complete
      · rename_i policy made
        obtain ⟨status, pattern, -, -, -, rfl⟩ := Policy.recordReceipt_ok made
        exact afterReceipt_complete pattern.purpose status complete
  | checkpoint stepId =>
      simp only [FollowUp.run]
      split
      · exact complete
      · exact complete
  | beam name =>
      obtain ⟨-, known, -⟩ := allowed
      rw [complete_iff] at complete ⊢
      have member : name ∈ d.policy.preflight.beams := by
        rcases known with rfl | rfl
        · exact complete.2.2.1.2.1
        · exact complete.2.2.1.2.2
      simpa only [FollowUp.run, List.insert_of_mem member] using complete
  | stage target =>
      rw [complete_iff] at complete ⊢
      simp only [FollowUp.run, Policy.recordStage, Bool.or_eq_true]
      tauto
  | _ =>
      rw [complete_iff] at complete ⊢
      simp only [FollowUp.run, Bool.or_eq_true]
      tauto


theorem perform_complete (setup : Setup β) {d : OperationDispatcher β} {call : Call}
    {next : FollowUp} (allowed : Passes d.policy call next)
    (complete : d.policy.preflight.complete = true) :
    (perform setup d call.operation call.arguments next).2.policy.preflight.complete = true := by
  unfold perform
  split
  · exact complete
  · rename_i result service _
    have after := followUp_complete setup (d := { d with service }) result allowed complete
    split
    · rename_i made
      rw [made] at after
      exact after
    · rename_i made
      rw [made] at after
      exact after

/-! ## Every dispatch -/

/-- What a run of dispatches starts from. -/
def Fresh (setup : Setup β) (d : OperationDispatcher β) : Prop :=
  ∃ backend runId worldId journal, EventJournal.new runId worldId = .ok journal ∧
    OperationDispatcher.new setup ⟨backend, journal, [], false⟩ = .ok d

/-- What one dispatch guards. -/
structure Guarded (setup : Setup β) (d : OperationDispatcher β) (call : Call) : Prop where
  gated : Gated setup d call
  /-- A call that is not handed on leaves the backend and the checkpoints alone. -/
  untouched : ¬ Reaches setup d call →
    (dispatch setup d call).2.service.backend = d.service.backend ∧
      (dispatch setup d call).2.service.checkpoints = d.service.checkpoints
  kept : d.policy.preflight.complete = true →
    (dispatch setup d call).2.policy.preflight.complete = true
  lockstep : Lockstep (dispatch setup d call).2
  ordered : (dispatch setup d call).2.service.checkpoints <+: STEPS
  distinct : (dispatch setup d call).2.service.checkpoints.Nodup

/-- The invariant of a run. -/
structure Aligned (d : OperationDispatcher β) : Prop where
  lockstep : Lockstep d
  headed : Headed d

theorem Aligned.ofFresh {d : OperationDispatcher β} (fresh : Fresh setup d) : Aligned d := by
  obtain ⟨backend, runId, worldId, journal, made, built⟩ := fresh
  unfold EventJournal.new at made
  split at made
  · cases made
    unfold OperationDispatcher.new at built
    split at built
    · cases built
    · split at built
      · cases built
      · cases built
        exact ⟨⟨rfl, Nat.zero_le _⟩, isHexDigest_genesis⟩
  · cases made

theorem Aligned.record {d d' : OperationDispatcher β} {depth : Nat} {kind : String}
    {fields : List (Text × PyValue)} (recorded : record setup depth d kind fields = .ok d')
    (aligned : Aligned d) : Aligned d' := by
  obtain ⟨event, rfl, -, -, hash, -⟩ := record_ok recorded
  exact ⟨aligned.lockstep, by rw [Headed, headHash_append]; exact hash⟩

/-- **Step.** -/
theorem aligned_dispatch (host : Hosted setup) {d : OperationDispatcher β} (call : Call)
    (listable : Listable d) (aligned : Aligned d) : Aligned (dispatch setup d call).2 := by
  rcases dispatch_cases setup d call with ⟨a, d', next, invokes, ends⟩ | ⟨-, records⟩
  · rw [ends]
    have before := aligned.record invokes.requested
    obtain ⟨check, handled, passed⟩ := invokes.checked
    apply finish_keeps a _ (fun b b' depth kind fields recorded kept => Aligned.record recorded kept)
    refine ⟨perform_lockstep host (passes handled passed)
      (invokes.exports host aligned.headed listable) before.lockstep, ?_⟩
    exact perform_keeps (P := fun journal => isHexDigest journal.headHash = true)
      (fun service service' depth kind fields _ appended _ => append_headed appended) d' call.operation
      call.arguments next before.headed
  · exact records.keeps (fun b b' depth kind fields _ recorded kept => Aligned.record recorded kept) aligned

theorem guarded_dispatch (host : Hosted setup) {d : OperationDispatcher β} (call : Call)
    (listable : Listable d) (aligned : Aligned d) : Guarded setup d call := by
  have lock := (aligned_dispatch host call listable aligned).lockstep
  have gate : ∀ a d' next, Invokes setup d call a d' next → Passes d.policy call next := by
    intro a d' next invokes
    obtain ⟨check, handled, passed⟩ := invokes.checked
    rw [← (record_frame invokes.requested).1]
    exact passes handled passed
  constructor
  case gated =>
      constructor
      · rintro ⟨a, d', next, invokes⟩ operation task
        have allowed := gate a d' next invokes
        obtain ⟨purpose, rfl⟩ := allowed.patterns operation
        obtain ⟨-, named, -, preflight | complete⟩ := allowed
        · exact absurd named (task purpose preflight)
        · exact complete
      · rintro ⟨a, d', next, invokes⟩ operation
        have allowed := gate a d' next invokes
        rcases allowed.counted with ⟨-, stepId, rfl⟩ | ⟨other, -⟩
        · exact ⟨allowed.2.1, allowed.2.2.1⟩
        · exact absurd operation other
  case untouched =>
      intro stays
      rcases dispatch_cases setup d call with ⟨a, d', next, invokes, -⟩ | ⟨-, records⟩
      · exact absurd ⟨a, d', next, invokes⟩ stays
      · apply records.keeps (P := fun b => b.service.backend = d.service.backend ∧
          b.service.checkpoints = d.service.checkpoints) _ ⟨rfl, rfl⟩
        intro b b' depth kind fields _ recorded same
        obtain ⟨-, checkpoints, backend⟩ := record_frame recorded
        exact ⟨backend.trans same.1, checkpoints.trans same.2⟩
  case kept =>
      intro complete
      rcases dispatch_cases setup d call with ⟨a, d', next, invokes, ends⟩ | ⟨-, records⟩
      · rw [ends]
        have policy := (record_frame invokes.requested).1
        apply finish_keeps (P := fun b => b.policy.preflight.complete = true) a
        · intro b b' depth kind fields recorded kept
          rwa [(record_frame recorded).1]
        · exact perform_complete setup (policy ▸ gate a d' next invokes) (policy ▸ complete)
      · apply records.keeps (P := fun b => b.policy.preflight.complete = true) _ complete
        intro b b' depth kind fields _ recorded kept
        rwa [(record_frame recorded).1]
  case lockstep => exact lock
  case ordered => exact lock.1 ▸ List.take_prefix _ _
  case distinct =>
      have steps : STEPS.Nodup := by decide
      exact lock.1 ▸ steps.sublist (List.take_sublist _ _)

/-- **Run.**  Every dispatch of a run is gated, and after it the checkpoints are in lockstep. -/
theorem preflight_gate (host : Hosted setup) {d : OperationDispatcher β} (fresh : Fresh setup d)
    (calls : List Call) (listable : Along setup (fun d _ => Listable d) d calls) :
    Along setup (Guarded setup) d calls := by
  have aligned := Aligned.ofFresh fresh
  clear fresh
  induction calls generalizing d with
  | nil => trivial
  | cons call calls ih =>
      exact ⟨guarded_dispatch host call listable.1 aligned,
        ih listable.2 (aligned_dispatch host call listable.1 aligned)⟩

end

end InstrumentBench.Fibsem.Microscope
