/-
# Fibsem.Dispatch -- what one dispatch does

A dispatch either hands the call to the service, once, in a state that differs from the
first by the request's record alone (`Invokes`), or it only writes records.  What the
records leave alone needs no look at the dispatcher's branches after this.
-/
import InstrumentBench.Fibsem.AuditTrail
import InstrumentBench.Theory.PyDict

namespace InstrumentBench.Fibsem.Microscope

set_option autoImplicit false

open InstrumentBench.Theory
open InstrumentBench.Fibsem.Journal
open InstrumentBench.Fibsem.Service

/-! ## The policy -/

/-- A recorded pattern is queued or running. -/
def Policy.active (policy : Policy) : Bool :=
  policy.patterns.any fun p => p.2.status = txt "queued" || p.2.status = txt "running"

/-- The purpose a pattern's arguments name. -/
def purposeOf (arguments : Arguments) : Option Text :=
  match arguments.lookup (txt "pattern") with
  | some (.obj pattern) =>
      match pattern.lookup (txt "purpose") with
      | some (.str purpose) => some purpose
      | _ => none
  | _ => none

def preflightPurposes : List Text := [txt "preflight_cut", txt "preflight_deposition"]

namespace Policy

variable {policy policy' : Policy}

@[simp] theorem completePatternEffect_checkpointIndex (policy : Policy) (purpose : Text) :
    (policy.completePatternEffect purpose).checkpointIndex = policy.checkpointIndex := by
  unfold completePatternEffect
  repeat' split
  all_goals rfl

@[simp] theorem completePatternEffect_patterns (policy : Policy) (purpose : Text) :
    (policy.completePatternEffect purpose).patterns = policy.patterns := by
  unfold completePatternEffect
  repeat' split
  all_goals rfl

/-- The policy after a receipt of the status for a pattern of the purpose. -/
def afterReceipt (policy : Policy) (purpose status : Text) : Policy :=
  if status = txt "completed" then policy.completePatternEffect purpose else policy

@[simp] theorem afterReceipt_checkpointIndex (policy : Policy) (purpose status : Text) :
    (policy.afterReceipt purpose status).checkpointIndex = policy.checkpointIndex := by
  unfold afterReceipt
  split <;> simp

@[simp] theorem afterReceipt_patterns (policy : Policy) (purpose status : Text) :
    (policy.afterReceipt purpose status).patterns = policy.patterns := by
  unfold afterReceipt
  split <;> simp

/-- A new pattern that is recorded has an ID of its own. -/
theorem recordNewPattern_ok {result : PyValue} {purpose operation : Text}
    (made : policy.recordNewPattern result purpose operation = .ok policy') :
    ∃ id status, receipt result = .ok (id, status) ∧ policy.patterns.lookup id = none ∧
      policy' = afterReceipt
        { policy with patterns := (id, ⟨purpose, operation, status⟩) :: policy.patterns }
        purpose status := by
  unfold recordNewPattern PyError.runtime at made
  split at made
  · cases made
  · rename_i id status received
    split at made
    · cases made
    · rename_i fresh
      cases made
      exact ⟨id, status, received, Option.not_isSome_iff_eq_none.1 fresh, rfl⟩

/-- A receipt that is recorded is for its pattern. -/
theorem recordReceipt_ok {result : PyValue} {id operation : Text}
    (made : policy.recordReceipt result id operation = .ok policy') :
    ∃ status pattern, receipt result = .ok (id, status) ∧
      (operation = txt "stop_pattern" → status ∈ ["stopped", "completed", "failed"].map txt) ∧
      (policy.setStatus id status).patterns.lookup id = some pattern ∧
      policy' = (policy.setStatus id status).afterReceipt pattern.purpose status := by
  unfold recordReceipt PyError.runtime at made
  split at made
  · cases made
  · rename_i receiptId status received
    split at made
    · cases made
    · rename_i same
      obtain rfl := not_not.1 same
      split at made
      · cases made
      · rename_i stopped
        dsimp only at made
        split at made
        · cases made
        · rename_i pattern found
          cases made
          exact ⟨status, pattern, received, fun stop => not_not.1 fun out => stopped ⟨stop, out⟩,
            found, rfl⟩

end Policy

section

variable {β : Type} {setup : Setup β}

/-! ## Records -/

/-- A member that is given is written, and one that is not given is not. -/
theorem lookup_plainEntries {path : Text} {seen : List Text} {ps : List (PyKey × PyValue)}
    {fs : List (Text × Json)} (made : plainEntries path seen ps = .ok fs) (key : Text) :
    match ps.lookup (.str key) with
    | none => fs.lookup key = none
    | some item => ∃ inner v, plain inner item = .ok v ∧ fs.lookup key = some v := by
  induction ps generalizing seen fs with
  | nil =>
      cases made
      rfl
  | cons p ps ih =>
      obtain ⟨k, item⟩ := p
      cases k with
      | other => cases made
      | str k =>
          obtain ⟨value, fields, rfl, first, others⟩ := plainEntries_cons made
          rw [PyDict.lookup_cons, PyDict.lookup_cons]
          by_cases same : key = k
          · subst same
            rw [if_pos rfl, if_pos rfl]
            exact ⟨_, value, first, rfl⟩
          · rw [if_neg (by simpa using same), if_neg same]
            exact ih others

/-- An accepted `append` adds one event. -/
theorem append_ok {service service' : FibsemService β} {depth : Nat} {kind : Text}
    {fields : List (Text × PyValue)}
    (appended : service.append setup depth kind fields = .ok service') :
    ∃ event, service' = { service with
        journal := { service.journal with events := service.journal.events ++ [event] } } ∧
      event.kind = kind ∧ event.sequence = service.journal.events.length + 1 ∧
      isHexDigest event.eventHash = true ∧
      plainEntries rootPath [] (fields.map fun kv => (.str kv.1, kv.2)) = .ok event.fields ∧
      Writable setup service depth kind fields := by
  have writable : Writable setup service depth kind fields := by
    by_contra unwritable
    obtain ⟨e, refused⟩ := append_unwritable unwritable
    rw [refused] at appended
    cases appended
  have made := appended
  unfold FibsemService.append at made
  split at made
  · cases made
  · rename_i event journal within
    cases made
    have accepted := (appendWithin_ok_iff.1 within).1
    obtain ⟨rfl, sequence, -, -, -, kindIs, -, -, -, payload, -, hash⟩ := append_spec accepted
    refine ⟨event, rfl, kindIs, sequence, hash ▸ isHexDigest_hexdigest payload, ?_, writable⟩
    unfold EventJournal.append at accepted
    split at accepted
    · cases accepted
    · split at accepted
      · cases accepted
      · rename_i plainFields plain
        dsimp only at accepted
        split at accepted
        · cases accepted
        · cases accepted
          exact plain

/-- An accepted record adds one event. -/
theorem record_ok {d d' : OperationDispatcher β} {depth : Nat} {kind : String}
    {fields : List (Text × PyValue)} (recorded : record setup depth d kind fields = .ok d') :
    ∃ event, d' = { d with service := { d.service with
        journal := { d.service.journal with events := d.service.journal.events ++ [event] } } } ∧
      event.kind = txt kind ∧ event.sequence = d.service.journal.events.length + 1 ∧
      isHexDigest event.eventHash = true ∧
      plainEntries rootPath [] (fields.map fun kv => (.str kv.1, kv.2)) = .ok event.fields ∧
      Writable setup d.service depth (txt kind) fields := by
  unfold record at recorded
  split at recorded
  · cases recorded
  · rename_i service appended
    cases recorded
    obtain ⟨event, rfl, rest⟩ := append_ok appended
    exact ⟨event, rfl, rest⟩

/-- Some records of the kinds, one after the other, and nothing else. -/
inductive Records (setup : Setup β) (kinds : List String) :
    OperationDispatcher β → OperationDispatcher β → Prop where
  | refl (d : OperationDispatcher β) : Records setup kinds d d
  | cons {d d' d'' : OperationDispatcher β} {depth : Nat} {kind : String}
      {fields : List (Text × PyValue)} (member : kind ∈ kinds)
      (recorded : record setup depth d kind fields = .ok d') (rest : Records setup kinds d' d'') : Records setup kinds d d''

namespace Records

variable {kinds : List String} {d d' d'' : OperationDispatcher β}

theorem single {depth : Nat} {kind : String} {fields : List (Text × PyValue)}
    (member : kind ∈ kinds) (recorded : record setup depth d kind fields = .ok d') : Records setup kinds d d' :=
  .cons member recorded (.refl d')

theorem trans (one : Records setup kinds d d') (two : Records setup kinds d' d'') :
    Records setup kinds d d'' := by
  induction one with
  | refl => exact two
  | cons member recorded _ ih => exact .cons member recorded (ih two)

/-- What every record of the kinds keeps, they keep. -/
theorem keeps {P : OperationDispatcher β → Prop} (records : Records setup kinds d d')
    (kept : ∀ (b b' : OperationDispatcher β) (depth : Nat) (kind : String)
      (fields : List (Text × PyValue)),
      kind ∈ kinds → record setup depth b kind fields = .ok b' → P b → P b')
    (before : P d) : P d' := by
  induction records with
  | refl => exact before
  | cons member recorded _ ih => exact ih (kept _ _ _ _ _ member recorded before)

end Records

theorem reject_records (d : OperationDispatcher β) (a : Audit) (reason raisedAs : Text) :
    Records setup ["rpc.requested", "rpc.rejected", "rpc.failed"] d
      (reject setup d a reason raisedAs).2 := by
  unfold reject
  split
  · exact .refl d
  · split
    · exact .refl d
    · rename_i recorded
      exact .single (by simp) recorded

theorem handleError_records (d : OperationDispatcher β) (a : Audit) (e : PyError) :
    Records setup ["rpc.requested", "rpc.rejected", "rpc.failed"] d
      (handleError setup d a e).2 := by
  cases e with
  | other typeName message =>
      simp only [handleError]
      split
      · exact .refl d
      · split
        · exact .refl d
        · rename_i recorded
          exact .single (by simp) recorded
  | _ => exact reject_records d a _ _

/-! ## Reaching the service -/

/-- The call passes its checks in the state `d'`, which adds its request's record to `d`. -/
structure Invokes (setup : Setup β) (d : OperationDispatcher β) (call : Call) (a : Audit)
    (d' : OperationDispatcher β) (next : FollowUp) : Prop where
  requestId : a.requestId = call.requestId
  operation : a.operation = call.operation
  beforeHash : stateHash setup 0 d.service = .ok a.beforeHash
  details : auditDetails setup call.operation call.arguments = .ok a.details
  digest : ∃ digest, canonicalDigestWithin setup.stack 0 (Json.obj call.arguments).toPy = .ok digest ∧
    a.argumentDigest = some digest
  requested : record setup 0 d "rpc.requested" a.requested = .ok d'
  checked : ∃ check, handler setup call.operation = some check ∧
    check d' call.arguments = .ok next

/-- The end of `dispatch`, after the handler. -/
def finish (setup : Setup β) (a : Audit) :
    Except PyError PyValue × OperationDispatcher β → Except PyError PyValue × OperationDispatcher β
  | (.error e, d) => handleError setup d a e
  | (.ok result, d) => complete setup d a result

/-- **The two ways of a dispatch.** -/
theorem dispatch_cases (setup : Setup β) (d : OperationDispatcher β) (call : Call) :
    (∃ a d' next, Invokes setup d call a d' next ∧
      dispatch setup d call =
        finish setup a (perform setup d' call.operation call.arguments next)) ∨
    (¬ ∃ a d' next, Invokes setup d call a d' next) ∧
      Records setup ["rpc.requested", "rpc.rejected", "rpc.failed"] d
        (dispatch setup d call).2 := by
  unfold dispatch
  cases hashed : stateHash setup 0 d.service with
  | error e =>
      refine Or.inr ⟨?_, .refl d⟩
      rintro ⟨a, d', next, invokes⟩
      cases hashed.symm.trans invokes.beforeHash
  | ok beforeHash =>
      cases detailed : auditDetails setup call.operation call.arguments with
      | error e =>
          refine Or.inr ⟨?_, .refl d⟩
          rintro ⟨a, d', next, invokes⟩
          cases detailed.symm.trans invokes.details
      | ok details =>
          cases digested : canonicalDigestWithin setup.stack 0 (Json.obj call.arguments).toPy with
          | error e =>
              refine Or.inr ⟨?_, ?_⟩
              · rintro ⟨a, d', next, invokes⟩
                obtain ⟨digest, made, -⟩ := invokes.digest
                cases digested.symm.trans made
              · cases e with
                | journalError message => exact reject_records d _ _ _
                | _ => exact .refl d
          | ok digest =>
              cases handled : handler setup call.operation with
              | none =>
                  refine Or.inr ⟨?_, reject_records d _ _ _⟩
                  rintro ⟨a, d', next, invokes⟩
                  obtain ⟨check, found, -⟩ := invokes.checked
                  cases handled.symm.trans found
              | some check =>
                  have same : ∀ {a d' next}, Invokes setup d call a d' next →
                      a = ⟨call.requestId, call.operation, some digest, details, beforeHash⟩ := by
                    rintro ⟨requestId, operation, argumentDigest, details', before⟩ d' next invokes
                    obtain ⟨rfl, rfl, hash, made, ⟨found, again, rfl⟩, -, -⟩ := invokes
                    cases hashed.symm.trans hash
                    cases detailed.symm.trans made
                    cases digested.symm.trans again
                    rfl
                  dsimp only [dispatchRequested]
                  cases recorded : record setup 0 d "rpc.requested" (Audit.requested
                      ⟨call.requestId, call.operation, some digest, details, beforeHash⟩) with
                  | error e =>
                      refine Or.inr ⟨?_, .refl d⟩
                      rintro ⟨a, d', next, invokes⟩
                      obtain rfl := same invokes
                      cases recorded.symm.trans invokes.requested
                  | ok d' =>
                      dsimp only
                      cases checked : check d' call.arguments with
                      | error e =>
                          refine Or.inr ⟨?_, .cons (by simp) recorded (handleError_records d' _ e)⟩
                          rintro ⟨a, d'', next, invokes⟩
                          obtain rfl := same invokes
                          cases recorded.symm.trans invokes.requested
                          obtain ⟨check', found, passes⟩ := invokes.checked
                          cases handled.symm.trans found
                          cases checked.symm.trans passes
                      | ok next =>
                          refine Or.inl ⟨_, d', next, ⟨rfl, rfl, hashed, detailed,
                            ⟨digest, digested, rfl⟩, recorded, check, handled, checked⟩, ?_⟩
                          dsimp only
                          cases performed : perform setup d' call.operation call.arguments next with
                          | mk outcome d'' =>
                              cases outcome <;> rfl

/-- A call that is handed on is dispatched so. -/
theorem Invokes.dispatches {d d' : OperationDispatcher β} {call : Call} {a : Audit}
    {next : FollowUp} (invokes : Invokes setup d call a d' next) :
    dispatch setup d call = finish setup a (perform setup d' call.operation call.arguments next) := by
  obtain ⟨requestId, operation, argumentDigest, details, beforeHash⟩ := a
  obtain ⟨rfl, rfl, hashed, detailed, ⟨digest, digested, rfl⟩, recorded, check, handled, passed⟩ :=
    invokes
  unfold dispatch
  rw [hashed, detailed]
  dsimp only
  rw [digested, handled]
  dsimp only [dispatchRequested]
  rw [recorded]
  dsimp only
  rw [passed]
  dsimp only
  cases perform setup d' call.operation call.arguments next with
  | mk outcome d'' => cases outcome <;> rfl

/-- What is left after the handler: a record of the completed call, or others. -/
theorem finish_cases (setup : Setup β) (a : Audit)
    (outcome : Except PyError PyValue × OperationDispatcher β) :
    Records setup ["rpc.requested", "rpc.rejected", "rpc.failed"] outcome.2
        (finish setup a outcome).2 ∨
      ∃ result resultDigest afterHash, outcome.1 = .ok result ∧
        record setup 0 outcome.2 "rpc.completed" (a.completed result resultDigest afterHash) =
          .ok (finish setup a outcome).2 := by
  obtain ⟨answer, d⟩ := outcome
  cases answer with
  | error e => exact Or.inl (handleError_records d a e)
  | ok result =>
      simp only [finish, complete]
      cases stateHash setup 0 d.service with
      | error e => exact Or.inl (.refl d)
      | ok afterHash =>
          cases canonicalDigestWithin setup.stack 0 result with
          | error e => exact Or.inl (.refl d)
          | ok resultDigest =>
              dsimp only
              cases recorded : record setup 0 d "rpc.completed"
                  (a.completed result resultDigest afterHash) with
              | error e => exact Or.inl (.refl d)
              | ok d' => exact Or.inr ⟨result, resultDigest, afterHash, rfl, recorded⟩

/-- What no record changes, the end of a dispatch does not change. -/
theorem finish_keeps {P : OperationDispatcher β → Prop} (a : Audit)
    (outcome : Except PyError PyValue × OperationDispatcher β)
    (kept : ∀ (b b' : OperationDispatcher β) (depth : Nat) (kind : String)
      (fields : List (Text × PyValue)), record setup depth b kind fields = .ok b' → P b → P b')
    (before : P outcome.2) : P (finish setup a outcome).2 := by
  rcases finish_cases setup a outcome with records | ⟨result, digest, hash, -, recorded⟩
  · exact records.keeps (fun b b' depth kind fields _ => kept b b' depth kind fields) before
  · exact kept _ _ _ _ _ recorded before

/-! ## The handlers -/

/-- The operations and their checks. -/
theorem handler_cases {operation : Text} {check : Check β}
    (handled : handler setup operation = some check) :
    ∃ entry ∈ handlers setup, operation = entry.1 ∧ check = entry.2 operation := by
  obtain ⟨entry, found, rfl⟩ := Option.map_eq_some_iff.1 handled
  obtain ⟨before, after, split, -⟩ := List.lookup_eq_some_iff.1 found
  exact ⟨(operation, entry), by rw [split]; simp, rfl, rfl⟩

/-! ## What the checks let through -/

theorem lookup_of_get {fields : List (Text × Json)} {key : Text} {v : Json}
    (found : get fields key = v) (present : v ≠ .null) : fields.lookup key = some v := by
  unfold get at found
  cases looked : fields.lookup key with
  | none => exact absurd (found.symm.trans (by rw [looked]; rfl)) present
  | some w => exact congrArg some (by rw [← found, looked]; rfl)

/-- A pattern that passes names its purpose, one of those the operation allows. -/
theorem validatePattern_purpose {arguments : Arguments} {purposes : List Text} {purpose : Text}
    (valid : validatePattern setup arguments purposes = .ok purpose) :
    purposeOf arguments = some purpose ∧ purpose ∈ purposes := by
  unfold validatePattern PyError.reject at valid
  simp only [bind, Except.bind] at valid
  repeat' split at valid
  all_goals first | (cases valid; done) | skip
  cases valid
  rw [purposeOf, lookup_of_get ‹get arguments (txt "pattern") = .obj _› (by simp)]
  dsimp only
  rw [lookup_of_get ‹get _ (txt "purpose") = .str _› (by simp)]
  exact ⟨rfl, ‹_ ∈ purposes›⟩

/-- The operations that pattern, with their purposes. -/
theorem runPattern_ok {d : OperationDispatcher β} {operation : Text} {arguments : Arguments}
    {purposes : List Text} {preflight : String} {next : FollowUp}
    (passed : runPattern setup d operation arguments purposes preflight = .ok next) :
    ∃ purpose, next = .newPattern purpose operation ∧ purposeOf arguments = some purpose ∧
      purpose ∈ purposes ∧ (purpose = txt preflight ∨ d.policy.preflight.complete = true) := by
  unfold runPattern PyError.reject at passed
  cases valid : validatePattern setup arguments purposes with
  | error e =>
      rw [valid] at passed
      cases passed
  | ok purpose =>
      rw [valid] at passed
      simp only [bind, Except.bind] at passed
      split at passed
      · cases passed
      · rename_i allowed
        cases passed
        obtain ⟨named, member⟩ := validatePattern_purpose valid
        refine ⟨purpose, rfl, named, member, ?_⟩
        rw [not_and_or, not_not, Bool.not_eq_false] at allowed
        exact allowed

/-- A checkpoint that passes is the next step, after preflight and with no pattern active. -/
theorem checkpoint_ok {d : OperationDispatcher β} {arguments : Arguments} {next : FollowUp}
    (passed : checkpoint d arguments = .ok next) :
    ∃ stepId, next = .checkpoint stepId ∧ d.policy.preflight.complete = true ∧
      d.policy.active = false ∧ STEPS[d.policy.checkpointIndex]? = some stepId ∧
      arguments.lookup (txt "step_id") = some (.str stepId) := by
  unfold checkpoint PyError.reject at passed
  split at passed
  · cases passed
  · split at passed
    · cases passed
    · rename_i complete
      split at passed
      · cases passed
      · rename_i idle
        split at passed
        · cases passed
        · rename_i expected step
          split at passed
          · cases passed
          · rename_i named
            have named := lookup_of_get (not_not.1 named) (by simp)
            split at passed
            · cases passed
              exact ⟨expected, rfl, by simpa using complete, by simpa [Policy.active] using idle,
                step, named⟩
            · cases passed
              exact ⟨expected, rfl, by simpa using complete, by simpa [Policy.active] using idle,
                step, named⟩
            · cases passed

theorem acquireImage_ok {arguments : Arguments} {next : FollowUp}
    (passed : acquireImage arguments = .ok next) :
    ∃ beam, next = .beam beam ∧ (beam = txt "SEM" ∨ beam = txt "FIB") ∧
      arguments.lookup (txt "beam") = some (.str beam) := by
  unfold acquireImage requireExact PyError.reject at passed
  simp only [bind, Except.bind] at passed
  repeat' split at passed
  all_goals first | (cases passed; done) | skip
  rename_i beam named known
  cases passed
  exact ⟨beam, rfl, known, lookup_of_get named (by simp)⟩

/-- What a call was, for its check to ask for the follow-up. -/
def Passes (policy : Policy) (call : Call) : FollowUp → Prop
  | .nothing => call.operation ∈ ["get_stage_position", "stop_stage", "get_manipulator_state",
      "stop_manipulator"].map txt
  | .ping => call.operation = txt "ping"
  | .capabilities => call.operation = txt "capabilities"
  | .beam beam => call.operation = txt "acquire_image" ∧ (beam = txt "SEM" ∨ beam = txt "FIB") ∧
      call.arguments.lookup (txt "beam") = some (.str beam)
  | .stage _ => call.operation = txt "move_stage"
  | .inserted => call.operation = txt "insert_manipulator"
  | .moved => call.operation = txt "move_manipulator" ∧
      (policy.preflight.needleInserted = true ∨ policy.preflight.complete = true)
  | .retracted => call.operation = txt "retract_manipulator"
  | .newPattern purpose operation => operation = call.operation ∧
      purposeOf call.arguments = some purpose ∧
      (call.operation = txt "run_cut" ∧ purpose ∈ CUT_PURPOSES ∨
        call.operation = txt "run_deposition" ∧ purpose ∈ DEPOSITION_PURPOSES) ∧
      (purpose ∈ preflightPurposes ∨ policy.preflight.complete = true)
  | .patternReceipt id operation => operation = call.operation ∧
      call.operation ∈ ["pattern_status", "stop_pattern"].map txt ∧ id ≠ [] ∧
      call.arguments.lookup (txt "operation_id") = some (.str id) ∧
      (policy.patterns.lookup id).isSome = true
  | .checkpoint stepId => call.operation = txt "checkpoint" ∧ policy.preflight.complete = true ∧
      policy.active = false ∧ STEPS[policy.checkpointIndex]? = some stepId ∧
      call.arguments.lookup (txt "step_id") = some (.str stepId)

theorem empty_ok {arguments : Arguments} {next after : FollowUp}
    (passed : empty arguments next = .ok after) : after = next := by
  unfold empty requireExact PyError.reject at passed
  simp only [bind, Except.bind] at passed
  repeat' split at passed
  all_goals first | (cases passed; done) | skip
  cases passed
  rfl

theorem moveStage_ok {d : OperationDispatcher β} {arguments : Arguments} {next : FollowUp}
    (passed : moveStage setup d arguments = .ok next) :
    ∃ target, next = .stage target ∧
      validateMotion setup d.service "stage" arguments = .ok target := by
  unfold moveStage at passed
  cases valid : validateMotion setup d.service "stage" arguments with
  | error e =>
      rw [valid] at passed
      cases passed
  | ok target =>
      rw [valid] at passed
      cases passed
      exact ⟨target, rfl, rfl⟩

theorem insertManipulator_ok {d : OperationDispatcher β} {arguments : Arguments}
    {next : FollowUp} (passed : insertManipulator setup d arguments = .ok next) :
    next = .inserted := by
  unfold insertManipulator PyError.reject at passed
  simp only [bind, Except.bind] at passed
  repeat' split at passed
  all_goals cases passed
  all_goals rfl

theorem moveManipulator_ok {d : OperationDispatcher β} {arguments : Arguments} {next : FollowUp}
    (passed : moveManipulator setup d arguments = .ok next) :
    next = .moved ∧
      (d.policy.preflight.needleInserted = true ∨ d.policy.preflight.complete = true) := by
  unfold moveManipulator PyError.reject at passed
  simp only [bind, Except.bind] at passed
  split at passed
  · cases passed
  · rename_i allowed
    rw [not_and_or, Bool.not_eq_false, Bool.not_eq_false] at allowed
    split at passed
    · cases passed
    · cases passed
      exact ⟨rfl, allowed⟩

theorem operationId_ok {d : OperationDispatcher β} {operation : Text} {arguments : Arguments}
    {next : FollowUp} (passed : operationId d operation arguments = .ok next) :
    ∃ id, next = .patternReceipt id operation ∧ id ≠ [] ∧
      arguments.lookup (txt "operation_id") = some (.str id) ∧
      (d.policy.patterns.lookup id).isSome = true := by
  unfold operationId requireExact PyError.reject at passed
  simp only [bind, Except.bind] at passed
  repeat' split at passed
  all_goals first | (cases passed; done) | skip
  rename_i id named nonempty known
  cases passed
  exact ⟨id, rfl, nonempty, lookup_of_get named (by simp), by simpa using known⟩

/-- **The handlers' checks**, all at once. -/
theorem passes {d : OperationDispatcher β} {call : Call} {check : Check β} {next : FollowUp}
    (handled : handler setup call.operation = some check)
    (passed : check d call.arguments = .ok next) : Passes d.policy call next := by
  obtain ⟨entry, member, named, rfl⟩ := handler_cases handled
  simp only [handlers, List.mem_cons, List.not_mem_nil, or_false] at member
  rcases member with rfl | rfl | rfl | rfl | rfl | rfl | rfl | rfl | rfl | rfl | rfl | rfl |
    rfl | rfl | rfl | rfl
  · obtain rfl := empty_ok passed
    exact named
  · obtain rfl := empty_ok passed
    exact named
  · obtain ⟨beam, rfl, known, given⟩ := acquireImage_ok passed
    exact ⟨named, known, given⟩
  · obtain rfl := empty_ok passed
    simp [Passes, named]
  · obtain ⟨target, rfl, -⟩ := moveStage_ok passed
    exact named
  · obtain rfl := empty_ok passed
    simp [Passes, named]
  · obtain rfl := empty_ok passed
    simp [Passes, named]
  · obtain rfl := insertManipulator_ok passed
    exact named
  · obtain ⟨rfl, allowed⟩ := moveManipulator_ok passed
    exact ⟨named, allowed⟩
  · obtain rfl := empty_ok passed
    exact named
  · obtain rfl := empty_ok passed
    simp [Passes, named]
  · obtain ⟨purpose, rfl, purposeIs, member, allowed⟩ := runPattern_ok passed
    refine ⟨rfl, purposeIs, Or.inl ⟨named, member⟩, allowed.imp_left ?_⟩
    rintro rfl
    simp [preflightPurposes]
  · obtain ⟨purpose, rfl, purposeIs, member, allowed⟩ := runPattern_ok passed
    refine ⟨rfl, purposeIs, Or.inr ⟨named, member⟩, allowed.imp_left ?_⟩
    rintro rfl
    simp [preflightPurposes]
  · obtain ⟨id, rfl, nonempty, given, known⟩ := operationId_ok passed
    exact ⟨rfl, by simp [named], nonempty, given, known⟩
  · obtain ⟨id, rfl, nonempty, given, known⟩ := operationId_ok passed
    exact ⟨rfl, by simp [named], nonempty, given, known⟩
  · obtain ⟨stepId, rfl, complete, idle, step, given⟩ := checkpoint_ok passed
    exact ⟨named, complete, idle, step, given⟩

/-- The operations that ask for the follow-up. -/
def FollowUp.operations : FollowUp → List String
  | .nothing => ["get_stage_position", "stop_stage", "get_manipulator_state", "stop_manipulator"]
  | .ping => ["ping"]
  | .capabilities => ["capabilities"]
  | .beam _ => ["acquire_image"]
  | .stage _ => ["move_stage"]
  | .inserted => ["insert_manipulator"]
  | .moved => ["move_manipulator"]
  | .retracted => ["retract_manipulator"]
  | .newPattern _ _ => ["run_cut", "run_deposition"]
  | .patternReceipt _ _ => ["pattern_status", "stop_pattern"]
  | .checkpoint _ => ["checkpoint"]

theorem Passes.operation {policy : Policy} {call : Call} {next : FollowUp}
    (allowed : Passes policy call next) : call.operation ∈ next.operations.map txt := by
  cases next with
  | nothing => exact allowed
  | newPattern purpose operation =>
      obtain ⟨-, -, ⟨named, -⟩ | ⟨named, -⟩, -⟩ := allowed <;> simp [FollowUp.operations, named]
  | patternReceipt id operation => exact allowed.2.1
  | beam _ | moved | checkpoint _ => exact List.mem_singleton.2 allowed.1
  | _ => exact List.mem_singleton.2 allowed


end

end InstrumentBench.Fibsem.Microscope
