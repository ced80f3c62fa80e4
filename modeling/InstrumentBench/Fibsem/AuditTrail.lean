/-
# Fibsem.AuditTrail -- which calls leave a complete audit trail

Every call of `dispatch` should leave one `rpc.rejected`, or one
`rpc.requested` and one record that ends it, and a refused call should change
nothing else.  Each record repeats the candidate's own texts, and a record too
large for the journal, or nested too deep for the interpreter's stack, is not
written at all: `audited_step` says for exactly which calls the trail is complete,
and `audited_run_iff` carries it over runs.
-/
import InstrumentBench.Fibsem.Microscope
import InstrumentBench.Fibsem.JournalRoundTrip
import InstrumentBench.Fibsem.Protocol

namespace InstrumentBench.Fibsem.Microscope

set_option autoImplicit false

open InstrumentBench.Theory
open InstrumentBench.Fibsem.Journal
open InstrumentBench.Fibsem.Service

/-! ## Records of calls in a journal -/

def isRpc (kind : Text) : Bool :=
  ["rpc.requested", "rpc.rejected", "rpc.completed", "rpc.failed"].any fun name => kind = txt name

/-- The kind and the request ID of every record about a call. -/
def rpcRecords (events : List JournalEvent) : List (Text × Json) :=
  (events.filter fun e => isRpc e.kind).map fun e => (e.kind, field e.fields "request_id")

theorem rpcRecords_append (es fs : List JournalEvent) :
    rpcRecords (es ++ fs) = rpcRecords es ++ rpcRecords fs := by
  simp [rpcRecords]

/-- The second journal continues the first, with these records about calls. -/
def Continues (before after : EventJournal) (trail : List (Text × Json)) : Prop :=
  ∃ es, after.events = before.events ++ es ∧ rpcRecords es = trail

namespace Continues

variable {first second third : EventJournal} {trail trail' : List (Text × Json)}

theorem refl (journal : EventJournal) : Continues journal journal [] := ⟨[], by simp, rfl⟩

theorem trans (one : Continues first second trail) (two : Continues second third trail') :
    Continues first third (trail ++ trail') := by
  obtain ⟨es, left, rfl⟩ := one
  obtain ⟨fs, right, rfl⟩ := two
  exact ⟨es ++ fs, by rw [right, left, List.append_assoc], rpcRecords_append es fs⟩

theorem unique (one : Continues first second trail) (two : Continues first second trail') :
    trail = trail' := by
  obtain ⟨es, left, rfl⟩ := one
  obtain ⟨fs, right, rfl⟩ := two
  rw [List.append_cancel_left (left.symm.trans right)]

end Continues

/-! ## What `append` writes -/

section

variable {β : Type} (setup : Setup β)

/-- The members are plain data and the record without its hash is within the
journal's limits, and nests no deeper than the stack `depth` calls below `dispatch` lets
`append` follow. -/
def Writable (service : FibsemService β) (depth : Nat) (kind : Text)
    (fields : List (Text × PyValue)) : Prop :=
  ∃ plainFields, plainEntries rootPath [] (fields.map fun kv => (.str kv.1, kv.2)) =
      .ok plainFields ∧
    let draft := service.journal.draft (setup.clock service.journal.events.length) kind plainFields
    (Json.obj draft.base).withinDigits = true ∧
      canonicalSize (.obj draft.base) ≤ MAX_CANONICAL_BYTES ∧
      Fits setup.stack (setup.stack.left - (depth + 4)) (.obj draft.base)

variable {setup}

/-- `append` adds a writable event. -/
theorem append_writable {service : FibsemService β} {depth : Nat} {kind : Text}
    {fields : List (Text × PyValue)} (kindOk : ¬ (kind = [] ∨ 128 < kind.length))
    (writable : Writable setup service depth kind fields) :
    ∃ event, service.append setup depth kind fields = .ok { service with
        journal := { service.journal with events := service.journal.events ++ [event] } } ∧
      event.kind = kind ∧
      plainEntries rootPath [] (fields.map fun kv => (.str kv.1, kv.2)) = .ok event.fields := by
  obtain ⟨plainFields, made, digits, small, fits⟩ := writable
  obtain ⟨distinct, -, others⟩ := plainEntries_ok _ _ _ made
  let now := setup.clock service.journal.events.length
  let draft := service.journal.draft now kind plainFields
  have plain : (Json.obj draft.base).Plain := plain_base ⟨distinct, others⟩
  rw [canonicalSize_eq] at small
  have digest : canonicalDigest (Json.obj draft.base).toPy =
      .ok (hexdigest (asciiBytes (Json.obj draft.base).dumps)) := by
    rw [canonicalDigest, canonicalBytes_toPy plain, encode_ok_iff.2 ⟨digits, small, rfl⟩]
  let event := { draft with eventHash := hexdigest (asciiBytes (Json.obj draft.base).dumps) }
  have appended : service.journal.append now kind fields = .ok (event,
      { service.journal with events := service.journal.events ++ [event] }) := by
    rw [EventJournal.append, if_neg kindOk]
    simp only [made, draft, now] at digest ⊢
    rw [digest]
  have within : service.journal.appendWithin setup.stack depth now kind fields = .ok (event,
      { service.journal with events := service.journal.events ++ [event] }) := by
    refine appendWithin_ok_iff.2 ⟨appended, fun members again => ?_⟩
    cases made.symm.trans again
    exact fits
  refine ⟨event, ?_, rfl, made⟩
  rw [FibsemService.append, within]

/-- `append` refuses an event that is not writable. -/
theorem append_unwritable {service : FibsemService β} {depth : Nat} {kind : Text}
    {fields : List (Text × PyValue)} (unwritable : ¬ Writable setup service depth kind fields) :
    ∃ e, service.append setup depth kind fields = .error e := by
  rw [FibsemService.append]
  cases within : service.journal.appendWithin setup.stack depth
      (setup.clock service.journal.events.length) kind fields with
  | error e => exact ⟨e, rfl⟩
  | ok accepted =>
      refine absurd ?_ unwritable
      obtain ⟨appended, fits⟩ := appendWithin_ok_iff.1 within
      unfold EventJournal.append at appended
      split at appended
      · cases appended
      · split at appended
        · cases appended
        · rename_i plainFields made
          obtain ⟨distinct, -, others⟩ := plainEntries_ok _ _ _ made
          split at appended
          · cases appended
          · rename_i digest hashed
            rw [canonicalDigest, canonicalBytes_toPy (plain_base ⟨distinct, others⟩)] at hashed
            split at hashed
            · cases hashed
            · rename_i payload encoded
              obtain ⟨digits, small, -⟩ := encode_ok_iff.1 encoded
              exact ⟨plainFields, made, digits, canonicalSize_eq _ ▸ small, fits _ made⟩

/-- The kinds of the records about a call. -/
theorem kindOk_of_isRpc {kind : Text} (rpc : isRpc kind = true) :
    ¬ (kind = [] ∨ 128 < kind.length) := by
  have lengths : ∀ name ∈ ["rpc.requested", "rpc.rejected", "rpc.completed", "rpc.failed"],
      (txt name).length ≤ 128 ∧ txt name ≠ [] := by decide
  simp only [isRpc, List.any_eq_true, decide_eq_true_eq] at rpc
  obtain ⟨name, member, rfl⟩ := rpc
  obtain ⟨short, nonempty⟩ := lengths name member
  rintro (isEmpty | long)
  · exact nonempty isEmpty
  · omega

/-- A record carries the request ID its fields start with. -/
theorem field_requestId {fields : List (Text × PyValue)} {requestId : Text}
    (first : fields.head? = some (txt "request_id", .str requestId))
    {plainFields : List (Text × Json)}
    (made : plainEntries rootPath [] (fields.map fun kv => (.str kv.1, kv.2)) = .ok plainFields) :
    field plainFields "request_id" = .str requestId := by
  obtain ⟨rest, rfl⟩ := List.head?_eq_some_iff.1 first
  rw [List.map_cons, plainEntries, if_neg (by simp), plain] at made
  dsimp only at made
  split at made
  · cases made
  · cases made
    simp [field]

/-- A writable record of a call is added, and nothing else changes. -/
theorem record_writable {d : OperationDispatcher β} {depth : Nat} {kind : String}
    {fields : List (Text × PyValue)} {requestId : Text} (rpc : isRpc (txt kind) = true)
    (first : fields.head? = some (txt "request_id", .str requestId))
    (writable : Writable setup d.service depth (txt kind) fields) :
    ∃ journal, record setup depth d kind fields = .ok { d with service.journal := journal } ∧
      Continues d.service.journal journal [(txt kind, .str requestId)] := by
  obtain ⟨event, appended, kindIs, made⟩ := append_writable (kindOk_of_isRpc rpc) writable
  refine ⟨_, by rw [record, appended], [event], rfl, ?_⟩
  rw [rpcRecords, List.filter_cons_of_pos (by rw [kindIs]; exact rpc)]
  simp [kindIs, field_requestId first made]

theorem record_unwritable {d : OperationDispatcher β} {depth : Nat} {kind : String}
    {fields : List (Text × PyValue)}
    (unwritable : ¬ Writable setup d.service depth (txt kind) fields) :
    ∃ e, record setup depth d kind fields = .error e := by
  obtain ⟨e, refused⟩ := append_unwritable unwritable
  exact ⟨e, by rw [record, refused]⟩

/-! ## What the service writes by itself -/

/-- An event that is not about a call leaves no trail. -/
theorem append_quiet {service service' : FibsemService β} {depth : Nat} {kind : Text}
    {fields : List (Text × PyValue)} (quiet : isRpc kind = false)
    (appended : service.append setup depth kind fields = .ok service') :
    Continues service.journal service'.journal [] := by
  unfold FibsemService.append at appended
  split at appended
  · cases appended
  · rename_i event journal made
    cases appended
    obtain ⟨rfl, -, -, -, -, kindIs, -⟩ := append_spec (appendWithin_ok_iff.1 made).1
    exact ⟨[event], rfl, by simp [rpcRecords, kindIs, quiet]⟩

/-- The kinds of the events the service writes by itself. -/
def serviceKinds : List Text :=
  [txt "checkpoint.freeze_requested", txt "checkpoint.exported", txt "checkpoint.frozen"]

section Kept

variable {P : EventJournal → Prop}
  (kept : ∀ (service service' : FibsemService β) (depth : Nat) (kind : Text)
    (fields : List (Text × PyValue)), kind ∈ serviceKinds →
    service.append setup depth kind fields = .ok service' → P service.journal → P service'.journal)

include kept

theorem checkpoint_keeps (service : FibsemService β) (stepId : Text) (summary : Json)
    (before : P service.journal) : P (service.checkpoint setup stepId summary).2.journal := by
  unfold FibsemService.checkpoint
  split
  · exact before
  · split
    · exact before
    · rename_i requested appended
      have one := kept _ _ _ _ _ (by simp [serviceKinds]) appended before
      split
      · exact one
      · dsimp only
        split
        · exact one
        · rename_i exported appended'
          exact kept _ _ _ _ _ (by simp [serviceKinds]) appended' one

theorem invoke_keeps (service : FibsemService β) (operation : Text) (arguments : Arguments)
    (before : P service.journal) : P (service.invoke setup operation arguments).2.journal := by
  unfold FibsemService.invoke
  split
  · split
    · exact before
    · rename_i stepId summary _ _
      have after := checkpoint_keeps kept service stepId summary before
      split <;> simp_all
    · exact before
  · exact before

theorem followUp_keeps (d : OperationDispatcher β) (result : PyValue) (next : FollowUp)
    (before : P d.service.journal) : P (next.run setup d result).2.service.journal := by
  cases next with
  | newPattern | patternReceipt =>
      simp only [FollowUp.run]
      split <;> exact before
  | checkpoint =>
      simp only [FollowUp.run]
      split
      · exact before
      · rename_i service appended
        exact kept _ _ _ _ _ (by simp [serviceKinds]) appended before
  | _ => exact before

/-- What the service's own events keep of the journal, a handler keeps. -/
theorem perform_keeps (d : OperationDispatcher β) (operation : Text) (arguments : Arguments)
    (next : FollowUp) (before : P d.service.journal) :
    P (perform setup d operation arguments next).2.service.journal := by
  have invoked := invoke_keeps kept d.service operation arguments before
  unfold perform
  split
  · rename_i e service answered
    rw [answered] at invoked
    exact invoked
  · rename_i result service answered
    rw [answered] at invoked
    have run := followUp_keeps kept { d with service } result next invoked
    split
    · rename_i made
      rw [made] at run
      exact run
    · rename_i made
      rw [made] at run
      exact run

end Kept

theorem perform_quiet (setup : Setup β) (d : OperationDispatcher β) (operation : Text) (arguments : Arguments)
    (next : FollowUp) : Continues d.service.journal
      (perform setup d operation arguments next).2.service.journal [] := by
  have quiet : ∀ kind ∈ serviceKinds, isRpc kind = false := by decide
  refine perform_keeps (P := fun journal => Continues d.service.journal journal []) ?_ d operation
    arguments next (Continues.refl _)
  intro service service' depth kind fields member appended before
  exact before.trans (append_quiet (quiet kind member) appended)

/-! ## Closing a call -/

/-- The record can be written at this state, whose digest it carries, `depth` calls below
`dispatch`. -/
def Recordable (setup : Setup β) (depth : Nat) (d : OperationDispatcher β) (kind : String)
    (fields : Text → List (Text × PyValue)) : Prop :=
  ∃ afterHash, stateHash setup depth d.service = .ok afterHash ∧
    Writable setup d.service depth (txt kind) (fields afterHash)

/-- The exceptions that end a call as refused. -/
def IsRefusal (e : PyError) : Prop := ∀ typeName message, e ≠ .other typeName message

/-- The kind of the record that closes a call whose handler raised. -/
def closingKind : PyError → String
  | .other _ _ => "rpc.failed"
  | _ => "rpc.rejected"

/-- How many calls below `dispatch` the closing record is written: `_reject` is one. -/
def closingDepth : PyError → Nat
  | .other _ _ => 0
  | _ => 1

/-- The members of the closing record. -/
def closingFields (a : Audit) (e : PyError) (afterHash : Text) : List (Text × PyValue) :=
  match e with
  | .other typeName message => a.failed afterHash typeName message
  | e => a.rejected afterHash (refusalMessage e)

theorem reject_recordable {d : OperationDispatcher β} {a : Audit} {reason : Text}
    (raisedAs : Text) (recordable : Recordable setup 1 d "rpc.rejected" fun h => a.rejected h reason) :
    ∃ journal, reject setup d a reason raisedAs =
        (.error (.rejected raisedAs), { d with service.journal := journal }) ∧
      Continues d.service.journal journal [(txt "rpc.rejected", .str a.requestId)] := by
  obtain ⟨afterHash, hashed, writable⟩ := recordable
  obtain ⟨journal, recorded, trail⟩ := record_writable (by decide) rfl writable
  dsimp only at recorded
  exact ⟨journal, by simp only [reject, hashed, recorded], trail⟩

theorem reject_unrecordable {d : OperationDispatcher β} {a : Audit} {reason raisedAs : Text}
    (unrecordable : ¬ Recordable setup 1 d "rpc.rejected" fun h => a.rejected h reason) :
    (reject setup d a reason raisedAs).2 = d := by
  unfold reject
  split
  · rfl
  · rename_i afterHash hashed
    obtain ⟨e, refused⟩ := record_unwritable fun writable =>
      unrecordable ⟨afterHash, hashed, writable⟩
    rw [refused]

theorem handleError_recordable {d : OperationDispatcher β} {a : Audit} {e : PyError}
    (recordable : Recordable setup (closingDepth e) d (closingKind e) (closingFields a e)) :
    ∃ journal, (handleError setup d a e).2 = { d with service.journal := journal } ∧
      Continues d.service.journal journal [(txt (closingKind e), .str a.requestId)] ∧
      (IsRefusal e → ∃ message, (handleError setup d a e).1 = .error (.rejected message)) ∧
      (¬ IsRefusal e → ∃ typeName message,
        (handleError setup d a e).1 = .error (.other typeName message)) := by
  cases e with
  | other typeName message =>
      have rpc : isRpc (txt "rpc.failed") = true := by decide
      obtain ⟨afterHash, hashed, writable⟩ := recordable
      obtain ⟨journal, recorded, trail⟩ := record_writable rpc rfl writable
      simp only [closingDepth, closingFields] at hashed recorded
      have handled : handleError setup d a (.other typeName message) =
          (.error (.other typeName message), { d with service.journal := journal }) := by
        simp only [handleError, hashed, recorded]
      exact ⟨journal, congrArg Prod.snd handled, trail,
        fun refusal => absurd rfl (refusal typeName message),
        fun _ => ⟨typeName, message, congrArg Prod.fst handled⟩⟩
  | _ =>
      obtain ⟨journal, rejected, trail⟩ := reject_recordable (refusalMessage _) recordable
      exact ⟨journal, congrArg Prod.snd rejected, trail, fun _ => ⟨_, congrArg Prod.fst rejected⟩,
        fun other => absurd (fun _ _ same => by cases same) other⟩

theorem handleError_unrecordable {d : OperationDispatcher β} {a : Audit} {e : PyError}
    (unrecordable : ¬ Recordable setup (closingDepth e) d (closingKind e) (closingFields a e)) :
    (handleError setup d a e).2 = d := by
  cases e with
  | other typeName message =>
      rw [handleError]
      split
      · rfl
      · rename_i afterHash hashed
        obtain ⟨e, refused⟩ := record_unwritable fun writable =>
          unrecordable ⟨afterHash, hashed, writable⟩
        simp only [closingDepth, closingKind, closingFields] at refused
        simp only [refused]
  | _ => exact reject_unrecordable unrecordable

/-- The result can be digested and the completed record written. -/
def Completable (setup : Setup β) (d : OperationDispatcher β) (a : Audit) (result : PyValue) :
    Prop :=
  ∃ resultDigest, canonicalDigestWithin setup.stack 0 result = .ok resultDigest ∧
    Recordable setup 0 d "rpc.completed" (a.completed result resultDigest)

theorem complete_completable {d : OperationDispatcher β} {a : Audit} {result : PyValue}
    (completable : Completable setup d a result) :
    ∃ journal, (complete setup d a result).2 = { d with service.journal := journal } ∧
      Continues d.service.journal journal [(txt "rpc.completed", .str a.requestId)] := by
  obtain ⟨resultDigest, digested, afterHash, hashed, writable⟩ := completable
  obtain ⟨journal, recorded, trail⟩ := record_writable (by decide) rfl writable
  exact ⟨journal, by simp only [complete, hashed, digested, recorded], trail⟩

theorem complete_uncompletable {d : OperationDispatcher β} {a : Audit} {result : PyValue}
    (uncompletable : ¬ Completable setup d a result) : (complete setup d a result).2 = d := by
  unfold complete
  split
  · rfl
  · rename_i afterHash hashed
    split
    · rfl
    · rename_i resultDigest digested
      obtain ⟨e, refused⟩ := record_unwritable fun writable =>
        uncompletable ⟨resultDigest, digested, afterHash, hashed, writable⟩
      rw [refused]

/-! ## The audit trail of one call -/

/-- The trail of a call: one rejection, or a request and one record closing it. -/
def Trail (requestId : Text) (trail : List (Text × Json)) : Prop :=
  trail = [(txt "rpc.rejected", .str requestId)] ∨
    ∃ kind ∈ ["rpc.completed", "rpc.rejected", "rpc.failed"],
      trail = [(txt "rpc.requested", .str requestId), (txt kind, .str requestId)]

/-- Argument validation or policy refuses the call: its arguments have no
digest, its operation no handler, or the handler's check raises. -/
def Refused (setup : Setup β) (d : OperationDispatcher β) (call : Call) : Prop :=
  (∃ e, canonicalDigestWithin setup.stack 0 (Json.obj call.arguments).toPy = .error e) ∨
    ∀ check, handler setup call.operation = some check → ∃ e, check d call.arguments = .error e

/-- **The audit trail.**  The call leaves its trail, and a refused call raises
`RejectedOperation` and changes nothing but the journal. -/
def Audited (setup : Setup β) (d : OperationDispatcher β) (call : Call) : Prop :=
  let after := dispatch setup d call
  (∃ trail, Continues d.service.journal after.2.service.journal trail ∧
      Trail call.requestId trail) ∧
    (Refused setup d call → (∃ message, after.1 = .error (.rejected message)) ∧
      ∃ journal, after.2 = { d with service.journal := journal })

/-- The call can be closed once requested: a refusing check raises what the
dispatcher catches as a refusal, and the closing record can be written. -/
def Closable (setup : Setup β) (d : OperationDispatcher β) (a : Audit) (arguments : Arguments)
    (check : Check β) : Prop :=
  match check d arguments with
  | .error e => IsRefusal e ∧ Recordable setup (closingDepth e) d (closingKind e) (closingFields a e)
  | .ok next =>
      match perform setup d a.operation arguments next with
      | (.error e, d) => Recordable setup (closingDepth e) d (closingKind e) (closingFields a e)
      | (.ok result, d) => Completable setup d a result

/-- **When the trail is complete.**  The backend's state and the arguments can be
digested, every record of the call is within the journal's limits, and no check
raises anything but a refusal. -/
def Auditable (setup : Setup β) (d : OperationDispatcher β) (call : Call) : Prop :=
  ∃ beforeHash details, stateHash setup 0 d.service = .ok beforeHash ∧
    auditDetails setup call.operation call.arguments = .ok details ∧
    let a : Audit := ⟨call.requestId, call.operation, none, details, beforeHash⟩
    match canonicalDigestWithin setup.stack 0 (Json.obj call.arguments).toPy,
        handler setup call.operation with
    | .error (.journalError _), _ =>
        Recordable setup 1 d "rpc.rejected" (a.rejected · (txt "invalid or oversized arguments"))
    | .error _, _ => False
    | .ok _, none =>
        Recordable setup 1 d "rpc.rejected" (a.rejected · (txt "operation is not allowed"))
    | .ok argumentDigest, some check =>
        let a := { a with argumentDigest := some argumentDigest }
        Writable setup d.service 0 (txt "rpc.requested") a.requested ∧
          ∀ d', record setup 0 d "rpc.requested" a.requested = .ok d' →
            Closable setup d' a call.arguments check

/-- A call that adds no record has no trail. -/
theorem not_trail_nil (requestId : Text) : ¬ Trail requestId [] := by
  rintro (empty | ⟨kind, -, empty⟩)
  · cases empty
  · cases empty

/-- A request alone is no trail. -/
theorem not_trail_requested (requestId : Text) :
    ¬ Trail requestId [(txt "rpc.requested", .str requestId)] := by
  rintro (one | ⟨kind, -, two⟩)
  · have kinds := congrArg (List.map Prod.fst) one
    revert kinds
    simp only [List.map_cons, List.map_nil, List.cons.injEq, and_true]
    decide
  · cases two

/-- A trail that reaches the last state decides the audit. -/
theorem audited_of_continues {d d' : OperationDispatcher β} {call : Call}
    {answer : Except PyError PyValue × OperationDispatcher β} {trail : List (Text × Json)}
    (made : dispatch setup d call = answer) (after : answer.2 = d')
    (trailed : Continues d.service.journal d'.service.journal trail) :
    Audited setup d call ↔ Trail call.requestId trail ∧
      (Refused setup d call → (∃ message, answer.1 = .error (.rejected message)) ∧
        ∃ journal, d' = { d with service.journal := journal }) := by
  rw [Audited, made, after]
  constructor
  · rintro ⟨⟨trail', trailed', good⟩, kept⟩
    rw [trailed.unique trailed']
    exact ⟨good, kept⟩
  · rintro ⟨good, kept⟩
    exact ⟨⟨trail, trailed, good⟩, kept⟩

/-- A call that changes nothing is not audited. -/
theorem not_audited_of_unchanged {d : OperationDispatcher β} {call : Call}
    (unchanged : (dispatch setup d call).2 = d) : ¬ Audited setup d call := by
  rw [Audited, unchanged]
  rintro ⟨⟨trail, trailed, good⟩, -⟩
  rw [trailed.unique (Continues.refl _)] at good
  exact not_trail_nil _ good

/-- A call refused before its request is recorded. -/
theorem audited_of_reject {d : OperationDispatcher β} {call : Call} {a : Audit}
    {reason : Text} (raisedAs : Text) (requestId : a.requestId = call.requestId)
    (made : dispatch setup d call = reject setup d a reason raisedAs) :
    Audited setup d call ↔ Recordable setup 1 d "rpc.rejected" (a.rejected · reason) := by
  by_cases recordable : Recordable setup 1 d "rpc.rejected" (a.rejected · reason)
  · obtain ⟨journal, rejected, trail⟩ := reject_recordable raisedAs recordable
    rw [requestId] at trail
    rw [rejected] at made
    refine iff_of_true ((audited_of_continues made rfl trail).2 ?_) recordable
    exact ⟨Or.inl rfl, fun _ => ⟨⟨raisedAs, rfl⟩, journal, rfl⟩⟩
  · refine iff_of_false (not_audited_of_unchanged ?_) recordable
    rw [made]
    exact reject_unrecordable recordable

theorem trail_closed (requestId : Text) {kind : String}
    (closing : kind ∈ ["rpc.completed", "rpc.rejected", "rpc.failed"]) :
    Trail requestId ([(txt "rpc.requested", .str requestId)] ++ [(txt kind, .str requestId)]) :=
  Or.inr ⟨kind, closing, rfl⟩

theorem closingKind_mem (e : PyError) :
    closingKind e ∈ ["rpc.completed", "rpc.rejected", "rpc.failed"] := by
  cases e <;> simp [closingKind]

/-- No check reads the journal. -/
theorem handler_journal {operation : Text} {check : Check β}
    (handled : handler setup operation = some check) (d : OperationDispatcher β)
    (journal : EventJournal) (arguments : Arguments) :
    check { d with service.journal := journal } arguments = check d arguments := by
  have table : ∀ entry ∈ handlers setup, ∀ operation,
      entry.2 operation { d with service.journal := journal } arguments =
        entry.2 operation d arguments := by
    intro entry member operation
    simp only [handlers, List.mem_cons, List.not_mem_nil, or_false] at member
    rcases member with rfl | rfl | rfl | rfl | rfl | rfl | rfl | rfl | rfl | rfl | rfl | rfl |
      rfl | rfl | rfl | rfl <;> rfl
  obtain ⟨entry, found, rfl⟩ := Option.map_eq_some_iff.1 handled
  obtain ⟨before, after, split, -⟩ := List.lookup_eq_some_iff.1 found
  exact table (operation, entry) (by rw [split]; simp) operation

/-- A call whose handler ran: audited exactly when the record that closes it is
written. -/
theorem audited_of_closing {d d' : OperationDispatcher β} {call : Call}
    {answer : Except PyError PyValue × OperationDispatcher β} {kind : String}
    (notRefused : ¬ Refused setup d call) (made : dispatch setup d call = answer)
    (requested : Continues d.service.journal d'.service.journal
      [(txt "rpc.requested", .str call.requestId)])
    (closing : kind ∈ ["rpc.completed", "rpc.rejected", "rpc.failed"]) {recorded : Prop}
    (written : recorded → ∃ journal, answer.2 = { d' with service.journal := journal } ∧
      Continues d'.service.journal journal [(txt kind, .str call.requestId)])
    (unwritten : ¬ recorded → answer.2 = d') : Audited setup d call ↔ recorded := by
  by_cases holds : recorded
  · refine iff_of_true ?_ holds
    obtain ⟨journal, after, trail⟩ := written holds
    refine (audited_of_continues made after (requested.trans trail)).2
      ⟨trail_closed _ closing, ?_⟩
    exact fun refused => absurd refused notRefused
  · refine iff_of_false ?_ holds
    rw [audited_of_continues made (unwritten holds) requested]
    exact fun both => not_trail_requested _ both.1

/-- **A requested call is audited exactly when it can be closed.** -/
theorem audited_of_requested {d : OperationDispatcher β} {call : Call} {a : Audit}
    {check : Check β} {journal : EventJournal} {digest : Text} (sameCall : a.requestId = call.requestId)
    (digested : canonicalDigestWithin setup.stack 0 (Json.obj call.arguments).toPy = .ok digest)
    (handled : handler setup call.operation = some check)
    (recorded : record setup 0 d "rpc.requested" a.requested =
      .ok { d with service.journal := journal })
    (requested : Continues d.service.journal journal
      [(txt "rpc.requested", .str call.requestId)])
    (made : dispatch setup d call = dispatchRequested setup d a call.arguments check) :
    Audited setup d call ↔
      Closable setup { d with service.journal := journal } a call.arguments check := by
  have checked := handler_journal handled d journal call.arguments
  rw [dispatchRequested, recorded] at made
  dsimp only at made
  unfold Closable
  cases decided : check { d with service.journal := journal } call.arguments with
  | error e =>
      rw [decided] at made checked
      dsimp only at made ⊢
      have refused : Refused setup d call := by
        refine Or.inr fun other found => ?_
        rw [handled] at found
        cases found
        exact ⟨e, checked.symm⟩
      by_cases recordable : Recordable setup (closingDepth e) { d with service.journal := journal } (closingKind e)
          (closingFields a e)
      · obtain ⟨journal', after, trail, refuses, fails⟩ := handleError_recordable recordable
        rw [sameCall] at trail
        have whole := requested.trans trail
        rw [audited_of_continues made after whole]
        by_cases refusal : IsRefusal e
        · refine iff_of_true ⟨trail_closed _ (closingKind_mem e), fun _ => ?_⟩ ⟨refusal, recordable⟩
          exact ⟨refuses refusal, journal', rfl⟩
        · refine iff_of_false ?_ fun both => refusal both.1
          rintro ⟨-, kept⟩
          obtain ⟨⟨message, rejected⟩, -⟩ := kept refused
          obtain ⟨typeName, message', failed⟩ := fails refusal
          rw [failed] at rejected
          cases rejected
      · refine iff_of_false ?_ fun both => recordable both.2
        have unchanged := handleError_unrecordable recordable
        rw [audited_of_continues made unchanged requested]
        exact fun both => not_trail_requested _ both.1
  | ok next =>
      rw [decided] at made checked
      dsimp only at made ⊢
      have notRefused : ¬ Refused setup d call := by
        rintro (⟨e, undigested⟩ | raises)
        · rw [digested] at undigested
          cases undigested
        · obtain ⟨e, raised⟩ := raises check handled
          rw [← checked] at raised
          cases raised
      have quiet := perform_quiet setup { d with service.journal := journal } a.operation
        call.arguments next
      cases answered : perform setup { d with service.journal := journal } a.operation
          call.arguments next with
      | mk outcome d' =>
          rw [answered] at made quiet
          have requested := requested.trans quiet
          cases outcome with
          | error e =>
              refine audited_of_closing notRefused made requested
                (closingKind_mem e) ?_ handleError_unrecordable
              intro recordable
              obtain ⟨journal', after, trail, -⟩ := handleError_recordable recordable
              rw [sameCall] at trail
              exact ⟨journal', after, trail⟩
          | ok result =>
              have closing : "rpc.completed" ∈ ["rpc.completed", "rpc.rejected", "rpc.failed"] :=
                List.mem_cons_self
              refine audited_of_closing notRefused made requested closing ?_
                complete_uncompletable
              intro completable
              obtain ⟨journal', after, trail⟩ := complete_completable completable
              rw [sameCall] at trail
              exact ⟨journal', after, trail⟩

/-- **Step.**  A call is audited exactly when it is auditable. -/
theorem audited_step (d : OperationDispatcher β) (call : Call) :
    Audited setup d call ↔ Auditable setup d call := by
  cases hashed : stateHash setup 0 d.service with
  | error e =>
      refine iff_of_false (not_audited_of_unchanged ?_) ?_
      · rw [dispatch, hashed]
      · rintro ⟨beforeHash, details, made, -⟩
        rw [hashed] at made
        cases made
  | ok beforeHash =>
      cases detailed : auditDetails setup call.operation call.arguments with
      | error e =>
          refine iff_of_false (not_audited_of_unchanged ?_) ?_
          · rw [dispatch, hashed, detailed]
          · rintro ⟨beforeHash, details, -, made, -⟩
            rw [detailed] at made
            cases made
      | ok details =>
          unfold Auditable
          simp only [hashed, detailed, Except.ok.injEq, exists_and_left, exists_eq_left']
          cases digested : canonicalDigestWithin setup.stack 0 (Json.obj call.arguments).toPy with
          | error raised =>
              cases raised with
              | journalError message =>
                  refine audited_of_reject (txt "invalid or oversized arguments") rfl ?_
                  simp only [dispatch, hashed, detailed, digested]
              | _ =>
                  refine iff_of_false (not_audited_of_unchanged ?_) id
                  simp only [dispatch, hashed, detailed, digested]
          | ok argumentDigest =>
              cases handled : handler setup call.operation with
              | none =>
                  refine audited_of_reject (txt "operation is not allowed: " ++ call.operation)
                    rfl ?_
                  simp only [dispatch, hashed, detailed, digested, handled]
              | some check =>
                  have made : dispatch setup d call = dispatchRequested setup d
                      ⟨call.requestId, call.operation, some argumentDigest, details, beforeHash⟩
                      call.arguments check := by
                    simp only [dispatch, hashed, detailed, digested, handled]
                  by_cases writable : Writable setup d.service 0 (txt "rpc.requested")
                      (Audit.requested ⟨call.requestId, call.operation, some argumentDigest,
                        details, beforeHash⟩)
                  · obtain ⟨journal, recorded, requested⟩ :=
                      record_writable (by decide) rfl writable
                    rw [audited_of_requested rfl digested handled recorded requested made]
                    refine ⟨fun closable => ⟨writable, ?_⟩, fun both => both.2 _ recorded⟩
                    intro d' again
                    rw [recorded, Except.ok.injEq] at again
                    rwa [← again]
                  · refine iff_of_false (not_audited_of_unchanged ?_) fun both => writable both.1
                    obtain ⟨e, refused⟩ := record_unwritable writable
                    rw [made, dispatchRequested, refused]

/-- Arguments nested too deep leave no record, whatever the state. -/
theorem unaudited_of_deep (d : OperationDispatcher β) {call : Call}
    (plain : (Json.obj call.arguments).Plain)
    (deep : setup.stack.left - 2 < framesOf setup.stack (Json.obj call.arguments).toPy) :
    ¬ Audited setup d call := by
  have undigested : canonicalDigestWithin setup.stack 0 (Json.obj call.arguments).toPy =
      .error tooDeep := by
    rw [canonicalDigestWithin, canonicalBytesWithin,
      plainWithin_tooDeep _ _ _ _ (plain_toPy _ _ plain) deep]
  rw [audited_step]
  rintro ⟨beforeHash, details, -, -, rest⟩
  rw [undigested] at rest
  exact rest

/-! ## The audit trail of a run -/

/-- The property holds of every call of a run, at the state it is made in. -/
def Along (setup : Setup β) (P : OperationDispatcher β → Call → Prop) :
    OperationDispatcher β → List Call → Prop
  | _, [] => True
  | d, call :: calls => P d call ∧ Along setup P (dispatch setup d call).2 calls

/-- **Run.**  Along every run the calls are audited exactly when they are all
auditable. -/
theorem audited_run_iff (d : OperationDispatcher β) (calls : List Call) :
    Along setup (Audited setup) d calls ↔ Along setup (Auditable setup) d calls := by
  induction calls generalizing d with
  | nil => exact Iff.rfl
  | cons call calls ih => exact and_congr (audited_step d call) (ih _)

end

/-! ## A purpose too long to audit -/

/-- A cut whose purpose is `n` letters, as the first request of a session. -/
def longPurpose (n : Nat) : Call :=
  ⟨txt "req-00000001", txt "run_cut",
    [(txt "pattern", .obj [(txt "purpose", .str (List.replicate n (CodePoint.ofChar 'a')))])]⟩

/-- The request that carries it. -/
def longRequest (n : Nat) : Json :=
  .obj [(txt "protocol_version", .int 1), (txt "request_id", .str (txt "req-00000001")),
    (txt "operation", .str (txt "run_cut")), (txt "arguments", .obj (longPurpose n).arguments)]

theorem checkRequest_longRequest (n : Nat) :
    Protocol.checkRequest 1
      [(txt "protocol_version", .int 1), (txt "request_id", .str (txt "req-00000001")),
       (txt "operation", .str (txt "run_cut")), (txt "arguments", .obj (longPurpose n).arguments)] =
      .ok ⟨txt "req-00000001", txt "run_cut", (longPurpose n).arguments⟩ := by
  rfl

theorem length_longRequest (n : Nat) : (longRequest n).render.length = 111 + n := by
  have empty : (longRequest 0).render.length = 111 := by decide
  have arguments : Json.memberLength (txt "arguments", .obj (longPurpose n).arguments) =
      Json.memberLength (txt "arguments", .obj (longPurpose 0).arguments) + n := by
    have letters := length_renderText_padding n
    have none := length_renderText_padding 0
    simp only [longPurpose, Json.memberLength, Json.render, Json.renderFields, List.length_append,
      List.length_cons, letters, none]
    ring
  rw [← empty, longRequest, longRequest, Json.length_render_obj (by simp),
    Json.length_render_obj (by simp)]
  simp only [List.map_cons, List.map_nil, List.sum_cons, List.sum_nil, arguments]
  ring

theorem printable_longRequest (n : Nat) : (longRequest n).Printable := by
  refine ⟨⟨?_, trivial, trivial, trivial, ⟨?_, ⟨?_, trivial, trivial⟩, trivial⟩, trivial⟩, rfl⟩
  · show [txt "protocol_version", txt "request_id", txt "operation", txt "arguments"].Nodup
    decide
  · exact List.nodup_singleton _
  · exact List.nodup_singleton _

theorem pairFree_longRequest (n : Nat) : (longRequest n).AllText Json.PairFree := by
  have letters : Json.PairFree (List.replicate n (CodePoint.ofChar 'a')) := by
    refine pairFree_of_small fun c member => ?_
    rw [List.eq_of_mem_replicate member]
    decide
  have keys : ∀ key ∈ ["protocol_version", "request_id", "operation", "arguments", "pattern",
      "purpose", "req-00000001", "run_cut"], Json.PairFree (txt key) := by decide
  have key := fun name member => keys name member
  exact ⟨key "protocol_version" (by simp), trivial, key "request_id" (by simp),
    key "req-00000001" (by simp), key "operation" (by simp), key "run_cut" (by simp),
    key "arguments" (by simp), ⟨key "pattern" (by simp), ⟨key "purpose" (by simp), letters,
      trivial⟩, trivial⟩, trivial⟩

/-- The request arrives in one frame. -/
theorem framed_longPurpose {n : Nat} (fits : 111 + n ≤ Protocol.MAX_FRAME_BYTES) :
    Protocol.Framed ⟨txt "req-00000001", txt "run_cut", (longPurpose n).arguments⟩ := by
  have printable := printable_longRequest n
  refine ⟨asciiBytes (longRequest n).render, 1, _, ?_, checkRequest_longRequest n⟩
  have length : (asciiBytes (longRequest n).render).length = 111 + n := by
    rw [asciiBytes, List.length_map, length_longRequest]
  have text : decodeUtf8 false (asciiBytes (longRequest n).render) = some (longRequest n).render :=
    decodeUtf8_encodeAscii false (Json.graphic_render _).ascii
  have loaded : Json.loads (longRequest n).render = .ok (longRequest n) := by
    rw [Json.loads_render printable.2,
      Json.rejoin_of_pairFree _ printable.1 (pairFree_longRequest n)]
  have plain := plain_toPy _ rootPath printable.1
  rw [longRequest] at loaded plain text length ⊢
  rw [Protocol.decodePayload, if_neg (by rw [length]; omega), text]
  simp only [loaded, plain]

/-! ## The record is too large -/

section

variable {β : Type} {setup : Setup β}

/-- The members of a record are in what is written. -/
theorem member_plainEntries {path : Text} {seen : List Text} {ps : List (PyKey × PyValue)}
    {fs : List (Text × Json)} (made : plainEntries path seen ps = .ok fs) {key : Text} {v : Json}
    (member : (.str key, v.toPy) ∈ ps) : (key, v) ∈ fs := by
  induction ps generalizing seen fs with
  | nil => cases member
  | cons p ps ih =>
      obtain ⟨k, item⟩ := p
      cases k with
      | other => cases made
      | str k =>
          rw [plainEntries] at made
          split at made
          · cases made
          · split at made
            · cases made
            · rename_i value first
              split at made
              · cases made
              · rename_i fields others
                cases made
                rcases List.mem_cons.1 member with same | later
                · cases same
                  rw [plain_toPy_eq _ _ first]
                  exact List.mem_cons_self
                · exact List.mem_cons_of_mem _ (ih others later)

theorem memberLength_le {kv : Text × Json} {fs : List (Text × Json)} (member : kv ∈ fs) :
    Json.memberLength kv + 1 ≤ (Json.obj fs).render.length := by
  rw [Json.length_render_obj (List.ne_nil_of_mem member)]
  have := List.single_le_sum (by simp) _ (List.mem_map_of_mem (f := Json.memberLength) member)
  omega

theorem fields_le_base (e : JournalEvent) :
    Json.memberLength (txt "fields", .obj e.fields) +
      Json.memberLength (txt "previous_hash", .str e.previousHash) + 1 ≤
      canonicalSize (.obj e.base) := by
  have tail : e.base = e.base.take 6 ++
      [(txt "fields", .obj e.fields), (txt "previous_hash", .str e.previousHash)] := rfl
  rw [canonicalSize_eq, Json.length_render_obj (by simp [JournalEvent.base]), tail,
    List.map_append, List.sum_append]
  simp only [List.map_cons, List.map_nil, List.sum_cons, List.sum_nil]
  generalize Json.memberLength (txt "fields", .obj e.fields) = fields
  generalize Json.memberLength (txt "previous_hash", .str e.previousHash) = previous
  omega

/-- A record whose details hold the long purpose takes at least this much. -/
theorem writable_longPurpose {service : FibsemService β} {depth : Nat} {kind : Text}
    {fields : List (Text × PyValue)} {n : Nat} (fresh : service.journal.headHash = GENESIS_HASH)
    (details : (txt "details", (Json.obj [(txt "pattern_purpose",
      .str (List.replicate n (CodePoint.ofChar 'a')))]).toPy) ∈ fields)
    (writable : Writable setup service depth kind fields) : 128 + n ≤ MAX_CANONICAL_BYTES := by
  obtain ⟨plainFields, made, -, small, -⟩ := writable
  have member := member_plainEntries made
    (List.mem_map_of_mem (f := fun kv : Text × PyValue => (PyKey.str kv.1, kv.2)) details)
  have inner := memberLength_le member
  have outer := fields_le_base (service.journal.draft
    (setup.clock service.journal.events.length) kind plainFields)
  have letters := length_renderText_padding n
  have keys : (Json.renderText (txt "details")).length = 9 ∧
      (Json.renderText (txt "pattern_purpose")).length = 17 ∧
      (Json.renderText (txt "fields")).length = 8 ∧
      Json.memberLength (txt "previous_hash", .str GENESIS_HASH) = 83 := by decide
  simp only [EventJournal.draft, fresh, keys.2.2.2] at outer
  simp only [EventJournal.draft, fresh] at small
  simp only [Json.memberLength, Json.render, Json.renderFields, List.length_cons,
    List.length_append, List.length_nil, letters, keys.1, keys.2.1, keys.2.2.1] at inner outer
  omega

/-- The call leaves no trail: no record of it can be written. -/
theorem longPurpose_unaudited {d : OperationDispatcher β} {n : Nat}
    (fresh : d.service.journal.headHash = GENESIS_HASH) (large : MAX_CANONICAL_BYTES < 128 + n) :
    ¬ Audited setup d (longPurpose n) := by
  have audit : auditDetails setup (longPurpose n).operation (longPurpose n).arguments =
      .ok [(txt "pattern_purpose", .str (List.replicate n (CodePoint.ofChar 'a')))] := rfl
  have unwritable : ∀ {depth : Nat} {kind : Text} {fields : List (Text × PyValue)},
      (txt "details", (Json.obj [(txt "pattern_purpose",
        .str (List.replicate n (CodePoint.ofChar 'a')))]).toPy) ∈ fields →
      ¬ Writable setup d.service depth kind fields := by
    intro depth kind fields details writable
    have := writable_longPurpose fresh details writable
    omega
  rw [audited_step]
  rintro ⟨beforeHash, details, -, detailed, rest⟩
  rw [audit] at detailed
  cases detailed
  dsimp only at rest
  split at rest
  · obtain ⟨afterHash, -, writable⟩ := rest
    exact unwritable (by simp [Audit.rejected, Audit.requested]) writable
  · exact rest
  · obtain ⟨afterHash, -, writable⟩ := rest
    exact unwritable (by simp [Audit.rejected, Audit.requested]) writable
  · exact unwritable (by simp [Audit.requested]) rest.1

end

/-- A backend with an empty state that answers nothing. -/
def idleSetup : Setup Unit :=
  { scenario := ⟨txt "w", [], []⟩
    backend :=
      { semanticState := fun _ => .mapping []
        invoke := fun _ _ b => (.ok .none, b)
        motionIsSafe := fun _ _ _ => true
        exportCheckpoint := fun _ _ _ b => (PyError.runtime "nothing to export", b) }
    libm := ⟨id, id⟩
    clock := fun n => n + 1
    stack := nominalStack }

def idleService : FibsemService Unit :=
  ⟨(), ⟨txt "r", txt "w", EventJournal.named_short, []⟩, [], false⟩

/-- A framed request of a fresh dispatcher that no record is written about. -/
theorem framed_unaudited : Protocol.Framed ⟨(longPurpose 1048460).requestId,
      (longPurpose 1048460).operation, (longPurpose 1048460).arguments⟩ ∧
    ∃ d, OperationDispatcher.new idleSetup idleService = .ok d ∧
      ¬ Along idleSetup (Audited idleSetup) d [longPurpose 1048460] := by
  refine ⟨framed_longPurpose (by decide), ⟨idleService, ⟨.initial, 0, []⟩, none⟩, rfl, ?_⟩
  rintro ⟨audited, -⟩
  exact longPurpose_unaudited rfl (by decide) audited

end InstrumentBench.Fibsem.Microscope
