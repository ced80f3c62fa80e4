/-
# Fibsem.PreflightAgreement -- the dispatcher's preflight and the scorer's

The dispatcher completes preflight from the calls it lets through, the scorer from the
`rpc.completed` records of the journal.  Every flag the dispatcher sets is covered by an
entry the scorer requires (`Covers`), with one exception: a coupon that `stop_pattern`
finds completed is credited by the dispatcher alone.
-/
import InstrumentBench.Fibsem.Markers
import InstrumentBench.Fibsem.Journaled

namespace InstrumentBench.Fibsem.Scoring

set_option autoImplicit false

open InstrumentBench.Theory
open InstrumentBench.Fibsem.Journal
open InstrumentBench.Fibsem.Service
open InstrumentBench.Fibsem.Microscope

/-! ## What the scan keeps -/

namespace Scan

/-- An event that completes no operation leaves the tables of operations alone. -/
theorem next_quiet {s : Scan} {event : JournalEvent} (quiet : completed? event = none) :
    (s.next event).operations = s.operations ∧ (s.next event).patternById = s.patternById ∧
      (s.next event).patternCompletion = s.patternCompletion := by
  have tables := next_tables s event
  rw [next_operations, quiet]
  rw [quiet] at tables
  exact ⟨List.append_nil _, tables⟩

theorem operationSequences_next (s : Scan) (event : JournalEvent) (name : String) :
    (s.next event).operationSequences name = s.operationSequences name ++
      ((completed? event).toList.filter fun c => c.operation = txt name).map
        Completed.sequence := by
  rw [operationSequences, next_operations, List.filter_append, List.map_append]
  rfl

/-- A completion once seen stays the first one. -/
theorem completion_kept {s : Scan} (event : JournalEvent) {purpose : Text} {n : Nat}
    (found : s.patternCompletion.lookup purpose = some n) :
    (s.next event).patternCompletion.lookup purpose = some n := by
  rw [(next_tables s event).2]
  cases completed? event with
  | none => exact found
  | some c =>
      dsimp only
      unfold pattern
      repeat' split
      all_goals first | exact found | exact PyDict.lookup_setdefault_of_some found

/-- An entry that preflight requires, once there, stays. -/
theorem required_kept (s : Scan) (event : JournalEvent) :
    List.Forall₂ (fun before after => ∀ n : Nat, before = some n → after = some n)
      s.requiredPreflight (s.next event).requiredPreflight := by
  have head : ∀ (name : String) (n : Nat), (s.operationSequences name).head? = some n →
      ((s.next event).operationSequences name).head? = some n := by
    intro name n first
    rw [operationSequences_next, List.head?_append, first]
    rfl
  have nth : ∀ (name : String) (i n : Nat), (s.operationSequences name)[i]? = some n →
      ((s.next event).operationSequences name)[i]? = some n := by
    intro name i n at_
    obtain ⟨inside, -⟩ := List.getElem?_eq_some_iff.1 at_
    rw [operationSequences_next, List.getElem?_append_left inside, at_]
  have image : ∀ (beam : String) (n : Nat), s.imageByBeam beam = some n →
      (s.next event).imageByBeam beam = some n := by
    intro beam n found
    obtain ⟨c, first, rfl⟩ := Option.map_eq_some_iff.1 found
    rw [imageByBeam, next_operations, List.find?_append, first]
    rfl
  simp only [requiredPreflight, List.forall₂_cons, List.forall₂_nil_left_iff, and_true]
  exact ⟨head _, head _, image _, image _, nth _ 0, nth _ 1, head _, head _, head _,
    fun n => completion_kept event, fun n => completion_kept event⟩

theorem required_eq {before after : List (Option Nat)}
    (kept : List.Forall₂ (fun before after => ∀ n : Nat, before = some n → after = some n)
      before after) (present : before.all Option.isSome = true) : after = before := by
  induction kept with
  | nil => rfl
  | cons first _ ih =>
      rw [List.all_cons, Bool.and_eq_true] at present
      obtain ⟨n, rfl⟩ := Option.isSome_iff_exists.1 present.1
      rw [first n rfl, ih present.2]

/-- **Preflight once seen stays**, with its sequence number. -/
theorem preflight_kept {s : Scan} (event : JournalEvent) {n : Nat}
    (found : s.preflightSequence = some n) : (s.next event).preflightSequence = some n := by
  unfold preflightSequence at found ⊢
  split at found
  · rename_i present
    have all : s.requiredPreflight.all Option.isSome = true := present
    have same := required_eq (required_kept s event) all
    rw [preflight, same, if_pos all]
    exact found
  · cases found

end Scan

/-! ## Numbers -/

/-- The events are numbered from one. -/
def Numbered (events : List JournalEvent) : Prop :=
  ∀ (i : Nat) (event : JournalEvent), events[i]? = some event → event.sequence = i + 1

theorem Numbered.snoc {events : List JournalEvent} {event : JournalEvent}
    (numbered : Numbered events) (next : event.sequence = events.length + 1) :
    Numbered (events ++ [event]) := by
  intro i e at_
  by_cases inside : i < events.length
  · rw [List.getElem?_append_left inside] at at_
    exact numbered i e at_
  · rw [List.getElem?_append_right (by omega)] at at_
    obtain ⟨here, rfl⟩ := List.getElem?_eq_some_iff.1 at_
    simp only [List.length_cons, List.length_nil, Nat.zero_add, Nat.lt_one_iff] at here
    simp only [here, List.getElem_cons_zero]
    omega

theorem Numbered.le {events : List JournalEvent} (numbered : Numbered events)
    {event : JournalEvent} (member : event ∈ events) : event.sequence ≤ events.length := by
  obtain ⟨i, inside, rfl⟩ := List.getElem_of_mem member
  rw [numbered i _ (List.getElem?_eq_getElem inside)]
  exact inside

/-- Preflight is marked by an event of the journal. -/
theorem preflightSequence_le {events : List JournalEvent} (numbered : Numbered events) {n : Nat}
    (found : (Scan.of events).preflightSequence = some n) : n ≤ events.length := by
  have marked := found
  unfold Scan.preflightSequence at marked
  split at marked
  case isFalse => cases marked
  case isTrue =>
    have member := List.reduceOption_mem_iff.1 (List.max?_mem marked)
    have operation : ∀ {name : String} {m : Nat}, OperationAt events name m → m ≤ events.length := by
      rintro name m ⟨event, inside, -, rfl⟩
      exact numbered.le inside
    have image : ∀ {beam : String} {m : Nat}, ImageAt events beam m → m ≤ events.length := by
      rintro beam m ⟨event, inside, rfl, -⟩
      exact numbered.le inside
    have pattern : ∀ {purpose : Text} {m : Nat},
        PatternCompletedAt events purpose m → m ≤ events.length := by
      rintro purpose m ⟨earlier, event, later, id, rfl, rfl, -⟩
      exact numbered.le (by simp)
    simp only [Scan.requiredPreflight, List.mem_cons, List.not_mem_nil, or_false] at member
    rcases member with h | h | h | h | h | h | h | h | h | h | h
    · exact operation (Scan.operationAt_of_head h.symm)
    · exact operation (Scan.operationAt_of_head h.symm)
    · exact image (Scan.imageAt_of_imageByBeam h.symm)
    · exact image (Scan.imageAt_of_imageByBeam h.symm)
    · exact operation (Scan.operationAt_of_mem (List.mem_of_getElem? h.symm))
    · exact operation (Scan.operationAt_of_mem (List.mem_of_getElem? h.symm))
    · exact operation (Scan.operationAt_of_head h.symm)
    · exact operation (Scan.operationAt_of_head h.symm)
    · exact operation (Scan.operationAt_of_head h.symm)
    · exact pattern (Scan.patternCompletedAt_of_lookup h.symm)
    · exact pattern (Scan.patternCompletedAt_of_lookup h.symm)

/-! ## The invariant -/

/-- Every flag of the dispatcher is covered by an entry of the scorer. -/
structure Covers (p : PreflightState) (s : Scan) : Prop where
  ping : p.ping = true → (s.operationSequences "ping").head?.isSome = true
  capabilities : p.capabilities = true → (s.operationSequences "capabilities").head?.isSome = true
  sem : txt "SEM" ∈ p.beams → (s.imageByBeam "SEM").isSome = true
  fib : txt "FIB" ∈ p.beams → (s.imageByBeam "FIB").isSome = true
  moved : p.stageMoved = true → (s.operationSequences "move_stage")[0]?.isSome = true
  returned : p.stageReturned = true → (s.operationSequences "move_stage")[1]?.isSome = true
  needleInserted : p.needleInserted = true →
    (s.operationSequences "insert_manipulator").head?.isSome = true
  needleMoved : p.needleMoved = true →
    (s.operationSequences "move_manipulator").head?.isSome = true
  needleRetracted : p.needleRetracted = true →
    (s.operationSequences "retract_manipulator").head?.isSome = true
  cut : p.couponCut = true → (s.patternCompletion.lookup (txt "preflight_cut")).isSome = true
  deposition : p.couponDeposition = true →
    (s.patternCompletion.lookup (txt "preflight_deposition")).isSome = true

/-- **The scorer recognises what the dispatcher has let through.** -/
structure Recognised (policy : Policy) (journal : EventJournal) : Prop where
  numbered : Numbered journal.events
  hashable : (Scan.of journal.events).unhashableBeam = false
  covers : Covers policy.preflight (Scan.of journal.events)
  byId : ∀ id pattern, policy.patterns.lookup id = some pattern →
    (Scan.of journal.events).patternById.lookup id = some pattern.purpose
  /-- A cut or deposition for the task comes after preflight. -/
  later : ∀ event ∈ journal.events, ∀ purpose id, ReturnsPattern event purpose id →
    purpose ∉ preflightPurposes →
      ∃ n, (Scan.of journal.events).preflightSequence = some n ∧ n < event.sequence

theorem Covers.preflight {p : PreflightState} {s : Scan} (covers : Covers p s)
    (complete : p.complete = true) : s.preflight = true := by
  obtain ⟨ping, capabilities, ⟨-, sem, fib⟩, moved, returned, inserted, needleMoved, retracted, cut,
    deposition⟩ := (complete_iff p).1 complete
  simp only [Scan.preflight, Scan.requiredPreflight, List.all_cons, List.all_nil, Bool.and_true,
    covers.ping ping, covers.capabilities capabilities, covers.sem sem, covers.fib fib,
    covers.moved moved, covers.returned returned, covers.needleInserted inserted,
    covers.needleMoved needleMoved, covers.needleRetracted retracted, covers.cut cut,
    covers.deposition deposition]

/-- Preflight that the scorer reports has a sequence number. -/
theorem exists_preflightSequence {s : Scan} (preflight : s.preflight = true) :
    ∃ n, s.preflightSequence = some n := by
  rw [Scan.preflightSequence, if_pos preflight]
  have all := List.all_eq_true.1 preflight
  obtain ⟨first, ping⟩ := Option.isSome_iff_exists.1 (all _ List.mem_cons_self)
  cases most : s.requiredPreflight.reduceOption.max? with
  | some n => exact ⟨n, rfl⟩
  | none =>
      rw [List.max?_eq_none_iff] at most
      have member : first ∈ s.requiredPreflight.reduceOption :=
        List.reduceOption_mem_iff.2 (ping ▸ List.mem_cons_self)
      rw [most] at member
      cases member

/-- What a turn keeps, it keeps covered. -/
theorem Covers.next {p : PreflightState} {s : Scan} (covers : Covers p s) (event : JournalEvent) :
    Covers p (s.next event) := by
  have kept := Scan.required_kept s event
  simp only [Scan.requiredPreflight, List.forall₂_cons, List.forall₂_nil_left_iff, and_true] at kept
  obtain ⟨ping, capabilities, sem, fib, moved, returned, inserted, needleMoved, retracted, cut,
    deposition⟩ := kept
  have still : ∀ {before after : Option Nat}, (∀ n, before = some n → after = some n) →
      before.isSome = true → after.isSome = true := by
    intro before after same there
    obtain ⟨n, rfl⟩ := Option.isSome_iff_exists.1 there
    rw [same n rfl]
    rfl
  exact
    { ping := fun flag => still ping (covers.ping flag)
      capabilities := fun flag => still capabilities (covers.capabilities flag)
      sem := fun flag => still sem (covers.sem flag)
      fib := fun flag => still fib (covers.fib flag)
      moved := fun flag => still moved (covers.moved flag)
      returned := fun flag => still returned (covers.returned flag)
      needleInserted := fun flag => still inserted (covers.needleInserted flag)
      needleMoved := fun flag => still needleMoved (covers.needleMoved flag)
      needleRetracted := fun flag => still retracted (covers.needleRetracted flag)
      cut := fun flag => still cut (covers.cut flag)
      deposition := fun flag => still deposition (covers.deposition flag) }


/-! ## Events that complete nothing -/

theorem completed?_of_kind {event : JournalEvent} (kind : event.kind ≠ txt "rpc.completed") :
    completed? event = none := by
  rw [completed?, if_pos kind]

theorem Recognised.congr {policy policy' : Policy} {journal : EventJournal}
    (recognised : Recognised policy journal) (preflight : policy'.preflight = policy.preflight)
    (patterns : policy'.patterns = policy.patterns) : Recognised policy' journal :=
  { recognised with
    covers := preflight ▸ recognised.covers
    byId := patterns ▸ recognised.byId }

/-- A new event comes after every event so far. -/
theorem later_snoc {events : List JournalEvent} {event : JournalEvent}
    (old : ∀ e ∈ events, ∀ purpose id, ReturnsPattern e purpose id → purpose ∉ preflightPurposes →
      ∃ n, (Scan.of events).preflightSequence = some n ∧ n < e.sequence)
    (new : ∀ purpose id, ReturnsPattern event purpose id → purpose ∉ preflightPurposes →
      ∃ n, (Scan.of events).preflightSequence = some n ∧ n < event.sequence) :
    ∀ e ∈ events ++ [event], ∀ purpose id, ReturnsPattern e purpose id →
      purpose ∉ preflightPurposes →
      ∃ n, (Scan.of (events ++ [event])).preflightSequence = some n ∧ n < e.sequence := by
  intro e member purpose id returns task
  have earlier : ∃ n, (Scan.of events).preflightSequence = some n ∧ n < e.sequence := by
    rcases List.mem_append.1 member with inside | last
    · exact old e inside purpose id returns task
    · obtain rfl := List.mem_singleton.1 last
      exact new purpose id returns task
  obtain ⟨n, found, before⟩ := earlier
  exact ⟨n, by rw [Scan.of_snoc]; exact Scan.preflight_kept event found, before⟩

/-- **An event that completes nothing** keeps the invariant. -/
theorem Recognised.quiet {policy : Policy} {journal : EventJournal} {event : JournalEvent}
    (recognised : Recognised policy journal) (next : event.sequence = journal.events.length + 1)
    (kind : event.kind ≠ txt "rpc.completed") :
    Recognised policy { journal with events := journal.events ++ [event] } := by
  have quiet := completed?_of_kind kind
  obtain ⟨operations, byId, -⟩ := Scan.next_quiet (s := Scan.of journal.events) quiet
  refine
    { numbered := recognised.numbered.snoc next
      hashable := ?_
      covers := ?_
      byId := ?_
      later := later_snoc recognised.later ?_ }
  · rw [Scan.of_snoc, Scan.unhashableBeam, operations]
    exact recognised.hashable
  · rw [Scan.of_snoc]
    exact recognised.covers.next event
  · intro id pattern known
    rw [Scan.of_snoc, byId]
    exact recognised.byId id pattern known
  · rintro purpose id ⟨c, made, -⟩
    rw [quiet] at made
    cases made

section

variable {β : Type} {setup : Setup β}

theorem Recognised.append {policy : Policy} {service service' : FibsemService β} {depth : Nat}
    {kind : Text} {fields : List (Text × PyValue)} (recognised : Recognised policy service.journal)
    (other : kind ≠ txt "rpc.completed")
    (appended : service.append setup depth kind fields = .ok service') :
    Recognised policy service'.journal := by
  obtain ⟨event, rfl, rfl, next, -⟩ := append_ok appended
  exact recognised.quiet next other

theorem Recognised.record {d d' : OperationDispatcher β} {depth : Nat} {kind : String}
    {fields : List (Text × PyValue)} (recognised : Recognised d.policy d.service.journal)
    (other : kind ∈ ["rpc.requested", "rpc.rejected", "rpc.failed"])
    (recorded : record setup depth d kind fields = .ok d') :
    Recognised d'.policy d'.service.journal := by
  have kinds : ∀ kind ∈ ["rpc.requested", "rpc.rejected", "rpc.failed"],
      txt kind ≠ txt "rpc.completed" := by decide
  obtain ⟨event, rfl, kindIs, next, -⟩ := record_ok recorded
  exact recognised.quiet next (kindIs ▸ kinds kind other)

/-- What the service writes by itself completes nothing. -/
theorem Recognised.perform (setup : Setup β) {d : OperationDispatcher β} {policy : Policy}
    (operation : Text) (arguments : Arguments) (next : FollowUp)
    (recognised : Recognised policy d.service.journal) :
    Recognised policy (perform setup d operation arguments next).2.service.journal := by
  have kinds : ∀ kind ∈ serviceKinds, kind ≠ txt "rpc.completed" := by decide
  refine perform_keeps (P := Recognised policy) ?_ d operation arguments next recognised
  intro service service' depth kind fields member appended before
  exact before.append (kinds kind member) appended

/-! ## The record of a completed call -/

/-- The scorer's entry for a completed call. -/
theorem completed?_record {a : Audit} {result : PyValue} {digest afterHash : Text}
    {event : JournalEvent} (kind : event.kind = txt "rpc.completed")
    (written : plainEntries rootPath []
      ((a.completed result digest afterHash).map fun kv => (.str kv.1, kv.2)) = .ok event.fields) :
    ∃ path details, completed? event = some ⟨event.sequence, a.operation, a.details, details⟩ ∧
      plain path (.mapping (resultDetails result)) = .ok (.obj details) := by
  obtain ⟨_, v, made, operation⟩ : ∃ inner v, plain inner (.str a.operation) = .ok v ∧
      event.fields.lookup (txt "operation") = some v := lookup_plainEntries written (txt "operation")
  obtain ⟨_, w, made', details⟩ : ∃ inner v, plain inner (Json.obj a.details).toPy = .ok v ∧
      event.fields.lookup (txt "details") = some v := lookup_plainEntries written (txt "details")
  obtain ⟨path, r, made'', results⟩ : ∃ inner v,
      plain inner (.mapping (resultDetails result)) = .ok v ∧
        event.fields.lookup (txt "result_details") = some v :=
    lookup_plainEntries written (txt "result_details")
  cases made
  obtain rfl := plain_toPy_eq _ _ made'
  have members := made''
  rw [plain] at members
  split at members
  · cases members
  · cases members
    refine ⟨path, _, ?_, made''⟩
    rw [completed?, if_neg (not_not.2 kind), text?, mapping?, mapping?, operation, details, results]

/-- A receipt gives its id and its status. -/
theorem receipt_ok {result : PyValue} {id status : Text} (received : receipt result = .ok (id, status)) :
    ∃ entries, result = .mapping entries ∧
      entries.lookup (.str (txt "operation_id")) = some (.str id) ∧
      entries.lookup (.str (txt "status")) = some (.str status) := by
  have given : ∀ {entries : List (PyKey × PyValue)} {key : PyKey} {t : Text},
      (entries.lookup key).getD .none = .str t → entries.lookup key = some (.str t) := by
    intro entries key t found
    cases looked : entries.lookup key with
    | none =>
        rw [looked] at found
        cases found
    | some v =>
        rw [looked] at found
        exact congrArg some found
  unfold receipt PyError.runtime at received
  split at received
  case h_2 => cases received
  case h_1 entries =>
    dsimp only at received
    repeat' split at received
    all_goals first | (cases received; done) | skip
    cases received
    exact ⟨entries, rfl, given ‹_ = PyValue.str id›, given ‹_ = PyValue.str status›⟩

/-- The members of a result that are recorded. -/
theorem lookup_filterMap (entries : List (PyKey × PyValue)) (keys : List Text) (key : Text) :
    (keys.filterMap fun k => (entries.lookup (.str k)).map fun v => (PyKey.str k, v)).lookup
      (.str key) = if key ∈ keys then entries.lookup (.str key) else none := by
  induction keys with
  | nil => rfl
  | cons k keys ih =>
      cases looked : entries.lookup (.str k) with
      | none =>
          rw [List.filterMap_cons_none (by rw [looked]; rfl), ih]
          by_cases same : key = k
          · subst same
            simp [looked]
          · simp [same]
      | some v =>
          rw [List.filterMap_cons_some (by rw [looked]; rfl), PyDict.lookup_cons, ih]
          by_cases same : key = k
          · subst same
            simp [looked]
          · simp [same]

/-- What the record of a receipt says. -/
theorem details_of_receipt {result : PyValue} {id status path : Text} {details : Fields}
    (received : receipt result = .ok (id, status))
    (written : plain path (.mapping (resultDetails result)) = .ok (.obj details)) :
    text? details "operation_id" = some id ∧ text? details "status" = some status := by
  have keys : txt "operation_id" ∈ ["operation_id", "status", "step_id", "journal_sequence"].map txt ∧
      txt "status" ∈ ["operation_id", "status", "step_id", "journal_sequence"].map txt := by
    decide
  obtain ⟨entries, rfl, operationId, statusIs⟩ := receipt_ok received
  rw [plain] at written
  split at written
  · cases written
  · rename_i fields made
    cases written
    have text : ∀ {key : String} {t : Text}, (resultDetails (.mapping entries)).lookup
        (.str (txt key)) = some (.str t) → text? details key = some t := by
      intro key t found
      have looked := lookup_plainEntries made (txt key)
      rw [found] at looked
      obtain ⟨inner, v, plain, looked⟩ := looked
      cases plain
      rw [text?, looked]
    constructor
    · apply text
      rw [resultDetails, lookup_filterMap, if_pos keys.1, operationId]
    · apply text
      rw [resultDetails, lookup_filterMap, if_pos keys.2, statusIs]

/-- What the record of a call says about its arguments. -/
theorem details_of_pattern {β : Type} {setup : Setup β} {call : Call} {details : Fields} {purpose : Text}
    (operation : call.operation = txt "run_cut" ∨ call.operation = txt "run_deposition")
    (named : purposeOf call.arguments = some purpose)
    (detailed : auditDetails setup call.operation call.arguments = .ok details) :
    text? details "pattern_purpose" = some purpose := by
  have member : call.operation ∈ ["run_cut", "run_deposition"].map txt := by simpa using operation
  unfold auditDetails at detailed
  rw [if_pos member] at detailed
  unfold purposeOf at named
  split at named
  case h_2 => cases named
  case h_1 pattern found =>
    split at named
    case h_2 => cases named
    case h_1 text looked =>
      cases named
      rw [found] at detailed
      cases detailed
      rw [text?, auditText, looked]
      simp

theorem details_of_image {β : Type} {setup : Setup β} {call : Call} {details : Fields} {beam : Text}
    (operation : call.operation = txt "acquire_image")
    (named : call.arguments.lookup (txt "beam") = some (.str beam))
    (detailed : auditDetails setup call.operation call.arguments = .ok details) :
    details = [(txt "beam", .str beam)] := by
  unfold auditDetails at detailed
  rw [operation, if_neg (by decide), if_pos rfl] at detailed
  cases detailed
  rw [auditText, named]

/-! ## The turn of a completed call -/

section

variable {s : Scan} {event : JournalEvent} {c : Completed}

theorem operationSequences_completed (made : completed? event = some c) {name : String}
    (named : c.operation = txt name) :
    (s.next event).operationSequences name = s.operationSequences name ++ [c.sequence] := by
  rw [Scan.operationSequences_next, made, Option.toList_some,
    List.filter_cons_of_pos (by simpa using named)]
  rfl

theorem head_completed (made : completed? event = some c) {name : String}
    (named : c.operation = txt name) :
    ((s.next event).operationSequences name).head?.isSome = true := by
  rw [operationSequences_completed made named]
  simp

theorem image_completed (made : completed? event = some c) {beam : String}
    (named : c.operation = txt "acquire_image") (shown : text? c.details "beam" = some (txt beam)) :
    ((s.next event).imageByBeam beam).isSome = true := by
  rw [Scan.imageByBeam, Scan.next_operations, made, Option.isSome_map, List.find?_isSome]
  exact ⟨c, by simp, by simp [named, shown]⟩

/-- The tables after a completed cut or deposition. -/
theorem tables_run (made : completed? event = some c) {purpose id : Text}
    (runs : c.operation = txt "run_cut" ∨ c.operation = txt "run_deposition")
    (purposed : text? c.details "pattern_purpose" = some purpose)
    (returned : text? c.result "operation_id" = some id) :
    (s.next event).patternById = PyDict.set id purpose s.patternById ∧
      (text? c.result "status" = some (txt "completed") →
        ((s.next event).patternCompletion.lookup purpose).isSome = true) := by
  obtain ⟨byId, completion⟩ := Scan.next_tables s event
  rw [made] at byId completion
  dsimp only at byId completion
  rw [byId, completion, Scan.pattern, if_pos runs, purposed, returned]
  refine ⟨rfl, fun status => ?_⟩
  dsimp only
  rw [if_pos status, PyDict.lookup_setdefault]
  simp

/-- The tables after a completed poll of a pattern. -/
theorem tables_poll (made : completed? event = some c) {purpose id : Text}
    (polls : c.operation = txt "pattern_status")
    (returned : text? c.result "operation_id" = some id)
    (known : s.patternById.lookup id = some purpose) (named : purpose ≠ [])
    (status : text? c.result "status" = some (txt "completed")) :
    ((s.next event).patternCompletion.lookup purpose).isSome = true := by
  have other : ¬ (c.operation = txt "run_cut" ∨ c.operation = txt "run_deposition") := by
    rw [polls]
    decide
  obtain ⟨-, completion⟩ := Scan.next_tables s event
  rw [made] at completion
  dsimp only at completion
  rw [completion, Scan.pattern, if_neg other, if_pos ⟨polls, status⟩, returned, Option.bind_some,
    known]
  dsimp only
  rw [if_neg named, PyDict.lookup_setdefault]
  simp

/-- A completed call that is no cut and no deposition names no pattern. -/
theorem byId_other (made : completed? event = some c)
    (other : ¬ (c.operation = txt "run_cut" ∨ c.operation = txt "run_deposition")) :
    (s.next event).patternById = s.patternById := by
  obtain ⟨byId, -⟩ := Scan.next_tables s event
  rw [made] at byId
  dsimp only at byId
  rw [byId, Scan.pattern, if_neg other]
  repeat' split
  all_goals rfl

end

/-! ## One step of the dispatcher -/

/-- The coupons after a receipt. -/
theorem afterReceipt_preflight (policy : Policy) (purpose status : Text) :
    (policy.afterReceipt purpose status).preflight = { policy.preflight with
      couponCut := policy.preflight.couponCut ||
        (status = txt "completed" && purpose = txt "preflight_cut")
      couponDeposition := policy.preflight.couponDeposition ||
        (status = txt "completed" && purpose = txt "preflight_deposition") } := by
  have distinct : txt "preflight_cut" ≠ txt "preflight_deposition" := by decide
  unfold Policy.afterReceipt Policy.completePatternEffect
  split
  · rename_i completed
    split
    · rename_i cut
      simp [completed, cut, distinct]
    · split
      · rename_i cut deposition
        simp [completed, deposition, distinct.symm]
      · rename_i cut deposition
        simp [cut, deposition]
  · rename_i pending
    simp [pending]

/-- What a receipt completes is covered when the scan has its completion. -/
theorem Covers.afterReceipt {policy : Policy} {s : Scan} (covers : Covers policy.preflight s)
    {purpose status : Text}
    (cut : status = txt "completed" → purpose = txt "preflight_cut" →
      policy.preflight.couponCut = true ∨
        (s.patternCompletion.lookup (txt "preflight_cut")).isSome = true)
    (deposition : status = txt "completed" → purpose = txt "preflight_deposition" →
      policy.preflight.couponDeposition = true ∨
        (s.patternCompletion.lookup (txt "preflight_deposition")).isSome = true) :
    Covers (policy.afterReceipt purpose status).preflight s := by
  rw [afterReceipt_preflight]
  refine { covers with cut := ?_, deposition := ?_ }
  · intro flag
    simp only [Bool.or_eq_true, Bool.and_eq_true, decide_eq_true_eq] at flag
    rcases flag with old | ⟨completed, same⟩
    · exact covers.cut old
    · exact (cut completed same).elim covers.cut id
  · intro flag
    simp only [Bool.or_eq_true, Bool.and_eq_true, decide_eq_true_eq] at flag
    rcases flag with old | ⟨completed, same⟩
    · exact covers.deposition old
    · exact (deposition completed same).elim covers.deposition id

/-- No coupon is finished by stopping it: a coupon that `stop_pattern` finds completed had
been credited before. -/
def Credited (policy : Policy) (call : Call) (result : PyValue) : Prop :=
  call.operation = txt "stop_pattern" → ∀ id, receipt result = .ok (id, txt "completed") →
    ∀ pattern, policy.patterns.lookup id = some pattern →
      (pattern.purpose = txt "preflight_cut" → policy.preflight.couponCut = true) ∧
        (pattern.purpose = txt "preflight_deposition" → policy.preflight.couponDeposition = true)

theorem lookup_setStatus (policy : Policy) (id status key : Text) :
    (policy.setStatus id status).patterns.lookup key = (policy.patterns.lookup key).map fun p =>
      if key = id then { p with status } else p := by
  unfold Policy.setStatus
  dsimp only
  induction policy.patterns with
  | nil => rfl
  | cons entry rest ih =>
      obtain ⟨k, pattern⟩ := entry
      rw [List.map_cons]
      by_cases here : k = id
      · rw [if_pos here, PyDict.lookup_cons, PyDict.lookup_cons, ih]
        by_cases same : key = k
        · simp [same, here]
        · simp [same]
      · rw [if_neg here, PyDict.lookup_cons, PyDict.lookup_cons, ih]
        by_cases same : key = k
        · simp [same, here]
        · simp [same]

/-- One completed call: what it was, what it answered, and the scorer's entry for it. -/
structure Step (setup : Setup β) (d d' : OperationDispatcher β) (call : Call) (next : FollowUp)
    (result : PyValue) (event : JournalEvent) (c : Completed) : Prop where
  allowed : Passes d.policy call next
  ran : next.run setup d result = (.ok (), d')
  made : completed? event = some c
  operation : c.operation = call.operation
  detailed : auditDetails setup call.operation call.arguments = .ok c.details
  written : ∃ path, plain path (.mapping (resultDetails result)) = .ok (.obj c.result)
  credited : Credited d.policy call result

/-- A new pattern is recorded, and its completion credited. -/
theorem newPattern_ran {d d' : OperationDispatcher β} {result : PyValue} {purpose operation : Text}
    (ran : FollowUp.run setup d result (.newPattern purpose operation) = (.ok (), d')) :
    ∃ id status, receipt result = .ok (id, status) ∧ d.policy.patterns.lookup id = none ∧
      d'.policy.preflight = (d.policy.afterReceipt purpose status).preflight ∧
      d'.policy.patterns = (id, ⟨purpose, operation, status⟩) :: d.policy.patterns := by
  simp only [FollowUp.run] at ran
  split at ran
  · cases ran
  · rename_i policy made
    obtain ⟨id, status, received, fresh, rfl⟩ := Policy.recordNewPattern_ok made
    cases ran
    refine ⟨id, status, received, fresh, ?_, by simp⟩
    rw [afterReceipt_preflight, afterReceipt_preflight]

/-- A receipt is recorded for its pattern, and its completion credited. -/
theorem patternReceipt_ran {d d' : OperationDispatcher β} {result : PyValue} {id operation : Text}
    (ran : FollowUp.run setup d result (.patternReceipt id operation) = (.ok (), d')) :
    ∃ status pattern, receipt result = .ok (id, status) ∧
      d.policy.patterns.lookup id = some pattern ∧
      d'.policy.preflight = (d.policy.afterReceipt pattern.purpose status).preflight ∧
      d'.policy.patterns = (d.policy.setStatus id status).patterns := by
  simp only [FollowUp.run] at ran
  split at ran
  · cases ran
  · rename_i policy made
    obtain ⟨status, pattern, received, -, found, rfl⟩ := Policy.recordReceipt_ok made
    cases ran
    rw [lookup_setStatus] at found
    obtain ⟨old, known, rfl⟩ := Option.map_eq_some_iff.1 found
    refine ⟨status, old, received, known, ?_, by simp⟩
    rw [afterReceipt_preflight, afterReceipt_preflight, if_pos rfl]
    rfl

/-- Only a new pattern brings a new purpose. -/
theorem purposes_ran {d d' : OperationDispatcher β} {next : FollowUp} {result : PyValue}
    (ran : next.run setup d result = (.ok (), d'))
    (old : ∀ purpose operation, next ≠ .newPattern purpose operation) {key : Text}
    {pattern : Pattern} (known : d'.policy.patterns.lookup key = some pattern) :
    ∃ before, d.policy.patterns.lookup key = some before ∧ before.purpose = pattern.purpose := by
  cases next with
  | newPattern purpose operation => exact absurd rfl (old purpose operation)
  | patternReceipt id operation =>
      obtain ⟨status, _, -, -, -, patterns⟩ := patternReceipt_ran ran
      rw [patterns, lookup_setStatus] at known
      obtain ⟨before, found, rfl⟩ := Option.map_eq_some_iff.1 known
      exact ⟨before, found, by split <;> rfl⟩
  | checkpoint stepId =>
      simp only [FollowUp.run] at ran
      split at ran
      · cases ran
      · cases ran
        exact ⟨pattern, known, rfl⟩
  | _ =>
      cases ran
      exact ⟨pattern, known, rfl⟩

namespace Step

variable {d d' : OperationDispatcher β} {call : Call} {next : FollowUp} {result : PyValue}
  {event : JournalEvent} {c : Completed} {journal : EventJournal}

theorem hashable (step : Step setup d d' call next result event c)
    (before : Recognised d.policy journal) :
    (Scan.of (journal.events ++ [event])).unhashableBeam = false := by
  rw [Scan.of_snoc, Scan.unhashableBeam, Scan.next_operations, step.made, List.any_append,
    Bool.or_eq_false_iff]
  refine ⟨before.hashable, ?_⟩
  by_cases image : call.operation = txt "acquire_image"
  · obtain ⟨beam, rfl⟩ := step.allowed.image image
    have shown := details_of_image image step.allowed.2.2 step.detailed
    simp [shown]
  · simp [step.operation, image]

theorem later (step : Step setup d d' call next result event c)
    (before : Recognised d.policy journal) (number : event.sequence = journal.events.length + 1) :
    ∀ e ∈ journal.events ++ [event], ∀ purpose id, ReturnsPattern e purpose id →
      purpose ∉ preflightPurposes →
      ∃ n, (Scan.of (journal.events ++ [event])).preflightSequence = some n ∧ n < e.sequence := by
  apply later_snoc before.later
  rintro purpose id ⟨c', made, runs, purposed, -⟩ task
  obtain rfl := Option.some.inj (step.made.symm.trans made)
  rw [step.operation] at runs
  obtain ⟨name, rfl⟩ := step.allowed.patterns runs
  obtain ⟨-, named, -, allowed⟩ := step.allowed
  have same := details_of_pattern runs named step.detailed
  obtain rfl := Option.some.inj (purposed.symm.trans same)
  have complete := allowed.resolve_left task
  obtain ⟨n, found⟩ := exists_preflightSequence (before.covers.preflight complete)
  have within := preflightSequence_le before.numbered found
  exact ⟨n, found, by omega⟩

theorem byId (step : Step setup d d' call next result event c)
    (before : Recognised d.policy journal) : ∀ id pattern,
      d'.policy.patterns.lookup id = some pattern →
        (Scan.of (journal.events ++ [event])).patternById.lookup id = some pattern.purpose := by
  intro key pattern known
  rw [Scan.of_snoc]
  by_cases runs : call.operation = txt "run_cut" ∨ call.operation = txt "run_deposition"
  · obtain ⟨purpose, rfl⟩ := step.allowed.patterns runs
    obtain ⟨id, status, received, -, -, patterns⟩ := newPattern_ran step.ran
    obtain ⟨path, written⟩ := step.written
    obtain ⟨returned, -⟩ := details_of_receipt received written
    obtain ⟨-, named, -⟩ := step.allowed
    have purposed := details_of_pattern runs named step.detailed
    rw [(tables_run step.made (step.operation ▸ runs) purposed returned).1, PyDict.lookup_set]
    rw [patterns, PyDict.lookup_cons] at known
    split at known
    · rename_i same
      cases known
      rw [if_pos same]
    · rename_i other
      rw [if_neg other]
      exact before.byId key pattern known
  · obtain ⟨old, found, same⟩ := purposes_ran step.ran (fun purpose operation isNew =>
      runs (step.allowed.newPattern isNew)) known
    rw [byId_other step.made (step.operation ▸ runs), before.byId key old found, same]

theorem covers (step : Step setup d d' call next result event c)
    (before : Recognised d.policy journal) :
    Covers d'.policy.preflight (Scan.of (journal.events ++ [event])) := by
  obtain ⟨allowed, ran, made, operation, detailed, ⟨path, written⟩, credited⟩ := step
  have kept := before.covers.next event
  rw [Scan.of_snoc]
  cases next with
  | nothing =>
      cases ran
      exact kept
  | ping =>
      cases ran
      exact { kept with ping := fun _ => head_completed made (operation.trans allowed) }
  | capabilities =>
      cases ran
      exact { kept with capabilities := fun _ => head_completed made (operation.trans allowed) }
  | beam name =>
      cases ran
      have shown : c.details = [(txt "beam", .str name)] :=
        details_of_image allowed.1 allowed.2.2 detailed
      have image : ∀ {beam : String}, txt beam = name →
          (((Scan.of journal.events).next event).imageByBeam beam).isSome = true := by
        rintro beam rfl
        exact image_completed made (operation.trans allowed.1) (by rw [text?, shown]; simp)
      refine { kept with sem := fun member => ?_, fib := fun member => ?_ }
      · exact (List.mem_insert_iff.1 member).elim image kept.sem
      · exact (List.mem_insert_iff.1 member).elim image kept.fib
  | stage target =>
      cases ran
      have moves := operationSequences_completed (s := Scan.of journal.events) made
        (operation.trans allowed)
      have one : (((Scan.of journal.events).next event).operationSequences
          "move_stage")[0]?.isSome = true := by
        rw [moves]
        simp
      refine { kept with moved := fun _ => one, returned := fun flag => ?_ }
      simp only [Policy.recordStage, Bool.or_eq_true, Bool.and_eq_true, Bool.not_eq_true'] at flag
      rcases flag with old | ⟨old | away, home⟩
      · exact kept.returned old
      · -- the stage had moved before this call, so this is its second move
        obtain ⟨first, at_⟩ := Option.isSome_iff_exists.1 (before.covers.moved old)
        obtain ⟨inside, -⟩ := List.getElem?_eq_some_iff.1 at_
        rw [moves, List.getElem?_eq_getElem
          (by rw [List.length_append, List.length_singleton]; omega)]
        rfl
      · rw [home] at away
        cases away
  | inserted =>
      cases ran
      exact { kept with needleInserted := fun _ => head_completed made (operation.trans allowed) }
  | moved =>
      cases ran
      exact { kept with needleMoved := fun _ => head_completed made (operation.trans allowed.1) }
  | retracted =>
      cases ran
      exact { kept with needleRetracted := fun _ => head_completed made (operation.trans allowed) }
  | newPattern purpose run =>
      obtain ⟨id, status, received, -, preflight, -⟩ := newPattern_ran ran
      obtain ⟨returned, statusIs⟩ := details_of_receipt received written
      obtain ⟨-, named, runs, -⟩ := allowed
      have runs := runs.imp And.left And.left
      have credit := (tables_run (s := Scan.of journal.events) made (operation ▸ runs)
        (details_of_pattern runs named detailed) returned).2
      rw [preflight]
      apply kept.afterReceipt
      · rintro rfl rfl
        exact Or.inr (credit statusIs)
      · rintro rfl rfl
        exact Or.inr (credit statusIs)
  | patternReceipt id run =>
      obtain ⟨status, pattern, received, known, preflight, -⟩ := patternReceipt_ran ran
      obtain ⟨returned, statusIs⟩ := details_of_receipt received written
      obtain ⟨-, polled, -⟩ := allowed
      have credit : ∀ {purpose : Text}, status = txt "completed" → pattern.purpose = purpose →
          purpose ≠ [] → call.operation = txt "pattern_status" →
          (((Scan.of journal.events).next event).patternCompletion.lookup purpose).isSome = true := by
        rintro purpose rfl rfl named polls
        exact tables_poll made (operation.trans polls) returned (before.byId id pattern known) named
          statusIs
      rw [preflight]
      simp only [List.map_cons, List.map_nil, List.mem_cons, List.not_mem_nil, or_false] at polled
      apply kept.afterReceipt
      · intro completed same
        rcases polled with polls | stops
        · exact Or.inr (credit completed same (by decide) polls)
        · exact Or.inl ((credited stops id (completed ▸ received) pattern known).1 same)
      · intro completed same
        rcases polled with polls | stops
        · exact Or.inr (credit completed same (by decide) polls)
        · exact Or.inl ((credited stops id (completed ▸ received) pattern known).2 same)
  | checkpoint stepId =>
      simp only [FollowUp.run] at ran
      split at ran
      · cases ran
      · cases ran
        exact kept

/-- **A completed call** keeps the invariant. -/
theorem recognised (step : Step setup d d' call next result event c)
    (before : Recognised d.policy journal) (number : event.sequence = journal.events.length + 1) :
    Recognised d'.policy { journal with events := journal.events ++ [event] } where
  numbered := before.numbered.snoc number
  hashable := step.hashable before
  covers := step.covers before
  byId := step.byId before
  later := step.later before number

end Step

/-! ## Every dispatch -/

/-- The step meets the condition: a call that returns leaves its record, and no coupon is
finished by stopping it. -/
structure Creditable (setup : Setup β) (d : OperationDispatcher β) (call : Call) : Prop where
  recorded : ∀ a d' next result d'', Invokes setup d call a d' next →
    perform setup d' call.operation call.arguments next = (.ok result, d'') →
    Completable setup d'' a result
  credited : ∀ a d' next result d'', Invokes setup d call a d' next →
    perform setup d' call.operation call.arguments next = (.ok result, d'') →
    Credited d.policy call result

/-- **Agreement.**  Preflight the dispatcher has completed is complete for the scorer, and
marked before every completed pattern for the task. -/
def Agrees (d : OperationDispatcher β) : Prop :=
  d.policy.preflight.complete = true →
    ∃ m n, journalMarkers d.service.journal = some m ∧ m.preflight = true ∧
      m.markers.preflight = some n ∧
      ∀ purpose ∉ preflightPurposes, ∀ sequence,
        PatternCompletedAt d.service.journal.events purpose sequence → n < sequence

theorem Recognised.agrees {d : OperationDispatcher β}
    (recognised : Recognised d.policy d.service.journal) : Agrees d := by
  intro complete
  have preflight := recognised.covers.preflight complete
  obtain ⟨n, found⟩ := exists_preflightSequence preflight
  have scored : journalMarkers d.service.journal =
      some ⟨Markers.ofScan (Scan.of d.service.journal.events),
        .of (Markers.ofScan (Scan.of d.service.journal.events)),
        (Scan.of d.service.journal.events).preflight,
        (Scan.of d.service.journal.events).rejectedForbidden⟩ := by
    unfold journalMarkers
    dsimp only
    rw [if_neg (by rw [recognised.hashable]; simp)]
  refine ⟨_, n, scored, preflight, found, ?_⟩
  rintro purpose task sequence ⟨earlier, event, later, id, split, rfl, -, run, member, returns⟩
  have numbered := recognised.numbered
  have inside : run ∈ d.service.journal.events := by
    rw [split, List.append_cons]
    exact List.mem_append_left later member
  obtain ⟨n', found', before⟩ := recognised.later run inside purpose id returns task
  obtain rfl := Option.some.inj (found.symm.trans found')
  -- the run returned its id no later than the event that finishes it
  rw [split, List.append_cons] at numbered
  have last := numbered earlier.length event (by simp)
  obtain ⟨i, here, rfl⟩ := List.getElem_of_mem member
  have first := numbered i _ (by rw [List.getElem?_append_left here, List.getElem?_eq_getElem here])
  rw [List.length_append, List.length_singleton] at here
  omega

theorem recognised_fresh {d : OperationDispatcher β} (fresh : Fresh setup d) :
    Recognised d.policy d.service.journal := by
  obtain ⟨backend, runId, worldId, journal, made, built⟩ := fresh
  unfold EventJournal.new at made
  split at made
  case isFalse => cases made
  case isTrue =>
    cases made
    unfold OperationDispatcher.new at built
    split at built
    · cases built
    · split at built
      · cases built
      · cases built
        refine
          { numbered := ?_
            hashable := rfl
            covers := by constructor <;> intro flag <;> cases flag
            byId := ?_
            later := ?_ }
        · intro i event at_
          cases at_
        · intro id pattern known
          cases known
        · intro event member
          cases member

/-- A handler that raises leaves the flags and the patterns alone. -/
theorem perform_error {d d' : OperationDispatcher β} {operation : Text} {arguments : Arguments}
    {next : FollowUp} {e : PyError}
    (raised : perform setup d operation arguments next = (.error e, d')) :
    d'.policy.preflight = d.policy.preflight ∧ d'.policy.patterns = d.policy.patterns := by
  unfold perform at raised
  split at raised
  · cases raised
    exact ⟨rfl, rfl⟩
  · rename_i result service _
    split at raised
    · rename_i failed
      cases raised
      cases next with
      | newPattern | patternReceipt =>
          simp only [FollowUp.run] at failed
          split at failed
          · cases failed
            exact ⟨rfl, rfl⟩
          · cases failed
      | checkpoint stepId =>
          simp only [FollowUp.run] at failed
          split at failed
          · cases failed
            exact ⟨rfl, rfl⟩
          · cases failed
      | _ => cases failed
    · cases raised

/-- A handler that returns has run its follow-up. -/
theorem perform_ok {d d' : OperationDispatcher β} {operation : Text} {arguments : Arguments}
    {next : FollowUp} {result : PyValue}
    (returned : perform setup d operation arguments next = (.ok result, d')) :
    ∃ service, d.service.invoke setup operation arguments = (.ok result, service) ∧
      next.run setup { d with service } result = (.ok (), d') := by
  unfold perform at returned
  split at returned
  · cases returned
  · rename_i service answered
    split at returned
    · cases returned
    · rename_i ran
      cases returned
      exact ⟨service, answered, ran⟩

/-- **Step.** -/
theorem recognised_dispatch {d : OperationDispatcher β} {call : Call}
    (creditable : Creditable setup d call)
    (recognised : Recognised d.policy d.service.journal) :
    Recognised (dispatch setup d call).2.policy (dispatch setup d call).2.service.journal := by
  rcases dispatch_cases setup d call with ⟨a, d', next, invokes, ends⟩ | ⟨-, records⟩
  · rw [ends]
    have before := recognised.record (by simp) invokes.requested
    have policy := (record_frame invokes.requested).1
    have after := before.perform setup call.operation call.arguments next
    obtain ⟨check, handled, passed⟩ := invokes.checked
    have allowed : Passes d'.policy call next := passes handled passed
    cases performed : perform setup d' call.operation call.arguments next with
    | mk answer d'' =>
        rw [performed] at after
        cases answer with
        | error e =>
            obtain ⟨preflight, patterns⟩ := perform_error performed
            exact (handleError_records d'' a e).keeps
              (fun b b' depth kind fields member recorded kept => Recognised.record kept member recorded)
              (after.congr preflight patterns)
        | ok result =>
            obtain ⟨service, -, ran⟩ := perform_ok performed
            obtain ⟨digest, digested, afterHash, hashed, writable⟩ :=
              creditable.recorded a d' next result d'' invokes performed
            obtain ⟨journal, recorded, -⟩ := record_writable (by decide) rfl writable
            have done : (finish setup a (.ok result, d'')).2 = { d'' with service.journal := journal } := by
              simp only [finish, complete, hashed, digested, recorded]
            obtain ⟨event, same, kind, number, -, written, -⟩ := record_ok recorded
            obtain ⟨path, details, made, results⟩ := completed?_record kind written
            rw [done, same]
            have step : Step setup { d' with service } d'' call next result event
                ⟨event.sequence, a.operation, a.details, details⟩ :=
              { allowed := allowed
                ran := ran
                made := made
                operation := invokes.operation
                detailed := invokes.details
                written := ⟨path, results⟩
                credited := policy ▸ creditable.credited a d' next result d'' invokes performed }
            exact step.recognised after number
  · exact records.keeps
      (P := fun b => Recognised b.policy b.service.journal)
      (fun b b' depth kind fields member recorded kept => Recognised.record kept member recorded) recognised

/-- **Run.** -/
theorem preflight_agreement {d : OperationDispatcher β} (fresh : Fresh setup d) (calls : List Call)
    (creditable : Along setup (Creditable setup) d calls) :
    Along setup (fun d call => Agrees (dispatch setup d call).2) d calls := by
  have recognised := recognised_fresh fresh
  clear fresh
  induction calls generalizing d with
  | nil => trivial
  | cons call calls ih =>
      have after := recognised_dispatch creditable.1 recognised
      exact ⟨after.agrees, ih creditable.2 after⟩

/-- A call that adds an event after its handler has left its record. -/
theorem completable_of_dispatch {d d' d'' : OperationDispatcher β} {call : Call} {a : Audit}
    {next : FollowUp} {result : PyValue} (invokes : Invokes setup d call a d' next)
    (performed : perform setup d' call.operation call.arguments next = (.ok result, d''))
    (more : (dispatch setup d call).2.service.journal.events.length ≠
      d''.service.journal.events.length) : Completable setup d'' a result := by
  by_contra uncompletable
  apply more
  rw [invokes.dispatches, performed, finish, complete_uncompletable uncompletable]

theorem along_last {P : OperationDispatcher β → Call → Prop} {d : OperationDispatcher β}
    {calls : List Call} {call : Call} (along : Along setup P d (calls ++ [call])) :
    P (calls.foldl (fun d call => (dispatch setup d call).2) d) call := by
  induction calls generalizing d with
  | nil => exact along.1
  | cons first calls ih => exact ih along.2

theorem along_snoc {P : OperationDispatcher β → Call → Prop} {d : OperationDispatcher β}
    {calls : List Call} {call : Call} (along : Along setup P d calls)
    (last : P (calls.foldl (fun d call => (dispatch setup d call).2) d) call) :
    Along setup P d (calls ++ [call]) := by
  induction calls generalizing d with
  | nil => exact ⟨last, trivial⟩
  | cons first calls ih => exact ⟨along.1, ih along.2 last⟩

end

/-! ## A coupon finished by stopping it -/

/-- Cuts run until they are polled or stopped, and depositions complete at once. -/
def stoppingAnswer (operation : Text) : PyValue :=
  if operation = txt "run_cut" then
    .mapping [(.str (txt "operation_id"), .str (txt "1")), (.str (txt "status"), .str (txt "running"))]
  else if operation = txt "pattern_status" ∨ operation = txt "stop_pattern" then
    .mapping
      [(.str (txt "operation_id"), .str (txt "1")), (.str (txt "status"), .str (txt "completed"))]
  else if operation = txt "run_deposition" then
    .mapping
      [(.str (txt "operation_id"), .str (txt "2")), (.str (txt "status"), .str (txt "completed"))]
  else .none

/-- A backend whose cut is running until it is polled or stopped, and is then complete. -/
def stoppingSetup : Setup Unit :=
  { scenario := ⟨txt "w", [],
      [(txt "limits", .obj [(txt "stage_delta_um", .arr [.int 10, .int 10, .int 10]),
        (txt "manipulator_delta_um", .arr [.int 10, .int 10, .int 10])]),
       (txt "work_envelopes", .obj [(txt "preflight", .obj
        [(txt "frame", .str (txt "world")), (txt "center_um", .arr [.int 0, .int 0, .int 0]),
         (txt "size_um", .arr [.int 10, .int 10, .int 10])])]),
       (txt "patterning", .obj [(txt "minimum_feature_um", .int 1),
        (txt "maximum_feature_um", .int 5)])]⟩
    backend :=
      { semanticState := fun _ => .mapping
          [(.str (txt "stage"), .seq [.int 0, .int 0, .int 0]),
           (.str (txt "needle"), .seq [.int 0, .int 0, .int 0])]
        invoke := fun operation _ b => (.ok (stoppingAnswer operation), b)
        motionIsSafe := fun _ _ _ => true
        exportCheckpoint := fun _ _ _ b => (.ok ⟨GENESIS_HASH, GENESIS_HASH⟩, b) }
    libm := ⟨fun _ => 1, fun _ => 0⟩
    clock := fun _ => 1
    stack := nominalStack }

/-- A motion to a place on the first axis. -/
def motion (x : Int) : Arguments :=
  [(txt "position_um", .arr [.int x, .int 0, .int 0]), (txt "relative", .bool false)]

/-- A coupon in the middle of its envelope. -/
def coupon (purpose : String) : Arguments :=
  [(txt "pattern", .obj [(txt "purpose", .str (txt purpose)), (txt "frame", .str (txt "world")),
    (txt "center_um", .arr [.int 0, .int 0, .int 0]),
    (txt "size_um", .arr [.int 1, .int 1, .int 1]), (txt "rotation_degrees", .int 0)])]

/-- Every step of preflight but the last, with the cut stopped. -/
def stoppedPreflight : List Call :=
  [⟨txt "1", txt "ping", []⟩, ⟨txt "2", txt "capabilities", []⟩,
   ⟨txt "3", txt "acquire_image", [(txt "beam", .str (txt "SEM"))]⟩,
   ⟨txt "4", txt "acquire_image", [(txt "beam", .str (txt "FIB"))]⟩,
   ⟨txt "5", txt "move_stage", motion 1⟩, ⟨txt "6", txt "move_stage", motion 0⟩,
   ⟨txt "7", txt "insert_manipulator", []⟩, ⟨txt "8", txt "move_manipulator", motion 1⟩,
   ⟨txt "9", txt "retract_manipulator", []⟩, ⟨txt "10", txt "run_cut", coupon "preflight_cut"⟩,
   ⟨txt "11", txt "stop_pattern", [(txt "operation_id", .str (txt "1"))]⟩]

def lastCoupon : Call := ⟨txt "12", txt "run_deposition", coupon "preflight_deposition"⟩

/-- The dispatcher over the idle service, with this policy and this journal. -/
def stopping (policy : Policy) (journal : EventJournal) : OperationDispatcher Unit :=
  ⟨⟨(), journal, [], false⟩, policy, some (0, 0, 0)⟩

/-- The policy a handler leaves, when it returns. -/
def policyAfter (policy : Policy) (call : Call) : Option Policy :=
  match handler stoppingSetup call.operation with
  | none => none
  | some check =>
      match check (stopping policy idleService.journal) call.arguments with
      | .error _ => none
      | .ok next =>
          match perform stoppingSetup (stopping policy idleService.journal) call.operation
              call.arguments next with
          | (.error _, _) => none
          | (.ok _, d) => some d.policy

theorem followUp_service {β : Type} (setup : Setup β) (d : OperationDispatcher β) (result : PyValue)
    {next : FollowUp} (uncounted : next.counted = 0) :
    (next.run setup d result).2 = { d with policy := (next.run setup d result).2.policy } := by
  cases next with
  | checkpoint stepId => cases uncounted
  | newPattern | patternReceipt =>
      simp only [FollowUp.run]
      split <;> rfl
  | _ => rfl

/-- A handler of this backend changes the policy only. -/
theorem stopping_perform {policy : Policy} {journal : EventJournal} {operation : Text}
    {arguments : Arguments} {next : FollowUp} {result : PyValue} {d' : OperationDispatcher Unit}
    (other : operation ≠ txt "checkpoint") (uncounted : next.counted = 0)
    (performed : perform stoppingSetup (stopping policy journal) operation arguments next =
      (.ok result, d')) :
    result = stoppingAnswer operation ∧ d' = stopping d'.policy journal := by
  obtain ⟨service, answered, ran⟩ := perform_ok performed
  rw [FibsemService.invoke, if_neg other] at answered
  cases answered
  have same := followUp_service stoppingSetup (stopping policy journal)
    (stoppingAnswer operation) uncounted
  have ran' : FollowUp.run stoppingSetup (stopping policy journal) (stoppingAnswer operation) next =
      (.ok (), d') := ran
  rw [ran'] at same
  exact ⟨rfl, same⟩

/-- The call's arguments are plain and short, and so is what its record shows of them. -/
def shortCall (call : Call) : Bool :=
  call.operation ≠ txt "checkpoint" &&
    shortRecords stoppingSetup call (stoppingAnswer call.operation)

theorem stopping_stateHash : ∃ hash, ∀ policy journal,
    stateHash stoppingSetup 0 (stopping policy journal).service = .ok hash := by
  have made : (stateHash stoppingSetup 0 idleService).toOption.isSome = true := by decide
  cases hashed : stateHash stoppingSetup 0 idleService with
  | error e =>
      rw [hashed] at made
      cases made
  | ok hash => exact ⟨hash, fun policy journal => hashed⟩

/-- **One call** of the run: the policy is the handler's, and the journal has room. -/
theorem stopping_step {policy policy' : Policy} {journal : EventJournal} {call : Call}
    (room : Roomy journal) (listable : journal.events.length + 2 < 2 ^ 62)
    (short : shortCall call = true) (handled : policyAfter policy call = some policy') :
    ∃ journal', (dispatch stoppingSetup (stopping policy journal) call).2 = stopping policy' journal' ∧
      Roomy journal' ∧ journal'.events.length = journal.events.length + 2 := by
  obtain ⟨hash, hashed⟩ := stopping_stateHash
  unfold shortCall at short
  rw [Bool.and_eq_true, decide_eq_true_eq] at short
  obtain ⟨other, records⟩ := short
  obtain ⟨digest, details, short, detailed, digested, resultDigested⟩ :=
    short_of_shortRecords records (isHexDigest_stateHash (hashed policy journal))
  unfold policyAfter at handled
  split at handled
  case h_1 => cases handled
  case h_2 check found =>
    split at handled
    case h_1 => cases handled
    case h_2 next passed =>
      split at handled
      case h_1 => cases handled
      case h_2 result d' performed =>
        cases handled
        have allowed : Passes policy call next := passes found passed
        have uncounted : next.counted = 0 := by
          rcases allowed.counted with ⟨isCheckpoint, -⟩ | ⟨-, none⟩
          · exact absurd isCheckpoint other
          · exact none
        obtain ⟨rfl, same⟩ := stopping_perform other uncounted performed
        have performed' := perform_journal journal other uncounted performed
        rw [same] at performed'
        have passed' : check (stopping policy journal) call.arguments = .ok next :=
          (handler_journal found (stopping policy idleService.journal) journal
            call.arguments).trans passed
        exact dispatch_short (fun _ _ => ⟨Int.one_nonneg, by show (1 : Int) < 2 ^ 63; norm_num⟩)
          room listable short ⟨rfl, rfl⟩ (hashed policy journal) detailed ⟨digest, digested, rfl⟩
          found passed' other performed' (hashed _ journal) resultDigested

/-- No record completes the cut. -/
def Uncut (journal : EventJournal) : Prop :=
  (Scan.of journal.events).patternCompletion.lookup (txt "preflight_cut") = none

theorem Uncut.quiet {journal : EventJournal} {event : JournalEvent} (uncut : Uncut journal)
    (kind : event.kind ≠ txt "rpc.completed") :
    Uncut { journal with events := journal.events ++ [event] } := by
  obtain ⟨-, -, completion⟩ :=
    Scan.next_quiet (s := Scan.of journal.events) (completed?_of_kind kind)
  rw [Uncut, Scan.of_snoc, completion]
  exact uncut

theorem Uncut.record {d d' : OperationDispatcher Unit} {depth : Nat} {kind : String}
    {fields : List (Text × PyValue)} (uncut : Uncut d.service.journal)
    (other : kind ∈ ["rpc.requested", "rpc.rejected", "rpc.failed"])
    (recorded : record stoppingSetup depth d kind fields = .ok d') : Uncut d'.service.journal := by
  have kinds : ∀ kind ∈ ["rpc.requested", "rpc.rejected", "rpc.failed"],
      txt kind ≠ txt "rpc.completed" := by decide
  obtain ⟨event, rfl, kindIs, -⟩ := record_ok recorded
  exact uncut.quiet (kindIs ▸ kinds kind other)

/-- A cut of this backend never returns completed, and a deposition is no cut. -/
theorem uncut_completed {β : Type} {setup : Setup β} {policy : Policy} {call : Call} {next : FollowUp} {s : Scan}
    {event : JournalEvent} {c : Completed} {path : Text} (allowed : Passes policy call next)
    (uncut : s.patternCompletion.lookup (txt "preflight_cut") = none)
    (made : completed? event = some c) (operation : c.operation = call.operation)
    (detailed : auditDetails setup call.operation call.arguments = .ok c.details)
    (written : plain path (.mapping (resultDetails (stoppingAnswer call.operation))) =
      .ok (.obj c.result))
    (other : call.operation ≠ txt "pattern_status") :
    (s.next event).patternCompletion.lookup (txt "preflight_cut") = none := by
  rw [(Scan.next_tables s event).2, made]
  by_contra found
  obtain ⟨n, found⟩ := Option.ne_none_iff_exists'.1 found
  rcases Scan.pattern_completion found with before | ⟨-, status, id, -, ⟨runs, purposed⟩ | ⟨polls, -⟩⟩
  · rw [uncut] at before
    cases before
  · rw [operation] at runs
    rcases runs with cuts | deposits
    · have received : receipt (stoppingAnswer (txt "run_cut")) = .ok (txt "1", txt "running") := by
        decide
      rw [cuts] at written
      have running := (details_of_receipt received written).2
      rw [running] at status
      exact absurd (Option.some.inj status) (by decide)
    · obtain ⟨purpose, rfl⟩ := allowed.patterns (Or.inr deposits)
      obtain ⟨-, named, runs, -⟩ := allowed
      have same := details_of_pattern (Or.inr deposits) named detailed
      obtain rfl := Option.some.inj (purposed.symm.trans same)
      rcases runs with ⟨cuts, -⟩ | ⟨-, member⟩
      · exact absurd (cuts.symm.trans deposits) (by decide)
      · exact absurd member (by decide)
  · exact other (operation ▸ polls)

theorem uncut_step (policy : Policy) {journal : EventJournal} {call : Call} (uncut : Uncut journal)
    (status : call.operation ≠ txt "pattern_status") (checkpoint : call.operation ≠ txt "checkpoint") :
    Uncut (dispatch stoppingSetup (stopping policy journal) call).2.service.journal := by
  rcases dispatch_cases stoppingSetup (stopping policy journal) call with
    ⟨a, d', next, invokes, ends⟩ | ⟨-, records⟩
  · rw [ends]
    have before : Uncut d'.service.journal :=
      Uncut.record (d := stopping policy journal) uncut (by simp) invokes.requested
    obtain ⟨check, handled, passed⟩ := invokes.checked
    have allowed : Passes d'.policy call next := passes handled passed
    have after : Uncut (perform stoppingSetup d' call.operation call.arguments
        next).2.service.journal := by
      have kinds : ∀ kind ∈ serviceKinds, kind ≠ txt "rpc.completed" := by decide
      refine perform_keeps (P := Uncut) ?_ d' call.operation call.arguments next before
      intro service service' depth kind fields member appended uncut
      obtain ⟨event, rfl, rfl, -⟩ := append_ok appended
      exact uncut.quiet (kinds _ member)
    rcases finish_cases stoppingSetup a (perform stoppingSetup d' call.operation call.arguments next)
      with records | ⟨result, digest, hash, returned, recorded⟩
    · exact records.keeps (P := fun d => Uncut d.service.journal)
        (fun b b' depth kind fields member recorded kept => kept.record member recorded) after
    · obtain ⟨event, same, kind, -, -, written, -⟩ := record_ok recorded
      obtain ⟨path, details, made, results⟩ := completed?_record kind written
      rw [same]
      show (Scan.of (_ ++ [event])).patternCompletion.lookup _ = none
      rw [Scan.of_snoc]
      obtain ⟨service, answered, -⟩ := perform_ok (Prod.ext returned rfl)
      rw [FibsemService.invoke, if_neg checkpoint] at answered
      cases answered
      exact uncut_completed allowed after made invokes.operation invokes.details results status
  · exact records.keeps (P := fun d => Uncut d.service.journal)
      (fun b b' depth kind fields member recorded kept => kept.record member recorded) uncut

/-- **The run**: the policy is the handlers', and no record completes the cut. -/
theorem stopping_run (calls : List Call) {policy policy' : Policy} {journal : EventJournal}
    (room : Roomy journal) (listable : journal.events.length + 2 * calls.length < 2 ^ 62)
    (uncut : Uncut journal) (short : calls.all shortCall = true)
    (polls : ∀ call ∈ calls, call.operation ≠ txt "pattern_status")
    (handled : calls.foldlM policyAfter policy = some policy') :
    ∃ journal', calls.foldl (fun d call => (dispatch stoppingSetup d call).2)
      (stopping policy journal) = stopping policy' journal' ∧ Uncut journal' := by
  induction calls generalizing policy journal with
  | nil =>
      cases handled
      exact ⟨journal, rfl, uncut⟩
  | cons call calls ih =>
      rw [List.all_cons, Bool.and_eq_true] at short
      rw [List.foldlM_cons] at handled
      obtain ⟨next, one, others⟩ := Option.bind_eq_some_iff.1 handled
      rw [List.length_cons] at listable
      have checkpoint : call.operation ≠ txt "checkpoint" := by
        have first := short.1
        rw [shortCall, Bool.and_eq_true, decide_eq_true_eq] at first
        exact first.1
      obtain ⟨journal', same, room', length⟩ := stopping_step room (by omega) short.1 one
      have uncut' := uncut_step policy uncut (polls call List.mem_cons_self) checkpoint
      rw [same] at uncut'
      rw [List.foldl_cons, same]
      exact ih room' (by omega) uncut' short.2 (fun c member => polls c (List.mem_cons_of_mem _ member))
        others

theorem roomy_idle : Roomy idleService.journal :=
  ⟨by decide, by decide, isHexDigest_genesis, by decide⟩

/-- After the last coupon the dispatcher's preflight is complete, and the scorer's is not. -/
theorem stopped_preflight_unscored :
    Fresh stoppingSetup (stopping ⟨.initial, 0, []⟩ idleService.journal) ∧
      ¬ Along stoppingSetup (fun d call => Agrees (dispatch stoppingSetup d call).2)
        (stopping ⟨.initial, 0, []⟩ idleService.journal) (stoppedPreflight ++ [lastCoupon]) := by
  refine ⟨⟨(), txt "r", txt "w", idleService.journal, rfl, rfl⟩, ?_⟩
  intro along
  have handled : ((stoppedPreflight ++ [lastCoupon]).foldlM policyAfter ⟨.initial, 0, []⟩).any
      (fun policy => policy.preflight.complete) = true := by decide +kernel
  obtain ⟨policy, handled, complete⟩ := (Option.any_eq_true _ _).1 handled
  obtain ⟨journal, reached, uncut⟩ := stopping_run (stoppedPreflight ++ [lastCoupon]) roomy_idle
    (by decide) rfl (by decide +kernel) (by decide) handled
  have agrees := along_last along
  rw [List.foldl_append, List.foldl_cons, List.foldl_nil] at reached
  rw [reached] at agrees
  obtain ⟨m, n, scored, preflight, -⟩ := agrees complete
  unfold journalMarkers at scored
  dsimp only at scored
  split at scored
  · cases scored
  · cases scored
    have member : (Scan.of journal.events).patternCompletion.lookup (txt "preflight_cut") ∈
        (Scan.of journal.events).requiredPreflight := by
      simp [Scan.requiredPreflight]
    have cut := List.all_eq_true.1 preflight _ member
    have none : (Scan.of journal.events).patternCompletion.lookup (txt "preflight_cut") = none := uncut
    rw [none] at cut
    cases cut

/-- A coupon that the call finds completed by stopping it is credited. -/
def creditedCall (policy : Policy) (call : Call) : Bool :=
  if call.operation = txt "stop_pattern" then
    match receipt (stoppingAnswer call.operation) with
    | .error _ => true
    | .ok (id, _) =>
        match policy.patterns.lookup id with
        | none => true
        | some pattern =>
            (pattern.purpose ≠ txt "preflight_cut" || policy.preflight.couponCut) &&
              (pattern.purpose ≠ txt "preflight_deposition" || policy.preflight.couponDeposition)
  else true

theorem credited_of_creditedCall {policy : Policy} {call : Call}
    (credited : creditedCall policy call = true) :
    Credited policy call (stoppingAnswer call.operation) := by
  intro stops id received pattern known
  rw [creditedCall, if_pos stops, received] at credited
  simp only [known, Bool.and_eq_true, Bool.or_eq_true, decide_eq_true_eq] at credited
  exact ⟨fun cut => credited.1.resolve_left (not_not.2 cut),
    fun deposition => credited.2.resolve_left (not_not.2 deposition)⟩

/-- A call of the run that stops no uncredited coupon meets the condition. -/
theorem stopping_creditable {policy policy' : Policy} {journal : EventJournal} {call : Call}
    (room : Roomy journal) (listable : journal.events.length + 2 < 2 ^ 62)
    (short : shortCall call = true) (handled : policyAfter policy call = some policy')
    (credited : creditedCall policy call = true) :
    Creditable stoppingSetup (stopping policy journal) call := by
  have other : call.operation ≠ txt "checkpoint" := by
    rw [shortCall, Bool.and_eq_true, decide_eq_true_eq] at short
    exact short.1
  obtain ⟨journal', same, -, length⟩ := stopping_step room listable short handled
  have answers : ∀ {a d' next result d''},
      Invokes stoppingSetup (stopping policy journal) call a d' next →
      perform stoppingSetup d' call.operation call.arguments next = (.ok result, d'') →
      ∃ event, result = stoppingAnswer call.operation ∧
        d'' = stopping d''.policy { journal with events := journal.events ++ [event] } := by
    intro a d' next result d'' invokes performed
    obtain ⟨event, rfl, -⟩ := record_ok invokes.requested
    obtain ⟨check, found, passed⟩ := invokes.checked
    have allowed : Passes policy call next := passes found passed
    have uncounted : next.counted = 0 := by
      rcases allowed.counted with ⟨isCheckpoint, -⟩ | ⟨-, none⟩
      · exact absurd isCheckpoint other
      · exact none
    exact ⟨event, stopping_perform other uncounted performed⟩
  constructor
  · intro a d' next result d'' invokes performed
    apply completable_of_dispatch invokes performed
    obtain ⟨event, -, here⟩ := answers invokes performed
    rw [same, here]
    show journal'.events.length ≠ (journal.events ++ [event]).length
    rw [length, List.length_append, List.length_singleton]
    omega
  · intro a d' next result d'' invokes performed
    obtain ⟨-, rfl, -⟩ := answers invokes performed
    exact credited_of_creditedCall credited

/-- The policy a handler leaves when it returns and credits what it stops. -/
def creditedAfter (policy : Policy) (call : Call) : Option Policy :=
  if creditedCall policy call = true then policyAfter policy call else none

/-- **The run**: every call meets the condition, the policy is the handlers', and the journal
stays a list. -/
theorem stopping_run_creditable (calls : List Call) {policy policy' : Policy}
    {journal : EventJournal} (room : Roomy journal)
    (listable : journal.events.length + 2 * calls.length < 2 ^ 62)
    (short : calls.all shortCall = true)
    (handled : calls.foldlM creditedAfter policy = some policy') :
    Along stoppingSetup (Creditable stoppingSetup) (stopping policy journal) calls ∧
      Along stoppingSetup (fun d _ => Listable d) (stopping policy journal) calls ∧
      ∃ journal', calls.foldl (fun d call => (dispatch stoppingSetup d call).2)
        (stopping policy journal) = stopping policy' journal' ∧ journal'.events.length < 2 ^ 62 := by
  induction calls generalizing policy journal with
  | nil =>
      cases handled
      exact ⟨trivial, trivial, journal, rfl, listable⟩
  | cons call calls ih =>
      rw [List.all_cons, Bool.and_eq_true] at short
      rw [List.foldlM_cons] at handled
      obtain ⟨next, one, others⟩ := Option.bind_eq_some_iff.1 handled
      rw [List.length_cons] at listable
      unfold creditedAfter at one
      split at one
      case isFalse => cases one
      case isTrue credited =>
        have first := stopping_creditable room (by omega) short.1 one credited
        obtain ⟨journal', same, room', length⟩ := stopping_step room (by omega) short.1 one
        obtain ⟨along, lists, journal'', reached, length'⟩ := ih room' (by omega) short.2 others
        have here : Listable (stopping policy journal) := by
          show journal.events.length < 2 ^ 63
          omega
        rw [List.foldl_cons, same]
        exact ⟨⟨first, by rw [same]; exact along⟩, ⟨here, by rw [same]; exact lists⟩, journal'',
          reached, length'⟩

/-- Preflight with the cut found completed by a poll, and stopped after that. -/
def polledPreflight : List Call :=
  stoppedPreflight.take 10 ++
    [⟨txt "11", txt "pattern_status", [(txt "operation_id", .str (txt "1"))]⟩,
     ⟨txt "12", txt "stop_pattern", [(txt "operation_id", .str (txt "1"))]⟩,
     ⟨txt "13", txt "run_deposition", coupon "preflight_deposition"⟩]

/-- The run: what it leaves behind, and what holds along it. -/
theorem polledPreflight_run :
    Fresh stoppingSetup (stopping ⟨.initial, 0, []⟩ idleService.journal) ∧
      Along stoppingSetup (Creditable stoppingSetup)
        (stopping ⟨.initial, 0, []⟩ idleService.journal) polledPreflight ∧
      Along stoppingSetup (fun d _ => Listable d) (stopping ⟨.initial, 0, []⟩ idleService.journal)
        polledPreflight ∧
      ∃ policy journal, polledPreflight.foldl (fun d call => (dispatch stoppingSetup d call).2)
          (stopping ⟨.initial, 0, []⟩ idleService.journal) = stopping policy journal ∧
        policy.preflight.complete = true ∧ journal.events.length < 2 ^ 62 := by
  have handled : (polledPreflight.foldlM creditedAfter ⟨.initial, 0, []⟩).any
      (fun policy => policy.preflight.complete) = true := by decide +kernel
  obtain ⟨policy, handled, complete⟩ := (Option.any_eq_true _ _).1 handled
  obtain ⟨creditable, lists, journal, reached, length⟩ :=
    stopping_run_creditable polledPreflight roomy_idle (by decide) (by decide +kernel) handled
  exact ⟨⟨(), txt "r", txt "w", idleService.journal, rfl, rfl⟩, creditable, lists, policy, journal,
    reached, complete, length⟩

/-- The dispatcher and the scorer agree along a run that stops a credited coupon and completes
preflight. -/
theorem preflight_agreement_polled :
    Along stoppingSetup (fun d call => Agrees (dispatch stoppingSetup d call).2)
        (stopping ⟨.initial, 0, []⟩ idleService.journal) polledPreflight ∧
      (polledPreflight.foldl (fun d call => (dispatch stoppingSetup d call).2)
        (stopping ⟨.initial, 0, []⟩ idleService.journal)).policy.preflight.complete = true := by
  obtain ⟨fresh, creditable, -, policy, journal, reached, complete, -⟩ := polledPreflight_run
  refine ⟨preflight_agreement fresh _ creditable, ?_⟩
  rw [reached]
  exact complete

/-- The first checkpoint after a completed preflight. -/
def firstCheckpoint : Call :=
  ⟨txt "14", txt "checkpoint", [(txt "step_id", .str (txt "step_1"))]⟩

/-- The gate holds along a run that completes preflight and goes on to a checkpoint. -/
theorem preflight_gate_polled :
    Along stoppingSetup (Guarded stoppingSetup) (stopping ⟨.initial, 0, []⟩ idleService.journal)
        (polledPreflight ++ [firstCheckpoint]) ∧
      (polledPreflight.foldl (fun d call => (dispatch stoppingSetup d call).2)
        (stopping ⟨.initial, 0, []⟩ idleService.journal)).policy.preflight.complete = true := by
  obtain ⟨fresh, -, lists, policy, journal, reached, complete, length⟩ := polledPreflight_run
  have host : Hosted stoppingSetup :=
    { clock := fun _ => ⟨Int.one_nonneg, by show (1 : Int) < 2 ^ 63; norm_num⟩
      digests := by
        intro stepId sequence head b evidence made
        cases made
        exact ⟨isHexDigest_genesis, isHexDigest_genesis⟩ }
  have listable : Listable (polledPreflight.foldl (fun d call => (dispatch stoppingSetup d call).2)
      (stopping ⟨.initial, 0, []⟩ idleService.journal)) := by
    rw [reached]
    show journal.events.length < 2 ^ 63
    omega
  refine ⟨preflight_gate host fresh _ (along_snoc lists listable), ?_⟩
  rw [reached]
  exact complete

end InstrumentBench.Fibsem.Scoring
