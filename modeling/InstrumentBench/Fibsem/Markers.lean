/-
# Fibsem.Markers -- what the scorer reads off the journal

`journalMarkers` scans the journal once and picks a sequence number for every marker of
the task: the first export of a checkpoint, the first completion of a pattern purpose,
the first or last movement between two others.  `order_sound`: when all four chains are
in order, the journal holds the events the markers stand for, one strictly after the
other.
-/
import Mathlib.Data.List.ReduceOption
import InstrumentBench.Fibsem.Journal
import InstrumentBench.Theory.PyDict

namespace InstrumentBench.Fibsem.Scoring

set_option autoImplicit false

open InstrumentBench.Theory
open InstrumentBench.Fibsem.Journal

abbrev Fields := List (Text × Json)

/-! ## The scan -/

/-- `fields.get(key)`, where it is a text. -/
def text? (fields : Fields) (key : String) : Option Text :=
  match fields.lookup (txt key) with
  | some (.str t) => some t
  | _ => none

/-- `fields.get(key, {})`, where it is a mapping. -/
def mapping? (fields : Fields) (key : String) : Option Fields :=
  match fields.lookup (txt key) with
  | none => some []
  | some (.obj members) => some members
  | some _ => none

/-- An entry of `operations`. -/
structure Completed where
  sequence : Nat
  operation : Text
  details : Fields
  result : Fields

/-- The entry an event adds: `rpc.completed`, of the expected shape. -/
def completed? (event : JournalEvent) : Option Completed :=
  if event.kind ≠ txt "rpc.completed" then none
  else
    match text? event.fields "operation", mapping? event.fields "details",
      mapping? event.fields "result_details" with
    | some operation, some details, some result =>
        some ⟨event.sequence, operation, details, result⟩
    | _, _, _ => none

/-- What the loop of `_journal_markers` carries. -/
structure Scan where
  operations : List Completed
  checkpoints : List (Text × Nat)
  rejectedForbidden : Bool
  patternById : List (Text × Text)
  patternCompletion : List (Text × Nat)

namespace Scan

def start : Scan := ⟨[], [], false, [], []⟩

/-- The `checkpoint.exported` branch. -/
def exported (s : Scan) (event : JournalEvent) : Scan :=
  if event.kind = txt "checkpoint.exported" then
    match text? event.fields "step_id" with
    | some step => { s with checkpoints := PyDict.setdefault step event.sequence s.checkpoints }
    | none => s
  else s

/-- `rpc.rejected` with a forbidden reason or a private operation. -/
def forbidden (event : JournalEvent) : Bool :=
  event.kind = txt "rpc.rejected" &&
    ((text? event.fields "reason").any (fun reason => txt "not allowed" <:+: reason) ||
      (text? event.fields "operation").any fun operation => txt "_" <+: operation)

/-- What a completed operation adds to the two pattern tables. -/
def pattern (s : Scan) (c : Completed) : Scan :=
  if c.operation = txt "run_cut" ∨ c.operation = txt "run_deposition" then
    match text? c.details "pattern_purpose", text? c.result "operation_id" with
    | some purpose, some id =>
        { s with
          patternById := PyDict.set id purpose s.patternById
          patternCompletion :=
            if text? c.result "status" = some (txt "completed") then
              PyDict.setdefault purpose c.sequence s.patternCompletion
            else s.patternCompletion }
    | _, _ => s
  else if c.operation = txt "pattern_status" ∧
      text? c.result "status" = some (txt "completed") then
    match (text? c.result "operation_id").bind (s.patternById.lookup ·) with
    | some purpose =>
        if purpose = [] then s
        else { s with
          patternCompletion := PyDict.setdefault purpose c.sequence s.patternCompletion }
    | none => s
  else s

/-- One turn of the loop. -/
def next (s : Scan) (event : JournalEvent) : Scan :=
  let s := s.exported event
  let s := { s with rejectedForbidden := s.rejectedForbidden || forbidden event }
  match completed? event with
  | none => s
  | some c => { s with operations := s.operations ++ [c] }.pattern c

/-- The loop. -/
def of (events : List JournalEvent) : Scan := events.foldl next start

/-- `operation_sequences` -/
def operationSequences (s : Scan) (name : String) : List Nat :=
  (s.operations.filter fun c => c.operation = txt name).map Completed.sequence

/-- An image's `details.get("beam")` that has no hash stops the scorer. -/
def unhashableBeam (s : Scan) : Bool :=
  s.operations.any fun c => c.operation = txt "acquire_image" &&
    match c.details.lookup (txt "beam") with
    | some (.arr _) | some (.obj _) => true
    | _ => false

/-- `image_by_beam.get(beam)` -/
def imageByBeam (s : Scan) (beam : String) : Option Nat :=
  (s.operations.find? fun c => c.operation = txt "acquire_image" &&
    text? c.details "beam" = some (txt beam)).map Completed.sequence

/-- `required_preflight` -/
def requiredPreflight (s : Scan) : List (Option Nat) :=
  [(s.operationSequences "ping").head?,
   (s.operationSequences "capabilities").head?,
   s.imageByBeam "SEM",
   s.imageByBeam "FIB",
   (s.operationSequences "move_stage")[0]?,
   (s.operationSequences "move_stage")[1]?,
   (s.operationSequences "insert_manipulator").head?,
   (s.operationSequences "move_manipulator").head?,
   (s.operationSequences "retract_manipulator").head?,
   s.patternCompletion.lookup (txt "preflight_cut"),
   s.patternCompletion.lookup (txt "preflight_deposition")]

def preflight (s : Scan) : Bool := s.requiredPreflight.all Option.isSome

/-- `preflight_sequence` -/
def preflightSequence (s : Scan) : Option Nat :=
  if s.preflight then s.requiredPreflight.reduceOption.max? else none

/-- `destructive` -/
def destructive (s : Scan) : Option Nat :=
  ((["protection", "trench", "polish", "u_cut"].filterMap fun purpose =>
    s.patternCompletion.lookup (txt purpose)) : List Nat).min?

/-- `movement` -/
def movement (s : Scan) : List Nat :=
  (s.operations.filter fun c =>
    c.operation = txt "move_stage" || c.operation = txt "move_manipulator").map
      Completed.sequence

end Scan

/-! ## The markers -/

/-- `_between` -/
def between (values : List Nat) (lower upper : Option Nat) (first : Bool) : Option Nat :=
  match lower, upper with
  | some lower, some upper =>
      let selected := values.filter fun value => lower < value && value < upper
      if first then selected.min? else selected.max?
  | _, _ => none

/-- `_ordered`, of the values of the named markers. -/
def ordered (values : List (Option Nat)) : Bool :=
  values.all Option.isSome && (values.reduceOption.zip values.reduceOption.tail).all fun pair =>
    pair.1 < pair.2

structure Markers where
  preflight : Option Nat
  destructiveRoi : Option Nat
  step1 : Option Nat
  needleJoint : Option Nat
  sourceSeparation : Option Nat
  carry : Option Nat
  step2 : Option Nat
  transfer : Option Nat
  targetPose : Option Nat
  targetJoint : Option Nat
  step3 : Option Nat
  needleSeparation : Option Nat
  needleRetraction : Option Nat
  step4 : Option Nat

namespace Markers

def ofScan (s : Scan) : Markers :=
  let completion (purpose : String) := s.patternCompletion.lookup (txt purpose)
  let checkpoint (step : String) := s.checkpoints.lookup (txt step)
  { preflight := s.preflightSequence
    destructiveRoi := s.destructive
    step1 := checkpoint "step_1"
    needleJoint := completion "needle_joint"
    sourceSeparation := completion "source_separation"
    carry := between s.movement (completion "source_separation") (checkpoint "step_2") true
    step2 := checkpoint "step_2"
    transfer := between s.movement (checkpoint "step_2") (completion "target_joint") true
    targetPose := between s.movement (checkpoint "step_2") (completion "target_joint") false
    targetJoint := completion "target_joint"
    step3 := checkpoint "step_3"
    needleSeparation := completion "needle_separation"
    needleRetraction := between (s.operationSequences "retract_manipulator")
      (checkpoint "step_3") (checkpoint "step_4") true
    step4 := checkpoint "step_4" }

end Markers

/-- `order_by_step` -/
structure OrderByStep where
  step1 : Bool
  step2 : Bool
  step3 : Bool
  step4 : Bool

def OrderByStep.of (m : Markers) : OrderByStep where
  step1 := ordered [m.preflight, m.destructiveRoi, m.step1]
  step2 := ordered [m.step1, m.needleJoint, m.sourceSeparation, m.carry, m.step2]
  step3 := ordered [m.step2, m.transfer, m.targetPose, m.targetJoint, m.step3]
  step4 := ordered [m.step3, m.needleSeparation, m.needleRetraction, m.step4]

/-- What `_journal_markers` returns. -/
structure JournalMarkers where
  markers : Markers
  orderByStep : OrderByStep
  preflight : Bool
  rejectedForbidden : Bool

/-- `_journal_markers`; `none` is the `TypeError` of an unhashable beam. -/
def journalMarkers (journal : EventJournal) : Option JournalMarkers :=
  let s := Scan.of journal.events
  if s.unhashableBeam then none
  else
    let markers := Markers.ofScan s
    some ⟨markers, .of markers, s.preflight, s.rejectedForbidden⟩

/-! ## What the journal holds -/

/-- The event completes the operation. -/
def CompletesOperation (event : JournalEvent) (operation : String) : Prop :=
  ∃ c, completed? event = some c ∧ c.operation = txt operation

/-- The event is a completed cut or deposition of the purpose, and returned the id. -/
def ReturnsPattern (event : JournalEvent) (purpose id : Text) : Prop :=
  ∃ c, completed? event = some c ∧
    (c.operation = txt "run_cut" ∨ c.operation = txt "run_deposition") ∧
    text? c.details "pattern_purpose" = some purpose ∧ text? c.result "operation_id" = some id

/-- The event completes the operation the id stands for. -/
def FinishesPattern (event : JournalEvent) (id : Text) : Prop :=
  ∃ c, completed? event = some c ∧
    (c.operation = txt "run_cut" ∨ c.operation = txt "run_deposition" ∨
      c.operation = txt "pattern_status") ∧
    text? c.result "operation_id" = some id ∧ text? c.result "status" = some (txt "completed")

/-- The event at the sequence number finishes an operation, whose id a cut or
deposition of the purpose had returned by then. -/
def PatternCompletedAt (events : List JournalEvent) (purpose : Text) (sequence : Nat) : Prop :=
  ∃ earlier event later id, events = earlier ++ event :: later ∧ event.sequence = sequence ∧
    FinishesPattern event id ∧ ∃ run ∈ earlier ++ [event], ReturnsPattern run purpose id

def CheckpointAt (events : List JournalEvent) (step : Text) (sequence : Nat) : Prop :=
  ∃ event ∈ events, event.kind = txt "checkpoint.exported" ∧
    text? event.fields "step_id" = some step ∧ event.sequence = sequence

def OperationAt (events : List JournalEvent) (operation : String) (sequence : Nat) : Prop :=
  ∃ event ∈ events, CompletesOperation event operation ∧ event.sequence = sequence

def ImageAt (events : List JournalEvent) (beam : String) (sequence : Nat) : Prop :=
  ∃ event ∈ events, event.sequence = sequence ∧ ∃ c, completed? event = some c ∧
    c.operation = txt "acquire_image" ∧ text? c.details "beam" = some (txt beam)

def MovementAt (events : List JournalEvent) (sequence : Nat) : Prop :=
  OperationAt events "move_stage" sequence ∨ OperationAt events "move_manipulator" sequence

/-- The stage moved and moved again. -/
def StageMovedTwice (events : List JournalEvent) (bound : Nat) : Prop :=
  ∃ first second, [first, second].Sublist events ∧ CompletesOperation first "move_stage" ∧
    CompletesOperation second "move_stage" ∧ first.sequence ≤ bound ∧ second.sequence ≤ bound

/-- **Preflight by `bound`.** -/
structure PreflightBy (events : List JournalEvent) (bound : Nat) : Prop where
  ping : ∃ n ≤ bound, OperationAt events "ping" n
  capabilities : ∃ n ≤ bound, OperationAt events "capabilities" n
  sem : ∃ n ≤ bound, ImageAt events "SEM" n
  fib : ∃ n ≤ bound, ImageAt events "FIB" n
  stage : StageMovedTwice events bound
  inserted : ∃ n ≤ bound, OperationAt events "insert_manipulator" n
  moved : ∃ n ≤ bound, OperationAt events "move_manipulator" n
  retracted : ∃ n ≤ bound, OperationAt events "retract_manipulator" n
  cut : ∃ n ≤ bound, PatternCompletedAt events (txt "preflight_cut") n
  deposition : ∃ n ≤ bound, PatternCompletedAt events (txt "preflight_deposition") n

theorem PatternCompletedAt.append {events : List JournalEvent} {purpose : Text} {n : Nat}
    (h : PatternCompletedAt events purpose n) (more : List JournalEvent) :
    PatternCompletedAt (events ++ more) purpose n := by
  obtain ⟨earlier, event, later, id, rfl, at_, finishes, returned⟩ := h
  exact ⟨earlier, event, later ++ more, id, by simp, at_, finishes, returned⟩

theorem CheckpointAt.append {events : List JournalEvent} {step : Text} {n : Nat}
    (h : CheckpointAt events step n) (more : List JournalEvent) :
    CheckpointAt (events ++ more) step n := by
  obtain ⟨event, member, exported⟩ := h
  exact ⟨event, List.mem_append_left more member, exported⟩

/-! ## One turn of the scan -/

namespace Scan

@[simp] theorem pattern_operations (s : Scan) (c : Completed) :
    (s.pattern c).operations = s.operations := by
  unfold pattern
  repeat' split
  all_goals rfl

@[simp] theorem pattern_checkpoints (s : Scan) (c : Completed) :
    (s.pattern c).checkpoints = s.checkpoints := by
  unfold pattern
  repeat' split
  all_goals rfl

@[simp] theorem of_snoc (events : List JournalEvent) (event : JournalEvent) :
    of (events ++ [event]) = (of events).next event := by
  simp [of]

theorem next_operations (s : Scan) (event : JournalEvent) :
    (s.next event).operations = s.operations ++ (completed? event).toList := by
  unfold next exported
  cases completed? event with
  | none =>
      simp only [Option.toList_none, List.append_nil]
      repeat' split
      all_goals rfl
  | some c =>
      simp only [pattern_operations, Option.toList_some]
      repeat' split
      all_goals rfl

theorem next_checkpoints (s : Scan) (event : JournalEvent) :
    (s.next event).checkpoints = (s.exported event).checkpoints := by
  unfold next
  cases completed? event with
  | none => rfl
  | some c => simp only [pattern_checkpoints]

/-- The operations are those of the journal. -/
theorem operations_of (events : List JournalEvent) :
    (of events).operations = events.filterMap completed? := by
  induction events using List.reverseRecOn with
  | nil => rfl
  | append_singleton events event ih =>
      rw [of_snoc, next_operations, ih, List.filterMap_append]
      congr 1

/-- The tables hold what the journal holds. -/
structure Sound (events : List JournalEvent) (s : Scan) : Prop where
  checkpoints : ∀ step n, s.checkpoints.lookup step = some n → CheckpointAt events step n
  byId : ∀ id purpose, s.patternById.lookup id = some purpose →
    ∃ run ∈ events, ReturnsPattern run purpose id
  completion : ∀ purpose n, s.patternCompletion.lookup purpose = some n →
    PatternCompletedAt events purpose n

/-- A new pattern id comes from a completed cut or deposition. -/
theorem pattern_byId {s : Scan} {c : Completed} {id purpose : Text}
    (found : (s.pattern c).patternById.lookup id = some purpose) :
    s.patternById.lookup id = some purpose ∨
      (c.operation = txt "run_cut" ∨ c.operation = txt "run_deposition") ∧
        text? c.details "pattern_purpose" = some purpose ∧
        text? c.result "operation_id" = some id := by
  unfold pattern at found
  split at found
  case isTrue runs =>
    split at found
    case h_1 newPurpose newId purposed returned =>
      dsimp only at found
      rw [PyDict.lookup_set] at found
      split at found
      case isTrue same =>
        cases found
        exact Or.inr ⟨runs, purposed, same ▸ returned⟩
      case isFalse => exact Or.inl found
    case h_2 => exact Or.inl found
  case isFalse =>
    repeat' split at found
    all_goals exact Or.inl found

/-- A new completion is one of the operation just completed. -/
theorem pattern_completion {s : Scan} {c : Completed} {purpose : Text} {n : Nat}
    (found : (s.pattern c).patternCompletion.lookup purpose = some n) :
    s.patternCompletion.lookup purpose = some n ∨
      n = c.sequence ∧ text? c.result "status" = some (txt "completed") ∧
        ∃ id, text? c.result "operation_id" = some id ∧
          ((c.operation = txt "run_cut" ∨ c.operation = txt "run_deposition") ∧
              text? c.details "pattern_purpose" = some purpose ∨
            c.operation = txt "pattern_status" ∧ s.patternById.lookup id = some purpose) := by
  unfold pattern at found
  split at found
  case isTrue runs =>
    split at found
    case h_1 newPurpose id purposed returned =>
      dsimp only at found
      split at found
      case isTrue completed =>
        rw [PyDict.lookup_setdefault, Option.or_eq_some_iff] at found
        rcases found with before | ⟨-, now⟩
        · exact Or.inl before
        · split at now
          case isTrue same =>
            cases now
            exact Or.inr ⟨rfl, completed, id, returned, Or.inl ⟨runs, same ▸ purposed⟩⟩
          case isFalse => cases now
      case isFalse => exact Or.inl found
    case h_2 => exact Or.inl found
  case isFalse =>
    split at found
    case isTrue polls =>
      split at found
      case h_1 known looked =>
        split at found
        case isTrue => exact Or.inl found
        case isFalse =>
          rw [PyDict.lookup_setdefault, Option.or_eq_some_iff] at found
          rcases found with before | ⟨-, now⟩
          · exact Or.inl before
          · split at now
            case isTrue same =>
              cases now
              obtain ⟨id, returned, known⟩ := Option.bind_eq_some_iff.1 looked
              exact Or.inr ⟨rfl, polls.2, id, returned, Or.inr ⟨polls.1, same ▸ known⟩⟩
            case isFalse => cases now
      case h_2 => exact Or.inl found
    case isFalse => exact Or.inl found

/-- The two pattern tables after a turn. -/
theorem next_tables (s : Scan) (event : JournalEvent) :
    (s.next event).patternById = (match completed? event with
      | none => s.patternById
      | some c => (s.pattern c).patternById) ∧
    (s.next event).patternCompletion = (match completed? event with
      | none => s.patternCompletion
      | some c => (s.pattern c).patternCompletion) := by
  have same : ∀ (t : Scan) (c : Completed), t.patternById = s.patternById →
      t.patternCompletion = s.patternCompletion →
      (t.pattern c).patternById = (s.pattern c).patternById ∧
        (t.pattern c).patternCompletion = (s.pattern c).patternCompletion := by
    intro t c byId completion
    unfold pattern
    rw [byId, completion]
    repeat' split
    all_goals exact ⟨by first | rfl | assumption, by first | rfl | assumption⟩
  have exportedById : (s.exported event).patternById = s.patternById ∧
      (s.exported event).patternCompletion = s.patternCompletion := by
    unfold exported
    repeat' split
    all_goals exact ⟨rfl, rfl⟩
  unfold next
  cases completed? event with
  | none => exact exportedById
  | some c => exact same _ c exportedById.1 exportedById.2

/-- An entry has the sequence number of its event. -/
theorem sequence_of_completed {event : JournalEvent} {c : Completed}
    (made : completed? event = some c) : c.sequence = event.sequence := by
  unfold completed? at made
  repeat' split at made
  all_goals cases made
  rfl

/-- **One turn** keeps the tables sound. -/
theorem Sound.next {events : List JournalEvent} {s : Scan} (sound : Sound events s)
    (event : JournalEvent) : Sound (events ++ [event]) (s.next event) := by
  obtain ⟨checkpoints, byId, completion⟩ := sound
  have last : event ∈ events ++ [event] := by simp
  refine ⟨?_, ?_, ?_⟩
  · intro step n found
    rw [next_checkpoints, exported] at found
    split at found
    case isTrue kind =>
      split at found
      case h_1 new named =>
        rw [PyDict.lookup_setdefault, Option.or_eq_some_iff] at found
        rcases found with before | ⟨-, now⟩
        · exact (checkpoints step n before).append [event]
        · split at now
          case isTrue same =>
            cases now
            exact ⟨event, last, kind, same ▸ named, rfl⟩
          case isFalse => cases now
      case h_2 => exact (checkpoints step n found).append [event]
    case isFalse => exact (checkpoints step n found).append [event]
  · intro id purpose found
    have earlier : ∀ {purpose}, s.patternById.lookup id = some purpose →
        ∃ run ∈ events ++ [event], ReturnsPattern run purpose id := by
      intro purpose before
      obtain ⟨run, member, returns⟩ := byId id purpose before
      exact ⟨run, List.mem_append_left _ member, returns⟩
    rw [(next_tables s event).1] at found
    cases made : completed? event with
    | none =>
        rw [made] at found
        exact earlier found
    | some c =>
        rw [made] at found
        rcases pattern_byId found with before | ⟨runs, purposed, returned⟩
        · exact earlier before
        · exact ⟨event, last, c, made, runs, purposed, returned⟩
  · intro purpose n found
    rw [(next_tables s event).2] at found
    cases made : completed? event with
    | none =>
        rw [made] at found
        exact (completion purpose n found).append [event]
    | some c =>
        rw [made] at found
        rcases pattern_completion found with before | ⟨rfl, status, id, returned, how⟩
        · exact (completion purpose n before).append [event]
        · refine ⟨events, event, [], id, rfl, (sequence_of_completed made).symm, ?_, ?_⟩
          · refine ⟨c, made, ?_, returned, status⟩
            rcases how with ⟨runs | runs, -⟩ | ⟨polls, -⟩
            · exact Or.inl runs
            · exact Or.inr (Or.inl runs)
            · exact Or.inr (Or.inr polls)
          · rcases how with ⟨runs, purposed⟩ | ⟨-, known⟩
            · exact ⟨event, last, c, made, runs, purposed, returned⟩
            · obtain ⟨run, member, returns⟩ := byId id purpose known
              exact ⟨run, List.mem_append_left _ member, returns⟩

/-- **The whole scan** is sound. -/
theorem sound_of (events : List JournalEvent) : Sound events (of events) := by
  induction events using List.reverseRecOn with
  | nil => exact ⟨by simp [of, start], by simp [of, start], by simp [of, start]⟩
  | append_singleton events event ih =>
      rw [of_snoc]
      exact ih.next event

/-! ## Reading the tables -/

theorem operationSequences_of (events : List JournalEvent) (name : String) :
    (of events).operationSequences name =
      (events.filter fun event =>
        (completed? event).any fun c => c.operation = txt name).map JournalEvent.sequence := by
  unfold operationSequences
  rw [operations_of]
  induction events with
  | nil => rfl
  | cons event rest ih =>
      cases made : completed? event with
      | none =>
          rw [List.filterMap_cons_none made, List.filter_cons_of_neg (by simp [made])]
          exact ih
      | some c =>
          rw [List.filterMap_cons_some made]
          by_cases named : c.operation = txt name
          · rw [List.filter_cons_of_pos (by simpa using named),
              List.filter_cons_of_pos (by simpa [made] using named), List.map_cons, List.map_cons,
              ih, sequence_of_completed made]
          · rw [List.filter_cons_of_neg (by simpa using named),
              List.filter_cons_of_neg (by simpa [made] using named), ih]

theorem completesOperation_of_any {event : JournalEvent} {name : String}
    (any : ((completed? event).any fun c => c.operation = txt name) = true) :
    CompletesOperation event name := by
  obtain ⟨c, made, named⟩ := (Option.any_eq_true _ _).1 any
  exact ⟨c, made, by simpa using named⟩

variable {events : List JournalEvent} {n : Nat}

theorem operationAt_of_mem {name : String} (member : n ∈ (of events).operationSequences name) :
    OperationAt events name n := by
  rw [operationSequences_of] at member
  obtain ⟨event, kept, rfl⟩ := List.mem_map.1 member
  obtain ⟨inside, any⟩ := List.mem_filter.1 kept
  exact ⟨event, inside, completesOperation_of_any any, rfl⟩

theorem operationAt_of_head {name : String}
    (head : ((of events).operationSequences name).head? = some n) : OperationAt events name n :=
  operationAt_of_mem (List.mem_of_head? head)

theorem imageAt_of_imageByBeam {beam : String} (found : (of events).imageByBeam beam = some n) :
    ImageAt events beam n := by
  obtain ⟨c, first, rfl⟩ := Option.map_eq_some_iff.1 found
  have member := List.mem_of_find?_eq_some first
  have holds := List.find?_some first
  rw [operations_of] at member
  obtain ⟨event, inside, made⟩ := List.mem_filterMap.1 member
  simp only [Bool.and_eq_true, decide_eq_true_eq] at holds
  exact ⟨event, inside, (sequence_of_completed made).symm, c, made, holds⟩

theorem movementAt_of_mem (member : n ∈ (of events).movement) : MovementAt events n := by
  unfold movement at member
  rw [operations_of] at member
  obtain ⟨c, kept, rfl⟩ := List.mem_map.1 member
  obtain ⟨inside, moves⟩ := List.mem_filter.1 kept
  obtain ⟨event, inside, made⟩ := List.mem_filterMap.1 inside
  simp only [Bool.or_eq_true, decide_eq_true_eq] at moves
  rcases moves with stage | manipulator
  · exact Or.inl ⟨event, inside, ⟨c, made, stage⟩, (sequence_of_completed made).symm⟩
  · exact Or.inr ⟨event, inside, ⟨c, made, manipulator⟩, (sequence_of_completed made).symm⟩

/-- The first two moves of the stage are two events. -/
theorem stageMovedTwice_of_two {first second : Nat} {bound : Nat}
    (one : ((of events).operationSequences "move_stage")[0]? = some first)
    (two : ((of events).operationSequences "move_stage")[1]? = some second)
    (within : first ≤ bound) (within' : second ≤ bound) : StageMovedTwice events bound := by
  rw [operationSequences_of] at one two
  have sub : (events.filter fun event =>
      (completed? event).any fun c => c.operation = txt "move_stage").Sublist events :=
    List.filter_sublist
  have all : ∀ event ∈ events.filter (fun event =>
      (completed? event).any fun c => c.operation = txt "move_stage"),
      CompletesOperation event "move_stage" :=
    fun event kept => completesOperation_of_any (List.mem_filter.1 kept).2
  generalize events.filter (fun event =>
    (completed? event).any fun c => c.operation = txt "move_stage") = moves at one two sub all
  match moves with
  | [] => cases one
  | [_] => cases two
  | a :: b :: rest =>
      cases one
      cases two
      refine ⟨a, b, ?_, all a (by simp), all b (by simp), within, within'⟩
      exact (List.sublist_append_left [a, b] rest).trans sub

end Scan

/-! ## Order -/

theorem eq_map_some {values : List (Option Nat)}
    (present : ∀ value ∈ values, value.isSome = true) :
    values = values.reduceOption.map some := by
  induction values with
  | nil => rfl
  | cons value rest ih =>
      obtain ⟨n, rfl⟩ := Option.isSome_iff_exists.1 (present value (by simp))
      rw [List.reduceOption_cons_of_some, List.map_cons,
        ← ih fun other member => present other (by simp [member])]

theorem isChain_of_zip {ns : List Nat}
    (increasing : ∀ pair ∈ ns.zip ns.tail, pair.1 < pair.2) : ns.IsChain (· < ·) := by
  induction ns with
  | nil => exact List.IsChain.nil
  | cons a rest ih =>
      cases rest with
      | nil => exact List.IsChain.singleton a
      | cons b rest =>
          rw [List.isChain_cons_cons]
          refine ⟨increasing (a, b) (by simp), ih ?_⟩
          intro pair member
          exact increasing pair (by simp [List.zip_cons_cons] at member ⊢; exact Or.inr member)

/-- Ordered markers are all there, and increase. -/
theorem ordered_spec {values : List (Option Nat)} (inOrder : ordered values = true) :
    ∃ ns : List Nat, values = ns.map some ∧ ns.IsChain (· < ·) := by
  simp only [ordered, Bool.and_eq_true, List.all_eq_true, decide_eq_true_eq] at inOrder
  exact ⟨values.reduceOption, eq_map_some inOrder.1, isChain_of_zip inOrder.2⟩

theorem between_spec {values : List Nat} {lower upper : Option Nat} {first : Bool} {n : Nat}
    (found : between values lower upper first = some n) : n ∈ values := by
  unfold between at found
  split at found
  case h_2 => cases found
  case h_1 =>
    dsimp only at found
    split at found
    · exact (List.mem_filter.1 (List.min?_mem found)).1
    · exact (List.mem_filter.1 (List.max?_mem found)).1

namespace Scan

variable {events : List JournalEvent} {n : Nat}

theorem patternCompletedAt_of_lookup {purpose : Text}
    (found : (of events).patternCompletion.lookup purpose = some n) :
    PatternCompletedAt events purpose n :=
  (sound_of events).completion purpose n found

theorem checkpointAt_of_lookup {step : Text}
    (found : (of events).checkpoints.lookup step = some n) : CheckpointAt events step n :=
  (sound_of events).checkpoints step n found

theorem destructive_spec (found : (of events).destructive = some n) :
    ∃ purpose ∈ ["protection", "trench", "polish", "u_cut"],
      PatternCompletedAt events (txt purpose) n := by
  obtain ⟨purpose, member, looked⟩ := List.mem_filterMap.1 (List.min?_mem found)
  exact ⟨purpose, member, patternCompletedAt_of_lookup looked⟩

/-- The preflight marker is past every required operation. -/
theorem preflightBy_of_sequence (found : (of events).preflightSequence = some n) :
    PreflightBy events n := by
  unfold preflightSequence at found
  split at found
  case isFalse => cases found
  case isTrue complete =>
    have present : ∀ value ∈ (of events).requiredPreflight, ∃ m ≤ n, value = some m := by
      intro value member
      obtain ⟨m, rfl⟩ := Option.isSome_iff_exists.1 (List.all_eq_true.1 complete value member)
      have most := (List.max?_le_iff found).1 (Nat.le_refl n)
      exact ⟨m, most m (List.reduceOption_mem_iff.2 member), rfl⟩
    have operation : ∀ (name : String),
        ((of events).operationSequences name).head? ∈ (of events).requiredPreflight →
          ∃ m ≤ n, OperationAt events name m := by
      intro name member
      obtain ⟨m, within, head⟩ := present _ member
      exact ⟨m, within, operationAt_of_head head⟩
    have image : ∀ (beam : String),
        (of events).imageByBeam beam ∈ (of events).requiredPreflight →
          ∃ m ≤ n, ImageAt events beam m := by
      intro beam member
      obtain ⟨m, within, found⟩ := present _ member
      exact ⟨m, within, imageAt_of_imageByBeam found⟩
    have pattern : ∀ (purpose : Text),
        (of events).patternCompletion.lookup purpose ∈ (of events).requiredPreflight →
          ∃ m ≤ n, PatternCompletedAt events purpose m := by
      intro purpose member
      obtain ⟨m, within, found⟩ := present _ member
      exact ⟨m, within, patternCompletedAt_of_lookup found⟩
    obtain ⟨first, within, one⟩ :=
      present ((of events).operationSequences "move_stage")[0]? (by simp [requiredPreflight])
    obtain ⟨second, within', two⟩ :=
      present ((of events).operationSequences "move_stage")[1]? (by simp [requiredPreflight])
    exact
      { ping := operation "ping" (by simp [requiredPreflight])
        capabilities := operation "capabilities" (by simp [requiredPreflight])
        sem := image "SEM" (by simp [requiredPreflight])
        fib := image "FIB" (by simp [requiredPreflight])
        stage := stageMovedTwice_of_two one two within within'
        inserted := operation "insert_manipulator" (by simp [requiredPreflight])
        moved := operation "move_manipulator" (by simp [requiredPreflight])
        retracted := operation "retract_manipulator" (by simp [requiredPreflight])
        cut := pattern (txt "preflight_cut") (by simp [requiredPreflight])
        deposition := pattern (txt "preflight_deposition") (by simp [requiredPreflight]) }

end Scan

/-- **The gate.**  The events the fourteen markers stand for, one after the other. -/
def InOrder (events : List JournalEvent) : Prop :=
  ∃ preflight destructive step1 needleJoint sourceSeparation carry step2 transfer targetPose
      targetJoint step3 needleSeparation needleRetraction step4 : Nat,
    [preflight, destructive, step1, needleJoint, sourceSeparation, carry, step2, transfer,
      targetPose, targetJoint, step3, needleSeparation, needleRetraction, step4].IsChain (· < ·) ∧
    PreflightBy events preflight ∧
    (∃ purpose ∈ ["protection", "trench", "polish", "u_cut"],
      PatternCompletedAt events (txt purpose) destructive) ∧
    CheckpointAt events (txt "step_1") step1 ∧
    PatternCompletedAt events (txt "needle_joint") needleJoint ∧
    PatternCompletedAt events (txt "source_separation") sourceSeparation ∧
    MovementAt events carry ∧
    CheckpointAt events (txt "step_2") step2 ∧
    MovementAt events transfer ∧
    MovementAt events targetPose ∧
    PatternCompletedAt events (txt "target_joint") targetJoint ∧
    CheckpointAt events (txt "step_3") step3 ∧
    PatternCompletedAt events (txt "needle_separation") needleSeparation ∧
    OperationAt events "retract_manipulator" needleRetraction ∧
    CheckpointAt events (txt "step_4") step4

theorem ordered_three {a b c : Option Nat} (inOrder : ordered [a, b, c] = true) :
    ∃ x y z, a = some x ∧ b = some y ∧ c = some z ∧ x < y ∧ y < z := by
  obtain ⟨ns, same, increasing⟩ := ordered_spec inOrder
  rcases ns with _ | ⟨x, _ | ⟨y, _ | ⟨z, _ | ⟨more, rest⟩⟩⟩⟩ <;> cases same
  simp only [List.isChain_cons_cons, List.isChain_singleton, and_true] at increasing
  exact ⟨x, y, z, rfl, rfl, rfl, increasing⟩

theorem ordered_four {a b c d : Option Nat} (inOrder : ordered [a, b, c, d] = true) :
    ∃ x y z w, a = some x ∧ b = some y ∧ c = some z ∧ d = some w ∧ x < y ∧ y < z ∧ z < w := by
  obtain ⟨ns, same, increasing⟩ := ordered_spec inOrder
  rcases ns with _ | ⟨x, _ | ⟨y, _ | ⟨z, _ | ⟨w, _ | ⟨more, rest⟩⟩⟩⟩⟩ <;> cases same
  simp only [List.isChain_cons_cons, List.isChain_singleton, and_true] at increasing
  exact ⟨x, y, z, w, rfl, rfl, rfl, rfl, increasing⟩

theorem ordered_five {a b c d e : Option Nat} (inOrder : ordered [a, b, c, d, e] = true) :
    ∃ x y z w v, a = some x ∧ b = some y ∧ c = some z ∧ d = some w ∧ e = some v ∧
      x < y ∧ y < z ∧ z < w ∧ w < v := by
  obtain ⟨ns, same, increasing⟩ := ordered_spec inOrder
  rcases ns with _ | ⟨x, _ | ⟨y, _ | ⟨z, _ | ⟨w, _ | ⟨v, _ | ⟨more, rest⟩⟩⟩⟩⟩⟩ <;> cases same
  simp only [List.isChain_cons_cons, List.isChain_singleton, and_true] at increasing
  exact ⟨x, y, z, w, v, rfl, rfl, rfl, rfl, rfl, increasing⟩

/-- **The partial-order gate is sound.** -/
theorem order_sound {journal : EventJournal} {m : JournalMarkers}
    (scored : journalMarkers journal = some m)
    (inOrder : (m.orderByStep.step1 && m.orderByStep.step2 && m.orderByStep.step3 &&
      m.orderByStep.step4) = true) : InOrder journal.events := by
  unfold journalMarkers at scored
  dsimp only at scored
  split at scored
  case isTrue => cases scored
  case isFalse =>
    cases scored
    simp only [OrderByStep.of, Bool.and_eq_true] at inOrder
    obtain ⟨⟨⟨one, two⟩, three⟩, four⟩ := inOrder
    obtain ⟨preflight, destructive, step1, hp, hd, h1, lt₁, lt₂⟩ := ordered_three one
    obtain ⟨step1', needleJoint, separation, carry, step2, h1', hn, hs, hc, h2, lt₃, lt₄, lt₅,
      lt₆⟩ := ordered_five two
    obtain ⟨step2', transfer, pose, targetJoint, step3, h2', ht, hq, hj, h3, lt₇, lt₈, lt₉,
      lt₁₀⟩ := ordered_five three
    obtain ⟨step3', parted, retraction, step4, h3', hm, hr, h4, lt₁₁, lt₁₂, lt₁₃⟩ :=
      ordered_four four
    -- the chains meet at the checkpoints
    obtain rfl := Option.some.inj (h1.symm.trans h1')
    obtain rfl := Option.some.inj (h2.symm.trans h2')
    obtain rfl := Option.some.inj (h3.symm.trans h3')
    refine ⟨preflight, destructive, step1, needleJoint, separation, carry, step2, transfer, pose,
      targetJoint, step3, parted, retraction, step4, ?_, ?_, ?_, ?_, ?_, ?_, ?_, ?_, ?_, ?_, ?_,
      ?_, ?_, ?_, ?_⟩
    · simp only [List.isChain_cons_cons, List.isChain_singleton, and_true]
      omega
    · exact Scan.preflightBy_of_sequence hp
    · exact Scan.destructive_spec hd
    · exact Scan.checkpointAt_of_lookup h1
    · exact Scan.patternCompletedAt_of_lookup hn
    · exact Scan.patternCompletedAt_of_lookup hs
    · exact Scan.movementAt_of_mem (between_spec hc)
    · exact Scan.checkpointAt_of_lookup h2
    · exact Scan.movementAt_of_mem (between_spec ht)
    · exact Scan.movementAt_of_mem (between_spec hq)
    · exact Scan.patternCompletedAt_of_lookup hj
    · exact Scan.checkpointAt_of_lookup h3
    · exact Scan.patternCompletedAt_of_lookup hm
    · exact Scan.operationAt_of_mem (between_spec hr)
    · exact Scan.checkpointAt_of_lookup h4

/-! ## A complete lift-out -/

/-- A completed operation's record. -/
def operationRecord (operation : String) (details result : Fields) : Text × Fields :=
  (txt "rpc.completed",
    [(txt "operation", .str (txt operation)), (txt "details", .obj details),
      (txt "result_details", .obj result)])

/-- A pattern that completes at once. -/
def patternRecord (operation purpose id : String) : Text × Fields :=
  operationRecord operation [(txt "pattern_purpose", .str (txt purpose))]
    [(txt "operation_id", .str (txt id)), (txt "status", .str (txt "completed"))]

def checkpointRecord (step : String) : Text × Fields :=
  (txt "checkpoint.exported", [(txt "step_id", .str (txt step))])

/-- A journal of the records, under fixed identities and hashes. -/
def journalOf (records : List (Text × Fields)) : EventJournal :=
  ⟨txt "run", txt "world", by decide, records.zipIdx.map fun record =>
    ⟨record.2 + 1, txt "run", txt "world", record.2 + 1, record.1.1, record.1.2, GENESIS_HASH,
      GENESIS_HASH⟩⟩

def liftOut : List (Text × Fields) :=
  [operationRecord "ping" [] [], operationRecord "capabilities" [] [],
   operationRecord "acquire_image" [(txt "beam", .str (txt "SEM"))] [],
   operationRecord "acquire_image" [(txt "beam", .str (txt "FIB"))] [],
   operationRecord "move_stage" [] [], operationRecord "move_stage" [] [],
   operationRecord "insert_manipulator" [] [], operationRecord "move_manipulator" [] [],
   operationRecord "retract_manipulator" [] [],
   patternRecord "run_cut" "preflight_cut" "1",
   patternRecord "run_deposition" "preflight_deposition" "2",
   patternRecord "run_cut" "trench" "3", checkpointRecord "step_1",
   patternRecord "run_deposition" "needle_joint" "4",
   patternRecord "run_cut" "source_separation" "5",
   operationRecord "move_manipulator" [] [], checkpointRecord "step_2",
   operationRecord "move_stage" [] [], operationRecord "move_manipulator" [] [],
   patternRecord "run_deposition" "target_joint" "6", checkpointRecord "step_3",
   patternRecord "run_cut" "needle_separation" "7",
   operationRecord "retract_manipulator" [] [], checkpointRecord "step_4"]

theorem order_sound_liftOut : InOrder (journalOf liftOut).events := by
  have passes : (journalMarkers (journalOf liftOut)).any (fun m =>
      m.orderByStep.step1 && m.orderByStep.step2 && m.orderByStep.step3 &&
        m.orderByStep.step4) = true := by
    decide
  obtain ⟨m, scored, inOrder⟩ := (Option.any_eq_true _ _).1 passes
  exact order_sound scored inOrder

end InstrumentBench.Fibsem.Scoring
