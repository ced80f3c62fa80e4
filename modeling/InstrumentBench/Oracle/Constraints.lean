/-
# Oracle.Constraints -- the order the semantic events of a run must keep

`normalize_events` reads a kind off every accepted command; `evaluate_constraints` sorts
the events by sequence number and checks nine constraints on them.  The one that asks
for an identification before any other command of an instrument keeps, in a dictionary
by role, the last identification it meets, and compares that one with every command.

* `passed_iff`: the check passes exactly when every command comes after *every*
  identification of its role;
* `identification_exact_iff`: it agrees with its purpose except on lists in which an
  instrument that was used is identified once more.
-/
import InstrumentBench.Oracle.Evidence

namespace InstrumentBench.Oracle

set_option autoImplicit false

open InstrumentBench.Theory InstrumentBench.Theory.PyText

/-! ## Semantic events -/

structure SemanticEvent where
  sequence : Int
  kind : Text
  role : Option Text
  sessionDigest : Option Text
  cleanupSource : Option Text
deriving DecidableEq

structure ConstraintResult where
  name : Text
  passed : Bool
  message : Text
  evidenceSequences : List Int
deriving DecidableEq

/-- `payload.decode("ascii", errors="replace")` -/
def decodeReplace (payload : Bytes) : Text :=
  payload.map fun b => if b.toNat < 0x80 then CodePoint.ofByte b else 0xFFFD

/-- `response.strip() == b"1"`; `bytes.strip` knows fewer blanks than `str.strip`. -/
def stripsToOne (response : Bytes) : Bool :=
  let blank (b : UInt8) : Bool := (9 ≤ b.toNat && b.toNat ≤ 13) || b.toNat = 32
  ((response.dropWhile blank).reverse.dropWhile blank).reverse = ascii "1"

/-- `_command_kind` -/
def commandKind (role : Option Text) (command : Text) (psuOutput awgOutput : Bool)
    (response : Option Bytes) : Option Text :=
  let upper := upper command
  if upper = txt "*IDN?" then some (txt "device.identified")
  else if isRole "switch" role ∧ startsWith "ROUT:CLOS " upper then
    some (txt "switch.routes_closed")
  else if isRole "switch" role ∧ startsWith "ROUT:OPEN" upper then
    some (txt "switch.routes_opened")
  else if isRole "psu" role ∧ startsWith "VOLT " upper then some (txt "psu.configured")
  else if isRole "psu" role ∧ startsWith "OUTP " upper then
    some (if psuOutput then txt "psu.output_on" else txt "psu.output_off")
  else if isRole "awg" role ∧ startsWith "DATA:ARB " upper then some (txt "awg.waveform_uploaded")
  else if isRole "awg" role ∧ startsWith "FUNC:ARB " upper then some (txt "awg.waveform_selected")
  else if isRole "awg" role ∧ (startsWith "VOLT " upper ∨ startsWith "VOLT:OFFS " upper) then
    some (txt "awg.configured")
  else if isRole "awg" role ∧ startsWith "OUTP " upper then
    some (if awgOutput then txt "awg.output_on" else txt "awg.output_off")
  else if isRole "awg" role ∧ (upper = txt "STAT:OPER:COND?" ∨ upper = txt "*OPC?") ∧
      response.any stripsToOne then some (txt "dut.settled")
  else if isRole "dmm" role ∧ (upper = txt "READ?" ∨ upper = txt "FETC?") then
    some (txt "dmm.acquired")
  else if isRole "dmm" role ∧ (startsWith "CONF:VOLT:DC" upper ∨ startsWith "VOLT:DC:RANG " upper ∨
      startsWith "SAMP:COUN " upper ∨ startsWith "INIT" upper) then some (txt "dmm.configured")
  else if isRole "scope" role ∧ upper = txt "CURVE?" then some (txt "scope.acquired")
  else if isRole "scope" role ∧ (startsWith "DATA:SOURCE " upper ∨ startsWith "DATA:ENC " upper ∨
      startsWith "DATA:WIDTH " upper) then some (txt "scope.configured")
  else none

/-- The kind of one record, where it has one. -/
def recordKind (record : EvidenceEvent) : Option Text :=
  if record.operation = txt "open_resource" then some (txt "resource.opened")
  else if record.operation = txt "close" then some (txt "resource.closed")
  else if record.operation = txt "write" ∧ record.accepted = true then
    record.request.bind fun request =>
      commandKind record.role (strip (decodeReplace request)) record.psuOutputAfter
        record.awgOutputAfter record.response
  else none

/-- `normalize_events` -/
def normalizeEvents (records : List EvidenceEvent) : List SemanticEvent :=
  records.filterMap fun record =>
    (recordKind record).map fun kind =>
      ⟨record.sequence, kind, record.role, record.sessionDigest, record.cleanupSource⟩

/-! ## The constraints -/

/-- `sorted(events, key=lambda item: item.sequence)` -/
def ordered (events : List SemanticEvent) : List SemanticEvent :=
  events.insertionSort fun a b => a.sequence ≤ b.sequence

/-- `str(sorted(kinds))` of a set of kinds, written as a sorted list here. -/
def reprKinds (kinds : List Text) : Text :=
  txt "[" ++ join (txt ", ") (kinds.map fun k => txt "'" ++ k ++ txt "'") ++ txt "]"

/-- `_before` -/
def before (events : List SemanticEvent) (name : String) (beforeKinds afterKinds : List Text)
    (requireAllBefore requireAllAfter : Bool) : ConstraintResult :=
  let before := events.filter fun item => item.kind ∈ beforeKinds
  let after := events.filter fun item => item.kind ∈ afterKinds
  let complete := !before.isEmpty && !after.isEmpty &&
    (!requireAllBefore || beforeKinds.all fun k => before.any fun item => item.kind = k) &&
    (!requireAllAfter || afterKinds.all fun k => after.any fun item => item.kind = k)
  { name := txt name
    -- `max(before) < min(after)`, over lists that are not empty
    passed := complete && before.all fun first => after.all fun second =>
      first.sequence < second.sequence
    message := reprKinds beforeKinds ++ txt " must precede " ++ reprKinds afterKinds
    evidenceSequences := (before.getLast?.toList ++ after.head?.toList).map SemanticEvent.sequence }

/-- The kinds that are not commands of an instrument. -/
def commonKinds : List Text :=
  [txt "resource.opened", txt "device.identified", txt "resource.closed"]

/-- The role of an identification of one of the five instruments. -/
def identifies (item : SemanticEvent) : Option Text :=
  item.role.filter fun role => item.kind = txt "device.identified" ∧ role ∈ roles

/-- The role of any other command of one of the five instruments. -/
def specific (item : SemanticEvent) : Option Text :=
  item.role.filter fun role => role ∈ roles ∧ item.kind ∉ commonKinds

/-- `identified`: the sequence number of an identification, by role.  A later one takes
the place of an earlier one. -/
def identified (events : List SemanticEvent) : List (Text × Int) :=
  events.foldl (fun d item =>
    match identifies item with
    | some role => PyDict.set role item.sequence d
    | none => d) []

/-- `_all_roles_identified_before_specific_actions` -/
def allRolesIdentifiedBeforeSpecificActions (events : List SemanticEvent) : ConstraintResult :=
  let identified := identified events
  let violations := (events.filter fun item =>
    (specific item).any fun role =>
      ((identified.lookup role).map fun sequence => decide (item.sequence ≤ sequence)).getD
        true).map SemanticEvent.sequence
  { name := txt "identify_before_device_commands"
    passed := roles.all (fun role => (identified.lookup role).isSome) && violations.isEmpty
    message := txt "every target must be identified before device-specific actions"
    evidenceSequences := (identified.map Prod.snd).insertionSort (· ≤ ·) ++ violations }

/-- `_active_close_all` -/
def activeCloseAll (events : List SemanticEvent) : ConstraintResult :=
  let opened := events.filterMap fun item =>
    if item.kind = txt "resource.opened" then item.sessionDigest else none
  let activelyClosed := events.filterMap fun item =>
    if item.kind = txt "resource.closed" ∧ item.cleanupSource = some (txt "candidate") then
      item.sessionDigest
    else none
  { name := txt "active_close_all"
    passed := !opened.isEmpty && opened.all (· ∈ activelyClosed) && activelyClosed.all (· ∈ opened)
    message := txt "every opened session must be explicitly closed by the candidate"
    evidenceSequences := (events.filter fun item => item.kind = txt "resource.opened" ∨
      item.kind = txt "resource.closed").map SemanticEvent.sequence }

def safeFinalState (finalStateSafe : Bool) : ConstraintResult where
  name := txt "safe_final_state"
  passed := finalStateSafe
  message :=
    if finalStateSafe then txt "hidden final state is safe"
    else txt "one or more outputs/routes remain unsafe"
  evidenceSequences := []

/-- `evaluate_constraints` -/
def evaluateConstraints (events : List SemanticEvent) (finalStateSafe : Bool) :
    List ConstraintResult :=
  let ordered := ordered events
  [allRolesIdentifiedBeforeSpecificActions ordered,
   before ordered "routes_before_sources" [txt "switch.routes_closed"]
     [txt "awg.output_on", txt "psu.output_on"] false false,
   before ordered "psu_configured_before_output" [txt "psu.configured"] [txt "psu.output_on"]
     false false,
   before ordered "waveform_ready_before_awg_output"
     [txt "awg.configured", txt "awg.waveform_selected", txt "awg.waveform_uploaded"]
     [txt "awg.output_on"] true false,
   before ordered "settled_before_acquisition" [txt "dut.settled"]
     [txt "dmm.acquired", txt "scope.acquired"] false true,
   before ordered "awg_off_before_psu_off" [txt "awg.output_off"] [txt "psu.output_off"]
     false false,
   before ordered "sources_off_before_routes_open" [txt "awg.output_off", txt "psu.output_off"]
     [txt "switch.routes_opened"] true false,
   activeCloseAll ordered,
   safeFinalState finalStateSafe]

/-! ## Identification before use -/

/-- The check as `evaluate_constraints` makes it. -/
def identifyBeforeDeviceCommands (events : List SemanticEvent) : ConstraintResult :=
  allRolesIdentifiedBeforeSpecificActions (ordered events)

/-- **The purpose of the check.**  Every role is identified, and every other command of a
role has an identification of that role before it. -/
def IdentifiedFirst (events : List SemanticEvent) : Prop :=
  (∀ role ∈ roles, ∃ i ∈ events, identifies i = some role) ∧
  ∀ e ∈ events, ∀ role ∈ specific e,
    ∃ i ∈ events, identifies i = some role ∧ i.sequence < e.sequence

instance (events : List SemanticEvent) : Decidable (IdentifiedFirst events) := by
  unfold IdentifiedFirst
  infer_instance

/-- A role is identified after one of its other commands. -/
def Reidentified (events : List SemanticEvent) : Prop :=
  ∃ e ∈ events, ∃ i ∈ events, ∃ role, specific e = some role ∧ identifies i = some role ∧
    e.sequence ≤ i.sequence

theorem role_of_specific {item : SemanticEvent} {role : Text} (h : specific item = some role) :
    role ∈ roles := by
  obtain ⟨-, kept⟩ := Option.filter_eq_some_iff.1 h
  exact (of_decide_eq_true kept).1

theorem mem_ordered {item : SemanticEvent} {events : List SemanticEvent} :
    item ∈ ordered events ↔ item ∈ events :=
  (List.perm_insertionSort _ events).mem_iff

theorem ordered_pairwise (events : List SemanticEvent) :
    (ordered events).Pairwise fun a b => a.sequence ≤ b.sequence := by
  have total : Std.Total fun a b : SemanticEvent => a.sequence ≤ b.sequence :=
    ⟨fun a b => Int.le_total a.sequence b.sequence⟩
  have trans : IsTrans SemanticEvent fun a b => a.sequence ≤ b.sequence :=
    ⟨fun _ _ _ => Int.le_trans⟩
  exact List.pairwise_insertionSort _ events

/-- The dictionary holds the sequence number of the *last* identification of a role. -/
theorem lookup_identified (events : List SemanticEvent) (role : Text) :
    (identified events).lookup role =
      ((events.filter fun item => identifies item = some role).getLast?).map
        SemanticEvent.sequence := by
  induction events using List.reverseRecOn with
  | nil => rfl
  | append_singleton events item ih =>
      unfold identified at ih ⊢
      rw [List.foldl_concat, List.filter_append]
      cases found : identifies item with
      | none =>
          simpa [found] using ih
      | some named =>
          simp only [PyDict.lookup_set]
          by_cases same : role = named
          · subst same
            simp [found]
          · have other : ¬ named = role := fun h => same h.symm
            simpa [found, same, other] using ih

/-- In a sorted list the last identification is a latest one. -/
theorem lookup_identified_of_sorted {events : List SemanticEvent} {role : Text} {sequence : Int}
    (sorted : events.Pairwise fun a b => a.sequence ≤ b.sequence)
    (found : (identified events).lookup role = some sequence) :
    (∃ i ∈ events, identifies i = some role ∧ i.sequence = sequence) ∧
      ∀ i ∈ events, identifies i = some role → i.sequence ≤ sequence := by
  rw [lookup_identified] at found
  obtain ⟨last, isLast, rfl⟩ := Option.map_eq_some_iff.1 found
  have listed := List.mem_filter.1 (List.mem_of_getLast? isLast)
  refine ⟨⟨last, listed.1, of_decide_eq_true listed.2, rfl⟩, ?_⟩
  intro i member named
  have kept : i ∈ events.filter fun item => identifies item = some role :=
    List.mem_filter.2 ⟨member, decide_eq_true named⟩
  obtain ⟨init, split⟩ := List.getLast?_eq_some_iff.1 isLast
  have ranked := sorted.filter fun item => identifies item = some role
  rw [split] at ranked kept
  rcases List.mem_append.1 kept with earlier | final
  · exact (List.pairwise_append.1 ranked).2.2 i earlier last List.mem_cons_self
  · rw [List.mem_singleton.1 final]

theorem lookup_identified_isSome (events : List SemanticEvent) (role : Text) :
    ((identified events).lookup role).isSome = true ↔
      ∃ i ∈ events, identifies i = some role := by
  rw [lookup_identified, Option.isSome_map, List.getLast?_isSome]
  simp only [ne_eq, List.filter_eq_nil_iff, decide_eq_true_eq, not_forall, not_not, exists_prop]

/-- **What the check asks.**  Every role is identified, and every other command comes
after every identification of its role. -/
theorem passed_iff (events : List SemanticEvent) :
    (identifyBeforeDeviceCommands events).passed = true ↔
      (∀ role ∈ roles, ∃ i ∈ events, identifies i = some role) ∧ ¬ Reidentified events := by
  have sorted := ordered_pairwise events
  unfold identifyBeforeDeviceCommands allRolesIdentifiedBeforeSpecificActions
  simp only [Bool.and_eq_true, List.all_eq_true, lookup_identified_isSome, mem_ordered,
    List.isEmpty_iff, List.map_eq_nil_iff, List.filter_eq_nil_iff]
  refine and_congr_right fun complete => ?_
  constructor
  · rintro clean ⟨e, he, i, hi, role, used, named, late⟩
    have known : ((identified (ordered events)).lookup role).isSome = true :=
      (lookup_identified_isSome _ role).2 ⟨i, mem_ordered.2 hi, named⟩
    obtain ⟨sequence, found⟩ := Option.isSome_iff_exists.1 known
    have latest := (lookup_identified_of_sorted sorted found).2 i (mem_ordered.2 hi) named
    apply clean e he
    simp only [used, Option.any_some, found, Option.map_some, Option.getD_some, decide_eq_true_eq]
    omega
  · intro never e he violates
    obtain ⟨role, used, bad⟩ := (Option.any_eq_true _ _).1 violates
    obtain ⟨i, hi, named⟩ := complete role (role_of_specific used)
    have known : ((identified (ordered events)).lookup role).isSome = true :=
      (lookup_identified_isSome _ role).2 ⟨i, mem_ordered.2 hi, named⟩
    obtain ⟨sequence, found⟩ := Option.isSome_iff_exists.1 known
    obtain ⟨⟨last, member, lastNamed, rfl⟩, -⟩ := lookup_identified_of_sorted sorted found
    rw [found] at bad
    exact never ⟨e, he, last, mem_ordered.1 member, role, used, lastNamed, of_decide_eq_true bad⟩

/-- **The check is exact except after a second identification.**  It agrees with its
purpose on a list of events exactly when the list is not one that meets the purpose and
identifies a role again after one of its commands. -/
theorem identification_exact_iff (events : List SemanticEvent) :
    ((identifyBeforeDeviceCommands events).passed = true ↔ IdentifiedFirst events) ↔
      ¬ (IdentifiedFirst events ∧ Reidentified events) := by
  rw [passed_iff]
  constructor
  · rintro exact ⟨first, again⟩
    exact (exact.2 first).2 again
  · intro apart
    constructor
    · rintro ⟨complete, never⟩
      refine ⟨complete, ?_⟩
      intro e he role used
      obtain ⟨i, hi, named⟩ := complete role (role_of_specific used)
      refine ⟨i, hi, named, ?_⟩
      by_contra late
      exact never ⟨e, he, i, hi, role, used, named, by omega⟩
    · intro first
      exact ⟨first.1, fun again => apart ⟨first, again⟩⟩

/-! ## A role identified once more -/

/-- Every role identified in turn, and then the commands. -/
def identifiedOnce : List SemanticEvent :=
  (roles.mapIdx fun n role => ⟨n + 1, txt "device.identified", some role, none, none⟩) ++
    [⟨6, txt "dmm.acquired", some (txt "dmm"), none, none⟩]

/-- One more identification of the multimeter, at the end, fails the check. -/
theorem identified_again_fails :
    IdentifiedFirst identifiedOnce ∧
      (identifyBeforeDeviceCommands identifiedOnce).passed = true ∧
      let again := identifiedOnce ++
        [⟨7, txt "device.identified", some (txt "dmm"), none, none⟩]
      (again.map SemanticEvent.sequence).Nodup ∧ IdentifiedFirst again ∧
        (identifyBeforeDeviceCommands again).passed = false := by
  decide +kernel

end InstrumentBench.Oracle
