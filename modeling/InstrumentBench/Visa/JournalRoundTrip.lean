/-
# Visa.JournalRoundTrip -- what the loader makes of an exported journal

`append` keeps a chain invariant (`Chain`, `appendAll_chain`).  For a linked event
`loadsBytes_lineOf` says what the strict parser reads of its line, and
`checkRecord_of_link` that a record equal to it passes every check.
`exported_roundTrips_iff` assembles both: the file is read back exactly when the
copied fields hold finite numbers only and no text of a record has an escaped
surrogate pair in it.
-/
import InstrumentBench.Visa.Journal
import InstrumentBench.Fibsem.JournalRoundTrip
import InstrumentBench.Theory.Run

namespace InstrumentBench.Visa.Journal

set_option autoImplicit false

open InstrumentBench.Theory
open InstrumentBench.Fibsem.Journal (asciiBytes field without splitlines canon_field canon_without
  asciiBytes_dumps_ne_nil oneLine_dumps splitlines_line pairFree_digest OneLine)

/-! ## The chain -/

theorem canonical_eq_some {v : Json} {payload : Bytes} :
    canonical v = some payload ↔ v.withinDigits = true ∧ payload = asciiBytes v.dumps := by
  unfold canonical
  split
  · rename_i digits
    rw [Option.some.injEq]
    exact ⟨fun same => ⟨digits, same.symm⟩, fun both => both.2.symm⟩
  · rename_i digits
    refine ⟨fun absent => ?_, fun both => absurd both.1 digits⟩
    cases absent

/-- The canonical bytes see only the canonical form. -/
theorem canonical_congr {v w : Json} (same : v.canon = w.canon) : canonical v = canonical w := by
  have digits : v.withinDigits = w.withinDigits := by
    rw [← Json.withinDigits_canon v, ← Json.withinDigits_canon w, same]
  rw [canonical, canonical, digits, Json.dumps, Json.dumps, same]

/-- What `append` guarantees of an event at a position of the loop. -/
structure Link (runId worldId : Text) (p : Position) (e : JournalEvent) : Prop where
  run : e.runId = runId
  world : e.worldId = worldId
  sequence : e.sequence = p.sequence
  monotone : p.previousTime ≤ e.monotonicNs
  kind : e.kind ≠ []
  previous : e.previousHash = p.previous
  previousDigest : isHexDigest p.previous = true
  hashed : ∃ payload, canonical (.obj e.unsigned) = some payload ∧ e.eventHash = hexdigest payload
  distinct : (Json.obj e.fields).Distinct
  free : Json.AllTextFields Json.PairFree e.fields

def Position.after (p : Position) (e : JournalEvent) : Position :=
  ⟨p.sequence + 1, e.eventHash, e.monotonicNs⟩

/-- The invariant of a journal: every event links to what is before it. -/
def Chain (runId worldId : Text) : Position → List JournalEvent → Prop
  | _, [] => True
  | p, e :: es => Link runId worldId p e ∧ Chain runId worldId (p.after e) es

theorem chain_snoc {runId worldId : Text} {p : Position} {es : List JournalEvent}
    {e : JournalEvent} : Chain runId worldId p (es ++ [e]) ↔
      Chain runId worldId p es ∧ Link runId worldId (es.foldl Position.after p) e := by
  induction es generalizing p with
  | nil => simp [Chain]
  | cons first es ih => simp [Chain, ih, and_assoc]

/-- Where the loop stands after the journal's events. -/
def EventJournal.position (journal : EventJournal) : Position :=
  journal.events.foldl Position.after Position.start

theorem position_previous (journal : EventJournal) :
    journal.position.previous = journal.finalHash := by
  unfold EventJournal.position EventJournal.finalHash
  rcases List.eq_nil_or_concat journal.events with none | ⟨es, e, some⟩
  · rw [none]
    rfl
  · rw [some, List.concat_eq_append, List.foldl_append, List.getLast?_append]
    rfl

/-- The invariant of a journal after calls of `append`: what the loop would carry is
chained, and its hash is a digest. -/
structure Chained (journal : EventJournal) : Prop where
  chain : Chain journal.runId journal.worldId Position.start journal.events
  digest : isHexDigest journal.position.previous = true

theorem chained_new (runId worldId : Text) (named : runId ≠ [] ∧ worldId ≠ []) :
    Chained ⟨runId, worldId, named, []⟩ :=
  ⟨trivial, (show isHexDigest GENESIS_HASH = true by decide)⟩

theorem append_spec {journal after : EventJournal} {call : Appended}
    (appended : journal.append call = some after) :
    call.kind ≠ [] ∧ (Json.obj call.fields).withinDigits = true ∧ ∃ payload,
      canonical (.obj (journal.draft call).unsigned) = some payload ∧
      after = { journal with
        events := journal.events ++ [{ journal.draft call with eventHash := hexdigest payload }] } := by
  unfold EventJournal.append at appended
  split at appended
  · cases appended
  rename_i kind
  split at appended
  · cases appended
  rename_i written fields
  split at appended
  · cases appended
  rename_i payload digested
  cases appended
  exact ⟨kind, (canonical_eq_some.1 fields).1, payload, digested, rfl⟩

theorem distinct_copied (call : Appended) : (Json.obj call.copied).Distinct :=
  Json.distinct_reload (.obj (Json.sortFields (Json.canonFields call.fields)))

theorem pairFree_copied (call : Appended) : Json.AllTextFields Json.PairFree call.copied :=
  Json.pairFree_reload (.obj (Json.sortFields (Json.canonFields call.fields)))

/-- **Step.**  `append` links the new event to the journal. -/
theorem append_chained {journal after : EventJournal} {call : Appended}
    (appended : journal.append call = some after) (chained : Chained journal)
    (clock : journal.position.previousTime ≤ call.now) :
    Chained after ∧ after.position.previousTime = call.now := by
  obtain ⟨kind, -, payload, digested, rfl⟩ := append_spec appended
  have copied : (Json.obj call.copied).Distinct := distinct_copied call
  have free : Json.AllTextFields Json.PairFree call.copied := pairFree_copied call
  have link : Link journal.runId journal.worldId journal.position
      { journal.draft call with eventHash := hexdigest payload } :=
    { run := rfl
      world := rfl
      sequence := by
        rw [EventJournal.position, foldl_counts Position.sequence fun _ _ => rfl]
        exact Nat.add_comm _ _
      monotone := clock
      kind := kind
      previous := (position_previous journal).symm
      previousDigest := chained.digest
      hashed := ⟨payload, digested, rfl⟩
      distinct := copied
      free := free }
  have last : EventJournal.position { journal with
      events := journal.events ++ [{ journal.draft call with eventHash := hexdigest payload }] } =
      journal.position.after { journal.draft call with eventHash := hexdigest payload } := by
    rw [EventJournal.position, List.foldl_append]
    rfl
  refine ⟨⟨chain_snoc.2 ⟨chained.chain, link⟩, ?_⟩, ?_⟩
  · rw [last]
    exact isHexDigest_hexdigest payload
  · rw [last]
    rfl

/-- **Run.**  Calls of `append` with a clock that never runs back leave a chain. -/
theorem appendAll_chained {journal after : EventJournal} {calls : List Appended} {before : Nat}
    (appended : journal.appendAll calls = some after) (chained : Chained journal)
    (clock : Monotonic before calls) (reached : journal.position.previousTime ≤ before) :
    Chained after := by
  induction calls generalizing journal before with
  | nil =>
      cases appended
      exact chained
  | cons call calls ih =>
      rw [EventJournal.appendAll] at appended
      split at appended
      · cases appended
      · rename_i next first
        obtain ⟨linked, time⟩ := append_chained first chained (by have := clock.1; omega)
        exact ih appended linked clock.2 (le_of_eq time)

/-- The events are the calls, in order. -/
theorem appendAll_events {journal after : EventJournal} {calls : List Appended}
    (appended : journal.appendAll calls = some after) :
    after.runId = journal.runId ∧ after.worldId = journal.worldId ∧
      ∃ events, after.events = journal.events ++ events ∧
        List.Forall₂ (fun event call => event.kind = call.kind ∧ event.fields = call.copied)
          events calls := by
  induction calls generalizing journal with
  | nil =>
      cases appended
      exact ⟨rfl, rfl, [], (List.append_nil _).symm, .nil⟩
  | cons call calls ih =>
      rw [EventJournal.appendAll] at appended
      split at appended
      · cases appended
      · rename_i next first
        obtain ⟨run, world, events, made, related⟩ := ih appended
        obtain ⟨-, -, payload, -, rfl⟩ := append_spec first
        refine ⟨run, world, { journal.draft call with eventHash := hexdigest payload } :: events,
          ?_, .cons ⟨rfl, rfl⟩ related⟩
        rw [made, List.append_assoc]
        rfl

/-! ## One line -/

theorem keys_toDict (e : JournalEvent) : Json.keys e.toDict = expected := rfl

theorem nodup_toDict (e : JournalEvent) : (Json.keys e.toDict).Nodup :=
  show expected.Nodup by decide

theorem without_toDict (e : JournalEvent) : without e.toDict "event_hash" = e.unsigned := rfl

theorem withinDigits_toDict (e : JournalEvent) :
    (Json.obj e.toDict).withinDigits = (Json.obj e.unsigned).withinDigits := by
  simp [JournalEvent.toDict, JournalEvent.unsigned, Json.withinDigits, Json.withinDigitsFields]

theorem finite_toDict (e : JournalEvent) :
    (Json.obj e.toDict).finite = (Json.obj e.fields).finite := by
  simp [JournalEvent.toDict, JournalEvent.unsigned, Json.finite, Json.finiteFields]

/-- The line of an event. -/
def lineOf (e : JournalEvent) : Bytes := asciiBytes (Json.obj e.toDict).dumps

theorem lineOf_ne_nil (e : JournalEvent) : lineOf e ≠ [] := asciiBytes_dumps_ne_nil _

variable {runId worldId : Text} {p : Position} {e : JournalEvent}

/-- **Check.**  A dictionary equal to a linked event's record passes, and leaves the
loop where the event left the journal. -/
theorem checkRecord_of_link {record : List (Text × Json)} (link : Link runId worldId p e)
    (same : Json.SameRecord record e.toDict) :
    checkRecord runId worldId p record = .ok (p.after e) := by
  obtain ⟨payload, written, hash⟩ := link.hashed
  have run : field record "run_id" = .str e.runId := same.str rfl
  have world : field record "world_id" = .str e.worldId := same.str rfl
  have sequence : field record "sequence" = .int e.sequence := same.int rfl
  have time : field record "monotonic_ns" = .int e.monotonicNs := same.int rfl
  have previous : field record "previous_hash" = .str e.previousHash := same.str rfl
  have kind : field record "kind" = .str e.kind := same.str rfl
  have eventHash : field record "event_hash" = .str e.eventHash := same.str rfl
  obtain ⟨fs, fields, -⟩ : ∃ fs, field record "fields" = .obj fs ∧
      (Json.obj fs).canon = (Json.obj e.fields).canon := same.obj rfl
  have keys : Json.keys record ⊆ expected ∧ expected ⊆ Json.keys record :=
    ⟨fun k => same.keys_iff.1, fun k => same.keys_iff.2⟩
  have rest := canon_without same.nodup same.canon "event_hash"
  rw [without_toDict] at rest
  have digits : isHexDigest e.eventHash = true := by
    rw [hash]
    exact isHexDigest_hexdigest payload
  have monotone := link.monotone
  rw [checkRecord, if_neg (not_not.2 keys), run, world, sequence, time, kind, fields, eventHash,
    previous, canonical_congr rest, written, link.run, link.world, link.sequence, link.previous]
  rw [if_neg (by simp [equalsNat])]
  dsimp only
  rw [if_neg (by simp [digits, link.kind]; omega), if_neg (not_not.2 hash.symm), Position.after,
    hash]

/-- The strict parser reads the line as the record, its surrogates joined. -/
theorem loadsBytes_lineOf (link : Link runId worldId p e) :
    Json.loadsBytes (lineOf e) = Json.rejoin (Json.obj e.toDict).canon := by
  obtain ⟨payload, written, -⟩ := link.hashed
  refine Json.loadsBytes_render ?_
  rw [Json.withinDigits_canon, withinDigits_toDict]
  exact (canonical_eq_some.1 written).1

theorem pairFree_expected {k : Text} (member : k ∈ expected) : Json.PairFree k := by
  have all : ∀ k ∈ expected, Json.PairFree k := by decide
  exact all k member

/-- The texts of a record are pair free when its identities and its kind are. -/
theorem allText_toDict (link : Link runId worldId p e) :
    (Json.obj e.toDict).AllText Json.PairFree ↔
      Json.PairFree runId ∧ Json.PairFree worldId ∧ Json.PairFree e.kind := by
  obtain ⟨payload, -, hash⟩ := link.hashed
  have eventDigest : Json.PairFree e.eventHash := by
    rw [hash]
    exact pairFree_digest (isHexDigest_hexdigest payload)
  have previousDigest : Json.PairFree e.previousHash := by
    rw [link.previous]
    exact pairFree_digest link.previousDigest
  have keys : ∀ key : String, txt key ∈ expected → Json.PairFree (txt key) :=
    fun key member => pairFree_expected member
  simp only [JournalEvent.toDict, JournalEvent.unsigned, List.cons_append, List.nil_append,
    Json.AllText, Json.AllTextFields, link.run, link.world, link.free, eventDigest, previousDigest,
    keys "run_id" (by decide), keys "world_id" (by decide),
    keys "sequence" (by decide), keys "monotonic_ns" (by decide),
    keys "previous_hash" (by decide), keys "kind" (by decide),
    keys "fields" (by decide), keys "event_hash" (by decide), true_and, and_true]

/-- What makes the line of an event readable. -/
def Legible (runId worldId : Text) (e : JournalEvent) : Prop :=
  (Json.obj e.fields).finite = true ∧ Json.PairFree runId ∧ Json.PairFree worldId ∧
    Json.PairFree e.kind

theorem plain_toDict (link : Link runId worldId p e) (finite : (Json.obj e.fields).finite = true) :
    (Json.obj e.toDict).Plain := by
  rw [Json.plain_iff, finite_toDict]
  exact ⟨⟨nodup_toDict e, trivial, trivial, trivial, trivial, trivial, trivial, link.distinct,
    trivial, trivial⟩, finite⟩

/-- A legible line is read as the record's members in key order. -/
theorem loads_of_legible (link : Link runId worldId p e) (legible : Legible runId worldId e) :
    ∃ record, Json.loadsBytes (lineOf e) = .ok (.obj record) ∧ Json.SameRecord record e.toDict := by
  have plain := (Json.plain_canon _).2 (plain_toDict link legible.1)
  refine ⟨Json.sortFields (Json.canonFields e.toDict), ?_, plain.1, nodup_toDict e,
    Json.canon_canon (.obj e.toDict)⟩
  rw [loadsBytes_lineOf link]
  exact Json.rejoin_of_pairFree _ plain
    ((Json.allText_canon _ _).2 ((allText_toDict link).2 legible.2))

/-- A line that is read as its record is legible. -/
theorem legible_of_loads {value : Json} (link : Link runId worldId p e)
    (loaded : Json.loadsBytes (lineOf e) = .ok value)
    (same : value.canon = (Json.obj e.toDict).canon) : Legible runId worldId e := by
  rw [loadsBytes_lineOf link] at loaded
  have finite := Json.finite_of_rejoin _ loaded
  rw [Json.finite_canon, finite_toDict] at finite
  have free := (Json.allText_canon Json.PairFree value).2 (Json.allText_rejoin _ loaded)
  rw [same, Json.allText_canon] at free
  exact ⟨finite, (allText_toDict link).1 free⟩

/-! ## All lines -/

/-- Equal as dictionaries. -/
def Agrees (record : List (Text × Json)) (e : JournalEvent) : Prop :=
  (Json.obj record).canon = (Json.obj e.toDict).canon

/-- **Run.**  The lines of a chain are read as its records exactly when every one is
legible.  The loop's position follows the chain, since what is read agrees with it. -/
theorem loadLines_iff {es : List JournalEvent} (chain : Chain runId worldId p es) :
    (∃ records, loadLines runId worldId p (es.map lineOf) = .ok records ∧
      List.Forall₂ Agrees records es) ↔ ∀ e ∈ es, Legible runId worldId e := by
  induction es generalizing p with
  | nil => exact iff_of_true ⟨[], rfl, .nil⟩ (by simp)
  | cons e es ih =>
      obtain ⟨link, others⟩ := chain
      rw [List.forall_mem_cons, ← ih others, List.map_cons]
      constructor
      · rintro ⟨records, read, agree⟩
        rw [loadLines, if_neg (lineOf_ne_nil e)] at read
        split at read
        · cases read
        · rename_i value loaded
          split at read
          · cases read
          rename_i next checked
          split at read
          · cases read
          rename_i rest later
          cases read
          obtain ⟨first, agree⟩ := List.forall₂_cons.1 agree
          have nodup := (Json.distinct_of_loadsBytes loaded).1
          rw [checkRecord_of_link link ⟨nodup, nodup_toDict _, first⟩] at checked
          cases checked
          exact ⟨legible_of_loads link loaded first, rest, later, agree⟩
        · cases read
      · rintro ⟨legible, records, read, agree⟩
        obtain ⟨record, loaded, same⟩ := loads_of_legible link legible
        refine ⟨record :: records, ?_, .cons same.canon agree⟩
        rw [loadLines, if_neg (lineOf_ne_nil e), loaded]
        simp only [checkRecord_of_link link same, read]

theorem splitlines_lines (es : List JournalEvent) :
    splitlines (es.flatMap fun e => lineOf e ++ [10]) = es.map lineOf := by
  induction es with
  | nil => rfl
  | cons e es ih =>
      have one : OneLine (lineOf e) := oneLine_dumps _
      rw [List.flatMap_cons, List.append_assoc, List.singleton_append, splitlines_line one, ih,
        List.map_cons]

/-- A chain is exported, one line an event. -/
theorem canonicalLines_of_chain {es : List JournalEvent} (chain : Chain runId worldId p es) :
    canonicalLines es = some (es.flatMap fun e => lineOf e ++ [10]) := by
  induction es generalizing p with
  | nil => rfl
  | cons e es ih =>
      obtain ⟨payload, written, -⟩ := chain.1.hashed
      have line : canonical (.obj e.toDict) = some (lineOf e) := by
        rw [canonical_eq_some, withinDigits_toDict]
        exact ⟨(canonical_eq_some.1 written).1, rfl⟩
      simp only [canonicalLines, line, ih chain.2, List.flatMap_cons, List.append_assoc,
        List.singleton_append]

/-- Records that agree with a journal's events end with its final hash. -/
theorem lastHash_of_agrees {journal : EventJournal} {records : List (List (Text × Json))}
    (distinct : ∀ record ∈ records, (Json.keys record).Nodup)
    (agree : List.Forall₂ Agrees records journal.events) :
    lastHash records = .str journal.finalHash := by
  unfold lastHash EventJournal.finalHash
  have reversed := List.rel_reverse agree
  rw [← List.head?_reverse, ← List.head?_reverse]
  generalize journal.events.reverse = es at reversed
  cases found : records.reverse with
  | nil =>
      rw [found] at reversed
      cases reversed
      rfl
  | cons record rest =>
      rw [found] at reversed
      obtain ⟨e, later, same, -, rfl⟩ := List.forall₂_cons_left_iff.1 reversed
      have member : record ∈ records := by
        rw [← List.mem_reverse, found]
        exact List.mem_cons_self
      exact Json.SameRecord.str ⟨distinct record member, nodup_toDict e, same⟩ rfl

theorem nodup_of_loadLines {lines : List Bytes} {records : List (List (Text × Json))}
    (read : loadLines runId worldId p lines = .ok records) :
    ∀ record ∈ records, (Json.keys record).Nodup := by
  induction lines generalizing p records with
  | nil =>
      cases read
      simp
  | cons raw rest ih =>
      rw [loadLines] at read
      split at read
      · cases read
      split at read
      · cases read
      · rename_i value loaded
        split at read
        · cases read
        split at read
        · cases read
        rename_i others later
        cases read
        exact List.forall_mem_cons.2 ⟨(Json.distinct_of_loadsBytes loaded).1, ih later⟩
      · cases read

/-! ## The law -/

/-- A chained journal is read back exactly when every event is legible. -/
theorem roundTrips_iff_legible {journal : EventJournal} (chained : Chained journal)
    (fits : ∀ payload, journal.exported = some payload → payload.length ≤ EVENTS_LIMIT) :
    RoundTrips journal ↔ ∀ e ∈ journal.events, Legible journal.runId journal.worldId e := by
  have written : journal.exported = some _ := canonicalLines_of_chain chained.chain
  have small := Nat.not_lt.2 (fits _ written)
  rw [← loadLines_iff chained.chain, ← splitlines_lines]
  constructor
  · rintro ⟨payload, records, made, read, agree, -⟩
    rw [written, Option.some.injEq] at made
    rw [← made, loadEvents, if_neg small] at read
    exact ⟨records, read, agree⟩
  · rintro ⟨records, read, agree⟩
    refine ⟨_, records, written, ?_, agree, ?_⟩
    · rw [loadEvents, if_neg small]
      exact read
    · exact lastHash_of_agrees (nodup_of_loadLines read) agree

/-- The events of the calls are legible exactly when the calls are readable. -/
theorem legible_iff_readable {events : List JournalEvent} {calls : List Appended}
    (related : List.Forall₂ (fun event call => event.kind = call.kind ∧ event.fields = call.copied)
      events calls) : (∀ e ∈ events, Legible runId worldId e) ↔ Readable runId worldId calls := by
  induction related with
  | nil => exact iff_of_true (by simp) ⟨by simp, fun nonempty => absurd rfl nonempty⟩
  | @cons e call events calls first _ ih =>
      rw [List.forall_mem_cons, ih]
      unfold Legible Readable
      rw [first.1, first.2, List.forall_mem_cons]
      constructor
      · rintro ⟨⟨finite, run, world, kind⟩, others, -⟩
        exact ⟨⟨⟨finite, kind⟩, others⟩, fun _ => ⟨run, world⟩⟩
      · rintro ⟨⟨⟨finite, kind⟩, others⟩, identities⟩
        have identities := identities (List.cons_ne_nil call calls)
        exact ⟨⟨finite, identities.1, identities.2, kind⟩, others, fun _ => identities⟩

/-- **Journal round trip.**  Whatever `append` accepted from a clock that never runs
back, within the size limit, is loaded as it was appended exactly when it is readable. -/
theorem exported_roundTrips_iff {runId worldId : Text} (named : runId ≠ [] ∧ worldId ≠ [])
    {calls : List Appended} {journal : EventJournal}
    (accepted : (EventJournal.mk runId worldId named []).appendAll calls = some journal)
    (clock : Monotonic 0 calls)
    (fits : ∀ payload, journal.exported = some payload → payload.length ≤ EVENTS_LIMIT) :
    RoundTrips journal ↔ Readable runId worldId calls := by
  have chained := appendAll_chained accepted (chained_new runId worldId named) clock
    (show (-1 : Int) ≤ 0 by decide)
  obtain ⟨run, world, events, made, related⟩ := appendAll_events accepted
  rw [roundTrips_iff_legible chained fits, run, world, made, List.nil_append]
  exact legible_iff_readable related

/-! ## A voltage that is not a number -/

def namedJournal : EventJournal :=
  ⟨txt "r", txt "w", Fibsem.Journal.EventJournal.named_short, []⟩

/-- The snapshot after `VOLT NAN`. -/
def nanCalls : List Appended :=
  [⟨0, txt "cleanup.pre_snapshot",
    [(txt "snapshot", .obj [(txt "psu_voltage_v", .float (0 / 0))])]⟩]

/-- The same snapshot with the supply at five volts, and the end of the cleanup after it. -/
def fiveCalls : List Appended :=
  [⟨0, txt "cleanup.pre_snapshot",
    [(txt "snapshot", .obj [(txt "psu_voltage_v", .float 5)])]⟩,
   ⟨7, txt "cleanup.completed", [(txt "errors", .arr []), (txt "safe", .bool true)]⟩]

/-- The size of the file of some calls, and what the loader refuses it for. -/
def loaded (calls : List Appended) : Option (Nat × Option EventsError) :=
  match namedJournal.appendAll calls with
  | none => none
  | some journal =>
      match journal.exported with
      | none => none
      | some payload =>
          match loadEvents payload (txt "r") (txt "w") with
          | .ok _ => some (payload.length, none)
          | .error e => some (payload.length, some e)

theorem loaded_spec {calls : List Appended} {size : Nat} {answer : Option EventsError}
    (made : loaded calls = some (size, answer)) :
    ∃ journal payload, namedJournal.appendAll calls = some journal ∧
      journal.exported = some payload ∧ payload.length = size ∧
      ∀ e, answer = some e → loadEvents payload (txt "r") (txt "w") = .error e := by
  unfold loaded at made
  split at made
  · cases made
  rename_i journal appended
  split at made
  · cases made
  rename_i payload exported
  refine ⟨journal, payload, appended, exported, ?_⟩
  split at made
  · cases made
    exact ⟨rfl, fun e none => by cases none⟩
  · rename_i e refused
    cases made
    refine ⟨rfl, fun e' same => ?_⟩
    cases same
    exact refused

/-- **A voltage that is not a number.**  The journal accepts the snapshot and writes
`NaN`, which the loader refuses. -/
theorem nan_not_loaded : ∃ journal payload,
    namedJournal.appendAll nanCalls = some journal ∧ Monotonic 0 nanCalls ∧
      journal.exported = some payload ∧ payload.length ≤ EVENTS_LIMIT ∧
      loadEvents payload (txt "r") (txt "w") = .error (.malformed (.constant "NaN")) ∧
      ¬ RoundTrips journal := by
  have made : loaded nanCalls = some (297, some (.malformed (.constant "NaN"))) := by
    decide +kernel
  obtain ⟨journal, payload, appended, exported, size, refused⟩ := loaded_spec made
  have refused := refused _ rfl
  refine ⟨journal, payload, appended, ⟨le_rfl, trivial⟩, exported, ?_, refused, ?_⟩
  · rw [size]
    decide
  · rintro ⟨payload', records, exported', read, -⟩
    obtain ⟨run, world, -⟩ := appendAll_events appended
    rw [exported, Option.some.injEq] at exported'
    rw [← exported', run, world] at read
    cases refused.symm.trans read

/-- The snapshot at five volts and what comes after it are loaded. -/
theorem five_roundTrips : ∃ journal, namedJournal.appendAll fiveCalls = some journal ∧
    RoundTrips journal := by
  have made : loaded fiveCalls = some (582, none) := by decide +kernel
  obtain ⟨journal, payload, appended, exported, size, -⟩ := loaded_spec made
  have fits : ∀ written, journal.exported = some written → written.length ≤ EVENTS_LIMIT := by
    intro written same
    rw [exported, Option.some.injEq] at same
    rw [← same, size]
    decide
  refine ⟨journal, appended, ?_⟩
  apply (exported_roundTrips_iff namedJournal.named appended
    ⟨le_rfl, by decide, trivial⟩ fits).2
  refine ⟨?_, fun _ => by decide⟩
  intro call member
  rcases List.mem_pair.1 member with rfl | rfl
  · decide
  · decide

end InstrumentBench.Visa.Journal
