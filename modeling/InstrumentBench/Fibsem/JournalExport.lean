/-
# Fibsem.JournalExport -- exactly when an accepted journal survives export and load

`append` bounds an event without its hash, `export` bounds the record with it,
and the evaluator's reader bounds the file and joins adjacent surrogate escapes.
`roundTrips_iff` says which accepted journals come back unchanged.
-/
import InstrumentBench.Fibsem.JournalRoundTrip

namespace InstrumentBench.Fibsem.Journal

set_option autoImplicit false

open InstrumentBench.Theory

/-! ## What validation and loading read off a record -/

/-- The first record of a validated journal carries its run and world. -/
theorem validateFrom_identity {runId worldId : Text} {c c' : Checked} {source : Json}
    {rest : List Json} (validated : validateFrom runId worldId c (source :: rest) = .ok c')
    {P : Text → Prop} (all : source.AllText P) : P runId ∧ P worldId := by
  rw [validateFrom] at validated
  split at validated
  · cases validated
  · rename_i next checked
    unfold validateRecord at checked
    split at checked
    · cases checked
    · rename_i record isPlain
      obtain rfl := plain_toPy_eq _ _ isPlain
      obtain ⟨run, world⟩ := checkRecord_identity checked
      have runText := allText_field all "run_id"
      have worldText := allText_field all "world_id"
      rw [run] at runText
      rw [world] at worldText
      exact ⟨runText, worldText⟩
    · cases checked

theorem mem_of_mapM {α β : Type} {f : α → Option β} {xs : List α} {ys : List β}
    (made : xs.mapM f = some ys) : ∀ y ∈ ys, ∃ x ∈ xs, f x = some y := by
  induction xs generalizing ys with
  | nil =>
      cases made
      simp
  | cons x xs ih =>
      rw [List.mapM_cons, Option.bind_eq_bind, Option.bind_eq_some_iff] at made
      obtain ⟨z, first, made⟩ := made
      rw [Option.bind_eq_bind, Option.bind_eq_some_iff] at made
      obtain ⟨zs, others, made⟩ := made
      cases made
      intro y member
      rcases List.mem_cons.1 member with rfl | later
      · exact ⟨x, by simp, first⟩
      · obtain ⟨x', inside, value⟩ := ih others y later
        exact ⟨x', List.mem_cons_of_mem _ inside, value⟩

/-- The texts of an event survive reordering its members. -/
theorem allTextFields_canonical {P : Text → Prop} {e e' : JournalEvent}
    (same : e'.canonical = e.canonical) (all : P e'.kind ∧ Json.AllTextFields P e'.fields) :
    P e.kind ∧ Json.AllTextFields P e.fields := by
  simp only [JournalEvent.canonical, JournalEvent.mk.injEq] at same
  obtain ⟨-, -, -, -, kind, fields, -⟩ := same
  refine ⟨kind ▸ all.1, ?_⟩
  have sorted := (Json.allTextFields_perm P (Json.sortFields_perm (Json.canonFields e.fields))).1
    (fields ▸ (Json.allTextFields_perm P (Json.sortFields_perm (Json.canonFields e'.fields))).2
      ((Json.allTextFields_canon P e'.fields).2 all.2))
  exact (Json.allTextFields_canon P e.fields).1 sorted

/-- A journal that loads back from records without adjacent pairs had none. -/
theorem texts_of_loadsTo {journal : EventJournal} {records : List Json} {P : Text → Prop}
    (loads : LoadsTo journal records) (all : ∀ record ∈ records, record.AllText P)
    (nonempty : journal.events ≠ []) :
    (P journal.runId ∧ P journal.worldId) ∧
      ∀ e ∈ journal.events, P e.kind ∧ Json.AllTextFields P e.fields := by
  obtain ⟨loaded, made, canons, -⟩ := loads
  unfold fromRecords at made
  split at made
  · cases made
  · rename_i head validated
    split at made
    · cases made
    · rename_i fresh named
      split at made
      · rename_i events mapped
        cases made
        have texts : ∀ e ∈ journal.events, P e.kind ∧ Json.AllTextFields P e.fields := by
          intro e member
          have inside : e.canonical ∈ events.map JournalEvent.canonical := by
            rw [canons]
            exact List.mem_map_of_mem member
          obtain ⟨e', later, same⟩ := List.mem_map.1 inside
          obtain ⟨record, source, built⟩ := mem_of_mapM mapped e' later
          exact allTextFields_canonical same (eventOf_texts built (all record source))
        refine ⟨?_, texts⟩
        cases records with
        | nil =>
            cases mapped
            exact absurd (List.map_eq_nil_iff.1 canons.symm) nonempty
        | cons source rest =>
            unfold validateRecords at validated
            split at validated
            · cases validated
            · rename_i c walked
              exact validateFrom_identity walked (all source (by simp))
      · cases made

/-! ## Exporting -/

/-- The file's length, from the sizes of the appended events. -/
theorem length_file {runId worldId : Text} {c : Checked} {es : List JournalEvent}
    (chain : Chain runId worldId c es) :
    (es.flatMap fun e => lineOf e ++ [10]).length =
      (es.map fun e => canonicalSize (.obj e.base) + 81).sum := by
  rw [length_lines]
  congr 1
  refine List.map_congr_left fun e member => ?_
  obtain ⟨c, link⟩ := link_of_mem chain member
  obtain ⟨payload, -, hash⟩ := link.hashed
  have digest : isHexDigest e.eventHash = true := by
    rw [hash]
    exact isHexDigest_hexdigest payload
  rw [canonicalSize_toDict digest]

/-- The summary of a chained journal encodes whenever its last event did. -/
theorem encode_summary {journal : EventJournal} (chained : journal.Chained)
    (nonempty : journal.events ≠ []) :
    ∃ payload, canonicalBytes journal.summary.toPy = .ok payload := by
  obtain ⟨es, e, events⟩ := (List.eq_nil_or_concat journal.events).resolve_left nonempty
  rw [List.concat_eq_append] at events
  have link : Link journal.runId journal.worldId (es.foldl Checked.after Checked.start) e := by
    have chain := chained
    rw [EventJournal.Chained, events] at chain
    exact (chain_append.1 chain).2
  obtain ⟨payload, encoded, hash⟩ := link.hashed
  obtain ⟨digits, small, -⟩ := encode_ok_iff.1 encoded
  have sequence : e.sequence = journal.events.length := by
    rw [link.sequence, foldl_counts Checked.expectedSequence fun _ _ => rfl, events,
      List.length_append]
    exact Nat.add_comm 1 _
  have head : journal.headHash = e.eventHash := by simp [EventJournal.headHash, events]
  have size := canonicalSize_summary link.run link.world sequence
    (by rw [head, hash]; exact isHexDigest_hexdigest payload)
    (by rw [link.previous]; exact link.previousDigest)
  have plain : journal.summary.Plain := ⟨by
    show [txt "schema_version", txt "run_id", txt "world_id", txt "event_count",
      txt "head_hash"].Nodup
    decide, trivial, trivial, trivial, trivial, trivial, trivial⟩
  refine ⟨asciiBytes journal.summary.dumps, ?_⟩
  rw [canonicalBytes_toPy plain, encode_ok_iff]
  refine ⟨?_, ?_, rfl⟩
  · simp only [JournalEvent.base, Json.withinDigits, Json.withinDigitsFields, Bool.true_and,
      Bool.and_true, Bool.and_eq_true] at digits
    simp only [EventJournal.summary, Json.withinDigits, Json.withinDigitsFields, Bool.true_and,
      Bool.and_true, Bool.and_eq_true, ← sequence]
    exact ⟨digits.1, digits.2.1⟩
  · rw [← canonicalSize_eq] at small ⊢
    omega

/-- `export` of a chained journal succeeds exactly when every record fits. -/
theorem export_ok_iff {journal : EventJournal} (chained : journal.Chained)
    (nonempty : journal.events ≠ []) :
    (∃ lines summary, journal.export = .ok (lines, summary)) ↔
      ∀ e ∈ journal.events, canonicalSize (.obj e.base) + 80 ≤ MAX_CANONICAL_BYTES := by
  have lines : ∀ bytes, jsonLines journal.events = .ok bytes ↔ _ ∧ bytes = _ :=
    fun bytes => jsonLines_ok_iff chained
  constructor
  · rintro ⟨bytes, summary, exported⟩
    rw [EventJournal.export, validateRecords_chained chained] at exported
    dsimp only at exported
    split at exported
    · cases exported
    · rename_i made
      exact ((lines _).1 made).1
  · intro fits
    obtain ⟨summary, encoded⟩ := encode_summary chained nonempty
    refine ⟨journal.events.flatMap fun e => lineOf e ++ [10], summary ++ [10], ?_⟩
    rw [EventJournal.export, validateRecords_chained chained]
    simp only [(lines _).2 ⟨fits, rfl⟩, encoded]

/-- What a successful `export` writes. -/
theorem export_lines {journal : EventJournal} (chained : journal.Chained) {lines summary : Bytes}
    (exported : journal.export = .ok (lines, summary)) :
    (∀ e ∈ journal.events, canonicalSize (.obj e.base) + 80 ≤ MAX_CANONICAL_BYTES) ∧
      lines = journal.events.flatMap fun e => lineOf e ++ [10] := by
  rw [EventJournal.export, validateRecords_chained chained] at exported
  dsimp only at exported
  split at exported
  · cases exported
  · rename_i made
    split at exported
    · cases exported
    · cases exported
      exact (jsonLines_ok_iff chained).1 made

/-! ## Reading the file -/

/-- What the evaluator's reader accepts of an exported file. -/
theorem journalRecords_lines {journal : EventJournal} (chained : journal.Chained)
    {records : List Json} :
    journalRecords (journal.events.flatMap fun e => lineOf e ++ [10]) = .ok records ↔
      journal.events ≠ [] ∧
      (journal.events.map fun e => canonicalSize (.obj e.base) + 81).sum ≤ MAX_JOURNAL_BYTES ∧
      readLines (journal.events.map lineOf) = .ok records := by
  have size := length_file chained
  rw [journalRecords, size, splitlines_lines]
  cases events : journal.events with
  | nil => simp
  | cons e es =>
      have positive : ((e :: es).map fun e => canonicalSize (.obj e.base) + 81).sum ≠ 0 := by
        simp
      by_cases large : MAX_JOURNAL_BYTES <
          ((e :: es).map fun e => canonicalSize (.obj e.base) + 81).sum
      · rw [if_pos (Or.inr large)]
        constructor
        · intro h
          cases h
        · rintro ⟨-, small, -⟩
          omega
      · rw [if_neg (by rw [not_or]; exact ⟨positive, large⟩)]
        have read : readLines ((e :: es).map lineOf) ≠ .ok [] := by
          rw [List.map_cons, readLines, if_neg (lineOf_ne_nil e)]
          split
          · simp
          · split <;> simp
          · simp
        cases made : readLines ((e :: es).map lineOf) with
        | error err => simp
        | ok loaded =>
            cases loaded with
            | nil => exact absurd made read
            | cons record rest =>
                simp only [ne_eq, reduceCtorEq, not_false_eq_true, true_and]
                exact ⟨fun same => ⟨by omega, same⟩, fun all => all.2⟩

/-! ## The round trip -/

/-- **Exactly which accepted journals survive export and load.** -/
theorem roundTrips_iff {journal : EventJournal} (chained : journal.Chained) :
    RoundTrips journal ↔ Exportable journal := by
  constructor
  · rintro ⟨lines, summary, exported, -, -, records, read, loads⟩
    obtain ⟨fits, rfl⟩ := export_lines chained exported
    obtain ⟨nonempty, file, read⟩ := (journalRecords_lines chained).1 read
    obtain ⟨identity, text⟩ := texts_of_loadsTo loads (readLines_ok chained read) nonempty
    exact ⟨nonempty, fits, file, identity, text⟩
  · rintro ⟨nonempty, fits, file, identity, text⟩
    obtain ⟨lines, summary, exported⟩ := (export_ok_iff chained nonempty).2 fits
    obtain ⟨-, rfl⟩ := export_lines chained exported
    have free : ∀ e ∈ journal.events, (Json.obj e.toDict).AllText Json.PairFree := by
      intro e member
      obtain ⟨c, link⟩ := link_of_mem chained member
      exact (allText_toDict link).2 ⟨identity.1, identity.2, text e member⟩
    have sorted : List.Forall₂ Same (journal.events.map sortedDict) journal.events := by
      rw [List.forall₂_map_left_iff, List.forall₂_same]
      intro e member
      obtain ⟨c, link⟩ := link_of_mem chained member
      exact same_sortedDict link.plain
    have direct := loadsTo_of_same chained (same_records chained)
    rw [List.map_map] at direct
    refine ⟨_, summary, exported, validateRecords_chained chained, direct, _,
      (journalRecords_lines chained).2 ⟨nonempty, file, readLines_pairFree chained free⟩, ?_⟩
    exact loadsTo_of_same chained sorted

/-- **A journal of accepted events survives export and load exactly when it is
exportable.** -/
theorem appended_roundTrips_iff {runId worldId : Text} {start journal : EventJournal}
    {calls : List Appended} (created : EventJournal.new runId worldId = .ok start)
    (clock : Monotonic 0 calls) (accepted : appendAll start calls = .ok journal) :
    RoundTrips journal ↔ Exportable journal := by
  unfold EventJournal.new at created
  split at created
  · rename_i named
    cases created
    have chained : (⟨runId, worldId, named, []⟩ : EventJournal).Chained := trivial
    exact roundTrips_iff (appendAll_chain chained clock accepted).1
  · cases created

/-! ## Near the limit -/

/-- One event whose only field is a text of `n` letters. -/
def padded (n : Nat) : List Appended :=
  [⟨1, txt "k", [(txt "x", .str (List.replicate n (CodePoint.ofChar 'a')))]⟩]

/-- The event that call makes in the run `r` of the world `w`, before its hash. -/
def paddedDraft (n : Nat) : JournalEvent :=
  { sequence := 1
    runId := txt "r"
    worldId := txt "w"
    recordedNs := 1
    kind := txt "k"
    fields := [(txt "x", .str (List.replicate n (CodePoint.ofChar 'a')))]
    previousHash := GENESIS_HASH
    eventHash := [] }

def emptyJournal : EventJournal := ⟨txt "r", txt "w", EventJournal.named_short, []⟩

def paddedJournal (n : Nat) : EventJournal :=
  { emptyJournal with
    events := [{ paddedDraft n with
      eventHash := hexdigest (asciiBytes (Json.obj (paddedDraft n).base).dumps) }] }

theorem padded_clock (n : Nat) : Monotonic 0 (padded n) :=
  ⟨show (0 : Int) < 1 by decide, show (0 : Int) ≤ 1 by decide, trivial⟩

theorem canonicalSize_padded (n : Nat) : canonicalSize (.obj (paddedDraft n).base) = 189 + n := by
  have empty : (Json.obj (paddedDraft 0).base).render.length = 189 := by decide +kernel
  have fields : Json.memberLength (txt "fields", .obj (paddedDraft n).fields) =
      Json.memberLength (txt "fields", .obj (paddedDraft 0).fields) + n := by
    have letters := length_renderText_padding n
    have none := length_renderText_padding 0
    simp only [paddedDraft, Json.memberLength, Json.render, Json.renderFields, List.length_append,
      List.length_cons, letters, none]
    ring
  rw [canonicalSize_eq, ← empty, JournalEvent.base, JournalEvent.base,
    Json.length_render_obj (by simp), Json.length_render_obj (by simp)]
  simp only [List.map_cons, List.map_nil, List.sum_cons, List.sum_nil, fields]
  simp only [paddedDraft]
  ring

theorem padded_accepted (n : Nat) (fits : 189 + n ≤ MAX_CANONICAL_BYTES) :
    appendAll emptyJournal (padded n) = .ok (paddedJournal n) := by
  have plain : (Json.obj (paddedDraft n).base).Plain :=
    plain_base ⟨List.nodup_singleton _, trivial, trivial⟩
  have encoded : encode (.obj (paddedDraft n).base) =
      .ok (asciiBytes (Json.obj (paddedDraft n).base).dumps) := by
    refine encode_ok_iff.2 ⟨rfl, ?_, rfl⟩
    rw [← canonicalSize_eq, canonicalSize_padded]
    exact fits
  have digest : canonicalDigest (Json.obj (paddedDraft n).base).toPy =
      .ok (hexdigest (asciiBytes (Json.obj (paddedDraft n).base).dumps)) := by
    rw [canonicalDigest, canonicalBytes_toPy plain, encoded]
  have drafted : emptyJournal.append 1 (txt "k")
      [(txt "x", .str (List.replicate n (CodePoint.ofChar 'a')))] =
      .ok ({ paddedDraft n with
        eventHash := hexdigest (asciiBytes (Json.obj (paddedDraft n).base).dumps) },
          paddedJournal n) := by
    have fields : plainEntries rootPath []
        [(.str (txt "x"), .str (List.replicate n (CodePoint.ofChar 'a')))] =
          .ok (paddedDraft n).fields := rfl
    have draft : emptyJournal.draft 1 (txt "k") (paddedDraft n).fields = paddedDraft n := rfl
    unfold EventJournal.append
    rw [if_neg (by decide)]
    simp only [List.map_cons, List.map_nil, fields, draft, digest]
    rfl
  rw [padded, appendAll, drafted]
  rfl

/-- An accepted event exactly at the limit is not exported. -/
theorem accepted_not_exported : ∃ journal,
    EventJournal.new (txt "r") (txt "w") = .ok emptyJournal ∧ Monotonic 0 (padded 1048387) ∧
      appendAll emptyJournal (padded 1048387) = .ok journal ∧ ¬ RoundTrips journal := by
  have accepted := padded_accepted 1048387 (by decide)
  refine ⟨_, rfl, padded_clock _, accepted, fun trip => ?_⟩
  have start : emptyJournal.Chained := trivial
  obtain ⟨chained, -, -⟩ := appendAll_chain start (padded_clock _) accepted
  have fits := ((roundTrips_iff chained).1 trip).record _ (List.mem_singleton.2 rfl)
  have size := canonicalSize_padded 1048387
  rw [JournalEvent.base] at fits size
  simp only [size, MAX_CANONICAL_BYTES] at fits
  omega

/-- A short event survives. -/
theorem short_event_roundTrips : ∃ journal,
    appendAll emptyJournal (padded 3) = .ok journal ∧ RoundTrips journal := by
  have accepted := padded_accepted 3 (by decide)
  have created : EventJournal.new (txt "r") (txt "w") = .ok emptyJournal := rfl
  refine ⟨_, accepted, (appended_roundTrips_iff created (padded_clock 3) accepted).2 ?_⟩
  have size := canonicalSize_padded 3
  rw [JournalEvent.base] at size
  exact
    { nonempty := List.cons_ne_nil _ _
      record := by
        intro e member
        cases List.mem_singleton.1 member
        simp only [JournalEvent.base, size]
        decide
      file := by
        simp only [paddedJournal, List.map_cons, List.map_nil, List.sum_singleton,
          JournalEvent.base, size]
        decide
      identity := by decide
      text := by
        intro e member
        cases List.mem_singleton.1 member
        exact ⟨by decide, by decide, (by decide : Json.PairFree _), trivial⟩ }

end InstrumentBench.Fibsem.Journal
