/-
# Fibsem.JournalRoundTrip -- what an accepted journal is after export and load

An accepted journal satisfies a chain invariant (`Chain`), kept by `append`
(`append_chain`) and so by every run of it (`appendAll_chain`).  Validation,
export and loading are followed for records that agree with an event up to the
order of their members, since loading returns members in key order.
-/
import InstrumentBench.Fibsem.Journal
import InstrumentBench.Theory.JsonRecord
import InstrumentBench.Theory.Run

namespace InstrumentBench.Fibsem.Journal

set_option autoImplicit false

open InstrumentBench.Theory

/-! ## `_plain` -/

mutual

/-- Plain data passes `_plain` unchanged. -/
theorem plain_toPy : ∀ (v : Json) (path : Text), v.Plain → plain path v.toPy = .ok v
  | .null, _, _ | .bool _, _, _ | .int _, _, _ | .str _, _, _ => rfl
  | .float x, path, finite => by
      have isFinite : x.isFinite = true := finite
      rw [Json.toPy, plain, if_pos isFinite]
  | .arr items, path, plainItems => by
      rw [Json.toPy, plain, plainItems_toPy items path plainItems]
  | .obj fields, path, ⟨distinct, plainFields⟩ => by
      rw [Json.toPy, plain, plainEntries_toPy fields path [] distinct (by simp) plainFields]

theorem plainItems_toPy : ∀ (vs : List Json) (path : Text), Json.PlainItems vs →
    plainItems path (Json.toPyItems vs) = .ok vs
  | [], _, _ => rfl
  | v :: vs, path, ⟨first, others⟩ => by
      rw [Json.toPyItems, plainItems, plain_toPy v _ first]
      simp only [plainItems_toPy vs path others]

theorem plainEntries_toPy : ∀ (fs : List (Text × Json)) (path : Text) (seen : List Text),
    (Json.keys fs).Nodup → (∀ k ∈ Json.keys fs, k ∉ seen) → Json.PlainFields fs →
    plainEntries path seen (Json.toPyFields fs) = .ok fs
  | [], _, _, _, _, _ => rfl
  | (k, v) :: fs, path, seen, distinct, fresh, ⟨first, others⟩ => by
      obtain ⟨notLater, distinct⟩ := List.nodup_cons.1 distinct
      have rest := plainEntries_toPy fs path (k :: seen) distinct (by
        intro l hl
        rw [List.mem_cons, not_or]
        refine ⟨fun same => notLater (same ▸ hl), fresh l ?_⟩
        exact List.mem_cons_of_mem _ hl) others
      rw [Json.toPyFields, plainEntries, if_neg (fresh k (by simp [Json.keys])),
        plain_toPy v _ first]
      simp only [rest]

end

mutual

/-- What `_plain` returns is plain data. -/
theorem plain_ok : ∀ (p : PyValue) (path : Text) {v : Json}, plain path p = .ok v → v.Plain
  | .none, _, _, h | .str _, _, _, h | .bool _, _, _, h | .int _, _, _, h => by
      cases h
      trivial
  | .float x, _, _, h => by
      rw [plain] at h
      split at h
      · cases h
        assumption
      · cases h
  | .mapping entries, path, _, h => by
      rw [plain] at h
      split at h
      · cases h
      · rename_i fields made
        cases h
        obtain ⟨distinct, -, plainFields⟩ := plainEntries_ok entries path [] made
        exact ⟨distinct, plainFields⟩
  | .seq items, path, _, h => by
      rw [plain] at h
      split at h
      · cases h
      · rename_i values made
        cases h
        exact plainItems_ok items path made
  | .bytes _, _, _, h | .other _, _, _, h => by cases h

theorem plainItems_ok : ∀ (ps : List PyValue) (path : Text) {vs : List Json},
    plainItems path ps = .ok vs → Json.PlainItems vs
  | [], _, _, h => by
      cases h
      trivial
  | p :: ps, path, _, h => by
      rw [plainItems] at h
      split at h
      · cases h
      · rename_i value first
        split at h
        · cases h
        · rename_i values others
          cases h
          exact ⟨plain_ok p _ first, plainItems_ok ps path others⟩

theorem plainEntries_ok : ∀ (ps : List (PyKey × PyValue)) (path : Text) (seen : List Text)
    {fs : List (Text × Json)}, plainEntries path seen ps = .ok fs →
    (Json.keys fs).Nodup ∧ (∀ k ∈ Json.keys fs, k ∉ seen) ∧ Json.PlainFields fs
  | [], _, _, _, h => by
      cases h
      exact ⟨List.nodup_nil, by simp [Json.keys], trivial⟩
  | (.other, _) :: _, _, _, _, h => by cases h
  | (.str key, item) :: rest, path, seen, _, h => by
      rw [plainEntries] at h
      split at h
      · cases h
      · rename_i fresh
        split at h
        · cases h
        · rename_i value first
          split at h
          · cases h
          · rename_i fields others
            cases h
            obtain ⟨distinct, outside, plainFields⟩ := plainEntries_ok rest path _ others
            refine ⟨List.nodup_cons.2 ⟨fun later => ?_, distinct⟩, fun k hk => ?_,
              plain_ok item _ first, plainFields⟩
            · exact outside key later (by simp)
            · rcases List.mem_cons.1 hk with rfl | later
              · exact fresh
              · exact fun inside => outside k later (List.mem_cons_of_mem _ inside)

end

mutual

/-- `_plain` changes nothing it accepts. -/
theorem plain_toPy_eq : ∀ (v : Json) (path : Text) {w : Json}, plain path v.toPy = .ok w → w = v
  | .null, _, _, h | .bool _, _, _, h | .int _, _, _, h | .str _, _, _, h => by
      cases h
      rfl
  | .float x, path, _, h => by
      rw [Json.toPy, plain] at h
      split at h
      · cases h
        rfl
      · cases h
  | .arr items, path, _, h => by
      rw [Json.toPy, plain] at h
      split at h
      · cases h
      · rename_i values made
        cases h
        rw [plainItems_toPy_eq items path made]
  | .obj fields, path, _, h => by
      rw [Json.toPy, plain] at h
      split at h
      · cases h
      · rename_i entries made
        cases h
        rw [plainEntries_toPy_eq fields path [] made]

theorem plainItems_toPy_eq : ∀ (vs : List Json) (path : Text) {ws : List Json},
    plainItems path (Json.toPyItems vs) = .ok ws → ws = vs
  | [], _, _, h => by
      cases h
      rfl
  | v :: vs, path, _, h => by
      rw [Json.toPyItems, plainItems] at h
      split at h
      · cases h
      · rename_i value first
        split at h
        · cases h
        · rename_i values others
          cases h
          rw [plain_toPy_eq v _ first, plainItems_toPy_eq vs path others]

theorem plainEntries_toPy_eq : ∀ (fs : List (Text × Json)) (path : Text) (seen : List Text)
    {gs : List (Text × Json)}, plainEntries path seen (Json.toPyFields fs) = .ok gs → gs = fs
  | [], _, _, _, h => by
      cases h
      rfl
  | (k, v) :: fs, path, seen, _, h => by
      rw [Json.toPyFields, plainEntries] at h
      split at h
      · cases h
      · split at h
        · cases h
        · rename_i value first
          split at h
          · cases h
          · rename_i fields others
            cases h
            rw [plain_toPy_eq v _ first, plainEntries_toPy_eq fs path _ others]

end

/-- The members of what is written, one by one. -/
theorem plainEntries_cons {path key : Text} {seen : List Text} {item : PyValue}
    {rest : List (PyKey × PyValue)} {fs : List (Text × Json)}
    (made : plainEntries path seen ((.str key, item) :: rest) = .ok fs) :
    ∃ value fields, fs = (key, value) :: fields ∧ plain (path ++ txt "." ++ key) item = .ok value ∧
      plainEntries path (key :: seen) rest = .ok fields := by
  rw [plainEntries] at made
  split at made
  · cases made
  · split at made
    · cases made
    · rename_i value first
      split at made
      · cases made
      · rename_i fields others
        cases made
        exact ⟨value, fields, rfl, first, others⟩

/-! ## Canonical bytes -/

theorem canonicalBytes_toPy {v : Json} (plain : v.Plain) : canonicalBytes v.toPy = encode v := by
  rw [canonicalBytes, plain_toPy v _ plain]

/-- The encoding sees only the canonical form. -/
theorem encode_congr {v w : Json} (same : v.canon = w.canon) : encode v = encode w := by
  have digits : v.withinDigits = w.withinDigits := by
    rw [← Json.withinDigits_canon v, ← Json.withinDigits_canon w, same]
  rw [encode, encode, digits, Json.dumps, Json.dumps, same]

theorem length_asciiBytes_dumps (v : Json) : (asciiBytes v.dumps).length = v.render.length := by
  simp [asciiBytes, Json.dumps, Json.length_render_canon]

/-- When `canonical_bytes` succeeds on plain data, and with what. -/
theorem encode_ok_iff {v : Json} {payload : Bytes} :
    encode v = .ok payload ↔ v.withinDigits = true ∧ v.render.length ≤ MAX_CANONICAL_BYTES ∧
      payload = asciiBytes v.dumps := by
  unfold encode
  split
  · rename_i digits
    dsimp only
    rw [length_asciiBytes_dumps]
    split
    · rename_i large
      constructor
      · intro h
        cases h
      · rintro ⟨-, small, -⟩
        omega
    · rename_i small
      rw [Except.ok.injEq, eq_comm (a := asciiBytes v.dumps)]
      exact ⟨fun same => ⟨digits, by omega, same⟩, fun all => all.2.2⟩
  · rename_i digits
    constructor
    · intro h
      cases h
    · rintro ⟨within, -⟩
      exact absurd within digits

/-! ## Members in another order -/

/-- A member of the sorted record is the member of the record, canonicalised. -/
theorem canon_field {fs : List (Text × Json)} (distinct : (Json.keys fs).Nodup) (key : String) :
    (field fs key).canon = field (Json.sortFields (Json.canonFields fs)) key :=
  Json.canon_lookup distinct (txt key)

theorem canonFields_without (fs : List (Text × Json)) (key : String) :
    Json.canonFields (without fs key) = without (Json.canonFields fs) key := by
  simp only [Json.canonFields_eq_map, without, List.filter_map]
  rfl

theorem keys_without_sublist (fs : List (Text × Json)) (key : String) :
    (Json.keys (without fs key)).Sublist (Json.keys fs) :=
  List.filter_sublist.map _

/-- Dropping a member respects the canonical form. -/
theorem canon_without {fs gs : List (Text × Json)} (distinct : (Json.keys fs).Nodup)
    (same : (Json.obj fs).canon = (Json.obj gs).canon) (key : String) :
    (Json.obj (without fs key)).canon = (Json.obj (without gs key)).canon := by
  simp only [Json.canon, Json.obj.injEq] at same ⊢
  have perm : (Json.canonFields fs).Perm (Json.canonFields gs) :=
    ((Json.sortFields_perm _).symm.trans (List.Perm.of_eq same)).trans (Json.sortFields_perm _)
  rw [canonFields_without, canonFields_without]
  refine Json.sortFields_eq_of_perm (perm.filter _) ?_
  have sub := keys_without_sublist (Json.canonFields fs) key
  rw [Json.keys_canonFields] at sub
  exact distinct.sublist sub

/-! ## The chain -/

/-- What `append` guarantees of an event that follows the events checked as `c`. -/
structure Link (runId worldId : Text) (c : Checked) (e : JournalEvent) : Prop where
  sequence : e.sequence = c.expectedSequence
  run : e.runId = runId
  world : e.worldId = worldId
  positive : 0 < e.recordedNs
  monotone : c.previousTimestamp ≤ e.recordedNs
  kind : e.kind ≠ []
  plain : (Json.obj e.fields).Plain
  previous : e.previousHash = c.previous
  previousDigest : isHexDigest c.previous = true
  hashed : ∃ payload, encode (.obj e.base) = .ok payload ∧ e.eventHash = hexdigest payload

/-- What the check carries past an event. -/
def Checked.after (c : Checked) (e : JournalEvent) : Checked :=
  ⟨c.expectedSequence + 1, e.eventHash, e.recordedNs⟩

/-- The invariant of an accepted journal: every event links to what is before it. -/
def Chain (runId worldId : Text) : Checked → List JournalEvent → Prop
  | _, [] => True
  | c, e :: es => Link runId worldId c e ∧ Chain runId worldId (c.after e) es

theorem chain_append {runId worldId : Text} {c : Checked} {es : List JournalEvent}
    {e : JournalEvent} : Chain runId worldId c (es ++ [e]) ↔
      Chain runId worldId c es ∧ Link runId worldId (es.foldl Checked.after c) e := by
  induction es generalizing c with
  | nil => simp [Chain]
  | cons first es ih => simp [Chain, ih, and_assoc]

theorem keys_base_nodup (e : JournalEvent) : (Json.keys e.base).Nodup :=
  show [txt "schema_version", txt "sequence", txt "run_id", txt "world_id", txt "recorded_ns",
    txt "kind", txt "fields", txt "previous_hash"].Nodup by decide

theorem keys_toDict (e : JournalEvent) : Json.keys e.toDict = required := rfl

theorem keys_toDict_nodup (e : JournalEvent) : (Json.keys e.toDict).Nodup :=
  show required.Nodup by decide

theorem without_toDict (e : JournalEvent) : without e.toDict "event_hash" = e.base := rfl

theorem plain_base {e : JournalEvent} (plain : (Json.obj e.fields).Plain) :
    (Json.obj e.base).Plain :=
  ⟨keys_base_nodup e, trivial, trivial, trivial, trivial, trivial, trivial, plain, trivial,
    trivial⟩

theorem plain_toDict {e : JournalEvent} (plain : (Json.obj e.fields).Plain) :
    (Json.obj e.toDict).Plain :=
  ⟨keys_toDict_nodup e, trivial, trivial, trivial, trivial, trivial, trivial, plain, trivial,
    trivial, trivial⟩

theorem plain_without {record : List (Text × Json)} (plain : (Json.obj record).Plain)
    (key : String) : (Json.obj (without record key)).Plain := by
  refine ⟨plain.1.sublist (keys_without_sublist record key), ?_⟩
  rw [Json.plainFields_iff]
  intro kv member
  exact (Json.plainFields_iff record).1 plain.2 kv (List.mem_filter.1 member).1

/-- A record that is the event's up to the order of members. -/
structure Same (record : List (Text × Json)) (e : JournalEvent) : Prop where
  plain : (Json.obj record).Plain
  canon : (Json.obj record).canon = (Json.obj e.toDict).canon

namespace Same

variable {record : List (Text × Json)} {e : JournalEvent}

theorem refl (plain : (Json.obj e.fields).Plain) : Same e.toDict e := ⟨plain_toDict plain, rfl⟩

theorem members (same : Same record e) : Json.SameRecord record e.toDict :=
  ⟨same.plain.1, keys_toDict_nodup e, same.canon⟩

end Same

/-- **Step.**  A linked event's record passes its check, members in any order. -/
theorem checkRecord_of_link {runId worldId : Text} {c : Checked} {e : JournalEvent}
    {record : List (Text × Json)} (link : Link runId worldId c e) (same : Same record e) :
    checkRecord runId worldId c record = .ok (c.after e) := by
  obtain ⟨payload, encoded, hash⟩ := link.hashed
  have equal := same.members
  have run : field record "run_id" = .str e.runId := equal.str rfl
  have world : field record "world_id" = .str e.worldId := equal.str rfl
  have version : field record "schema_version" = .int 1 := equal.int rfl
  have sequence : field record "sequence" = .int e.sequence := equal.int rfl
  have time : field record "recorded_ns" = .int e.recordedNs := equal.int rfl
  have kind : field record "kind" = .str e.kind := equal.str rfl
  have previous : field record "previous_hash" = .str e.previousHash := equal.str rfl
  have eventHash : field record "event_hash" = .str e.eventHash := equal.str rfl
  obtain ⟨fs, fields, -⟩ : ∃ fs, field record "fields" = .obj fs ∧
      (Json.obj fs).canon = (Json.obj e.fields).canon := equal.obj rfl
  have keys : Json.keys record ⊆ required ∧ required ⊆ Json.keys record :=
    ⟨fun k => equal.keys_iff.1, fun k => equal.keys_iff.2⟩
  have digest : canonicalDigest (Json.obj (without record "event_hash")).toPy =
      .ok e.eventHash := by
    have rest := canon_without same.plain.1 same.canon "event_hash"
    rw [without_toDict] at rest
    rw [canonicalDigest, canonicalBytes_toPy (plain_without same.plain _), encode_congr rest,
      encoded, hash]
  have digits : isHexDigest e.eventHash = true := by
    rw [hash]
    exact isHexDigest_hexdigest payload
  have positive := link.positive
  have monotone := link.monotone
  rw [checkRecord, if_neg (not_not.2 keys), run, world, version, sequence, time, kind, fields,
    previous, eventHash, digest, link.run, link.world, link.sequence, link.previous]
  rw [if_neg (by simp), if_neg (by simp [equalsOne]), if_neg (by simp)]
  dsimp only
  rw [if_neg (by omega), if_neg link.kind, if_neg (by simp [isDigest, link.previousDigest, digits]),
    if_neg (by simp), if_neg (by simp)]
  rfl

theorem validateRecord_of_link {runId worldId : Text} {c : Checked} {e : JournalEvent}
    {record : List (Text × Json)} (link : Link runId worldId c e) (same : Same record e) :
    validateRecord runId worldId c (.obj record) = .ok (c.after e) := by
  rw [validateRecord, plain_toPy _ _ same.plain]
  exact checkRecord_of_link link same

/-- **Run.**  The records of a chain validate, members in any order. -/
theorem validateFrom_of_chain {runId worldId : Text} {c : Checked} {es : List JournalEvent}
    {records : List (List (Text × Json))} (chain : Chain runId worldId c es)
    (same : List.Forall₂ Same records es) :
    validateFrom runId worldId c (records.map .obj) = .ok (es.foldl Checked.after c) := by
  induction same generalizing c with
  | nil => rfl
  | cons first _ ih =>
      rw [List.map_cons, validateFrom, validateRecord_of_link chain.1 first]
      exact ih chain.2

/-! ## Runs of `append` -/

/-- The arguments of one call of `append`, and the clock it reads. -/
structure Appended where
  now : Int
  kind : Text
  fields : List (Text × PyValue)

/-- Append one event after another; `none` of them refused. -/
def appendAll (journal : EventJournal) : List Appended → Except Raised EventJournal
  | [] => .ok journal
  | a :: rest =>
      match journal.append a.now a.kind a.fields with
      | .error e => .error e
      | .ok (_, journal) => appendAll journal rest

/-- `time.monotonic_ns()`: positive readings that never go back. -/
def Monotonic : Int → List Appended → Prop
  | _, [] => True
  | t, a :: rest => 0 < a.now ∧ t ≤ a.now ∧ Monotonic a.now rest

/-- What the check carries past a whole journal. -/
def EventJournal.checked (journal : EventJournal) : Checked :=
  journal.events.foldl Checked.after Checked.start

/-- The chain invariant of a journal. -/
def EventJournal.Chained (journal : EventJournal) : Prop :=
  Chain journal.runId journal.worldId Checked.start journal.events

theorem checked_sequence (journal : EventJournal) :
    journal.checked.expectedSequence = journal.events.length + 1 := by
  rw [EventJournal.checked, foldl_counts Checked.expectedSequence fun _ _ => rfl]
  exact Nat.add_comm 1 _

theorem checked_previous (journal : EventJournal) : journal.checked.previous = journal.headHash := by
  unfold EventJournal.checked EventJournal.headHash
  rcases List.eq_nil_or_concat journal.events with empty | ⟨es, e, events⟩
  · rw [empty]
    rfl
  · rw [events, List.concat_eq_append, List.foldl_append]
    simp [Checked.after]

theorem isHexDigest_genesis : isHexDigest GENESIS_HASH = true := by decide

theorem previousDigest_after {runId worldId : Text} {c : Checked} {es : List JournalEvent}
    (chain : Chain runId worldId c es) (digest : isHexDigest c.previous = true) :
    isHexDigest (es.foldl Checked.after c).previous = true := by
  induction es generalizing c with
  | nil => exact digest
  | cons e es ih =>
      obtain ⟨payload, -, hash⟩ := chain.1.hashed
      refine ih chain.2 ?_
      rw [Checked.after, hash]
      exact isHexDigest_hexdigest payload

/-- What one accepted call of `append` does. -/
theorem append_spec {journal journal' : EventJournal} {now : Int} {kind : Text}
    {fields : List (Text × PyValue)} {event : JournalEvent}
    (accepted : journal.append now kind fields = .ok (event, journal')) :
    journal' = { journal with events := journal.events ++ [event] } ∧
      event.sequence = journal.events.length + 1 ∧ event.runId = journal.runId ∧
      event.worldId = journal.worldId ∧ event.recordedNs = now ∧ event.kind = kind ∧
      event.kind ≠ [] ∧ event.previousHash = journal.headHash ∧ (Json.obj event.fields).Plain ∧
      ∃ payload, encode (.obj event.base) = .ok payload ∧ event.eventHash = hexdigest payload := by
  unfold EventJournal.append at accepted
  split at accepted
  · cases accepted
  · rename_i kindOk
    rw [not_or] at kindOk
    split at accepted
    · cases accepted
    · rename_i plainFields made
      obtain ⟨distinct, -, others⟩ := plainEntries_ok _ _ _ made
      have plain : (Json.obj plainFields).Plain := ⟨distinct, others⟩
      dsimp only at accepted
      rw [canonicalDigest, canonicalBytes_toPy (plain_base plain)] at accepted
      split at accepted
      · cases accepted
      · rename_i digest hashed
        split at hashed
        · cases hashed
        · rename_i payload encoded
          cases hashed
          cases accepted
          exact ⟨rfl, rfl, rfl, rfl, rfl, rfl, kindOk.1, rfl, plain, payload, encoded, rfl⟩

/-- **Step.**  `append` keeps the chain. -/
theorem append_chain {journal journal' : EventJournal} {now : Int} {kind : Text}
    {fields : List (Text × PyValue)} {event : JournalEvent} (chained : journal.Chained)
    (positive : 0 < now) (monotone : journal.checked.previousTimestamp ≤ now)
    (accepted : journal.append now kind fields = .ok (event, journal')) :
    journal'.Chained ∧ journal'.checked.previousTimestamp = now ∧
      journal'.runId = journal.runId ∧ journal'.worldId = journal.worldId := by
  obtain ⟨rfl, sequence, run, world, time, -, kind, previous, plain, hashed⟩ := append_spec accepted
  refine ⟨?_, ?_, rfl, rfl⟩
  · refine chain_append.2 ⟨chained, ?_⟩
    have digest := previousDigest_after chained isHexDigest_genesis
    exact
      { sequence := sequence.trans (checked_sequence journal).symm
        run := run
        world := world
        positive := time ▸ positive
        monotone := time ▸ monotone
        kind := kind
        plain := plain
        previous := previous.trans (checked_previous journal).symm
        previousDigest := digest
        hashed := hashed }
  · simp only [EventJournal.checked, List.foldl_append, List.foldl_cons, List.foldl_nil,
      Checked.after, time]

/-- **Run.**  Every accepted run of `append` keeps the chain. -/
theorem appendAll_chain {journal journal' : EventJournal} {calls : List Appended}
    (chained : journal.Chained) (clock : Monotonic journal.checked.previousTimestamp calls)
    (accepted : appendAll journal calls = .ok journal') :
    journal'.Chained ∧ journal'.runId = journal.runId ∧ journal'.worldId = journal.worldId := by
  induction calls generalizing journal with
  | nil =>
      cases accepted
      exact ⟨chained, rfl, rfl⟩
  | cons a rest ih =>
      rw [appendAll] at accepted
      split at accepted
      · cases accepted
      · rename_i event next appended
        obtain ⟨positive, monotone, clock⟩ := clock
        obtain ⟨chain, time, run, world⟩ := append_chain chained positive monotone appended
        obtain ⟨chain', run', world'⟩ := ih chain (time ▸ clock) accepted
        exact ⟨chain', run'.trans run, world'.trans world⟩

/-! ## Sizes of records -/

/-- The bytes `canonical_bytes` writes for plain data. -/
def canonicalSize (v : Json) : Nat := v.dumps.length

theorem canonicalSize_eq (v : Json) : canonicalSize v = v.render.length :=
  Json.length_render_canon v

theorem escapeChar_hexDigit {c : CodePoint} (digit : isHexDigit c = true) :
    Json.escapeChar c = [c] := by
  simp only [isHexDigit, Bool.or_eq_true, Bool.and_eq_true, decide_eq_true_eq] at digit
  have ne : ∀ d : CodePoint, d.val < 48 ∨ d.val = 92 → c ≠ d := by
    rintro d other rfl
    omega
  have plain : Json.shortEscape c = none := by
    simp only [Json.shortEscape, ne _ (show (CodePoint.ofChar '"').val < 48 ∨ _ by decide),
      ne _ (show (CodePoint.ofChar '\\').val < 48 ∨ _ by decide), ne 8 (by decide),
      ne 9 (by decide), ne 10 (by decide), ne 12 (by decide), ne 13 (by decide), if_false]
  simp only [Json.escapeChar, plain]
  rw [if_pos (by omega)]

theorem length_renderText_digest {t : Text} (digest : isHexDigest t = true) :
    (Json.renderText t).length = 66 := by
  simp only [isHexDigest, Bool.and_eq_true, decide_eq_true_eq, List.all_eq_true] at digest
  have body : Json.escapeText t = t := by
    rw [Json.escapeText, List.flatMap_congr fun c hc => escapeChar_hexDigit (digest.2 c hc)]
    simp
  simp only [Json.renderText, body, List.length_cons, List.length_append, digest.1,
    List.length_nil]

theorem length_renderText_padding (n : Nat) :
    (Json.renderText (List.replicate n (CodePoint.ofChar 'a'))).length = n + 2 := by
  have body : Json.escapeText (List.replicate n (CodePoint.ofChar 'a')) =
      List.replicate n (CodePoint.ofChar 'a') := by
    rw [Json.escapeText, List.flatMap_congr (g := fun c => [c])]
    · simp
    · intro c member
      rw [List.eq_of_mem_replicate member]
      decide
  simp [Json.renderText, body]

/-- The hash member adds the quoted key, the colon, the quoted digest and a comma. -/
theorem canonicalSize_toDict {e : JournalEvent} (digest : isHexDigest e.eventHash = true) :
    canonicalSize (.obj e.toDict) = canonicalSize (.obj e.base) + 80 := by
  have key : (Json.renderText (txt "event_hash")).length = 12 := by decide
  have hash : Json.memberLength (txt "event_hash", .str e.eventHash) = 80 := by
    simp only [Json.memberLength, Json.render, length_renderText_digest digest, key]
  rw [canonicalSize_eq, canonicalSize_eq, Json.length_render_obj (by simp [JournalEvent.toDict]),
    Json.length_render_obj (by simp [JournalEvent.base]), JournalEvent.toDict, List.map_append,
    List.sum_append, List.map_singleton, List.sum_singleton, hash]

/-- The summary of a journal is smaller than its last event's record. -/
theorem canonicalSize_summary {journal : EventJournal} {e : JournalEvent}
    (run : e.runId = journal.runId) (world : e.worldId = journal.worldId)
    (sequence : e.sequence = journal.events.length)
    (head : isHexDigest journal.headHash = true) (previous : isHexDigest e.previousHash = true) :
    canonicalSize journal.summary ≤ canonicalSize (.obj e.base) := by
  have keys : (Json.renderText (txt "event_count")).length = 13 ∧
      (Json.renderText (txt "head_hash")).length = 11 ∧
      (Json.renderText (txt "sequence")).length = 10 ∧
      (Json.renderText (txt "previous_hash")).length = 15 := by decide
  rw [canonicalSize_eq, canonicalSize_eq, EventJournal.summary, JournalEvent.base,
    Json.length_render_obj (by simp), Json.length_render_obj (by simp)]
  simp only [List.map_cons, List.map_nil, List.sum_cons, List.sum_nil, Json.memberLength,
    Json.render, length_renderText_digest head, length_renderText_digest previous, keys.1, keys.2.1,
    keys.2.2.1, keys.2.2.2, run, world, sequence]
  omega

/-! ## Lines -/

/-- The line `export` writes for an event. -/
def lineOf (e : JournalEvent) : Bytes := asciiBytes (Json.obj e.toDict).dumps

/-- Bytes that hold no line boundary. -/
def OneLine (line : Bytes) : Prop := ∀ b ∈ line, b ≠ 10 ∧ b ≠ 13

theorem splitlines_line {line : Bytes} (one : OneLine line) (rest : Bytes) :
    splitlines (line ++ 10 :: rest) = line :: splitlines rest := by
  induction line with
  | nil =>
      rw [List.nil_append, splitlines.eq_def]
      simp only [if_true]
  | cons b line ih =>
      have head := one b (by simp)
      have tail : OneLine line := fun c hc => one c (by simp [hc])
      rw [List.cons_append, splitlines.eq_def]
      simp only [if_neg head.1, if_neg head.2, ih tail]

theorem oneLine_dumps (v : Json) : OneLine (asciiBytes v.dumps) := by
  intro b hb
  obtain ⟨c, member, rfl⟩ := List.mem_map.1 hb
  have graphic := Json.graphic_render v.canon c member
  constructor <;>
  · intro same
    have value := congrArg UInt8.toNat same
    simp only [UInt8.toNat_ofNat', UInt8.reduceToNat] at value
    omega

theorem oneLine_lineOf (e : JournalEvent) : OneLine (lineOf e) := oneLine_dumps _

theorem splitlines_lines (es : List JournalEvent) :
    splitlines (es.flatMap fun e => lineOf e ++ [10]) = es.map lineOf := by
  induction es with
  | nil => rfl
  | cons e es ih =>
      rw [List.flatMap_cons, List.append_assoc, List.singleton_append,
        splitlines_line (oneLine_lineOf e), ih, List.map_cons]

theorem length_lines (es : List JournalEvent) :
    (es.flatMap fun e => lineOf e ++ [10]).length =
      (es.map fun e => canonicalSize (.obj e.toDict) + 1).sum := by
  rw [List.length_flatMap]
  congr 1
  refine List.map_congr_left fun e _ => ?_
  simp [lineOf, asciiBytes, canonicalSize]

theorem withinDigits_toDict (e : JournalEvent) :
    (Json.obj e.toDict).withinDigits = (Json.obj e.base).withinDigits := by
  simp [JournalEvent.toDict, JournalEvent.base, Json.withinDigits, Json.withinDigitsFields]

/-- Exporting succeeds exactly when every record with its hash fits. -/
theorem jsonLines_ok_iff {runId worldId : Text} {c : Checked} {es : List JournalEvent}
    (chain : Chain runId worldId c es) {lines : Bytes} :
    jsonLines es = .ok lines ↔
      (∀ e ∈ es, canonicalSize (.obj e.base) + 80 ≤ MAX_CANONICAL_BYTES) ∧
        lines = es.flatMap fun e => lineOf e ++ [10] := by
  induction es generalizing c lines with
  | nil => simp [jsonLines, eq_comm]
  | cons e es ih =>
      obtain ⟨link, chain⟩ := chain
      obtain ⟨payload, encoded, hash⟩ := link.hashed
      have digits := (encode_ok_iff.1 encoded).1
      have digest : isHexDigest e.eventHash = true := by
        rw [hash]
        exact isHexDigest_hexdigest payload
      have size := canonicalSize_toDict digest
      have line : ∀ {bytes}, encode (.obj e.toDict) = .ok bytes ↔
          canonicalSize (.obj e.base) + 80 ≤ MAX_CANONICAL_BYTES ∧ bytes = lineOf e := by
        intro bytes
        rw [encode_ok_iff, withinDigits_toDict, digits, ← canonicalSize_eq, size]
        simp [lineOf]
      rw [jsonLines, canonicalBytes_toPy (plain_toDict link.plain)]
      cases made : encode (.obj e.toDict) with
      | error err =>
          constructor
          · intro h
            cases h
          · rintro ⟨sizes, -⟩
            have ok := line.2 ⟨sizes e (by simp), rfl⟩
            rw [made] at ok
            cases ok
      | ok bytes =>
          obtain ⟨small, rfl⟩ := line.1 made
          dsimp only
          cases others : jsonLines es with
          | error err =>
              constructor
              · intro h
                cases h
              · rintro ⟨sizes, -⟩
                have ok := (ih chain).2 ⟨fun e he => sizes e (by simp [he]), rfl⟩
                rw [others] at ok
                cases ok
          | ok rest =>
              obtain ⟨sizes, rfl⟩ := (ih chain).1 others
              simp only [Except.ok.injEq, List.forall_mem_cons, List.flatMap_cons,
                List.append_assoc, List.singleton_append]
              exact ⟨fun same => ⟨⟨small, sizes⟩, same.symm⟩, fun all => all.2.symm⟩

/-! ## Loading -/

/-- An event up to the order of its members, as Python compares mappings. -/
def JournalEvent.canonical (e : JournalEvent) : JournalEvent :=
  { e with fields := Json.sortFields (Json.canonFields e.fields) }

/-- Loading these records gives the journal's events, in order, and its head. -/
def LoadsTo (journal : EventJournal) (records : List Json) : Prop :=
  ∃ loaded, fromRecords records journal.runId journal.worldId false = .ok loaded ∧
    loaded.events.map JournalEvent.canonical = journal.events.map JournalEvent.canonical ∧
    loaded.headHash = journal.headHash

/-- **The round trip**: export succeeds, the exported records validate to the
head, and both loaders give the events back. -/
def RoundTrips (journal : EventJournal) : Prop :=
  ∃ lines summary, journal.export = .ok (lines, summary) ∧
    validateRecords journal.records journal.runId journal.worldId false = .ok journal.headHash ∧
    LoadsTo journal journal.records ∧
    ∃ records, journalRecords lines = .ok records ∧ LoadsTo journal records

/-- What the appended events must satisfy for the round trip: there is one, each
leaves room for its hash member within the record limit, together they fit the
evaluator's file limit, and no string holds an adjacent surrogate pair. -/
structure Exportable (journal : EventJournal) : Prop where
  nonempty : journal.events ≠ []
  record : ∀ e ∈ journal.events, canonicalSize (.obj e.base) + 80 ≤ MAX_CANONICAL_BYTES
  file : (journal.events.map fun e => canonicalSize (.obj e.base) + 81).sum ≤ MAX_JOURNAL_BYTES
  identity : Json.PairFree journal.runId ∧ Json.PairFree journal.worldId
  text : ∀ e ∈ journal.events,
    Json.PairFree e.kind ∧ Json.AllTextFields Json.PairFree e.fields

theorem eventOf_of_link {runId worldId : Text} {c : Checked} {e : JournalEvent}
    {record : List (Text × Json)} (link : Link runId worldId c e) (same : Same record e) :
    ∃ loaded, eventOf runId worldId (.obj record) = some loaded ∧
      loaded.canonical = e.canonical ∧ loaded.eventHash = e.eventHash := by
  have equal := same.members
  obtain ⟨fs, fields, canon⟩ : ∃ fs, field record "fields" = .obj fs ∧
      (Json.obj fs).canon = (Json.obj e.fields).canon := equal.obj rfl
  have sequence : field record "sequence" = .int e.sequence := equal.int rfl
  have time : field record "recorded_ns" = .int e.recordedNs := equal.int rfl
  have kind : field record "kind" = .str e.kind := equal.str rfl
  have previous : field record "previous_hash" = .str e.previousHash := equal.str rfl
  have eventHash : field record "event_hash" = .str e.eventHash := equal.str rfl
  refine ⟨{ e with fields := fs }, ?_, ?_, rfl⟩
  · rw [eventOf, sequence, time, kind, fields, previous, eventHash, ← link.run, ← link.world]
    rfl
  · simp only [Json.canon, Json.obj.injEq] at canon
    simp only [JournalEvent.canonical, canon]

theorem mapM_eventOf {runId worldId : Text} {c : Checked} {es : List JournalEvent}
    {records : List (List (Text × Json))} (chain : Chain runId worldId c es)
    (same : List.Forall₂ Same records es) :
    ∃ loaded, (records.map Json.obj).mapM (eventOf runId worldId) = some loaded ∧
      loaded.map JournalEvent.canonical = es.map JournalEvent.canonical ∧
      loaded.map JournalEvent.eventHash = es.map JournalEvent.eventHash := by
  induction same generalizing c with
  | nil => exact ⟨[], rfl, rfl, rfl⟩
  | cons first _ ih =>
      obtain ⟨event, made, canon, hash⟩ := eventOf_of_link chain.1 first
      obtain ⟨events, others, canons, hashes⟩ := ih chain.2
      refine ⟨event :: events, ?_, by simp [canon, canons], by simp [hash, hashes]⟩
      simp [made, others]

theorem headHash_congr {journal loaded : EventJournal}
    (hashes : loaded.events.map JournalEvent.eventHash =
      journal.events.map JournalEvent.eventHash) : loaded.headHash = journal.headHash := by
  have last := congrArg List.getLast? hashes
  simp only [List.getLast?_map] at last
  unfold EventJournal.headHash
  revert last
  cases loaded.events.getLast? <;> cases journal.events.getLast? <;> simp

/-- Records that agree with a chained journal's events load back to it. -/
theorem loadsTo_of_same {journal : EventJournal} (chained : journal.Chained)
    {records : List (List (Text × Json))} (same : List.Forall₂ Same records journal.events) :
    LoadsTo journal (records.map .obj) := by
  obtain ⟨events, made, canons, hashes⟩ := mapM_eventOf chained same
  refine ⟨{ journal with events }, ?_, canons, headHash_congr hashes⟩
  rw [fromRecords, validateRecords, validateFrom_of_chain chained same]
  simp only [EventJournal.new, dif_pos journal.named, made]
  rfl

theorem link_of_mem {runId worldId : Text} {c : Checked} {es : List JournalEvent}
    (chain : Chain runId worldId c es) {e : JournalEvent} (member : e ∈ es) :
    ∃ c, Link runId worldId c e := by
  induction es generalizing c with
  | nil => cases member
  | cons first es ih =>
      rcases List.mem_cons.1 member with rfl | later
      · exact ⟨c, chain.1⟩
      · exact ih chain.2 later

theorem same_records {journal : EventJournal} (chained : journal.Chained) :
    List.Forall₂ Same (journal.events.map JournalEvent.toDict) journal.events := by
  rw [List.forall₂_map_left_iff, List.forall₂_same]
  intro e member
  obtain ⟨c, link⟩ := link_of_mem chained member
  exact Same.refl link.plain

theorem validateRecords_chained {journal : EventJournal} (chained : journal.Chained) :
    validateRecords journal.records journal.runId journal.worldId false =
      .ok journal.headHash := by
  have validated := validateFrom_of_chain chained (same_records chained)
  rw [List.map_map] at validated
  rw [validateRecords, EventJournal.records]
  rw [show (fun e : JournalEvent => Json.obj e.toDict) = Json.obj ∘ JournalEvent.toDict from rfl,
    validated]
  simp only [Bool.false_eq_true, false_and, if_false]
  exact congrArg Except.ok (checked_previous journal)

/-! ## Reading the lines back -/

/-- The record's members in key order: what the reader returns. -/
def sortedDict (e : JournalEvent) : List (Text × Json) :=
  Json.sortFields (Json.canonFields e.toDict)

theorem same_sortedDict {e : JournalEvent} (plain : (Json.obj e.fields).Plain) :
    Same (sortedDict e) e :=
  ⟨(Json.plain_canon (.obj e.toDict)).2 (plain_toDict plain), Json.canon_canon (.obj e.toDict)⟩

theorem pairFree_of_small {t : Text} (small : ∀ c ∈ t, c.val < 0xD800) : Json.PairFree t := by
  refine List.Pairwise.isChain (List.pairwise_of_forall_mem_list fun c hc d _ => ?_)
  have notHigh : c.isHighSurrogate = false := by
    have := small c hc
    rw [← Bool.not_eq_true, CodePoint.isHighSurrogate_iff]
    omega
  rw [notHigh, Bool.false_and]

theorem pairFree_digest {t : Text} (digest : isHexDigest t = true) : Json.PairFree t := by
  simp only [isHexDigest, Bool.and_eq_true, decide_eq_true_eq, List.all_eq_true] at digest
  refine pairFree_of_small fun c hc => ?_
  have := digest.2 c hc
  simp only [isHexDigit, Bool.or_eq_true, Bool.and_eq_true, decide_eq_true_eq] at this
  omega

theorem pairFree_key {k : Text} (member : k ∈ required) : Json.PairFree k := by
  have all : ∀ k ∈ required, Json.PairFree k := by decide
  exact all k member

/-- The texts of a record are the identities, the kind and the fields' own. -/
theorem allText_toDict {runId worldId : Text} {c : Checked} {e : JournalEvent}
    (link : Link runId worldId c e) :
    (Json.obj e.toDict).AllText Json.PairFree ↔
      Json.PairFree runId ∧ Json.PairFree worldId ∧ Json.PairFree e.kind ∧
        Json.AllTextFields Json.PairFree e.fields := by
  obtain ⟨payload, -, hash⟩ := link.hashed
  have eventDigest : Json.PairFree e.eventHash := by
    rw [hash]
    exact pairFree_digest (isHexDigest_hexdigest payload)
  have previousDigest : Json.PairFree e.previousHash := by
    rw [link.previous]
    exact pairFree_digest link.previousDigest
  have keys : ∀ key : String, txt key ∈ required → Json.PairFree (txt key) :=
    fun key member => pairFree_key member
  simp only [JournalEvent.toDict, JournalEvent.base, List.cons_append, List.nil_append,
    Json.AllText, Json.AllTextFields, link.run, link.world,
    eventDigest, previousDigest, keys "schema_version" (by decide),
    keys "sequence" (by decide), keys "run_id" (by decide),
    keys "world_id" (by decide), keys "recorded_ns" (by decide),
    keys "kind" (by decide), keys "fields" (by decide),
    keys "previous_hash" (by decide), keys "event_hash" (by decide),
    true_and, and_true]

theorem printable_toDict {runId worldId : Text} {c : Checked} {e : JournalEvent}
    (link : Link runId worldId c e) : (Json.obj e.toDict).Printable := by
  obtain ⟨payload, encoded, -⟩ := link.hashed
  exact ⟨plain_toDict link.plain, (withinDigits_toDict e).trans (encode_ok_iff.1 encoded).1⟩

theorem loadsBytes_lineOf {runId worldId : Text} {c : Checked} {e : JournalEvent}
    (link : Link runId worldId c e) :
    Json.loadsBytes (lineOf e) = Json.rejoin (Json.obj e.toDict).canon :=
  Json.loadsBytes_render ((Json.printable_canon _).2 (printable_toDict link)).2

/-- No value is dumped as nothing. -/
theorem asciiBytes_dumps_ne_nil (v : Json) : asciiBytes v.dumps ≠ [] := by
  obtain ⟨c, tail, rendered, -⟩ := Json.render_first v.canon
  simp [asciiBytes, Json.dumps, rendered]

theorem lineOf_ne_nil (e : JournalEvent) : lineOf e ≠ [] := asciiBytes_dumps_ne_nil _

/-- Without adjacent surrogate pairs the lines are read back in key order. -/
theorem readLines_pairFree {runId worldId : Text} {c : Checked} {es : List JournalEvent}
    (chain : Chain runId worldId c es)
    (free : ∀ e ∈ es, (Json.obj e.toDict).AllText Json.PairFree) :
    readLines (es.map lineOf) = .ok ((es.map sortedDict).map .obj) := by
  induction es generalizing c with
  | nil => rfl
  | cons e es ih =>
      have printable := printable_toDict chain.1
      have loaded : Json.loadsBytes (lineOf e) = .ok (.obj (sortedDict e)) := by
        rw [loadsBytes_lineOf chain.1]
        exact Json.rejoin_of_pairFree _ ((Json.plain_canon _).2 printable.1)
          ((Json.allText_canon _ _).2 (free e (by simp)))
      rw [List.map_cons, readLines, if_neg (lineOf_ne_nil e), loaded]
      simp only [ih chain.2 fun e he => free e (by simp [he]), List.map_cons]

/-- Whatever the reader returns for the lines, it holds no pair left to join. -/
theorem readLines_ok {runId worldId : Text} {c : Checked} {es : List JournalEvent}
    (chain : Chain runId worldId c es) {records : List Json}
    (read : readLines (es.map lineOf) = .ok records) :
    ∀ record ∈ records, record.AllText Json.PairFree := by
  induction es generalizing c records with
  | nil =>
      cases read
      simp
  | cons e es ih =>
      rw [List.map_cons, readLines, if_neg (lineOf_ne_nil e)] at read
      split at read
      · cases read
      · rename_i record loaded
        split at read
        · cases read
        · rename_i rest others
          cases read
          rw [loadsBytes_lineOf chain.1] at loaded
          exact List.forall_mem_cons.2 ⟨Json.allText_rejoin _ loaded, ih chain.2 others⟩
      · cases read

/-! ## From a loaded journal back to the appended texts -/

theorem allText_field {P : Text → Prop} {record : List (Text × Json)}
    (all : (Json.obj record).AllText P) (key : String) : (field record key).AllText P := by
  unfold field
  cases found : record.lookup (txt key) with
  | none => trivial
  | some v =>
      obtain ⟨before, after, split, -⟩ := List.lookup_eq_some_iff.1 found
      refine ((Json.allTextFields_iff P record).1 all (txt key, v) ?_).2
      rw [split]
      simp

theorem eventOf_texts {runId worldId : Text} {record : Json} {e : JournalEvent}
    (made : eventOf runId worldId record = some e) {P : Text → Prop} (all : record.AllText P) :
    P e.kind ∧ Json.AllTextFields P e.fields := by
  unfold eventOf at made
  split at made
  · rename_i record
    split at made
    · rename_i sequence recordedNs kind fields previous hash _ _ kindField fieldsField _ _
      cases made
      have kinds := allText_field all "kind"
      have inner := allText_field all "fields"
      rw [kindField] at kinds
      rw [fieldsField] at inner
      exact ⟨kinds, inner⟩
    · cases made
  · cases made

theorem checkRecord_identity {runId worldId : Text} {c c' : Checked}
    {record : List (Text × Json)} (checked : checkRecord runId worldId c record = .ok c') :
    field record "run_id" = .str runId ∧ field record "world_id" = .str worldId := by
  unfold checkRecord at checked
  split at checked
  · cases checked
  · split at checked
    · cases checked
    · rename_i identity
      rw [not_or, not_not, not_not] at identity
      exact identity

end InstrumentBench.Fibsem.Journal
