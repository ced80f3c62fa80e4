/-
# Fibsem.Journal -- the hash-chained event journal

`append` accepts an event when its fields are plain data and the canonical form
of the record *without* its hash is within `MAX_CANONICAL_BYTES`; the record's
hash is the digest of that form.  `export` writes the canonical form of every
record *with* its hash, one a line.  The evaluator reads the lines back
(`journalRecords`) and rebuilds the journal (`fromRecords`), which checks the
whole chain (`validateRecords`).
-/
import InstrumentBench.Theory.JsonParse
import InstrumentBench.Theory.PyValue
import InstrumentBench.Theory.Sha256

namespace InstrumentBench.Fibsem.Journal

set_option autoImplicit false

open InstrumentBench.Theory

def JOURNAL_SCHEMA_VERSION : Int := 1

def GENESIS_HASH : Text := List.replicate 64 (CodePoint.ofChar '0')

def MAX_CANONICAL_BYTES : Nat := 1048576

/-- What the journal raises.  `JournalError` is a `ValueError`; the digit limit
of `int` raises a plain one. -/
inductive Raised where
  | journalError (message : Text)
  | valueError (message : Text)
deriving DecidableEq

def fail {α : Type} (message : String) : Except Raised α := .error (.journalError (txt message))

/-! ## Canonical form -/

mutual

/-- `_plain` -/
def plain (path : Text) : PyValue → Except Raised Json
  | .none => .ok .null
  | .str t => .ok (.str t)
  | .bool b => .ok (.bool b)
  | .int i => .ok (.int i)
  | .float x =>
      if x.isFinite then .ok (.float x)
      else .error (.journalError (txt "non-finite number at " ++ path))
  | .mapping entries =>
      match plainEntries path [] entries with
      | .error e => .error e
      | .ok fields => .ok (.obj fields)
  | .seq items =>
      match plainItems path items with
      | .error e => .error e
      | .ok values => .ok (.arr values)
  | .bytes _ =>
      .error (.journalError (txt "unsupported journal value at " ++ path ++ txt ": bytes"))
  | .other name =>
      .error (.journalError (txt "unsupported journal value at " ++ path ++ txt ": " ++ name))

/-- The loop over a mapping's items; `seen` are the keys of `result` so far. -/
def plainEntries (path : Text) (seen : List Text) :
    List (PyKey × PyValue) → Except Raised (List (Text × Json))
  | [] => .ok []
  | (.other, _) :: _ => .error (.journalError (txt "invalid object key at " ++ path))
  | (.str key, item) :: rest =>
      if key ∈ seen then .error (.journalError (txt "invalid object key at " ++ path))
      else
        match plain (path ++ txt "." ++ key) item with
        | .error e => .error e
        | .ok value =>
            match plainEntries path (key :: seen) rest with
            | .error e => .error e
            | .ok fields => .ok ((key, value) :: fields)

def plainItems (path : Text) : List PyValue → Except Raised (List Json)
  | [] => .ok []
  | item :: rest =>
      match plain (path ++ txt "[]") item with
      | .error e => .error e
      | .ok value =>
          match plainItems path rest with
          | .error e => .error e
          | .ok values => .ok (value :: values)

end

/-- The root path `$`. -/
def rootPath : Text := txt "$"

/-- The bytes of ASCII text. -/
def asciiBytes (t : Text) : Bytes := t.map fun c => UInt8.ofNat c.val

/-- The canonical bytes of plain data: `json.dumps` and the size limit. -/
def encode (v : Json) : Except Raised Bytes :=
  if v.withinDigits then
    let payload := asciiBytes v.dumps
    if MAX_CANONICAL_BYTES < payload.length then fail "canonical value is too large"
    else .ok payload
  else .error (.valueError (txt "Exceeds the limit (4300 digits) for integer string conversion; use sys.set_int_max_str_digits() to increase the limit"))

/-- `canonical_bytes` -/
def canonicalBytes (value : PyValue) : Except Raised Bytes :=
  match plain rootPath value with
  | .error e => .error e
  | .ok v => encode v

/-- `canonical_digest` -/
def canonicalDigest (value : PyValue) : Except Raised Text :=
  match canonicalBytes value with
  | .error e => .error e
  | .ok payload => .ok (hexdigest payload)

/-! ## Records -/

structure JournalEvent where
  sequence : Nat
  runId : Text
  worldId : Text
  recordedNs : Int
  kind : Text
  fields : List (Text × Json)
  previousHash : Text
  eventHash : Text
deriving DecidableEq

namespace JournalEvent

/-- The record without its hash: what `append` digests. -/
def base (e : JournalEvent) : List (Text × Json) :=
  [(txt "schema_version", .int JOURNAL_SCHEMA_VERSION),
   (txt "sequence", .int e.sequence),
   (txt "run_id", .str e.runId),
   (txt "world_id", .str e.worldId),
   (txt "recorded_ns", .int e.recordedNs),
   (txt "kind", .str e.kind),
   (txt "fields", .obj e.fields),
   (txt "previous_hash", .str e.previousHash)]

/-- `to_dict` -/
def toDict (e : JournalEvent) : List (Text × Json) :=
  e.base ++ [(txt "event_hash", .str e.eventHash)]

end JournalEvent

/-- A journal always has a run and a world: the constructor refuses empty ones. -/
structure EventJournal where
  runId : Text
  worldId : Text
  named : runId ≠ [] ∧ worldId ≠ []
  events : List JournalEvent

namespace EventJournal

theorem named_short : txt "r" ≠ [] ∧ txt "w" ≠ [] := by decide

/-- `__init__` -/
def new (runId worldId : Text) : Except Raised EventJournal :=
  if named : runId ≠ [] ∧ worldId ≠ [] then .ok ⟨runId, worldId, named, []⟩
  else .error (.valueError (txt "journal run and world identities must not be empty"))

def headHash (journal : EventJournal) : Text :=
  match journal.events.getLast? with
  | some event => event.eventHash
  | none => GENESIS_HASH

/-- The next event, before its hash. -/
def draft (journal : EventJournal) (now : Int) (kind : Text) (fields : List (Text × Json)) :
    JournalEvent :=
  { sequence := journal.events.length + 1
    runId := journal.runId
    worldId := journal.worldId
    recordedNs := now
    kind := kind
    fields := fields
    previousHash := journal.headHash
    eventHash := [] }

/-- `append(kind, **fields)`; `now` is the reading of `time.monotonic_ns()`. -/
def append (journal : EventJournal) (now : Int) (kind : Text) (fields : List (Text × PyValue)) :
    Except Raised (JournalEvent × EventJournal) :=
  if kind = [] ∨ 128 < kind.length then fail "journal event kind is invalid"
  else
    match plainEntries rootPath [] (fields.map fun kv => (.str kv.1, kv.2)) with
    | .error e => .error e
    | .ok plainFields =>
        match canonicalDigest (Json.obj (journal.draft now kind plainFields).base).toPy with
        | .error e => .error e
        | .ok digest =>
            let event := { journal.draft now kind plainFields with eventHash := digest }
            .ok (event, { journal with events := journal.events ++ [event] })

end EventJournal

/-! ## Validation -/

/-- `_is_digest` -/
def isDigest : Json → Bool
  | .str t => isHexDigest t
  | _ => false

def required : List Text :=
  [txt "schema_version", txt "sequence", txt "run_id", txt "world_id", txt "recorded_ns",
   txt "kind", txt "fields", txt "previous_hash", txt "event_hash"]

/-- Python's `value == 1`. -/
def equalsOne : Json → Bool
  | .int i => i = 1
  | .bool b => b
  | .float x => x == 1
  | _ => false

/-- What the loop of `validate_records` carries from one record to the next. -/
structure Checked where
  expectedSequence : Nat
  previous : Text
  previousTimestamp : Int
deriving DecidableEq

def Checked.start : Checked := ⟨1, GENESIS_HASH, 0⟩

/-- `record[key]`, for a record whose keys have been checked. -/
def field (record : List (Text × Json)) (key : String) : Json :=
  (record.lookup (txt key)).getD .null

/-- `record.pop(key)` leaves the other members. -/
def without (record : List (Text × Json)) (key : String) : List (Text × Json) :=
  record.filter fun kv => kv.1 ≠ txt key

/-- The checks of one record of `validate_records`, after `_plain`. -/
def checkRecord (runId worldId : Text) (c : Checked) (record : List (Text × Json)) :
    Except Raised Checked :=
  if ¬ (Json.keys record ⊆ required ∧ required ⊆ Json.keys record) then
    fail "journal event fields are invalid"
  else if field record "run_id" ≠ .str runId ∨ field record "world_id" ≠ .str worldId then
    fail "journal identity mismatch"
  else if equalsOne (field record "schema_version") = false then
    fail "journal schema version mismatch"
  else if field record "sequence" ≠ .int c.expectedSequence then fail "journal sequence mismatch"
  else
    match field record "recorded_ns" with
    | .int recordedNs =>
        if recordedNs ≤ 0 ∨ recordedNs < c.previousTimestamp then
          fail "journal timestamp is invalid"
        else
          match field record "kind" with
          | .str kind =>
              if kind = [] then fail "journal event kind is invalid"
              else
                match field record "fields" with
                | .obj _ =>
                    if isDigest (field record "previous_hash") = false ∨
                        isDigest (field record "event_hash") = false then
                      fail "journal event digest is invalid"
                    else if field record "previous_hash" ≠ .str c.previous then
                      fail "journal previous hash mismatch"
                    else
                      match canonicalDigest (Json.obj (without record "event_hash")).toPy with
                      | .error e => .error e
                      | .ok digest =>
                          if field record "event_hash" ≠ .str digest then
                            fail "journal event hash mismatch"
                          else .ok ⟨c.expectedSequence + 1, digest, recordedNs⟩
                | _ => fail "journal event fields are invalid"
          | _ => fail "journal event kind is invalid"
    | _ => fail "journal timestamp is invalid"

/-- One turn of the loop of `validate_records`. -/
def validateRecord (runId worldId : Text) (c : Checked) (source : Json) : Except Raised Checked :=
  match plain rootPath source.toPy with
  | .error e => .error e
  | .ok (.obj record) => checkRecord runId worldId c record
  | .ok _ => fail "journal event fields are invalid"

def validateFrom (runId worldId : Text) (c : Checked) : List Json → Except Raised Checked
  | [] => .ok c
  | source :: rest =>
      match validateRecord runId worldId c source with
      | .error e => .error e
      | .ok c => validateFrom runId worldId c rest

/-- `records[-1].get("kind") == "run.terminal"` -/
def endsTerminal (records : List Json) : Bool :=
  match records.getLast? with
  | some (.obj record) => field record "kind" = .str (txt "run.terminal")
  | _ => false

/-- `validate_records` -/
def validateRecords (records : List Json) (runId worldId : Text) (requireTerminal : Bool) :
    Except Raised Text :=
  match validateFrom runId worldId Checked.start records with
  | .error e => .error e
  | .ok c =>
      if requireTerminal ∧ endsTerminal records = false then
        fail "journal terminal event is missing"
      else .ok c.previous

/-! ## Export and loading -/

/-- `canonical_bytes(record) + b"\n"` of every record, joined. -/
def jsonLines : List JournalEvent → Except Raised Bytes
  | [] => .ok []
  | event :: rest =>
      match canonicalBytes (Json.obj event.toDict).toPy with
      | .error e => .error e
      | .ok line =>
          match jsonLines rest with
          | .error e => .error e
          | .ok lines => .ok (line ++ 10 :: lines)

namespace EventJournal

def records (journal : EventJournal) : List Json :=
  journal.events.map fun event => .obj event.toDict

def summary (journal : EventJournal) : Json :=
  .obj [(txt "schema_version", .int JOURNAL_SCHEMA_VERSION),
    (txt "run_id", .str journal.runId),
    (txt "world_id", .str journal.worldId),
    (txt "event_count", .int journal.events.length),
    (txt "head_hash", .str journal.headHash)]

/-- `export`: the contents of `journal.jsonl` and `journal-summary.json`. -/
def «export» (journal : EventJournal) : Except Raised (Bytes × Bytes) :=
  match validateRecords journal.records journal.runId journal.worldId false with
  | .error e => .error e
  | .ok _ =>
      match jsonLines journal.events with
      | .error e => .error e
      | .ok lines =>
          match canonicalBytes journal.summary.toPy with
          | .error e => .error e
          | .ok summary => .ok (lines, summary ++ [10])

end EventJournal

/-- The event built from a validated record; `none` where the constructor
raises. -/
def eventOf (runId worldId : Text) : Json → Option JournalEvent
  | .obj record =>
      match field record "sequence", field record "recorded_ns", field record "kind",
        field record "fields", field record "previous_hash", field record "event_hash" with
      | .int sequence, .int recordedNs, .str kind, .obj fields, .str previous, .str hash =>
          some ⟨sequence.toNat, runId, worldId, recordedNs, kind, fields, previous, hash⟩
      | _, _, _, _, _, _ => none
  | _ => none

/-- `EventJournal.from_records` -/
def fromRecords (records : List Json) (runId worldId : Text) (requireTerminal : Bool) :
    Except Raised EventJournal :=
  match validateRecords records runId worldId requireTerminal with
  | .error e => .error e
  | .ok _ =>
      match EventJournal.new runId worldId with
      | .error e => .error e
      | .ok journal =>
          match records.mapM (eventOf runId worldId) with
          | some events => .ok { journal with events }
          | none => fail "journal event fields are invalid"

/-- `MAX_JOURNAL_BYTES` of the evaluator. -/
def MAX_JOURNAL_BYTES : Nat := 32 * 1024 * 1024

/-- `bytes.splitlines()` -/
def splitlines : Bytes → List Bytes
  | [] => []
  | b :: rest =>
      if b = 10 then [] :: splitlines rest
      else if b = 13 then
        match rest with
        | [] => [[]]
        | c :: rest' => if c = 10 then [] :: splitlines rest' else [] :: splitlines (c :: rest')
      else
        match splitlines rest with
        | [] => [[b]]
        | line :: lines => (b :: line) :: lines

/-- Why the evaluator's reader raises `ValueError`. -/
inductive ReaderError where
  | size
  | emptyRecord
  | json (error : LoadError)
  | notObject
  | emptyJournal
deriving DecidableEq

/-- The loop of `_journal_records`. -/
def readLines : List Bytes → Except ReaderError (List Json)
  | [] => .ok []
  | line :: rest =>
      if line = [] then .error .emptyRecord
      else
        match Json.loadsBytes line with
        | .error e => .error (.json e)
        | .ok (.obj record) =>
            match readLines rest with
            | .error e => .error e
            | .ok records => .ok (.obj record :: records)
        | .ok _ => .error .notObject

/-- `_journal_records`, on the contents of a regular file. -/
def journalRecords (payload : Bytes) : Except ReaderError (List Json) :=
  if payload.length = 0 ∨ MAX_JOURNAL_BYTES < payload.length then .error .size
  else
    match readLines (splitlines payload) with
    | .error e => .error e
    | .ok [] => .error .emptyJournal
    | .ok records => .ok records

end InstrumentBench.Fibsem.Journal
