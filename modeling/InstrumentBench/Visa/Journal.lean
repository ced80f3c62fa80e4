/-
# Visa.Journal -- the event journal of the PyVISA simulator

`append` copies an event's fields through JSON, chains the record to the last
hash and digests its canonical form; `exported` is one canonical line a record.
The evaluator's `loadEvents` parses the lines strictly and checks identity,
sequence, clock and chain again.

The writer's `json.dumps` writes `NaN` and the infinities and its `json.loads`
reads them back; the loader's hooks refuse both constants and repeated keys.
-/
import InstrumentBench.Theory.JsonCopy
import InstrumentBench.Fibsem.Journal

namespace InstrumentBench.Visa.Journal

set_option autoImplicit false

open InstrumentBench.Theory
open InstrumentBench.Fibsem.Journal (asciiBytes field without splitlines)

def GENESIS_HASH : Text := List.replicate 64 (CodePoint.ofChar '0')

/-- `_canonical`; `none` where an integer is past the digit limit and `json.dumps`
raises. -/
def canonical (v : Json) : Option Bytes :=
  if v.withinDigits then some (asciiBytes v.dumps) else none

/-! ## The writer -/

structure JournalEvent where
  runId : Text
  worldId : Text
  sequence : Nat
  monotonicNs : Nat
  previousHash : Text
  kind : Text
  fields : List (Text × Json)
  eventHash : Text

namespace JournalEvent

/-- The record its hash is taken of. -/
def unsigned (e : JournalEvent) : List (Text × Json) :=
  [(txt "run_id", .str e.runId),
   (txt "world_id", .str e.worldId),
   (txt "sequence", .int e.sequence),
   (txt "monotonic_ns", .int e.monotonicNs),
   (txt "previous_hash", .str e.previousHash),
   (txt "kind", .str e.kind),
   (txt "fields", .obj e.fields)]

/-- `to_dict` -/
def toDict (e : JournalEvent) : List (Text × Json) :=
  e.unsigned ++ [(txt "event_hash", .str e.eventHash)]

end JournalEvent

/-- The constructor refuses an empty run or world. -/
structure EventJournal where
  runId : Text
  worldId : Text
  named : runId ≠ [] ∧ worldId ≠ []
  events : List JournalEvent

/-- One call of `append`, with the reading of `time.monotonic_ns()` it takes.  The
fields are as `json.dumps` sees them: a tuple is a list, and the key of a mapping
is the text written for it. -/
structure Appended where
  now : Nat
  kind : Text
  fields : List (Text × Json)

/-- `json.loads(_canonical(fields))` -/
def Appended.copied (call : Appended) : List (Text × Json) :=
  Json.reloadFields [] (Json.sortFields (Json.canonFields call.fields))

namespace EventJournal

/-- `final_hash` -/
def finalHash (journal : EventJournal) : Text :=
  match journal.events.getLast? with
  | some event => event.eventHash
  | none => GENESIS_HASH

/-- The next event, before its hash. -/
def draft (journal : EventJournal) (call : Appended) : JournalEvent :=
  { runId := journal.runId
    worldId := journal.worldId
    sequence := journal.events.length + 1
    monotonicNs := call.now
    previousHash := journal.finalHash
    kind := call.kind
    fields := call.copied
    eventHash := [] }

/-- `append`; `none` where it raises. -/
def append (journal : EventJournal) (call : Appended) : Option EventJournal :=
  if call.kind = [] then none
  else
    match canonical (.obj call.fields) with
    | none => none
    | some _ =>
        match canonical (.obj (journal.draft call).unsigned) with
        | none => none
        | some payload =>
            some { journal with
              events := journal.events ++ [{ journal.draft call with eventHash := hexdigest payload }] }

/-- One call after the other, none of them refused. -/
def appendAll (journal : EventJournal) : List Appended → Option EventJournal
  | [] => some journal
  | call :: calls =>
      match journal.append call with
      | none => none
      | some journal => journal.appendAll calls

end EventJournal

/-- `b"".join(_canonical(item.to_dict()) + b"\n" for item in records)` -/
def canonicalLines : List JournalEvent → Option Bytes
  | [] => some []
  | event :: rest =>
      match canonical (.obj event.toDict) with
      | none => none
      | some line =>
          match canonicalLines rest with
          | none => none
          | some lines => some (line ++ 10 :: lines)

/-- What `export` writes to the file. -/
def EventJournal.exported (journal : EventJournal) : Option Bytes := canonicalLines journal.events

/-! ## The loader -/

def EVENTS_LIMIT : Nat := 16 * 1024 * 1024

/-- What `_load_events` raises: a `ContainerInfrastructureError`, but for
`uncaught`, a `ValueError` of `json.dumps`. -/
inductive EventsError where
  /-- "invalid sim events file" -/
  | size
  /-- "blank sim journal line" -/
  | blank
  /-- "malformed sim journal JSON" -/
  | malformed (error : LoadError)
  /-- "invalid sim journal event" -/
  | keys
  /-- "sim journal sequence or fields invalid" -/
  | checks
  /-- "sim journal hash mismatch" -/
  | hash
  | uncaught
deriving DecidableEq

def expected : List Text :=
  [txt "run_id", txt "world_id", txt "sequence", txt "monotonic_ns", txt "previous_hash",
   txt "kind", txt "fields", txt "event_hash"]

/-- `value == n`, for `n` a line number, which a float holds exactly. -/
def equalsNat (n : Nat) : Json → Bool
  | .int i => i = n
  | .float x => x == Float.ofNat n
  | _ => false

/-- What the loop carries from one line to the next. -/
structure Position where
  sequence : Nat
  previous : Text
  previousTime : Int

def Position.start : Position := ⟨1, GENESIS_HASH, -1⟩

/-- The checks of one record, and the digest and the time it leaves. -/
def checkRecord (runId worldId : Text) (p : Position) (value : List (Text × Json)) :
    Except EventsError Position :=
  if ¬ (Json.keys value ⊆ expected ∧ expected ⊆ Json.keys value) then .error .keys
  else if field value "run_id" ≠ .str runId ∨ field value "world_id" ≠ .str worldId ∨
      equalsNat p.sequence (field value "sequence") = false then .error .checks
  else
    match field value "monotonic_ns", field value "kind", field value "fields",
      field value "event_hash" with
    | .int monotonicNs, .str kind, .obj _, .str eventHash =>
        if monotonicNs < p.previousTime ∨ field value "previous_hash" ≠ .str p.previous ∨
            kind = [] ∨ isHexDigest eventHash = false then .error .checks
        else
          match canonical (.obj (without value "event_hash")) with
          | none => .error .uncaught
          | some payload =>
              if hexdigest payload ≠ eventHash then .error .hash
              else .ok ⟨p.sequence + 1, hexdigest payload, monotonicNs⟩
    | _, _, _, _ => .error .checks

/-- The loop over the lines. -/
def loadLines (runId worldId : Text) : Position → List Bytes →
    Except EventsError (List (List (Text × Json)))
  | _, [] => .ok []
  | p, raw :: rest =>
      if raw = [] then .error .blank
      else
        match Json.loadsBytes raw with
        | .error e => .error (.malformed e)
        | .ok (.obj value) =>
            match checkRecord runId worldId p value with
            | .error e => .error e
            | .ok p =>
                match loadLines runId worldId p rest with
                | .error e => .error e
                | .ok records => .ok (value :: records)
        | .ok _ => .error .keys

/-- `_load_events`, on the contents of a regular file. -/
def loadEvents (payload : Bytes) (runId worldId : Text) :
    Except EventsError (List (List (Text × Json))) :=
  if EVENTS_LIMIT < payload.length then .error .size
  else loadLines runId worldId Position.start (splitlines payload)

/-! ## The law -/

/-- The hash of the last record that was read. -/
def lastHash (records : List (List (Text × Json))) : Json :=
  match records.getLast? with
  | some record => field record "event_hash"
  | none => .str GENESIS_HASH

/-- **The round trip.**  The file is accepted, and read as the appended records: equal
as dictionaries, in order, with the same final hash. -/
def RoundTrips (journal : EventJournal) : Prop :=
  ∃ payload records, journal.exported = some payload ∧
    loadEvents payload journal.runId journal.worldId = .ok records ∧
    List.Forall₂ (fun record event => (Json.obj record).canon = (Json.obj event.toDict).canon)
      records journal.events ∧
    lastHash records = .str journal.finalHash

/-- The clock never runs back. -/
def Monotonic : Nat → List Appended → Prop
  | _, [] => True
  | before, call :: calls => before ≤ call.now ∧ Monotonic call.now calls

/-- **What the loader reads.**  The copied fields hold finite numbers only, no kind has
an escaped surrogate pair in it, and neither have the identities, if anything was
appended. -/
def Readable (runId worldId : Text) (calls : List Appended) : Prop :=
  (∀ call ∈ calls, (Json.obj call.copied).finite = true ∧ Json.PairFree call.kind) ∧
  (calls ≠ [] → Json.PairFree runId ∧ Json.PairFree worldId)

end InstrumentBench.Visa.Journal
