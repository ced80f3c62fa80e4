/-
# Fibsem.JournalDepth -- the journal under the interpreter's recursion limit

`_plain` calls itself for every level of a value, and the encoder of `json.dumps` enters
every array and object.  Both run on the stack of whoever calls the journal, and past the
recursion limit both raise a `RecursionError`, which is no `JournalError`.

`canonicalDigestWithin` and `appendWithin` are `canonical_digest` and `append` with that
limit.  Where they succeed they are `canonicalDigest` and `append`, and they succeed
exactly when those do and what is written nests no deeper than the stack that is left
(`canonicalDigestWithin_ok_iff`, `appendWithin_ok_iff`).
-/
import InstrumentBench.Theory.JsonWriter
import InstrumentBench.Fibsem.JournalRoundTrip
import InstrumentBench.Fibsem.Scenario

namespace InstrumentBench.Fibsem.Journal

set_option autoImplicit false

open InstrumentBench.Theory

/-- The interpreter's stack where a call is dispatched, and what it is used up by. -/
structure Stack where
  /-- frames left to what `dispatch` calls -/
  left : Nat
  /-- frames a list comprehension takes -/
  comprehension : Nat
  /-- frames `isinstance` takes with an abstract class -/
  instanceCheck : Nat
  /-- frames `json.dumps` takes down to its encoder -/
  dumps : Nat
  /-- levels the comparison of two keys takes -/
  comparison : Nat
  /-- a record of texts can be written wherever the service writes one -/
  flat : instanceCheck + dumps + comparison + 12 ≤ left

/-- The stack of an interpreter whose recursion limit is a thousand. -/
def nominalStack : Stack := ⟨980, 1, 2, 4, 1, by decide⟩

def tooDeep : PyError := .other (txt "RecursionError") (txt "maximum recursion depth exceeded")

/-- The exception a journal raises, as its callers see it. -/
def raised : Raised → PyError
  | .journalError message => .journalError message
  | .valueError message => .valueError message

def lifted {α : Type} : Except Raised α → Except PyError α
  | .error e => .error (raised e)
  | .ok a => .ok a

theorem lifted_ok_iff {α : Type} {x : Except Raised α} {a : α} : lifted x = .ok a ↔ x = .ok a := by
  cases x <;> simp [lifted]

def writeRaised : WriteError → PyError
  | .recursion => tooDeep
  | .tooManyDigits => .valueError (txt "Exceeds the limit (4300 digits) for integer string conversion; use sys.set_int_max_str_digits() to increase the limit")

/-! ## The limited journal -/

section

variable (stack : Stack)

mutual

/-- `_plain`, with `frames` left to it. -/
def plainWithin (path : Text) : PyValue → Nat → Except PyError Json
  | .mapping entries, frames =>
      if frames ≤ stack.instanceCheck then .error tooDeep
      else
        match plainEntriesWithin path [] entries (frames - 1) with
        | .error e => .error e
        | .ok fields => .ok (.obj fields)
  | .seq items, frames =>
      if frames ≤ max stack.instanceCheck stack.comprehension then .error tooDeep
      else
        match plainItemsWithin path items (frames - 1 - stack.comprehension) with
        | .error e => .error e
        | .ok values => .ok (.arr values)
  | .bytes b, frames =>
      if frames ≤ stack.instanceCheck then .error tooDeep else lifted (plain path (.bytes b))
  | .other name, frames =>
      if frames ≤ stack.instanceCheck then .error tooDeep else lifted (plain path (.other name))
  | v, frames => if frames = 0 then .error tooDeep else lifted (plain path v)

def plainEntriesWithin (path : Text) (seen : List Text) :
    List (PyKey × PyValue) → Nat → Except PyError (List (Text × Json))
  | [], _ => .ok []
  | (.other, _) :: _, _ => .error (.journalError (txt "invalid object key at " ++ path))
  | (.str key, item) :: rest, frames =>
      if key ∈ seen then .error (.journalError (txt "invalid object key at " ++ path))
      else
        match plainWithin (path ++ txt "." ++ key) item frames with
        | .error e => .error e
        | .ok value =>
            match plainEntriesWithin path (key :: seen) rest frames with
            | .error e => .error e
            | .ok fields => .ok ((key, value) :: fields)

def plainItemsWithin (path : Text) : List PyValue → Nat → Except PyError (List Json)
  | [], _ => .ok []
  | item :: rest, frames =>
      match plainWithin (path ++ txt "[]") item frames with
      | .error e => .error e
      | .ok value =>
          match plainItemsWithin path rest frames with
          | .error e => .error e
          | .ok values => .ok (value :: values)

end

/-- `canonical_bytes`, with `frames` left to what it calls. -/
def canonicalBytesWithin (value : PyValue) (frames : Nat) : Except PyError Bytes :=
  match plainWithin stack rootPath value frames with
  | .error e => .error e
  | .ok v =>
      if frames < stack.dumps then .error tooDeep
      else
        match v.canon.writeWithin stack.comparison (frames - stack.dumps) with
        | .error e => .error (writeRaised e)
        | .ok () => lifted (encode v)

/-- `canonical_digest`, called `depth` calls below `dispatch`. -/
def canonicalDigestWithin (depth : Nat) (value : PyValue) : Except PyError Text :=
  match canonicalBytesWithin stack value (stack.left - (depth + 2)) with
  | .error e => .error e
  | .ok payload => .ok (hexdigest payload)

/-- `append(kind, **fields)`, called `depth` calls below `dispatch`. -/
def EventJournal.appendWithin (journal : EventJournal) (depth : Nat) (now : Int) (kind : Text)
    (fields : List (Text × PyValue)) : Except PyError (JournalEvent × EventJournal) :=
  if kind = [] ∨ 128 < kind.length then
    .error (.journalError (txt "journal event kind is invalid"))
  else
    match plainWithin stack rootPath (.mapping (fields.map fun kv => (.str kv.1, kv.2)))
        (stack.left - (depth + 1)) with
    | .error e => .error e
    | .ok (.obj plainFields) =>
        -- `append` digests through `_event_hash`
        match canonicalDigestWithin stack (depth + 2)
            (Json.obj (journal.draft now kind plainFields).base).toPy with
        | .error e => .error e
        | .ok digest =>
            let event := { journal.draft now kind plainFields with eventHash := digest }
            .ok (event, { journal with events := journal.events ++ [event] })
    | .ok _ => .error (.other (txt "AssertionError") [])

/-! ## What a value takes -/

mutual

/-- The frames `_plain` takes of a value it accepts. -/
def framesOf : PyValue → Nat
  | .mapping entries => 1 + max stack.instanceCheck (framesOfEntries entries)
  | .seq items => 1 + max stack.instanceCheck (stack.comprehension + framesOfItems items)
  | .bytes _ | .other _ => 1 + stack.instanceCheck
  | _ => 1

def framesOfEntries : List (PyKey × PyValue) → Nat
  | [] => 0
  | (_, v) :: rest => max (framesOf v) (framesOfEntries rest)

def framesOfItems : List PyValue → Nat
  | [] => 0
  | v :: rest => max (framesOf v) (framesOfItems rest)

end

/-- A value nests no deeper than `frames` let `canonical_bytes` follow. -/
structure Fits (frames : Nat) (value : Json) : Prop where
  plain : framesOf stack value.toPy ≤ frames
  dumps : stack.dumps + value.levelsOf stack.comparison ≤ frames

instance (frames : Nat) (value : Json) : Decidable (Fits stack frames value) :=
  decidable_of_iff (framesOf stack value.toPy ≤ frames ∧
      stack.dumps + value.levelsOf stack.comparison ≤ frames)
    ⟨fun both => ⟨both.1, both.2⟩, fun fits => ⟨fits.plain, fits.dumps⟩⟩

/-! ## Success -/

theorem oneFrame_ok_iff {α : Type} {frames : Nat} {x : Except Raised α} {a : α} :
    (if frames = 0 then .error tooDeep else lifted x) = .ok a ↔ x = .ok a ∧ 1 ≤ frames := by
  by_cases none : frames = 0
  · rw [if_pos none]
    exact iff_of_false (by simp) fun both => by omega
  · rw [if_neg none, lifted_ok_iff]
    exact ⟨fun made => ⟨made, by omega⟩, And.left⟩

mutual

/-- **The copy.** -/
theorem plainWithin_ok_iff : ∀ (p : PyValue) (path : Text) (frames : Nat) (v : Json),
    plainWithin stack path p frames = .ok v ↔ plain path p = .ok v ∧ framesOf stack p ≤ frames
  | .none, _, _, _ | .bool _, _, _, _ | .int _, _, _, _ | .float _, _, _, _ | .str _, _, _, _ =>
      oneFrame_ok_iff
  | .bytes b, path, frames, v | .other b, path, frames, v => by
      rw [plainWithin]
      split <;> exact iff_of_false (by simp [lifted, plain]) fun both => by cases both.1
  | .mapping entries, path, frames, v => by
      have inner := plainEntriesWithin_ok_iff entries path [] (frames - 1)
      rw [plainWithin, plain, framesOf]
      by_cases deep : frames ≤ stack.instanceCheck
      · rw [if_pos deep]
        exact iff_of_false (by simp) fun both => by omega
      · rw [if_neg deep]
        cases within : plainEntriesWithin stack path [] entries (frames - 1) with
        | error e =>
            refine iff_of_false (by simp) fun both => ?_
            split at both
            · cases both.1
            · rename_i fields made
              cases within.symm.trans ((inner fields).2 ⟨made, by omega⟩)
        | ok fields =>
            obtain ⟨made, fits⟩ := (inner fields).1 within
            rw [made]
            simp only [Except.ok.injEq]
            exact ⟨fun same => ⟨same, by omega⟩, And.left⟩
  | .seq items, path, frames, v => by
      have inner := plainItemsWithin_ok_iff items path (frames - 1 - stack.comprehension)
      rw [plainWithin, plain, framesOf]
      by_cases deep : frames ≤ max stack.instanceCheck stack.comprehension
      · rw [if_pos deep]
        exact iff_of_false (by simp) fun both => by omega
      · rw [if_neg deep]
        cases within : plainItemsWithin stack path items (frames - 1 - stack.comprehension) with
        | error e =>
            refine iff_of_false (by simp) fun both => ?_
            split at both
            · cases both.1
            · rename_i values made
              cases within.symm.trans ((inner values).2 ⟨made, by omega⟩)
        | ok values =>
            obtain ⟨made, fits⟩ := (inner values).1 within
            rw [made]
            simp only [Except.ok.injEq]
            exact ⟨fun same => ⟨same, by omega⟩, And.left⟩

theorem plainEntriesWithin_ok_iff : ∀ (ps : List (PyKey × PyValue)) (path : Text)
    (seen : List Text) (frames : Nat) (fs : List (Text × Json)),
    plainEntriesWithin stack path seen ps frames = .ok fs ↔
      plainEntries path seen ps = .ok fs ∧ framesOfEntries stack ps ≤ frames
  | [], _, _, _, _ => by simp [plainEntriesWithin, plainEntries, framesOfEntries]
  | (.other, _) :: _, _, _, _, _ =>
      iff_of_false (by simp [plainEntriesWithin]) fun both => by cases both.1
  | (.str key, item) :: rest, path, seen, frames, fs => by
      have first := plainWithin_ok_iff item (path ++ txt "." ++ key) frames
      have others := plainEntriesWithin_ok_iff rest path (key :: seen) frames
      rw [plainEntriesWithin, plainEntries, framesOfEntries, max_le_iff]
      by_cases twice : key ∈ seen
      · rw [if_pos twice, if_pos twice]
        exact iff_of_false (by simp) fun both => by cases both.1
      · rw [if_neg twice, if_neg twice]
        cases within : plainWithin stack (path ++ txt "." ++ key) item frames with
        | error e =>
            refine iff_of_false (by simp) fun both => ?_
            split at both
            · cases both.1
            · rename_i value made
              cases within.symm.trans ((first value).2 ⟨made, both.2.1⟩)
        | ok value =>
            obtain ⟨made, fits⟩ := (first value).1 within
            rw [made]
            dsimp only
            cases within' : plainEntriesWithin stack path (key :: seen) rest frames with
            | error e =>
                refine iff_of_false (by simp) fun both => ?_
                split at both
                · cases both.1
                · rename_i fields made'
                  cases within'.symm.trans ((others fields).2 ⟨made', both.2.2⟩)
            | ok fields =>
                obtain ⟨made', fits'⟩ := (others fields).1 within'
                rw [made']
                simp only [Except.ok.injEq]
                exact ⟨fun same => ⟨same, fits, fits'⟩, And.left⟩

theorem plainItemsWithin_ok_iff : ∀ (ps : List PyValue) (path : Text) (frames : Nat)
    (vs : List Json), plainItemsWithin stack path ps frames = .ok vs ↔
      plainItems path ps = .ok vs ∧ framesOfItems stack ps ≤ frames
  | [], _, _, _ => by simp [plainItemsWithin, plainItems, framesOfItems]
  | item :: rest, path, frames, vs => by
      have first := plainWithin_ok_iff item (path ++ txt "[]") frames
      have others := plainItemsWithin_ok_iff rest path frames
      rw [plainItemsWithin, plainItems, framesOfItems, max_le_iff]
      cases within : plainWithin stack (path ++ txt "[]") item frames with
      | error e =>
          refine iff_of_false (by simp) fun both => ?_
          split at both
          · cases both.1
          · rename_i value made
            cases within.symm.trans ((first value).2 ⟨made, both.2.1⟩)
      | ok value =>
          obtain ⟨made, fits⟩ := (first value).1 within
          rw [made]
          dsimp only
          cases within' : plainItemsWithin stack path rest frames with
          | error e =>
              refine iff_of_false (by simp) fun both => ?_
              split at both
              · cases both.1
              · rename_i values made'
                cases within'.symm.trans ((others values).2 ⟨made', both.2.2⟩)
          | ok values =>
              obtain ⟨made', fits'⟩ := (others values).1 within'
              rw [made']
              simp only [Except.ok.injEq]
              exact ⟨fun same => ⟨same, fits, fits'⟩, And.left⟩

end

mutual

/-- Past the limit what could be copied raises a `RecursionError`. -/
theorem plainWithin_tooDeep : ∀ (p : PyValue) (path : Text) (frames : Nat) {v : Json},
    plain path p = .ok v → frames < framesOf stack p →
    plainWithin stack path p frames = .error tooDeep
  | .none, _, frames, _, _, deep | .bool _, _, frames, _, _, deep | .int _, _, frames, _, _, deep
  | .float _, _, frames, _, _, deep | .str _, _, frames, _, _, deep =>
      if_pos (Nat.lt_one_iff.1 deep)
  | .bytes _, _, _, _, made, _ | .other _, _, _, _, made, _ => by cases made
  | .mapping entries, path, frames, _, made, deep => by
      rw [framesOf] at deep
      rw [plainWithin]
      split
      · rfl
      · rw [plain] at made
        split at made
        · cases made
        · rw [plainEntriesWithin_tooDeep entries path [] (frames - 1) ‹_› (by omega)]
  | .seq items, path, frames, _, made, deep => by
      rw [framesOf] at deep
      rw [plainWithin]
      split
      · rfl
      · rw [plain] at made
        split at made
        · cases made
        · rw [plainItemsWithin_tooDeep items path (frames - 1 - stack.comprehension) ‹_› (by omega)]

theorem plainEntriesWithin_tooDeep : ∀ (ps : List (PyKey × PyValue)) (path : Text)
    (seen : List Text) (frames : Nat) {fs : List (Text × Json)},
    plainEntries path seen ps = .ok fs → frames < framesOfEntries stack ps →
    plainEntriesWithin stack path seen ps frames = .error tooDeep
  | [], _, _, _, _, _, deep => absurd deep (Nat.not_lt_zero _)
  | (.other, _) :: _, _, _, _, _, made, _ => by cases made
  | (.str key, item) :: rest, path, seen, frames, _, made, deep => by
      obtain ⟨value, fields, rfl, first, others⟩ := plainEntries_cons made
      rw [framesOfEntries] at deep
      rw [plainEntriesWithin]
      by_cases twice : key ∈ seen
      · rw [plainEntries, if_pos twice] at made
        cases made
      · rw [if_neg twice]
        by_cases here : frames < framesOf stack item
        · rw [plainWithin_tooDeep item _ frames first here]
        · rw [(plainWithin_ok_iff stack item _ frames value).2 ⟨first, by omega⟩]
          dsimp only
          rw [plainEntriesWithin_tooDeep rest path _ frames others (by omega)]

theorem plainItemsWithin_tooDeep : ∀ (ps : List PyValue) (path : Text) (frames : Nat)
    {vs : List Json}, plainItems path ps = .ok vs → frames < framesOfItems stack ps →
    plainItemsWithin stack path ps frames = .error tooDeep
  | [], _, _, _, _, deep => absurd deep (Nat.not_lt_zero _)
  | item :: rest, path, frames, _, made, deep => by
      rw [framesOfItems] at deep
      rw [plainItemsWithin]
      rw [plainItems] at made
      split at made
      · cases made
      · rename_i value first
        split at made
        · cases made
        · rename_i values others
          by_cases here : frames < framesOf stack item
          · rw [plainWithin_tooDeep item _ frames first here]
          · rw [(plainWithin_ok_iff stack item _ frames value).2 ⟨first, by omega⟩]
            dsimp only
            rw [plainItemsWithin_tooDeep rest path frames others (by omega)]

end

mutual

/-- A value takes the frames its plain copy takes. -/
theorem framesOf_of_plain : ∀ (p : PyValue) (path : Text) {v : Json}, plain path p = .ok v →
    framesOf stack v.toPy = framesOf stack p
  | .none, _, _, made | .bool _, _, _, made | .int _, _, _, made | .str _, _, _, made => by
      cases made
      rfl
  | .float x, _, _, made => by
      rw [plain] at made
      split at made <;> cases made
      rfl
  | .bytes _, _, _, made | .other _, _, _, made => by cases made
  | .mapping entries, path, _, made => by
      rw [plain] at made
      split at made
      · cases made
      · cases made
        rw [Json.toPy, framesOf, framesOf, framesOfEntries_of_plain entries path [] ‹_›]
  | .seq items, path, _, made => by
      rw [plain] at made
      split at made
      · cases made
      · cases made
        rw [Json.toPy, framesOf, framesOf, framesOfItems_of_plain items path ‹_›]

theorem framesOfEntries_of_plain : ∀ (ps : List (PyKey × PyValue)) (path : Text) (seen : List Text)
    {fs : List (Text × Json)}, plainEntries path seen ps = .ok fs →
    framesOfEntries stack (Json.toPyFields fs) = framesOfEntries stack ps
  | [], _, _, _, made => by
      cases made
      rfl
  | (.other, _) :: _, _, _, _, made => by cases made
  | (.str key, item) :: rest, path, seen, _, made => by
      obtain ⟨value, fields, rfl, first, others⟩ := plainEntries_cons made
      rw [Json.toPyFields, framesOfEntries, framesOfEntries, framesOf_of_plain item _ first,
        framesOfEntries_of_plain rest path _ others]

theorem framesOfItems_of_plain : ∀ (ps : List PyValue) (path : Text) {vs : List Json},
    plainItems path ps = .ok vs → framesOfItems stack (Json.toPyItems vs) = framesOfItems stack ps
  | [], _, _, made => by
      cases made
      rfl
  | item :: rest, path, _, made => by
      rw [plainItems] at made
      split at made
      · cases made
      · split at made
        · cases made
        · cases made
          rw [Json.toPyItems, framesOfItems, framesOfItems, framesOf_of_plain item _ ‹_›,
            framesOfItems_of_plain rest path ‹_›]

end

/-! ## Digests and records -/

variable {stack}

theorem canonicalBytesWithin_ok_iff {value : PyValue} {frames : Nat} {payload : Bytes} :
    canonicalBytesWithin stack value frames = .ok payload ↔
      canonicalBytes value = .ok payload ∧ ∀ v, plain rootPath value = .ok v → Fits stack frames v := by
  have copied := plainWithin_ok_iff stack value rootPath frames
  unfold canonicalBytesWithin canonicalBytes
  cases within : plainWithin stack rootPath value frames with
  | error e =>
      refine iff_of_false (by simp) fun both => ?_
      split at both
      · cases both.1
      · rename_i v made
        have fits := (both.2 v made).plain
        rw [framesOf_of_plain stack value _ made] at fits
        cases within.symm.trans ((copied v).2 ⟨made, fits⟩)
  | ok v =>
      obtain ⟨made, deep⟩ := (copied v).1 within
      simp only [made, Except.ok.injEq, forall_eq']
      have written := v.canon.writeWithin_ok_iff stack.comparison (frames - stack.dumps)
      rw [Json.withinDigits_canon, Json.levelsOf_canon] at written
      by_cases short : frames < stack.dumps
      · rw [if_pos short]
        exact iff_of_false (by simp) fun both => by have := both.2.dumps; omega
      · rw [if_neg short]
        cases ends : v.canon.writeWithin stack.comparison (frames - stack.dumps) with
        | error e =>
            refine iff_of_false (by simp) fun both => ?_
            have fits := both.2.dumps
            cases ends.symm.trans (written.2 ⟨(encode_ok_iff.1 both.1).1, by omega⟩)
        | ok _ =>
            have levels := (written.1 ends).2
            rw [framesOf_of_plain stack value _ made |>.symm] at deep
            exact lifted_ok_iff.trans (and_iff_left ⟨deep, by omega⟩).symm

/-- **A digest under the limit.** -/
theorem canonicalDigestWithin_ok_iff {depth : Nat} {value : PyValue} {digest : Text} :
    canonicalDigestWithin stack depth value = .ok digest ↔ canonicalDigest value = .ok digest ∧
      ∀ v, plain rootPath value = .ok v → Fits stack (stack.left - (depth + 2)) v := by
  have bytes : ∀ payload, canonicalBytesWithin stack value (stack.left - (depth + 2)) =
      .ok payload ↔ _ := fun _ => canonicalBytesWithin_ok_iff
  unfold canonicalDigestWithin canonicalDigest
  cases within : canonicalBytesWithin stack value (stack.left - (depth + 2)) with
  | error e =>
      refine iff_of_false (by simp) fun both => ?_
      split at both
      · cases both.1
      · rename_i payload made
        cases within.symm.trans ((bytes payload).2 ⟨made, both.2⟩)
  | ok payload =>
      obtain ⟨made, fits⟩ := (bytes payload).1 within
      rw [made]
      simp only [Except.ok.injEq]
      exact (and_iff_left fits).symm

/-- A record takes a frame more than its members. -/
theorem framesOf_base (stack : Stack) (e : JournalEvent) :
    framesOf stack (Json.obj e.base).toPy = 1 + framesOf stack (Json.obj e.fields).toPy := by
  simp only [JournalEvent.base, Json.toPy, Json.toPyFields, framesOf, framesOfEntries]
  omega

theorem levelsOf_base (comparison : Nat) (e : JournalEvent) :
    (Json.obj e.base).levelsOf comparison =
      1 + max comparison ((Json.obj e.fields).levelsOf comparison) := by
  simp [JournalEvent.base, Json.levelsOf, Json.levelsOfFields, Json.sortLevels]

theorem framesOfEntries_le_iff (stack : Stack) (fs : List (Text × Json)) (frames : Nat) :
    framesOfEntries stack (Json.toPyFields fs) ≤ frames ↔
      ∀ kv ∈ fs, framesOf stack kv.2.toPy ≤ frames := by
  induction fs with
  | nil => simp [Json.toPyFields, framesOfEntries]
  | cons kv fs ih => rw [Json.toPyFields, framesOfEntries, max_le_iff, ih, List.forall_mem_cons]

theorem fits_text {depth : Nat} (shallow : depth ≤ 4) (t : Text) :
    Fits stack (stack.left - (depth + 6)) (.str t) := by
  have flat := stack.flat
  constructor
  · show 1 ≤ stack.left - (depth + 6)
    omega
  · show stack.dumps + 0 ≤ stack.left - (depth + 6)
    omega

/-- A record is two levels on top of its members. -/
theorem fits_base {depth : Nat} (shallow : depth ≤ 4) {e : JournalEvent}
    (members : ∀ kv ∈ e.fields, Fits stack (stack.left - (depth + 6)) kv.2) :
    Fits stack (stack.left - (depth + 4)) (.obj e.base) := by
  have flat := stack.flat
  have frames : framesOfEntries stack (Json.toPyFields e.fields) ≤ stack.left - (depth + 6) :=
    (framesOfEntries_le_iff stack _ _).2 fun kv member => (members kv member).plain
  have levels : Json.levelsOfFields stack.comparison e.fields ≤
      stack.left - (depth + 6) - stack.dumps := by
    refine (Json.levelsOfFields_le_iff _ _ _).2 fun kv member => ?_
    have := (members kv member).dumps
    omega
  constructor
  · rw [framesOf_base, Json.toPy, framesOf]
    omega
  · have sorting : Json.sortLevels stack.comparison e.fields.length ≤ stack.comparison := by
      unfold Json.sortLevels
      split <;> omega
    rw [levelsOf_base, Json.levelsOf]
    omega

/-- **An event under the limit.** -/
theorem appendWithin_ok_iff {journal : EventJournal} {depth : Nat} {now : Int} {kind : Text}
    {fields : List (Text × PyValue)} {accepted : JournalEvent × EventJournal} :
    journal.appendWithin stack depth now kind fields = .ok accepted ↔
      journal.append now kind fields = .ok accepted ∧
      ∀ plainFields, plainEntries rootPath [] (fields.map fun kv => (.str kv.1, kv.2)) =
        .ok plainFields →
        Fits stack (stack.left - (depth + 4)) (.obj (journal.draft now kind plainFields).base) := by
  have copied := plainWithin_ok_iff stack (.mapping (fields.map fun kv => (.str kv.1, kv.2)))
    rootPath (stack.left - (depth + 1))
  simp only [plain] at copied
  unfold EventJournal.appendWithin EventJournal.append
  by_cases kindBad : kind = [] ∨ 128 < kind.length
  · rw [if_pos kindBad, if_pos kindBad]
    exact iff_of_false (by simp) fun both => by cases both.1
  · rw [if_neg kindBad, if_neg kindBad]
    cases made : plainEntries rootPath [] (fields.map fun kv => (PyKey.str kv.1, kv.2)) with
    | error e =>
        rw [made] at copied
        refine iff_of_false ?_ fun both => by cases both.1
        cases within : plainWithin stack rootPath (.mapping (fields.map fun kv => (.str kv.1, kv.2)))
            (stack.left - (depth + 1)) with
        | error e => simp
        | ok v => cases ((copied v).1 within).1
    | ok plainFields =>
        rw [made] at copied
        simp only [Except.ok.injEq, forall_eq'] at copied ⊢
        have record : ∀ digest, canonicalDigestWithin stack (depth + 2)
            (Json.obj (journal.draft now kind plainFields).base).toPy = .ok digest ↔ _ :=
          fun _ => canonicalDigestWithin_ok_iff
        obtain ⟨distinct, -, others⟩ := plainEntries_ok _ _ _ made
        have plain : (Json.obj (journal.draft now kind plainFields).base).Plain :=
          plain_base ⟨distinct, others⟩
        simp only [plain_toPy _ _ plain, Except.ok.injEq, forall_eq'] at record
        have members : framesOf stack (.mapping (fields.map fun kv => (.str kv.1, kv.2))) <
            framesOf stack (Json.obj (journal.draft now kind plainFields).base).toPy := by
          have same := framesOf_of_plain stack _ _ (show Journal.plain rootPath
            (.mapping (fields.map fun kv => (.str kv.1, kv.2))) = .ok (.obj plainFields) by
              rw [Journal.plain, made])
          rw [← same, framesOf_base, Nat.add_comm]
          exact Nat.lt_succ_self _
        cases within : canonicalDigestWithin stack (depth + 2)
            (Json.obj (journal.draft now kind plainFields).base).toPy with
        | error e =>
            refine iff_of_false ?_ fun both => ?_
            · split
              · simp
              · rename_i plainFields' copy
                cases ((copied _).1 copy).1
                rw [within]
                simp
              · simp
            · split at both
              · cases both.1
              · rename_i digest digested
                cases within.symm.trans ((record digest).2 ⟨digested, both.2⟩)
        | ok digest =>
            obtain ⟨digested, fits⟩ := (record digest).1 within
            rw [(copied (.obj plainFields)).2 ⟨rfl, by have := fits.plain; omega⟩, digested]
            simp only [within, Except.ok.injEq]
            exact (and_iff_left fits).symm

end

end InstrumentBench.Fibsem.Journal
