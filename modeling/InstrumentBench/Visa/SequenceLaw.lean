/-
# Visa.SequenceLaw -- ten sequence numbers for each raw record

The projection numbers an event `10 * raw + offset`: 0 for a record's own event, 1 for a
termination inferred beside a write, and 0, 1, 2, … for the forced closes of a closing
connection, one for each role or resource that it left open.  Ten are enough for all
but the last kind.

* `Emits`: what one record adds to the drafts and does to the pending writes;
* `Numbered`: no two drafts share a raw record and an offset;
* `projected_sequences`: the projected events are numbered apart, in the order of their
  records, exactly when no closing connection leaves more than ten roles or resources
  open.
-/
import InstrumentBench.Visa.OpenSessions

namespace InstrumentBench.Visa

set_option autoImplicit false

open InstrumentBench.Theory InstrumentBench.Theory.PyText

/-! ## What a closing connection leaves open -/

namespace Projection

/-- The role of each open session of a connection, or its resource where no role is
known, in the order the sessions were opened. -/
def openKeys (c : Nat) (sessions : List (Text × ProjectedSession)) : List Text :=
  sessions.filterMap fun entry =>
    if entry.2.connection = c ∧ entry.2.closed = false then
      entry.2.resource.map entry.2.role.getD
    else none

theorem openKeys_cons (c : Nat) (entry : Text × ProjectedSession)
    (rest : List (Text × ProjectedSession)) :
    openKeys c (entry :: rest) = openKeys c [entry] ++ openKeys c rest := by
  unfold openKeys
  rw [← List.filterMap_append]
  rfl

/-- A record that closes no connection, or one that left at most ten roles and resources
open. -/
def Spaced (p : Projection) (event : JournalEvent) : Prop :=
  match event.body with
  | .connectionClose c _ => (openKeys c p.sessions).toFinset.card ≤ 10
  | _ => True

instance (p : Projection) (event : JournalEvent) : Decidable (p.Spaced event) := by
  unfold Spaced
  split <;> infer_instance

/-- Every record is spaced in the state the loop reads it in. -/
def SpacedAlong (repr : WireValue → Text) : Projection → List JournalEvent → Prop
  | _, [] => True
  | p, event :: rest =>
      p.Spaced event ∧ ∀ p', p.next repr event = .ok p' → SpacedAlong repr p' rest

/-! ## The forced closes -/

theorem forcedCloses_raw (event : JournalEvent) (state : WorldSnapshot) (c : Nat)
    (sessions : List (Text × ProjectedSession)) (keys : List Text) (offset : Nat) :
    ∀ d ∈ (forcedCloses event state c sessions keys offset).2, d.raw = event := by
  induction sessions generalizing keys offset with
  | nil =>
      intro d member
      cases member
  | cons entry rest ih =>
      obtain ⟨digest, session⟩ := entry
      unfold forcedCloses
      split
      · exact ih keys offset
      · split
        · dsimp only
          split
          · exact ih keys offset
          · intro d member
            rcases List.mem_cons.1 member with rfl | later
            · rfl
            · exact ih _ _ d later
        · exact ih keys offset

/-- The offsets count up from the first, one for each key not met before. -/
theorem forcedCloses_offsets (event : JournalEvent) (state : WorldSnapshot) (c : Nat)
    (sessions : List (Text × ProjectedSession)) (keys : List Text) (offset : Nat) :
    (forcedCloses event state c sessions keys offset).2.map Draft.offset =
      List.range' offset ((openKeys c sessions).toFinset \ keys.toFinset).card := by
  induction sessions generalizing keys offset with
  | nil => simp [forcedCloses, openKeys]
  | cons entry rest ih =>
      obtain ⟨digest, session⟩ := entry
      rw [openKeys_cons, List.toFinset_append]
      unfold forcedCloses
      split
      case h_1 unnamed =>
        have none' : openKeys c [(digest, session)] = [] := by
          simp [openKeys, unnamed]
        simpa [none'] using ih keys offset
      case h_2 resource named =>
      split
      case isFalse other =>
        have none' : openKeys c [(digest, session)] = [] := by
          simp [openKeys, other]
        simpa [none'] using ih keys offset
      case isTrue own =>
      have one : openKeys c [(digest, session)] = [session.role.getD resource] := by
        simp [openKeys, own, named]
      rw [one]
      dsimp only
      split
      case isTrue known =>
        have gone : ([session.role.getD resource].toFinset ∪ (openKeys c rest).toFinset) \
            keys.toFinset = (openKeys c rest).toFinset \ keys.toFinset := by
          ext key
          simp only [List.toFinset_cons, List.toFinset_nil, insert_empty_eq, Finset.mem_sdiff,
            Finset.mem_union, Finset.mem_singleton, List.mem_toFinset]
          constructor
          · rintro ⟨rfl | later, fresh⟩
            · exact absurd known fresh
            · exact ⟨later, fresh⟩
          · rintro ⟨later, fresh⟩
            exact ⟨Or.inr later, fresh⟩
        rw [gone]
        exact ih keys offset
      case isFalse fresh =>
        have grown : ([session.role.getD resource].toFinset ∪ (openKeys c rest).toFinset) \
            keys.toFinset = insert (session.role.getD resource)
              ((openKeys c rest).toFinset \ (session.role.getD resource :: keys).toFinset) := by
          ext key
          simp only [List.toFinset_cons, List.toFinset_nil, insert_empty_eq, Finset.mem_sdiff,
            Finset.mem_union, Finset.mem_singleton, List.mem_toFinset, Finset.mem_insert, not_or]
          constructor
          · rintro ⟨rfl | later, unknown⟩
            · exact Or.inl rfl
            · by_cases same : key = session.role.getD resource
              · exact Or.inl same
              · exact Or.inr ⟨later, same, unknown⟩
          · rintro (rfl | ⟨later, -, unknown⟩)
            · exact ⟨Or.inl rfl, fresh⟩
            · exact ⟨Or.inr later, unknown⟩
        rw [grown, Finset.card_insert_of_notMem (by simp), List.range'_succ, List.map_cons]
        exact congrArg (offset :: ·) (ih _ _)

/-! ## What one record emits -/

/-- **What reading a record does** to the drafts and to the writes that wait for their
hook: it makes a write wait, or completes one, or adds drafts of its own. -/
inductive Emits (event : JournalEvent) (sessions : List (Text × ProjectedSession))
    (drafts : List Draft) (writes : List (Text × JournalEvent × Bytes)) :
    List Draft → List (Text × JournalEvent × Bytes) → Prop where
  | waiting (digest : Text) (payload : Bytes) :
      Emits event sessions drafts writes drafts (PyDict.set digest (event, payload) writes)
  | completed {digest : Text} {writeEvent : JournalEvent} {request : Bytes}
      {inferred : List Draft} {draft : Draft}
      (held : writes.lookup digest = some (writeEvent, request))
      (beside : inferred = [] ∨ ∃ d, inferred = [d] ∧ d.raw = writeEvent ∧ d.offset = 1)
      (raw : draft.raw = event) (first : draft.offset = 0) :
      Emits event sessions drafts writes (drafts ++ inferred ++ [draft])
        (PyDict.pop digest writes)
  | own {new : List Draft} {writes' : List (Text × JournalEvent × Bytes)}
      (raw : ∀ d ∈ new, d.raw = event)
      (counted : new.map Draft.offset = List.range' 0 new.length)
      (few : new.length ≤ 1 ∨ ∃ c leaked, event.body = .connectionClose c leaked ∧
        new.length = (openKeys c sessions).toFinset.card)
      (fewer : writes'.Sublist writes) :
      Emits event sessions drafts writes (drafts ++ new) writes'

variable {repr : WireValue → Text} {p p' : Projection} {event : JournalEvent}
  {sessions : List (Text × ProjectedSession)} {drafts : List Draft}
  {writes writes' : List (Text × JournalEvent × Bytes)}

/-- The record adds no draft. -/
theorem Emits.nothing (fewer : writes'.Sublist writes) :
    Emits event sessions drafts writes drafts writes' := by
  have own : Emits event sessions drafts writes (drafts ++ []) writes' :=
    .own (by simp) rfl (Or.inl (by simp)) fewer
  rwa [List.append_nil] at own

/-- The record adds one draft. -/
theorem Emits.one {d : Draft} (raw : d.raw = event) (first : d.offset = 0)
    (fewer : writes'.Sublist writes) :
    Emits event sessions drafts writes (drafts ++ [d]) writes' := by
  refine .own ?_ ?_ (Or.inl (by simp)) fewer
  · intro d' member
    rw [List.mem_singleton.1 member]
    exact raw
  · simp [first]

/-- What reading a record does from a state on. -/
abbrev Reads (p : Projection) (event : JournalEvent) (p' : Projection) : Prop :=
  Emits event p.sessions p.drafts p.writes p'.drafts p'.writes

theorem attributeSet_emits {args : AuditedArgs}
    (accepted : p.attributeSet repr event args = .ok p') : p.Reads event p' := by
  unfold attributeSet at accepted
  simp only [bind, Except.bind] at accepted
  repeat' split at accepted
  all_goals first | (cases accepted; done) | skip
  all_goals
    cases accepted
    first
    | exact .one rfl rfl (List.Sublist.refl _)
    | exact .nothing (List.Sublist.refl _)

theorem result_emits {c : Nat} {operation : Text} {value : WireValue}
    (accepted : p.result repr event c operation value = .ok p') :
    p.Reads event p' := by
  unfold result at accepted
  split at accepted
  · cases accepted
  · rename_i request pending
    dsimp only at accepted
    split at accepted
    · cases accepted
    split at accepted
    · simp only [bind, Except.bind] at accepted
      split at accepted
      · cases accepted
      · cases accepted
        exact .nothing (List.Sublist.refl _)
    split at accepted
    · simp only [bind, Except.bind] at accepted
      repeat' split at accepted
      all_goals first | (cases accepted; done) | skip
      cases accepted
      exact .one rfl rfl (List.Sublist.refl _)
    split at accepted
    · exact attributeSet_emits (p := { p with requests := PyDict.pop c p.requests }) accepted
    split at accepted
    · simp only [bind, Except.bind] at accepted
      repeat' split at accepted
      all_goals first | (cases accepted; done) | skip
      all_goals
        cases accepted
        first
        | exact .one rfl rfl (List.Sublist.refl _)
        | exact .nothing (List.Sublist.refl _)
    · cases accepted
      exact .nothing (List.Sublist.refl _)

theorem noteHook_keeps {digest resource role : Text}
    (accepted : p.noteHook digest resource role = .ok p') :
    p'.drafts = p.drafts ∧ p'.writes = p.writes := by
  unfold noteHook at accepted
  repeat' split at accepted
  all_goals first | (cases accepted; done) | (cases accepted; exact ⟨rfl, rfl⟩)

/-- A completed write leaves at most one draft beside its own. -/
theorem inferWriteTermination_drafts (digest : Text) (writeEvent : JournalEvent)
    (request : Bytes) (before : WorldSnapshot) (role resource : Text) :
    ∃ inferred, (p.inferWriteTermination digest writeEvent request before role resource).drafts =
        p.drafts ++ inferred ∧
      (inferred = [] ∨ ∃ d, inferred = [d] ∧ d.raw = writeEvent ∧ d.offset = 1) ∧
      (p.inferWriteTermination digest writeEvent request before role resource).writes =
        p.writes := by
  unfold inferWriteTermination
  split
  · exact ⟨_, rfl, Or.inr ⟨_, rfl, rfl, rfl⟩, rfl⟩
  · exact ⟨[], (List.append_nil _).symm, Or.inl rfl, rfl⟩

theorem hookCompletion_emits {resource role : Text} {response : Option Bytes}
    {errorCode : Option Text} {before after : FinalState}
    (accepted : p.hookCompletion event resource role response errorCode before after = .ok p') :
    p.Reads event p' := by
  simp only [hookCompletion, bind, Except.bind] at accepted
  split at accepted
  · cases accepted
  · rename_i digest active
    split at accepted
    · cases accepted
    · rename_i noted note
      split at accepted
      · cases accepted
      · rename_i start started
        split at accepted
        · cases accepted
        rename_i finish finished
        split at accepted
        · cases accepted
        · rename_i writeEvent request held
          cases accepted
          obtain ⟨drafts, writes⟩ := noteHook_keeps note
          obtain ⟨inferred, added, beside, kept⟩ := inferWriteTermination_drafts
            (p := noted) digest writeEvent request start role resource
          have completed : Emits event p.sessions p.drafts p.writes
              (p.drafts ++ inferred ++ [writeDraft event digest request response errorCode start
                finish role resource]) (PyDict.pop digest p.writes) :=
            .completed (by rw [← writes]; exact held) beside rfl rfl
          unfold Reads
          dsimp only [draft]
          rw [added, kept, drafts, writes]
          exact completed

theorem hook_emits {record : HookEvent} (accepted : p.hook event record = .ok p') :
    p.Reads event p' := by
  cases record with
  | before digest resource role command stateBefore =>
      simp only [hook, hookBefore, bind, Except.bind] at accepted
      split at accepted
      · cases accepted
      · split at accepted
        · cases accepted
        · rename_i noted note
          repeat' split at accepted
          all_goals first | (cases accepted; done) | skip
          cases accepted
          obtain ⟨drafts, writes⟩ := noteHook_keeps note
          show Emits event p.sessions p.drafts p.writes noted.drafts noted.writes
          rw [drafts, writes]
          exact .nothing (List.Sublist.refl _)
  | native =>
      cases accepted
      exact .nothing (List.Sublist.refl _)
  | dynamic =>
      cases accepted
      exact .nothing (List.Sublist.refl _)
  | after => exact hookCompletion_emits accepted
  | error => exact hookCompletion_emits accepted

/-- **One record, read.** -/
theorem next_emits (accepted : p.next repr event = .ok p') : p.Reads event p' := by
  unfold next at accepted
  cases body : event.body with
  | rpcRequest c operation args =>
      rw [body] at accepted
      cases accepted
      unfold request Reads
      dsimp only
      split
      · split
        · exact .waiting _ _
        · exact .nothing (List.Sublist.refl _)
      · exact .nothing (List.Sublist.refl _)
  | hook origin record =>
      rw [body] at accepted
      exact hook_emits accepted
  | rpcResult c operation value status =>
      rw [body] at accepted
      exact result_emits accepted
  | rpcReject c operation errorKind code =>
      rw [body] at accepted
      cases accepted
      unfold rejected Reads
      dsimp only
      have fewer (digest : Option Text) :
          (digest.elim p.writes fun digest => PyDict.pop digest p.writes).Sublist p.writes := by
        cases digest with
        | none => exact List.Sublist.refl _
        | some digest => exact List.filter_sublist
      split
      · exact .nothing (fewer _)
      · exact .one rfl rfl (fewer _)
  | connectionReject c reason =>
      rw [body] at accepted
      cases accepted
      exact .one rfl rfl (List.Sublist.refl _)
  | connectionClose c leaked =>
      rw [body] at accepted
      cases accepted
      have offsets := forcedCloses_offsets event (p.currentState event) c p.sessions [] 0
      have size := congrArg List.length offsets
      simp only [List.toFinset_nil, Finset.sdiff_empty] at offsets size
      rw [List.length_map, List.length_range'] at size
      rw [← size] at offsets
      exact .own (forcedCloses_raw event (p.currentState event) c p.sessions [] 0) offsets
        (Or.inr ⟨c, leaked, body, size⟩) (List.Sublist.refl _)
  | forceSafe before after =>
      rw [body] at accepted
      simp only [forcedSafe, bind, Except.bind] at accepted
      repeat' split at accepted
      all_goals first | (cases accepted; done) | skip
      cases accepted
      exact .one rfl rfl (List.Sublist.refl _)
  | _ =>
      rw [body] at accepted
      cases accepted
      exact .nothing (List.Sublist.refl _)

theorem Emits.keeps {sessions : List (Text × ProjectedSession)} {drafts drafts' : List Draft}
    {writes writes' : List (Text × JournalEvent × Bytes)}
    (emits : Emits event sessions drafts writes drafts' writes') {d : Draft} (kept : d ∈ drafts) :
    d ∈ drafts' := by
  cases emits with
  | waiting digest payload => exact kept
  | completed held beside raw first =>
      exact List.mem_append_left _ (List.mem_append_left _ kept)
  | own raw counted few fewer => exact List.mem_append_left _ kept

/-- What was drafted stays drafted. -/
theorem replay_drafts {records : List JournalEvent} (read : p.replay repr records = .ok p')
    {d : Draft} (kept : d ∈ p.drafts) : d ∈ p'.drafts := by
  induction records generalizing p with
  | nil =>
      cases read
      exact kept
  | cons event rest ih =>
      obtain ⟨q, accepted, later⟩ := replay_cons read
      exact ih later ((next_emits accepted).keeps kept)

/-! ## The slots of the drafts -/

/-- A raw record and an offset beside it. -/
def slot (d : Draft) : Nat × Nat := (d.raw.sequence, d.offset)

/-- Writing a value of a new rank keeps the ranks apart. -/
theorem nodup_set {κ α β : Type} [DecidableEq κ] (rank : α → β) (k : κ) (v : α)
    {d : List (κ × α)} (apart : (d.map fun entry => rank entry.2).Nodup)
    (new : ∀ entry ∈ d, rank entry.2 ≠ rank v) :
    ((PyDict.set k v d).map fun entry => rank entry.2).Nodup := by
  induction d with
  | nil => simp [PyDict.set]
  | cons first rest ih =>
      obtain ⟨j, old⟩ := first
      obtain ⟨away, later⟩ := List.nodup_cons.1 apart
      have newLater : ∀ entry ∈ rest, rank entry.2 ≠ rank v :=
        fun entry member => new entry (List.mem_cons_of_mem _ member)
      unfold PyDict.set
      split
      · refine List.nodup_cons.2 ⟨?_, later⟩
        intro member
        obtain ⟨entry, listed, same⟩ := List.mem_map.1 member
        exact newLater entry listed same
      · refine List.nodup_cons.2 ⟨?_, ih later newLater⟩
        intro member
        obtain ⟨entry, listed, same⟩ := List.mem_map.1 member
        rcases PyDict.mem_set listed with kept | written
        · exact away (List.mem_map.2 ⟨entry, kept, same⟩)
        · rw [written] at same
          exact new (j, old) List.mem_cons_self same.symm

/-- **The drafts of the first `n` records.**  No two share a slot, and a write that still
waits has drafted nothing beside its request. -/
structure Numbered (n : Nat) (drafts : List Draft)
    (writes : List (Text × JournalEvent × Bytes)) : Prop where
  drafted : ∀ d ∈ drafts, d.raw.sequence ≤ n
  apart : (drafts.map slot).Nodup
  awaited : ∀ w ∈ writes, w.2.1.sequence ≤ n
  unshared : (writes.map fun w => w.2.1.sequence).Nodup
  untouched : ∀ w ∈ writes, ∀ d ∈ drafts, d.raw.sequence ≠ w.2.1.sequence

theorem Numbered.nil : Numbered 0 [] [] where
  drafted := by simp
  apart := List.nodup_nil
  awaited := by simp
  unshared := List.nodup_nil
  untouched := by simp

variable {n : Nat}

/-- Drafts of the record itself take new slots. -/
theorem Numbered.own (numbered : Numbered n drafts writes) (next : event.sequence = n + 1)
    {new : List Draft} (raw : ∀ d ∈ new, d.raw = event)
    (counted : (new.map Draft.offset).Nodup) (fewer : writes'.Sublist writes) :
    Numbered (n + 1) (drafts ++ new) writes' := by
  have late : ∀ d ∈ new, d.raw.sequence = n + 1 := fun d member => by rw [raw d member, next]
  refine ⟨?_, ?_, ?_, ?_, ?_⟩
  · intro d member
    rcases List.mem_append.1 member with old | own
    · have := numbered.drafted d old
      omega
    · rw [late d own]
  · rw [List.map_append]
    refine List.Nodup.append numbered.apart ?_ ?_
    · exact List.Nodup.of_map Prod.snd (by simpa [slot, Function.comp_def] using counted)
    · intro pair old own
      obtain ⟨d, listed, rfl⟩ := List.mem_map.1 old
      obtain ⟨d', listed', same⟩ := List.mem_map.1 own
      have := numbered.drafted d listed
      have := late d' listed'
      have := congrArg Prod.fst same
      simp only [slot] at this
      omega
  · intro w member
    have := numbered.awaited w (fewer.subset member)
    omega
  · exact numbered.unshared.sublist (fewer.map _)
  · intro w member d listed
    have waiting := fewer.subset member
    rcases List.mem_append.1 listed with old | own
    · exact numbered.untouched w waiting d old
    · have := numbered.awaited w waiting
      rw [late d own]
      omega

/-- **One record keeps the slots apart.** -/
theorem Numbered.step (numbered : Numbered n drafts writes) (next : event.sequence = n + 1)
    {drafts' : List Draft} (emits : Emits event sessions drafts writes drafts' writes') :
    Numbered (n + 1) drafts' writes' := by
  cases emits with
  | waiting digest payload =>
      have old : ∀ w ∈ writes, w.2.1.sequence ≠ event.sequence := by
        intro w member
        have := numbered.awaited w member
        omega
      refine ⟨?_, numbered.apart, ?_, ?_, ?_⟩
      · intro d member
        have := numbered.drafted d member
        omega
      · intro w member
        rcases PyDict.mem_set member with kept | written
        · have := numbered.awaited w kept
          omega
        · rw [written]
          show event.sequence ≤ n + 1
          omega
      · exact nodup_set (fun v : JournalEvent × Bytes => v.1.sequence) digest (event, payload)
          numbered.unshared old
      · intro w member d listed
        rcases PyDict.mem_set member with kept | written
        · exact numbered.untouched w kept d listed
        · have := numbered.drafted d listed
          rw [written]
          show d.raw.sequence ≠ event.sequence
          omega
  | @completed digest writeEvent request inferred draft held beside raw first =>
      have entry := PyDict.mem_of_lookup held
      -- the termination takes a slot beside the request, the write one of its own
      have inferredNumbered : Numbered n (drafts ++ inferred) (PyDict.pop digest writes) := by
        have fewer : (PyDict.pop digest writes).Sublist writes := List.filter_sublist
        have elsewhere : ∀ w ∈ PyDict.pop digest writes, w.2.1.sequence ≠ writeEvent.sequence := by
          intro w member same
          obtain ⟨kept, other⟩ := List.mem_filter.1 member
          have equal := List.inj_on_of_nodup_map numbered.unshared kept entry same
          rw [equal] at other
          simp at other
        rcases beside with rfl | ⟨d, rfl, rfl, offset⟩
        · rw [List.append_nil]
          exact ⟨numbered.drafted, numbered.apart, fun w member =>
            numbered.awaited w (fewer.subset member), numbered.unshared.sublist (fewer.map _),
            fun w member => numbered.untouched w (fewer.subset member)⟩
        · refine ⟨?_, ?_, fun w member => numbered.awaited w (fewer.subset member),
            numbered.unshared.sublist (fewer.map _), ?_⟩
          · intro d' member
            rcases List.mem_append.1 member with old | last
            · exact numbered.drafted d' old
            · rw [List.mem_singleton.1 last]
              exact numbered.awaited _ entry
          · rw [List.map_append]
            refine List.Nodup.append numbered.apart (by simp) ?_
            intro pair old last
            obtain ⟨d', listed, rfl⟩ := List.mem_map.1 old
            have same := congrArg Prod.fst (List.mem_singleton.1 last)
            exact numbered.untouched _ entry d' listed same
          · intro w member d' listed
            rcases List.mem_append.1 listed with old | last
            · exact numbered.untouched w (fewer.subset member) d' old
            · rw [List.mem_singleton.1 last]
              exact (elsewhere w member).symm
      refine inferredNumbered.own next ?_ (by simp) (List.Sublist.refl _)
      intro d member
      rw [List.mem_singleton.1 member]
      exact raw
  | own raw counted few fewer =>
      refine numbered.own next raw ?_ fewer
      rw [counted]
      exact List.nodup_range'

/-! ## Offsets below ten -/

/-- A closing connection takes one offset for each key it left open. -/
theorem next_closes {c leaked : Nat} (body : event.body = .connectionClose c leaked)
    (accepted : p.next repr event = .ok p') :
    ∃ new, p'.drafts = p.drafts ++ new ∧
      new.map Draft.offset = List.range' 0 (openKeys c p.sessions).toFinset.card := by
  unfold next at accepted
  rw [body] at accepted
  cases accepted
  have offsets := forcedCloses_offsets event (p.currentState event) c p.sessions [] 0
  simp only [List.toFinset_nil, Finset.sdiff_empty] at offsets
  exact ⟨_, rfl, offsets⟩

/-- **A record stays within its ten numbers exactly when it is spaced.** -/
theorem next_offsets (accepted : p.next repr event = .ok p') :
    (∀ d ∈ p'.drafts, d.offset < 10) ↔ (∀ d ∈ p.drafts, d.offset < 10) ∧ p.Spaced event := by
  by_cases closing : ∃ c leaked, event.body = .connectionClose c leaked
  · obtain ⟨c, leaked, body⟩ := closing
    obtain ⟨new, added, offsets⟩ := next_closes body accepted
    have spaced : p.Spaced event ↔ ∀ d ∈ new, d.offset < 10 := by
      have through (k : Nat) : (∀ d ∈ new, d.offset < k) ↔ ∀ o ∈ new.map Draft.offset, o < k := by
        simp
      rw [through, offsets]
      unfold Spaced
      rw [body]
      simp only [List.mem_range'_1, Nat.zero_le, zero_add, true_and]
      constructor
      · intro few o small
        omega
      · intro small
        by_contra many
        have := small 10 (by omega)
        omega
    rw [added, spaced]
    simp only [List.mem_append, or_imp, forall_and]
  · have spaced : p.Spaced event := by
      unfold Spaced
      split
      · rename_i c leaked body
        exact absurd ⟨c, leaked, body⟩ closing
      · trivial
    have emits := next_emits accepted
    unfold Reads at emits
    generalize p'.drafts = drafts' at emits ⊢
    generalize p'.writes = writes' at emits
    simp only [spaced, and_true]
    cases emits with
    | waiting => rfl
    | completed held beside raw first =>
        simp only [List.mem_append, List.mem_singleton, or_imp, forall_and, forall_eq, first]
        rcases beside with rfl | ⟨d, rfl, -, offset⟩
        · simp
        · simp [offset]
    | own raw counted few fewer =>
        rename_i new
        rcases few with few | ⟨c, leaked, body, -⟩
        · simp only [List.mem_append, or_imp, forall_and]
          refine and_iff_left ?_
          intro d member
          have listed : d.offset ∈ new.map Draft.offset := List.mem_map_of_mem member
          rw [counted, List.mem_range'_1] at listed
          omega
        · exact absurd ⟨c, leaked, body⟩ closing

/-- **A whole replay**: its slots are apart, and its offsets below ten exactly when every
record was spaced. -/
theorem replay_offsets {records : List JournalEvent} {n : Nat} {p p' : Projection}
    (numbered : Numbered n p.drafts p.writes)
    (sequences : records.map JournalEvent.sequence = List.range' (n + 1) records.length)
    (read : p.replay repr records = .ok p') :
    (p'.drafts.map slot).Nodup ∧
      ((∀ d ∈ p'.drafts, d.offset < 10) ↔
        (∀ d ∈ p.drafts, d.offset < 10) ∧ SpacedAlong repr p records) := by
  induction records generalizing n p with
  | nil =>
      cases read
      exact ⟨numbered.apart, (and_iff_left trivial).symm⟩
  | cons event rest ih =>
      rw [List.length_cons, List.range'_succ, List.map_cons, List.cons.injEq] at sequences
      obtain ⟨first, later⟩ := sequences
      obtain ⟨q, accepted, read⟩ := @replay_append repr p p' [event] rest read
      have accepted := replay_singleton accepted
      obtain ⟨apart, offsets⟩ := ih (numbered.step first (next_emits accepted)) later read
      refine ⟨apart, ?_⟩
      rw [offsets, next_offsets accepted, and_assoc]
      refine and_congr_right fun _ => and_congr_right fun _ => ?_
      constructor
      · intro along p' same
        rw [accepted] at same
        cases same
        exact along
      · intro along
        exact along q accepted

end Projection

/-! ## The projected events -/

/-- **The law.**  The numbers increase, and each tells its raw record. -/
def SequenceLaw (events : List EvidenceEvent) : Prop :=
  (events.map EvidenceEvent.sequence).Pairwise (· < ·) ∧
    ∀ e ∈ events, e.sequence / 10 = e.sourceSequence

/-- Drafts in slots of their own, below ten, are numbered apart. -/
theorem nodup_numberedEvents {sessions : List (Text × ProjectedSession)} {drafts : List Draft}
    (apart : (drafts.map Projection.slot).Nodup) (small : ∀ d ∈ drafts, d.offset < 10) :
    ((numberedEvents sessions drafts).map EvidenceEvent.sequence).Nodup := by
  unfold numberedEvents
  rw [((List.mergeSort_perm _ _).map _).nodup_iff, List.map_map]
  refine List.Nodup.map_on ?_ (List.Nodup.of_map _ apart)
  intro d member d' member' same
  have bound := small d member
  have bound' := small d' member'
  have equal : d.raw.sequence * 10 + d.offset = d'.raw.sequence * 10 + d'.offset := same
  refine List.inj_on_of_nodup_map apart member member' ?_
  exact Prod.ext (show d.raw.sequence = d'.raw.sequence by omega)
    (show d.offset = d'.offset by omega)

/-- Events numbered apart keep the law exactly when no offset passes nine. -/
theorem sequenceLaw_iff {sessions : List (Text × ProjectedSession)} {drafts : List Draft}
    (apart : ((numberedEvents sessions drafts).map EvidenceEvent.sequence).Nodup) :
    SequenceLaw (numberedEvents sessions drafts) ↔ ∀ d ∈ drafts, d.offset < 10 := by
  constructor
  · rintro ⟨-, told⟩ d member
    have told := told _ (mem_numberedEvents.2 ⟨d, member, rfl⟩)
    have told : (d.raw.sequence * 10 + d.offset) / 10 = d.raw.sequence := told
    omega
  · intro small
    refine ⟨?_, ?_⟩
    · have sorted : (numberedEvents sessions drafts).Pairwise fun a b =>
          decide (a.sequence ≤ b.sequence) = true :=
        List.pairwise_mergeSort (by simp; omega) (by simp; omega) _
      have ranked := List.pairwise_map.2 (sorted.imp of_decide_eq_true)
      exact (ranked.and apart).imp fun both => Nat.lt_of_le_of_ne both.1 both.2
    · intro e member
      obtain ⟨d, listed, rfl⟩ := mem_numberedEvents.1 member
      have := small d listed
      show (d.raw.sequence * 10 + d.offset) / 10 = d.raw.sequence
      omega

/-! ## The collision fault -/

/-- What `project_events` raises where two events have one number. -/
def collision : ProjectionFault := .error (txt "projected event sequence collision")

/-- The computation does not end in the collision fault. -/
def Clear {α : Type} (x : Except ProjectionFault α) : Prop := x ≠ .error collision

namespace Clear

variable {α β : Type}

theorem ok (a : α) : Clear (.ok a) := nofun

theorem bind {x : Except ProjectionFault α} {f : α → Except ProjectionFault β} (first : Clear x)
    (later : ∀ a, Clear (f a)) : Clear (x >>= f) := by
  cases x with
  | error e => exact fun h => first (congrArg Except.error (Except.error.inj h))
  | ok a => exact later a

theorem map {x : Except ProjectionFault α} (f : α → β) (first : Clear x) : Clear (x.map f) := by
  cases x with
  | error e => exact fun h => first (congrArg Except.error (Except.error.inj h))
  | ok a => exact ok _

/-- Every other message is another fault. -/
theorem inconsistent {message : String}
    (other : txt message ≠ txt "projected event sequence collision") :
    Clear (Visa.inconsistent message : Except ProjectionFault α) := by
  intro h
  exact other (ProjectionFault.error.inj (Except.error.inj h))

theorem requiredText (key : String) (t : Text) : Clear (Visa.requiredText key t) := by
  unfold Visa.requiredText
  split
  · intro h
    have same := congrArg List.head? (ProjectionFault.error.inj (Except.error.inj h))
    revert same
    show some (CodePoint.ofChar 'r') ≠ some (CodePoint.ofChar 'p')
    decide
  · exact ok t

theorem finiteFloat (x : Float) : Clear (Visa.finiteFloat x) := by
  unfold Visa.finiteFloat
  split
  · exact ok x
  · exact inconsistent (by decide)

theorem finitePoints (points : List Float) : Clear (Visa.finitePoints points) := by
  induction points with
  | nil => exact ok []
  | cons x rest ih =>
      have first := finiteFloat x
      unfold Visa.finitePoints
      split
      · rename_i e failed
        rw [failed] at first
        exact fun h => first (congrArg Except.error (Except.error.inj h))
      · exact ih.map _

theorem snapshot (state : FinalState) (clockMs : Int) (stimulusStartedMs : Option Int) :
    Clear (state.snapshot clockMs stimulusStartedMs) := by
  unfold FinalState.snapshot
  dsimp only
  split
  · rename_i e failed
    have points := finitePoints ((state.awgWaveforms.lookup
      ((if state.awgSelected.isEmpty = true then none
        else some (upper state.awgSelected)).getD [])).getD [])
    rw [failed] at points
    exact fun h => points (congrArg Except.error (Except.error.inj h))
  split
  · rename_i e failed
    have voltage := finiteFloat state.psuVoltage
    rw [failed] at voltage
    exact fun h => voltage (congrArg Except.error (Except.error.inj h))
  split
  · rename_i e failed
    have amplitude := finiteFloat state.awgAmplitude
    rw [failed] at amplitude
    exact fun h => amplitude (congrArg Except.error (Except.error.inj h))
  · exact ok _

end Clear

namespace Projection

variable (p : Projection) (event : JournalEvent)

theorem noteHook_clear (digest resource role : Text) : Clear (p.noteHook digest resource role) := by
  unfold noteHook
  split
  · exact .ok p
  · split
    · exact .ok _
    · rename_i e failed
      have text := Clear.requiredText "resource" resource
      rw [failed] at text
      exact fun h => text (congrArg Except.error (Except.error.inj h))
    · rename_i e failed _
      have text := Clear.requiredText "role" role
      rw [failed] at text
      exact fun h => text (congrArg Except.error (Except.error.inj h))

theorem hookCompletion_clear (resource role : Text) (response : Option Bytes)
    (errorCode : Option Text) (before after : FinalState) :
    Clear (p.hookCompletion event resource role response errorCode before after) := by
  unfold hookCompletion
  split
  · exact .inconsistent (by decide)
  · refine (p.noteHook_clear _ resource role).bind fun p => (Clear.snapshot _ _ _).bind fun start =>
      (Clear.snapshot _ _ _).bind fun finish => ?_
    split
    · exact .inconsistent (by decide)
    · exact .ok _

theorem hook_clear (record : HookEvent) : Clear (p.hook event record) := by
  cases record with
  | before digest resource role command stateBefore =>
      refine (Clear.requiredText _ _).bind fun digest => (p.noteHook_clear _ _ _).bind fun p => ?_
      split
      · exact .inconsistent (by decide)
      · exact (Clear.snapshot _ _ _).bind fun _ => .ok _
  | native => exact .ok _
  | dynamic => exact .ok _
  | after => exact p.hookCompletion_clear event _ _ _ _ _ _
  | error => exact p.hookCompletion_clear event _ _ _ _ _ _

theorem requiredDigest_clear (args : AuditedArgs) : Clear args.requiredDigest := by
  unfold AuditedArgs.requiredDigest
  split
  · exact .ok _
  · exact .inconsistent (by decide)

theorem requiredSession_clear (digest : Text) : Clear (p.requiredSession digest) := by
  unfold requiredSession
  split
  · exact .ok _
  · exact .inconsistent (by decide)

theorem resultToken_clear (value : WireValue) : Clear (resultToken value) := by
  unfold resultToken
  split
  · exact Clear.requiredText _ _
  · exact .inconsistent (by decide)

theorem attributeSet_clear (repr : WireValue → Text) (args : AuditedArgs) :
    Clear (p.attributeSet repr event args) := by
  have attributeId : Clear args.attributeId := by
    unfold AuditedArgs.attributeId
    split
    · exact .ok _
    · exact .inconsistent (by decide)
  refine (requiredDigest_clear args).bind fun digest => (p.requiredSession_clear digest).bind
    fun session => attributeId.bind fun id => ?_
  dsimp only
  generalize (if id = ResourceAttribute.timeoutValue then session else _) = session
  split
  · exact .ok _
  split
  · split
    · exact nofun
    · exact .ok _
  · exact .ok _

theorem result_clear (repr : WireValue → Text) (c : Nat) (operation : Text) (value : WireValue) :
    Clear (p.result repr event c operation value) := by
  unfold result
  split
  · exact .inconsistent (by decide)
  · rename_i request pending
    have resourceName : Clear request.args.resourceName := by
      unfold AuditedArgs.resourceName
      split
      · exact Clear.requiredText _ _
      · exact .inconsistent (by decide)
    dsimp only
    split
    · exact .inconsistent (by decide)
    split
    · exact (resultToken_clear value).bind fun _ => .ok _
    split
    · exact (resultToken_clear value).bind fun _ => resourceName.bind fun _ => .ok _
    split
    · exact attributeSet_clear _ event repr _
    split
    · refine (requiredDigest_clear request.args).bind fun digest =>
        (requiredSession_clear _ digest).bind fun session => ?_
      split <;> exact .ok _
    · exact .ok _

/-- **No record is read as a collision.** -/
theorem next_clear (repr : WireValue → Text) : Clear (p.next repr event) := by
  unfold next
  split
  case h_1 => exact .ok _
  case h_2 => exact p.hook_clear event _
  case h_3 => exact p.result_clear event repr _ _ _
  case h_4 => exact .ok _
  case h_5 => exact .ok _
  case h_6 => exact .ok _
  case h_7 => exact (Clear.snapshot _ _ _).bind fun _ => (Clear.snapshot _ _ _).bind fun _ => .ok _
  case h_8 => exact .ok _

theorem replay_clear (repr : WireValue → Text) (records : List JournalEvent) :
    Clear (p.replay repr records) := by
  unfold replay
  induction records generalizing p with
  | nil => exact .ok p
  | cons event rest ih =>
      rw [List.foldlM_cons]
      exact (p.next_clear event repr).bind ih

end Projection

/-! ## Whole journals -/

/-- Every `connection.close` of a journal closes a connection that left at most ten roles
and resources open. -/
def SpacedJournal (repr : WireValue → Text) (records : List JournalEvent) : Prop :=
  ∀ first ∈ records.head?, ∀ lastState, initialState records = .ok lastState →
    Projection.SpacedAlong repr (Projection.start first.monotonicNs lastState) records

/-- The projection does not collide, and what it returns keeps the law. -/
def Sequenced (repr : WireValue → Text) (records : List JournalEvent) : Prop :=
  Clear (projectEvents repr records) ∧
    ∀ events, projectEvents repr records = .ok events → SequenceLaw events

/-- The sequence numbers of a journal that is read from its first record. -/
theorem sequences_of_valid {records : List JournalEvent} (valid : validRecords records = true) :
    records.map JournalEvent.sequence = List.range' (0 + 1) records.length := by
  have listed := of_decide_eq_true valid
  rw [listed, List.range_eq_range', List.range'_eq_map_range, List.map_map]
  rw [List.range'_eq_map_range]
  apply List.map_congr_left
  intro i member
  show 0 + i + 1 = 0 + 1 + i
  omega

/-- The replay of a valid journal from its start. -/
theorem replay_journal {repr : WireValue → Text} {records : List JournalEvent} {startNs : Int}
    {lastState : WorldSnapshot} {p : Projection} (valid : validRecords records = true)
    (read : (Projection.start startNs lastState).replay repr records = .ok p) :
    (p.drafts.map Projection.slot).Nodup ∧
      ((∀ d ∈ p.drafts, d.offset < 10) ↔
        Projection.SpacedAlong repr (.start startNs lastState) records) := by
  obtain ⟨apart, offsets⟩ :=
    Projection.replay_offsets .nil (sequences_of_valid valid) read
  refine ⟨apart, offsets.trans (and_iff_right ?_)⟩
  intro d member
  cases member

theorem initialState_clear (records : List JournalEvent) : Clear (initialState records) := by
  unfold initialState
  split
  · exact .snapshot _ _ _
  · exact .inconsistent (by decide)

/-- **The sequence law.**  A journal whose closing connections leave at most ten roles and
resources open is projected without a collision, and what is returned is numbered apart, in
order, and by its raw records; and a projection that returns keeps the law on no other
journal. -/
theorem projected_sequences (repr : WireValue → Text) (records : List JournalEvent) :
    (SpacedJournal repr records → Sequenced repr records) ∧
      ∀ events, projectEvents repr records = .ok events →
        (SequenceLaw events ↔ SpacedJournal repr records) := by
  cases records with
  | nil =>
      have law : SequenceLaw [] := ⟨List.Pairwise.nil, by simp⟩
      refine ⟨fun _ => ⟨.ok [], ?_⟩, ?_⟩
      · intro events returned
        cases returned
        exact law
      · intro events returned
        cases returned
        refine iff_of_true law ?_
        intro first member
        cases member
  | cons first rest =>
      unfold Sequenced projectEvents
      cases valid : validRecords (first :: rest) with
      | false => exact ⟨fun _ => ⟨.inconsistent (by decide), nofun⟩, nofun⟩
      | true =>
          simp only [Bool.not_true, Bool.false_eq_true, if_false]
          cases initial : initialState (first :: rest) with
          | error e =>
              have other := initialState_clear (first :: rest)
              rw [initial] at other
              exact ⟨fun _ => ⟨fun h => other (congrArg Except.error (Except.error.inj h)),
                nofun⟩, nofun⟩
          | ok lastState =>
              simp only [bind, Except.bind]
              cases read : (Projection.start first.monotonicNs lastState).replay repr
                  (first :: rest) with
              | error e =>
                  have other := Projection.replay_clear
                    (.start first.monotonicNs lastState) repr (first :: rest)
                  rw [read] at other
                  exact ⟨fun _ => ⟨fun h => other (congrArg Except.error (Except.error.inj h)),
                    nofun⟩, nofun⟩
              | ok p =>
                  have spaced : SpacedJournal repr (first :: rest) ↔
                      Projection.SpacedAlong repr (.start first.monotonicNs lastState)
                        (first :: rest) := by
                    unfold SpacedJournal
                    simp [initial]
                  obtain ⟨apart, offsets⟩ := replay_journal valid read
                  rw [spaced, ← offsets]
                  dsimp only
                  split
                  case isTrue collided =>
                    refine ⟨fun small => absurd (nodup_numberedEvents apart small) collided, nofun⟩
                  case isFalse distinct =>
                  have law := sequenceLaw_iff (not_not.1 distinct)
                  split
                  · exact ⟨fun _ => ⟨.inconsistent (by decide), nofun⟩, nofun⟩
                  · refine ⟨fun small => ⟨.ok _, ?_⟩, ?_⟩
                    · intro events returned
                      cases returned
                      exact law.2 small
                    · intro events returned
                      cases returned
                      exact law

/-! ## Eleven spellings of one resource -/

/-- The numbers of the events, before they are sorted. -/
def draftNumbers (p : Projection) : List Nat :=
  p.drafts.map fun d => d.raw.sequence * 10 + d.offset

/-- What a journal projects to where its events are not numbered apart. -/
theorem projectEvents_collides {repr : WireValue → Text} {records : List JournalEvent}
    {first : JournalEvent} {lastState : WorldSnapshot} {p : Projection}
    (head : records.head? = some first) (valid : validRecords records = true)
    (initial : initialState records = .ok lastState)
    (read : (Projection.start first.monotonicNs lastState).replay repr records = .ok p)
    (shared : ¬ (draftNumbers p).Nodup) : projectEvents repr records = .error collision := by
  cases records with
  | nil => cases head
  | cons first' rest =>
      cases head
      unfold projectEvents
      simp only [valid, Bool.not_true, Bool.false_eq_true, if_false, bind, Except.bind, initial,
        read]
      rw [if_pos]
      · rfl
      · unfold numberedEvents
        rw [((List.mergeSort_perm _ _).map _).nodup_iff, List.map_map]
        exact shared

/-- A journal that is read to the end, with nothing left over and its events numbered
apart, is returned. -/
theorem projectEvents_returns {repr : WireValue → Text} {records : List JournalEvent}
    {first : JournalEvent} {lastState : WorldSnapshot} {p : Projection}
    (head : records.head? = some first) (valid : validRecords records = true)
    (initial : initialState records = .ok lastState)
    (read : (Projection.start first.monotonicNs lastState).replay repr records = .ok p)
    (apart : (draftNumbers p).Nodup)
    (settled : p.activeHook = none ∧ p.writes = [] ∧ p.requests = []) :
    projectEvents repr records = .ok (numberedEvents (completeRoles p.sessions) p.drafts) := by
  cases records with
  | nil => cases head
  | cons first' rest =>
      cases head
      obtain ⟨idle, written, answered⟩ := settled
      have distinct : ((numberedEvents (completeRoles p.sessions) p.drafts).map
          EvidenceEvent.sequence).Nodup := by
        unfold numberedEvents
        rw [((List.mergeSort_perm _ _).map _).nodup_iff, List.map_map]
        exact apart
      unfold projectEvents
      simp only [valid, Bool.not_true, Bool.false_eq_true, if_false, bind, Except.bind, initial,
        read]
      rw [if_neg (not_not.2 distinct), if_neg (by simp [idle, written, answered])]
      rfl

/-- A journal is read to the end with nothing left over and its events numbered apart, in
a state that `check` accepts. -/
def settles (repr : WireValue → Text) (records : List JournalEvent) (check : Projection → Bool) :
    Bool :=
  validRecords records && records.head?.any fun first =>
    match initialState records with
    | .error _ => false
    | .ok lastState =>
        match (Projection.start first.monotonicNs lastState).replay repr records with
        | .error _ => false
        | .ok p => ((draftNumbers p).Nodup && (p.activeHook.isNone && p.writes.isEmpty &&
            p.requests.isEmpty)) && check p

theorem projectEvents_of_settles {repr : WireValue → Text} {records : List JournalEvent}
    {check : Projection → Bool} (settled : settles repr records check = true) :
    ∃ p, check p = true ∧
      projectEvents repr records = .ok (numberedEvents (completeRoles p.sessions) p.drafts) := by
  obtain ⟨valid, ends⟩ := Bool.and_eq_true_iff.1 settled
  obtain ⟨first, head, ends⟩ := (Option.any_eq_true _ _).1 ends
  split at ends
  · cases ends
  · rename_i lastState initial
    split at ends
    · cases ends
    · rename_i p read
      simp only [Bool.and_eq_true, decide_eq_true_eq, Option.isNone_iff_eq_none,
        List.isEmpty_iff] at ends
      obtain ⟨⟨apart, ⟨idle, written⟩, answered⟩, checked⟩ := ends
      exact ⟨p, checked, projectEvents_returns head valid initial read apart
        ⟨idle, written, answered⟩⟩

/-- The name of the supply, with other letters of its interface in lower case. -/
def spellings : List Text :=
  ["TCPIP0", "tCPIP0", "TcPIP0", "TCpIP0", "TCPiP0", "TCPIp0", "tcPIP0", "tCpIP0", "tCPiP0",
    "tCPIp0", "TcpIP0"].map fun board => txt board ++ txt "::192.0.2.10::inst0::INSTR"

/-- PyVISA, as far as a client meets it that uses these names: it folds the case. -/
def Pyvisa.folding : Pyvisa :=
  { Pyvisa.lan with
    parseResourceName := fun t =>
      if t ∈ spellings then
        Pyvisa.lan.parseResourceName (txt "TCPIP0::192.0.2.10::inst0::INSTR")
      else none }

def foldingBench : Setup := ⟨⟨.nominal 1, .unmatched⟩, .folding⟩

/-- A client opens the supply under each of its names and goes, and another one sends a
malformed frame. -/
def spellingRun : List (Int × Action) :=
  let idle : Env := .issuing (txt "x") 90
  openingRun 0 10001 (txt "rm") 1 (spellings.mapIdx fun n name =>
    ([CodePoint.ofChar 't', Json.hexDigit n], name, n + 2)) ++
    [(0, .connect 10001), (0, .advance 1 idle), (0, .disconnect 0)] ++
    List.replicate 14 (0, .advance 0 idle) ++ [(0, .malformed 1), (0, .freeze), (0, .disconnect 1)] ++
    List.replicate 2 (0, .advance 1 idle) ++ [(0, .finish), (0, .forceSafe)]

/-- **Eleven open resources take eleven numbers**: the last forced close has the number of
the record after it. -/
theorem spelled_closes_collide :
    ¬ ∀ setup b repr, Reachable setup b → Sequenced repr b.journal := by
  intro always
  have runs : (run foldingBench (.initial foldingBench.simulator.spec) spellingRun).any (fun b =>
      validRecords b.journal && b.journal.head?.any fun first =>
        match initialState b.journal with
        | .error _ => false
        | .ok lastState =>
            match (Projection.start first.monotonicNs lastState).replay (fun _ => []) b.journal with
            | .error _ => false
            | .ok p => ¬ (draftNumbers p).Nodup) = true := by
    decide +kernel
  obtain ⟨b, ran, ends⟩ := (Option.any_eq_true _ _).1 runs
  obtain ⟨valid, ends⟩ := Bool.and_eq_true_iff.1 ends
  obtain ⟨first, head, ends⟩ := (Option.any_eq_true _ _).1 ends
  split at ends
  · cases ends
  · rename_i lastState initial
    split at ends
    · cases ends
    · rename_i p read
      exact (always _ b _ (Reachable.initial.run ran)).1
        (projectEvents_collides head valid initial read (of_decide_eq_true ends))

end InstrumentBench.Visa
