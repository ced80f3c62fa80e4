/-
# Gateway.Histories -- what an operation does to each session

The journal tells a session's history: the marks of its open and close records.  Each
operation of the gateway is described by what it does to the table entry and the records
of the session it names (`Uses`, `forceCloseOwner_effect`) and by leaving every other
session the same (`SameSession`).
-/
import InstrumentBench.Gateway.Server

namespace InstrumentBench.Gateway

set_option autoImplicit false

open InstrumentBench.Theory InstrumentBench.Theory.PyText

/-! ## Histories -/

inductive Mark where
  | opened
  | closed
deriving DecidableEq

/-- What a record tells of the life of a session. -/
def EvidenceEvent.mark? (id : Text) (e : EvidenceEvent) : Option Mark :=
  if e.session = some id then
    if e.operation = txt "open_resource" then some .opened
    else if e.operation = txt "close" then some .closed else none
  else none

namespace GatewayServer

/-- The records that name a session. -/
def recordsOf (g : GatewayServer) (id : Text) : List EvidenceEvent :=
  g.journal.filter fun e => e.session = some id

/-- The open and close records of a session, in the order of the journal. -/
def history (g : GatewayServer) (id : Text) : List Mark :=
  g.journal.filterMap (EvidenceEvent.mark? id)

theorem history_eq (g : GatewayServer) (id : Text) :
    g.history id = (g.recordsOf id).filterMap (EvidenceEvent.mark? id) := by
  unfold history recordsOf
  induction g.journal with
  | nil => rfl
  | cons e rest ih =>
      by_cases named : e.session = some id
      · rw [List.filter_cons_of_pos (by simpa using named), List.filterMap_cons,
          List.filterMap_cons, ih]
      · have unmarked : e.mark? id = none := if_neg named
        rw [List.filter_cons_of_neg (by simpa using named), List.filterMap_cons_none unmarked, ih]

/-- Nothing about the session differs. -/
structure SameSession (g g' : GatewayServer) (id : Text) : Prop where
  entry : g'.sessions.lookup id = g.sessions.lookup id
  records : g'.recordsOf id = g.recordsOf id

theorem SameSession.history {g g' : GatewayServer} {id : Text} (same : SameSession g g' id) :
    g'.history id = g.history id := by
  rw [history_eq, history_eq, same.records]

theorem SameSession.refl (g : GatewayServer) (id : Text) : SameSession g g id := ⟨rfl, rfl⟩

section Effects

variable {g : GatewayServer} {spec : WorldSpec} {it : Interpreter} {id other : Text}

/-- A record leaves every session it does not name. -/
theorem append_same {record : Nat → EvidenceEvent} (unnamed : ∀ n, (record n).session ≠ some id) :
    SameSession g (g.append record) id := by
  refine ⟨rfl, ?_⟩
  unfold recordsOf append
  rw [List.filter_append, List.filter_cons_of_neg (by simpa using unnamed _), List.filter_nil,
    List.append_nil]

theorem history_append (record : Nat → EvidenceEvent) :
    (g.append record).history id =
      g.history id ++ ((record (g.journal.length + 1)).mark? id).toList := by
  unfold history append
  rw [List.filterMap_append]
  cases marked : (record (g.journal.length + 1)).mark? id with
  | none => rw [List.filterMap_cons_none marked]; rfl
  | some mark => rw [List.filterMap_cons_some marked]; rfl

theorem list_same : SameSession g (g.list spec).1 id := by
  unfold list
  dsimp only
  apply append_same
  intro n named
  cases named

theorem recordOpen_same {resource : Text} (ne : other ≠ id) :
    SameSession g (g.recordOpen spec id resource) other := by
  unfold recordOpen
  refine ⟨rfl, (append_same ?_).records.trans rfl⟩
  intro _ named
  exact ne (Option.some.inj named).symm

theorem recordOpen_history {resource : Text} :
    (g.recordOpen spec id resource).history id = g.history id ++ [.opened] := by
  unfold recordOpen
  rw [history_append]
  simp only [EvidenceEvent.mark?, if_true]
  rfl

theorem recordClose_same {session : Session} {before : WorldSnapshot} {source : String}
    (ne : other ≠ id) : SameSession g (g.recordClose spec id session before source) other := by
  unfold recordClose recordSession
  apply append_same
  intro n named
  exact ne (Option.some.inj named).symm

theorem recordClose_history {session : Session} {before : WorldSnapshot} {source : String} :
    (g.recordClose spec id session before source).history id = g.history id ++ [.closed] := by
  unfold recordClose recordSession
  rw [history_append]
  simp only [EvidenceEvent.mark?, if_true]
  rfl

theorem lookup_setSession (session : Session) (other : Text) :
    (g.setSession id session).sessions.lookup other =
      if other = id then (g.sessions.lookup id).map fun _ => session
      else g.sessions.lookup other := by
  unfold setSession
  dsimp only
  induction g.sessions with
  | nil => split <;> rfl
  | cons entry rest ih =>
      obtain ⟨key, held⟩ := entry
      rw [List.map_cons]
      by_cases here : key = id
      · subst here
        rw [if_pos rfl, PyDict.lookup_cons, PyDict.lookup_cons, PyDict.lookup_cons, ih]
        by_cases asked : other = key
        · rw [if_pos asked, if_pos asked, if_pos rfl]
          rfl
        · rw [if_neg asked, if_neg asked, if_neg asked, if_neg asked]
      · rw [if_neg here, PyDict.lookup_cons, PyDict.lookup_cons, PyDict.lookup_cons, ih]
        by_cases asked : other = key
        · subst asked
          rw [if_pos rfl, if_neg here, if_pos rfl]
        · rw [if_neg asked, if_neg asked, if_neg (Ne.symm here)]

/-- What an operation other than `close` may do to a session of its owner. -/
structure Uses (g g' : GatewayServer) (id owner : Text) : Prop where
  others : ∀ other, other ≠ id → SameSession g g' other
  entry : g'.sessions.lookup id = g.sessions.lookup id ∨
    ∃ session, session.owner = owner ∧
      g'.sessions.lookup id = (g.sessions.lookup id).map fun _ => session
  history : g'.history id = g.history id

theorem Uses.none (g : GatewayServer) (id owner : Text) : Uses g g id owner :=
  ⟨fun other _ => .refl g other, .inl rfl, rfl⟩

/-- A record of the operation, after the session was written or not. -/
theorem uses_append {g' : GatewayServer} {owner : Text} {record : Nat → EvidenceEvent}
    (journal : g'.journal = g.journal)
    (sessions : g'.sessions = g.sessions ∨
      ∃ session, session.owner = owner ∧ g'.sessions = (g.setSession id session).sessions)
    (named : ∀ n, (record n).session = some id)
    (unmarked : ∀ n, (record n).mark? id = Option.none) :
    Uses g (g'.append record) id owner := by
  have records : ∀ other, g'.recordsOf other = g.recordsOf other := by
    intro other
    unfold recordsOf
    rw [journal]
  refine ⟨?_, ?_, ?_⟩
  · intro other ne
    refine ⟨?_, (append_same ?_).records.trans (records other)⟩
    · show g'.sessions.lookup other = _
      rcases sessions with same | ⟨session, -, written⟩
      · rw [same]
      · rw [written, lookup_setSession, if_neg ne]
    · intro n
      rw [named]
      exact fun same => ne (Option.some.inj same).symm
  · show g'.sessions.lookup id = _ ∨
      ∃ session : Session, session.owner = owner ∧ g'.sessions.lookup id = _
    rcases sessions with same | ⟨session, owned, written⟩
    · exact .inl (by rw [same])
    · refine .inr ⟨session, owned, ?_⟩
      rw [written, lookup_setSession, if_pos rfl]
  · rw [history_append, unmarked]
    unfold history
    rw [journal]
    exact List.append_nil _

/-- The record of an operation on a session. -/
theorem recordSession_uses {g' : GatewayServer} {owner operation : Text} {session : Session}
    {before : WorldSnapshot} {request response : Option Bytes} {outcome : Text}
    {errorCode cleanupSource : Option Text} (journal : g'.journal = g.journal)
    (sessions : g'.sessions = g.sessions ∨
      ∃ session, session.owner = owner ∧ g'.sessions = (g.setSession id session).sessions)
    (opening : operation ≠ txt "open_resource") (closing : operation ≠ txt "close") :
    Uses g (g'.recordSession spec operation id session before request response outcome errorCode
      cleanupSource) id owner := by
  unfold recordSession
  refine uses_append journal sessions (fun _ => rfl) ?_
  intro n
  unfold EvidenceEvent.mark?
  rw [if_pos rfl, if_neg opening, if_neg closing]

theorem setTimeout_uses {owner : Text} {session : Session} (owned : session.owner = owner)
    (arguments : Arguments) : Uses g (g.setTimeout spec id session arguments).1 id owner := by
  unfold setTimeout
  split
  · exact .none g id owner
  · refine recordSession_uses rfl (.inr ⟨_, ?_, rfl⟩) (by decide) (by decide)
    exact owned

theorem setTermination_uses {owner operation : Text} {assign : Option Text → Session}
    (owned : ∀ normalized, (assign normalized).owner = owner)
    (opening : operation ≠ txt "open_resource") (closing : operation ≠ txt "close")
    (arguments : Arguments) :
    Uses g (g.setTermination spec operation id assign arguments).1 id owner := by
  unfold setTermination
  split
  · exact .none g id owner
  · exact recordSession_uses rfl (.inr ⟨_, owned _, rfl⟩) opening closing

theorem read_uses {owner : Text} {session : Session} (owned : session.owner = owner) :
    Uses g (g.read spec id session).1 id owner := by
  unfold read
  split
  · exact .none g id owner
  · refine recordSession_uses rfl (.inr ⟨_, ?_, rfl⟩) (by decide) (by decide)
    exact owned

theorem write_uses {owner : Text} {session : Session} (owned : session.owner = owner)
    (arguments : Arguments) : Uses g (g.write spec id session arguments).1 id owner := by
  have kept : ∀ rack, Uses g { g with rack } id owner := fun rack =>
    ⟨fun other _ => ⟨rfl, rfl⟩, .inl rfl, rfl⟩
  unfold write
  split
  · exact .none g id owner
  · dsimp only
    generalize g.rack.write spec session.resource _ = written
    obtain ⟨rack, result⟩ := written
    cases result with
    | error fault =>
        cases fault with
        | command => exact recordSession_uses rfl (.inl rfl) (by decide) (by decide)
        | key => exact recordSession_uses rfl (.inl rfl) (by decide) (by decide)
        | _ => exact kept rack
    | ok response =>
        cases response with
        | none => exact recordSession_uses rfl (.inl rfl) (by decide) (by decide)
        | some response =>
            dsimp only
            split
            · exact kept rack
            · refine recordSession_uses rfl (.inr ⟨_, ?_, rfl⟩) (by decide) (by decide)
              exact owned

/-- **An operation but `close` uses its session and nothing else.** -/
theorem perform_uses {owner operation : Text} {session : Session} (owned : session.owner = owner)
    (opening : operation ≠ txt "open_resource") (closing : operation ≠ txt "close")
    (arguments : Arguments) :
    Uses g (g.perform it spec operation id session arguments).1 id owner := by
  unfold perform
  by_cases timeout : operation = txt "set_timeout"
  · rw [if_pos timeout]
    exact setTimeout_uses owned arguments
  rw [if_neg timeout]
  by_cases reading : operation = txt "set_read_termination"
  · rw [if_pos reading]
    refine setTermination_uses ?_ opening closing arguments
    intro normalized
    exact owned
  rw [if_neg reading]
  by_cases writing : operation = txt "set_write_termination"
  · rw [if_pos writing]
    refine setTermination_uses ?_ opening closing arguments
    intro normalized
    exact owned
  rw [if_neg writing]
  by_cases write : operation = txt "write"
  · rw [if_pos write]
    exact write_uses owned arguments
  rw [if_neg write]
  by_cases read : operation = txt "read"
  · rw [if_pos read]
    exact read_uses owned
  rw [if_neg read, if_neg closing]
  exact .none g id owner

theorem setSession_keys (session : Session) :
    (g.setSession id session).sessions.map Prod.fst = g.sessions.map Prod.fst := by
  unfold setSession
  rw [List.map_map]
  apply List.map_congr_left
  rintro ⟨key, held⟩ -
  by_cases here : key = id
  · simp [here]
  · simp [here]

/-- An operation but `close` adds no session and drops none. -/
theorem perform_keys (it : Interpreter) (spec : WorldSpec) {operation : Text} {session : Session}
    {arguments : Arguments} (closing : operation ≠ txt "close") :
    (g.perform it spec operation id session arguments).1.sessions.map Prod.fst =
      g.sessions.map Prod.fst := by
  have written : ∀ {g' : GatewayServer} {session : Session}, g'.sessions = g.sessions →
      (g'.setSession id session).sessions.map Prod.fst = g.sessions.map Prod.fst := by
    intro g' session same
    rw [setSession_keys, same]
  unfold perform
  split
  case isTrue =>
    unfold setTimeout
    split
    · rfl
    · exact setSession_keys _
  case isFalse =>
  split
  case isTrue =>
    unfold setTermination
    split
    · rfl
    · exact setSession_keys _
  case isFalse =>
  split
  case isTrue =>
    unfold setTermination
    split
    · rfl
    · exact setSession_keys _
  case isFalse =>
  split
  case isTrue =>
    unfold write
    split
    · rfl
    · dsimp only
      generalize g.rack.write spec session.resource _ = outcome
      obtain ⟨rack, result⟩ := outcome
      cases result with
      | error fault => cases fault <;> rfl
      | ok response =>
          cases response with
          | none => rfl
          | some response =>
              dsimp only
              split
              · rfl
              · exact written rfl
  case isFalse =>
  split
  case isTrue =>
    unfold read
    split
    · rfl
    · exact setSession_keys _
  case isFalse =>
  first
    | rfl
    | (split
       case isTrue is => exact absurd is closing
       case isFalse => rfl)

/-- Deleting a session leaves the journal. -/
theorem deleteSession_effect :
    (∀ other, (g.deleteSession id).1.sessions.lookup other =
      if other = id then none else g.sessions.lookup other) ∧
    (g.deleteSession id).1.journal = g.journal := by
  unfold deleteSession
  split
  case h_1 =>
    refine ⟨?_, rfl⟩
    intro other
    exact PyDict.lookup_pop id other g.sessions
  case h_2 absent =>
    refine ⟨?_, rfl⟩
    intro other
    split
    case isTrue same => rw [same, absent]
    case isFalse => rfl

/-! ## Forced closes -/

/-- One round of `_force_close_owner`. -/
def forceClose (spec : WorldSpec) (g : GatewayServer) (entry : Text × Session) : GatewayServer :=
  { g.recordClose spec entry.1 entry.2 g.rack.world.snapshot "forced" with
    sessions := PyDict.pop entry.1 g.sessions }

theorem forceCloseOwner_eq (owner : Text) :
    g.forceCloseOwner spec owner =
      (g.sessions.filter fun entry => entry.2.owner = owner).foldl (forceClose spec) g := rfl

theorem forceClose_same (g : GatewayServer) (spec : WorldSpec) {entry : Text × Session}
    (ne : id ≠ entry.1) : SameSession g (forceClose spec g entry) id := by
  refine ⟨?_, ?_⟩
  · exact (PyDict.lookup_pop entry.1 id g.sessions).trans (if_neg ne)
  · exact (recordClose_same ne).records

/-- Sessions that are not among the leaked ones are left. -/
theorem forceClose_others (leaked : List (Text × Session))
    (absent : ∀ entry ∈ leaked, id ≠ entry.1) :
    SameSession g (leaked.foldl (forceClose spec) g) id := by
  induction leaked generalizing g with
  | nil => exact .refl g id
  | cons entry rest ih =>
      have first := forceClose_same g spec (absent entry List.mem_cons_self)
      have later := ih (g := forceClose spec g entry)
        fun other member => absent other (List.mem_cons_of_mem _ member)
      exact ⟨later.entry.trans first.entry, later.records.trans first.records⟩

/-- A leaked session is recorded as closed and gone. -/
theorem forceClose_leaked {leaked : List (Text × Session)} {session : Session}
    (keys : (leaked.map Prod.fst).Nodup) (member : (id, session) ∈ leaked) :
    (leaked.foldl (forceClose spec) g).sessions.lookup id = none ∧
      (leaked.foldl (forceClose spec) g).history id = g.history id ++ [.closed] := by
  induction leaked generalizing g with
  | nil => cases member
  | cons entry rest ih =>
      obtain ⟨fresh, keys⟩ := List.nodup_cons.1 keys
      rcases List.mem_cons.1 member with rfl | later
      · have others : SameSession (forceClose spec g (id, session))
            (rest.foldl (forceClose spec) (forceClose spec g (id, session))) id := by
          apply forceClose_others
          rintro other inside rfl
          exact fresh (List.mem_map.2 ⟨_, inside, rfl⟩)
        rw [List.foldl_cons, others.entry, others.history]
        refine ⟨?_, ?_⟩
        · exact (PyDict.lookup_pop id id g.sessions).trans (if_pos rfl)
        · exact recordClose_history
      · have ne : id ≠ entry.1 := by
          rintro rfl
          exact fresh (List.mem_map.2 ⟨_, later, rfl⟩)
        have first := forceClose_same g spec ne
        rw [List.foldl_cons]
        have closed := ih (g := forceClose spec g entry) keys later
        exact ⟨closed.1, by rw [closed.2, first.history]⟩

theorem lookup_of_mem {sessions : List (Text × Session)} {session : Session}
    (keys : (sessions.map Prod.fst).Nodup) (member : (id, session) ∈ sessions) :
    sessions.lookup id = some session := by
  induction sessions with
  | nil => cases member
  | cons entry rest ih =>
      obtain ⟨key, held⟩ := entry
      obtain ⟨fresh, keys⟩ := List.nodup_cons.1 keys
      rw [PyDict.lookup_cons]
      rcases List.mem_cons.1 member with same | later
      · cases same
        rw [if_pos rfl]
      · rw [if_neg, ih keys later]
        rintro rfl
        exact fresh (List.mem_map.2 ⟨_, later, rfl⟩)

/-- **A disconnect closes the sessions of its client and leaves the others.** -/
theorem forceCloseOwner_effect (spec : WorldSpec) (keys : (g.sessions.map Prod.fst).Nodup)
    (owner id : Text) :
    (∀ session, g.sessions.lookup id = some session → session.owner = owner →
      (g.forceCloseOwner spec owner).sessions.lookup id = none ∧
        (g.forceCloseOwner spec owner).history id = g.history id ++ [.closed]) ∧
    ((∀ session, g.sessions.lookup id = some session → session.owner ≠ owner) →
      SameSession g (g.forceCloseOwner spec owner) id) := by
  rw [forceCloseOwner_eq]
  constructor
  · intro session found owned
    refine forceClose_leaked ?_ (List.mem_filter.2 ⟨PyDict.mem_of_lookup found, ?_⟩)
    · exact keys.sublist (List.filter_sublist.map _)
    · simpa using owned
  · intro foreign
    apply forceClose_others
    rintro ⟨key, session⟩ member rfl
    obtain ⟨inside, owned⟩ := List.mem_filter.1 member
    exact foreign session (lookup_of_mem keys inside) (by simpa using owned)

theorem forceCloseOwner_keys (spec : WorldSpec) (keys : (g.sessions.map Prod.fst).Nodup)
    (owner : Text) : ((g.forceCloseOwner spec owner).sessions.map Prod.fst).Nodup := by
  rw [forceCloseOwner_eq]
  generalize (g.sessions.filter fun entry => entry.2.owner = owner) = leaked
  induction leaked generalizing g with
  | nil => exact keys
  | cons entry rest ih =>
      apply ih
      exact keys.sublist (List.filter_sublist.map _)

end Effects

end GatewayServer

end InstrumentBench.Gateway
