/-
# Gateway.Lifecycle -- every opened session is closed once

What the journal tells of a session is its history: opened, then closed, each at most
once (`Life`).  The table, the phases of the threads and the histories agree in every
state, whatever the order of the threads' parts, as long as `stop` clears only sessions
that their own threads are closing already.

* `lifecycle_along`: in such runs no session is closed twice, once every thread has
  ended every opened session has been closed, and no client touches or uses a session of
  another;
* `cleared_session_unclosed`: `stop` clears the table while a client is still connected,
  and its session is never closed.
-/
import InstrumentBench.Theory.Run
import InstrumentBench.Gateway.Histories
import InstrumentBench.Gateway.Threads

namespace InstrumentBench.Gateway

set_option autoImplicit false

open InstrumentBench.Theory InstrumentBench.Theory.PyText

/-! ## Phases and the life of a session -/

namespace Phase

/-- The session the thread is in the middle of an operation on. -/
def about : Phase → Option Text
  | opening id _ | serving id .. | deleting id => some id
  | _ => none

/-- The thread is closing its session. -/
def Closing : Phase → Prop
  | serving _ _ operation _ => operation = txt "close"
  | deleting _ => True
  | _ => False

/-- What the journal tells of a session whose client is in the phase. -/
def stage (id : Text) : Phase → List Mark
  | opening at_ _ => if at_ = id then [] else [.opened]
  | deleting at_ => if at_ = id then [.opened, .closed] else [.opened]
  | _ => [.opened]

/-- A thread that is elsewhere leaves the session open. -/
theorem stage_of_elsewhere {p : Phase} {id : Text} (elsewhere : p.about ≠ some id) :
    p.stage id = [.opened] := by
  cases p with
  | opening at_ resource => exact if_neg fun same => elsewhere (congrArg some same)
  | deleting at_ => exact if_neg fun same => elsewhere (congrArg some same)
  | _ => rfl

end Phase

/-- **The life of a session.**  A token that has not been drawn is nobody's.  A session in
the table belongs to a thread that has not ended, which is the only one to work on it,
and its history is what that thread's phase says.  A thread works on a session of its
own, or on one that is cleared and that it is closing.  A session that is nowhere has
been closed, or never existed. -/
structure Life (s : System) (id : Text) : Prop where
  undrawn : id ∉ s.drawn → s.server.sessions.lookup id = none ∧ s.server.history id = [] ∧
    ∀ owner p, s.phase owner = some p → p.about ≠ some id
  owned : ∀ session, s.server.sessions.lookup id = some session →
    ∃ p, s.phase session.owner = some p ∧ p ≠ .ended ∧ s.server.history id = p.stage id ∧
      ∀ other q, s.phase other = some q → q.about = some id → other = session.owner
  working : ∀ owner p, s.phase owner = some p → p.about = some id →
    s.server.history id = p.stage id ∧
      ((∃ session, s.server.sessions.lookup id = some session ∧ session.owner = owner) ∨
        (s.server.sessions.lookup id = none ∧ p.Closing ∧
          ∀ other q, s.phase other = some q → q.about = some id → other = owner))
  gone : s.server.sessions.lookup id = none →
    (∀ owner p, s.phase owner = some p → p.about ≠ some id) →
    s.server.history id = [] ∨ s.server.history id = [.opened, .closed]

/-- Nobody but the client works on the session. -/
def Sole (s : System) (id owner : Text) : Prop :=
  ∀ other q, s.phase other = some q → q.about = some id → other = owner

namespace Life

variable {s s' : System} {id owner : Text} {p p' : Phase}

theorem sole (life : Life s id) (here : s.phase owner = some p) (about : p.about = some id) :
    Sole s id owner := by
  rcases (life.working owner p here about).2 with ⟨session, found, owned⟩ | ⟨-, -, only⟩
  · obtain ⟨q, -, -, -, only⟩ := life.owned session found
    rw [owned] at only
    exact only
  · exact only

theorem drawn (life : Life s id) (here : s.phase owner = some p) (about : p.about = some id) :
    id ∈ s.drawn := by
  by_contra fresh
  exact (life.undrawn fresh).2.2 owner p here about

/-- A thread that moves elsewhere leaves the life of a session it does not touch. -/
theorem frame (life : Life s id) (same : GatewayServer.SameSession s.server s'.server id)
    (drawn : id ∈ s'.drawn ↔ id ∈ s.drawn)
    (moved : s'.phase = Function.update s.phase owner (some p'))
    (before : ∀ p, s.phase owner = some p → p.about ≠ some id) (after : p'.about ≠ some id)
    (running : p' ≠ .ended ∨
      ∀ session, s.server.sessions.lookup id = some session → session.owner ≠ owner) :
    Life s' id := by
  have phases : ∀ {other q}, s'.phase other = some q → q.about = some id →
      s.phase other = some q ∧ other ≠ owner := by
    intro other q at_ about
    rw [moved] at at_
    by_cases here : other = owner
    · subst here
      rw [Function.update_self] at at_
      cases at_
      exact absurd about after
    · rw [Function.update_of_ne here] at at_
      exact ⟨at_, here⟩
  refine ⟨?_, ?_, ?_, ?_⟩
  · intro fresh
    obtain ⟨absent, blank, idle⟩ := life.undrawn fun old => fresh (drawn.2 old)
    refine ⟨same.entry.trans absent, same.history.trans blank, ?_⟩
    intro other q at_ about
    exact idle other q (phases at_ about).1 about
  · intro session found
    rw [same.entry] at found
    obtain ⟨p, at_, live, history, only⟩ := life.owned session found
    have still : ∀ other q, s'.phase other = some q → q.about = some id → other = session.owner :=
      fun other q moved about => only other q (phases moved about).1 about
    rw [same.history, moved]
    by_cases here : session.owner = owner
    · refine ⟨p', by rw [here, Function.update_self], ?_, ?_, by rw [← moved]; exact still⟩
      · rcases running with running | foreign
        · exact running
        · exact absurd here (foreign session found)
      · rw [here] at at_
        rw [history, Phase.stage_of_elsewhere (before p at_), Phase.stage_of_elsewhere after]
    · exact ⟨p, by rw [Function.update_of_ne here]; exact at_, live, history,
        by rw [← moved]; exact still⟩
  · intro other q at_ about
    obtain ⟨at_, -⟩ := phases at_ about
    obtain ⟨history, placed⟩ := life.working other q at_ about
    rw [same.history, same.entry]
    refine ⟨history, placed.imp_right ?_⟩
    rintro ⟨absent, closing, only⟩
    exact ⟨absent, closing, fun other q moved about => only other q (phases moved about).1 about⟩
  · intro absent idle
    rw [same.entry] at absent
    rw [same.history]
    apply life.gone absent
    intro other q at_ about
    by_cases here : other = owner
    · subst here
      exact before q at_ about
    · refine idle other q ?_ about
      rw [moved, Function.update_of_ne here]
      exact at_

/-- The life of a session after its only worker has moved: it is in the table, or it is
cleared and being closed, or it is closed and gone. -/
theorem place (sole : Sole s id owner) (drawn : id ∈ s'.drawn)
    (moved : s'.phase = Function.update s.phase owner (some p'))
    (placed : (∃ session, s'.server.sessions.lookup id = some session ∧ session.owner = owner ∧
          s'.server.history id = p'.stage id ∧ p' ≠ .ended) ∨
      (s'.server.sessions.lookup id = none ∧ p'.about = some id ∧ p'.Closing ∧
          s'.server.history id = p'.stage id) ∨
      (s'.server.sessions.lookup id = none ∧ p'.about ≠ some id ∧
          s'.server.history id = [.opened, .closed])) : Life s' id := by
  have only : Sole s' id owner := by
    intro other q at_ about
    rw [moved] at at_
    by_contra elsewhere
    rw [Function.update_of_ne elsewhere] at at_
    exact elsewhere (sole other q at_ about)
  have here : s'.phase owner = some p' := by rw [moved, Function.update_self]
  refine ⟨fun fresh => absurd drawn fresh, ?_, ?_, ?_⟩
  · intro session found
    rcases placed with ⟨session', found', owned, history, live⟩ | ⟨absent, -⟩ | ⟨absent, -⟩
    · rw [found'] at found
      cases found
      subst owned
      exact ⟨p', here, live, history, only⟩
    · rw [absent] at found
      cases found
    · rw [absent] at found
      cases found
  · intro other q at_ about
    have same := only other q at_ about
    subst same
    rw [here] at at_
    cases at_
    rcases placed with ⟨session, found, owned, history, -⟩ | ⟨absent, -, closing, history⟩ |
      ⟨-, elsewhere, -⟩
    · exact ⟨history, .inl ⟨session, found, owned⟩⟩
    · exact ⟨history, .inr ⟨absent, closing, only⟩⟩
    · exact absurd about elsewhere
  · intro absent idle
    rcases placed with ⟨session, found, -⟩ | ⟨-, about, -⟩ | ⟨-, -, history⟩
    · rw [found] at absent
      cases absent
    · exact absurd about (idle owner p' here)
    · exact .inr history

end Life

/-! ## Steps -/

/-- The whole state: the table has one entry a session, a thread serves a session of its
client, and every session lives its life. -/
structure Consistent (s : System) : Prop where
  keys : (s.server.sessions.map Prod.fst).Nodup
  serving : ∀ owner id session operation arguments,
    s.phase owner = some (.serving id session operation arguments) →
      session.owner = owner ∧ operation ≠ txt "open_resource"
  life : ∀ id, Life s id

/-- `stop` clears the table only when the thread of every session that is left is closing
it. -/
def Settled (s : System) : Action → Prop
  | .clear => ∀ id session, s.server.sessions.lookup id = some session →
      ∃ p, s.phase session.owner = some p ∧ p.about = some id ∧ p.Closing
  | _ => True

namespace Consistent

variable {s : System} {spec : WorldSpec} {it : Interpreter} {owner : Text} {p : Phase}

/-- A thread that moves between two phases without a session leaves everything. -/
theorem moved (consistent : Consistent s) (g : GatewayServer) (p' : Phase)
    (sessions : g.sessions = s.server.sessions)
    (same : ∀ id, GatewayServer.SameSession s.server g id)
    (before : ∀ p, s.phase owner = some p → p.about = none) (after : p'.about = none)
    (running : p' ≠ .ended) : Consistent (s.serve g owner p') := by
  refine ⟨?_, ?_, ?_⟩
  · show (g.sessions.map Prod.fst).Nodup
    rw [sessions]
    exact consistent.keys
  · intro other id session operation arguments at_
    change Function.update s.phase owner (some p') other = _ at at_
    by_cases here : other = owner
    · subst here
      rw [Function.update_self] at at_
      cases at_
      cases after
    · rw [Function.update_of_ne here] at at_
      exact consistent.serving other id session operation arguments at_
  · intro id
    refine (consistent.life id).frame (same id) Iff.rfl rfl ?_ ?_ (.inl running)
    · intro p at_ about
      rw [before p at_] at about
      cases about
    · rw [after]
      exact fun about => by cases about

/-- The part of `serving` that a thread's move keeps. -/
theorem serving_move (consistent : Consistent s) {s' : System} {p' : Phase}
    (moved : s'.phase = Function.update s.phase owner (some p'))
    (served : ∀ id session operation arguments, p' = .serving id session operation arguments →
      session.owner = owner ∧ operation ≠ txt "open_resource") :
    ∀ other id session operation arguments,
      s'.phase other = some (.serving id session operation arguments) →
        session.owner = other ∧ operation ≠ txt "open_resource" := by
  intro other id session operation arguments at_
  rw [moved] at at_
  by_cases here : other = owner
  · subst here
    rw [Function.update_self] at at_
    exact served id session operation arguments (Option.some.inj at_)
  · rw [Function.update_of_ne here] at at_
    exact consistent.serving other id session operation arguments at_

/-- **Taking a request keeps the state consistent.** -/
theorem begin (consistent : Consistent s) (receiving : s.phase owner = some .receiving)
    (elapsedMs : Nat) (token operation : Text) (arguments : Arguments) :
    Consistent (s.begin it spec owner elapsedMs token operation arguments) := by
  have before : ∀ p, s.phase owner = some p → p.about = none := by
    intro p at_
    rw [receiving] at at_
    cases at_
    rfl
  have answered : ∀ g : GatewayServer, g.sessions = s.server.sessions →
      (∀ id, GatewayServer.SameSession s.server g id) → Consistent (s.serve g owner .responding) :=
    fun g sessions same => consistent.moved g .responding sessions same before rfl (by simp)
  have synced := answered (s.server.syncClock elapsedMs) rfl fun id => ⟨rfl, rfl⟩
  unfold System.begin
  dsimp only
  by_cases version : operation = txt "protocol_version"
  · rw [if_pos version]
    exact synced
  rw [if_neg version]
  by_cases listing : operation = txt "list_resources"
  · rw [if_pos listing]
    refine answered _ rfl fun id => ?_
    have listed : GatewayServer.SameSession (s.server.syncClock elapsedMs)
        ((s.server.syncClock elapsedMs).list spec).1 id := GatewayServer.list_same
    exact ⟨listed.entry, listed.records⟩
  rw [if_neg listing]
  by_cases opening : operation = txt "open_resource"
  · rw [if_pos opening]
    cases GatewayServer.openArgument it spec arguments with
    | error raised => exact synced
    | ok resource =>
        dsimp only
        by_cases fresh : s.drawn.contains token = true
        · rw [if_pos fresh]
          exact consistent
        · rw [if_neg fresh]
          have undrawn : token ∉ s.drawn := by simpa using fresh
          obtain ⟨absent, blank, idle⟩ := (consistent.life token).undrawn undrawn
          refine ⟨PyDict.keys_set_nodup consistent.keys _ _, ?_, ?_⟩
          · apply consistent.serving_move rfl
            intro id session operation arguments is
            cases is
          · intro id
            by_cases here : id = token
            · subst here
              refine Life.place (s := s) ?_ ?_ rfl
                (.inl ⟨Session.new owner resource, ?_, rfl, ?_, by simp⟩)
              · intro other q at_ about
                exact absurd about (idle other q at_)
              · exact List.mem_cons_self
              · exact (PyDict.lookup_set id id _ _).trans (if_pos rfl)
              · exact blank.trans (if_pos rfl).symm
            · refine (consistent.life id).frame
                ⟨?_, rfl⟩ ?_ rfl ?_ ?_ (.inl (by simp))
              · exact (PyDict.lookup_set token id _ _).trans (if_neg here)
              · exact ⟨fun member => (List.mem_cons.1 member).resolve_left here,
                  List.mem_cons_of_mem _⟩
              · intro p at_ about
                rw [before p at_] at about
                cases about
              · exact fun about => here (Option.some.inj about).symm
  rw [if_neg opening]
  cases GatewayServer.requiredStr arguments "session" with
  | error raised => exact synced
  | ok id =>
      dsimp only
      cases owned : (s.server.syncClock elapsedMs).ownedSession owner id with
      | error raised => exact synced
      | ok session =>
          have held : s.server.sessions.lookup id = some session ∧ session.owner = owner := by
            unfold GatewayServer.ownedSession at owned
            split at owned
            case h_1 found =>
              split at owned
              case isTrue same =>
                cases owned
                exact ⟨found, same⟩
              case isFalse => cases owned
            case h_2 => cases owned
          obtain ⟨found, same⟩ := held
          obtain ⟨p, at_, -, history, only⟩ := (consistent.life id).owned session found
          rw [same] at at_ only
          refine ⟨consistent.keys, ?_, ?_⟩
          · apply consistent.serving_move rfl
            intro id' session' operation' arguments' is
            cases is
            exact ⟨same, opening⟩
          · intro other
            by_cases here : other = id
            · subst here
              refine Life.place (s := s) only ?_ rfl
                 (.inl ⟨session, found, same, ?_, by simp⟩)
              · by_contra fresh
                rw [((consistent.life other).undrawn fresh).1] at found
                cases found
              · rw [receiving] at at_
                cases at_
                exact history
            · refine (consistent.life other).frame ⟨rfl, rfl⟩ Iff.rfl rfl ?_ ?_
                (.inl (by simp))
              · intro p at_ about
                rw [before p at_] at about
                cases about
              · exact fun about => here (Option.some.inj about).symm

/-- A thread that works on a session `id` and leaves the others. -/
theorem worked (consistent : Consistent s) {id : Text} (here : s.phase owner = some p)
    (about : p.about = some id) (g : GatewayServer) (p' : Phase)
    (keys : (g.sessions.map Prod.fst).Nodup)
    (others : ∀ other, other ≠ id → GatewayServer.SameSession s.server g other)
    (after : ∀ other, other ≠ id → p'.about ≠ some other) (running : p' ≠ .ended)
    (served : ∀ id session operation arguments, p' ≠ .serving id session operation arguments)
    (own : Life (s.serve g owner p') id) : Consistent (s.serve g owner p') := by
  refine ⟨keys, ?_, ?_⟩
  · apply consistent.serving_move rfl
    intro id session operation arguments is
    exact absurd is (served id session operation arguments)
  · intro other
    by_cases same : other = id
    · rw [same]
      exact own
    · refine (consistent.life other).frame (others other same) Iff.rfl rfl ?_ (after other same)
        (.inl running)
      intro q at_ elsewhere
      rw [here] at at_
      cases at_
      rw [about] at elsewhere
      exact same (Option.some.inj elsewhere).symm

theorem keys_uses {g g' : GatewayServer} (keys : (g.sessions.map Prod.fst).Nodup)
    (same : g'.sessions.map Prod.fst = g.sessions.map Prod.fst) :
    (g'.sessions.map Prod.fst).Nodup := by
  rw [same]
  exact keys

/-- **Going on with a request keeps the state consistent.** -/
theorem proceed (consistent : Consistent s) (here : s.phase owner = some p) :
    Consistent (s.proceed it spec owner p) := by
  cases p with
  | opening id resource =>
      have about : (Phase.opening id resource).about = some id := rfl
      have life := consistent.life id
      obtain ⟨history, placed⟩ := life.working owner _ here about
      refine consistent.worked here about _ _ consistent.keys
        (fun other ne => GatewayServer.recordOpen_same ne) (fun other _ is => by cases is) (by simp)
        (fun _ _ _ _ is => by cases is) ?_
      refine Life.place (life.sole here about) (life.drawn here about) rfl ?_
      rcases placed with ⟨session, found, owned⟩ | ⟨-, closing, -⟩
      · refine .inl ⟨session, found, owned, ?_, by simp⟩
        rw [show (s.serve (s.server.recordOpen spec id resource) owner .responding).server =
          s.server.recordOpen spec id resource from rfl, GatewayServer.recordOpen_history, history]
        simp [Phase.stage]
      · exact closing.elim
  | serving id session operation arguments =>
      have about : (Phase.serving id session operation arguments).about = some id := rfl
      have life := consistent.life id
      obtain ⟨history, placed⟩ := life.working owner _ here about
      obtain ⟨owned, opening⟩ := consistent.serving owner id session operation arguments here
      unfold System.proceed
      dsimp only
      by_cases closing : operation = txt "close"
      · rw [if_pos closing]
        refine consistent.worked here about _ _ consistent.keys
          (fun other ne => GatewayServer.recordClose_same ne)
          (fun other ne is => ne (Option.some.inj is).symm) (by simp)
          (fun _ _ _ _ is => by cases is) ?_
        have closed : (s.server.recordClose spec id session s.server.rack.world.snapshot
            "candidate").history id = [.opened, .closed] := by
          rw [GatewayServer.recordClose_history, history]
          rfl
        have stage : (Phase.deleting id).stage id = [.opened, .closed] := if_pos rfl
        refine Life.place (life.sole here about) (life.drawn here about) rfl ?_
        rcases placed with ⟨session', found, owned'⟩ | ⟨absent, -, -⟩
        · exact .inl ⟨session', found, owned', closed.trans stage.symm, by simp⟩
        · exact .inr (.inl ⟨absent, rfl, trivial, closed.trans stage.symm⟩)
      · rw [if_neg closing]
        have used : GatewayServer.Uses s.server
            (s.server.perform it spec operation id session arguments).1 id owner :=
          GatewayServer.perform_uses owned opening closing arguments
        have keys : ((s.server.perform it spec operation id session arguments).1.sessions.map
            Prod.fst).Nodup :=
          keys_uses consistent.keys (GatewayServer.perform_keys it spec closing)
        have settled : ∀ q : Phase, q.about = none → q ≠ .ended → Consistent
            (s.serve (s.server.perform it spec operation id session arguments).1 owner q) := by
          intro q idle running
          refine consistent.worked here about _ _ keys used.others
            (fun other _ is => by rw [idle] at is; cases is) running ?_ ?_
          · rintro id session operation arguments rfl
            cases idle
          · refine Life.place (life.sole here about) (life.drawn here about) rfl (.inl ?_)
            have after : q.stage id = [.opened] :=
              Phase.stage_of_elsewhere (by rw [idle]; exact fun is => by cases is)
            have told : (s.server.perform it spec operation id session arguments).1.history id =
                q.stage id := by
              rw [used.history, history, after]
              rfl
            rcases placed with ⟨session', found, owned'⟩ | ⟨-, is, -⟩
            · rcases used.entry with same | ⟨written, by_, same⟩
              · exact ⟨session', same.trans found, owned', told, running⟩
              · rw [found] at same
                exact ⟨written, same, by_, told, running⟩
            · exact absurd is closing
        generalize s.server.perform it spec operation id session arguments = outcome at settled ⊢
        obtain ⟨g, reply⟩ := outcome
        cases reply with
        | error raised =>
            dsimp only
            split
            · exact settled .leaving rfl (by simp)
            · exact settled .responding rfl (by simp)
        | ok result => exact settled .responding rfl (by simp)
  | deleting id =>
      have about : (Phase.deleting id).about = some id := rfl
      have life := consistent.life id
      obtain ⟨history, -⟩ := life.working owner _ here about
      obtain ⟨entries, journal⟩ : (∀ other, (s.server.deleteSession id).1.sessions.lookup other =
          if other = id then none else s.server.sessions.lookup other) ∧
          (s.server.deleteSession id).1.journal = s.server.journal :=
        GatewayServer.deleteSession_effect
      have records : ∀ other, (s.server.deleteSession id).1.recordsOf other =
          s.server.recordsOf other := by
        intro other
        unfold GatewayServer.recordsOf
        rw [journal]
      have keys : ((s.server.deleteSession id).1.sessions.map Prod.fst).Nodup := by
        unfold GatewayServer.deleteSession
        split
        · exact consistent.keys.sublist (List.filter_sublist.map _)
        · exact consistent.keys
      refine consistent.worked here about _ _ keys (fun other ne => ⟨?_, records other⟩)
        (fun other _ is => by cases is) (by simp) (fun _ _ _ _ is => by cases is) ?_
      · exact (entries other).trans (if_neg ne)
      · refine Life.place (life.sole here about) (life.drawn here about) rfl (.inr (.inr ?_))
        refine ⟨(entries id).trans (if_pos rfl), by simp [Phase.about], ?_⟩
        show (s.server.deleteSession id).1.history id = _
        rw [GatewayServer.history_eq, records, ← GatewayServer.history_eq, history]
        exact if_pos rfl
  | _ => exact consistent

/-- **A thread that ends closes what its client has left.** -/
theorem finish (consistent : Consistent s) (here : s.phase owner = some .leaving) :
    Consistent (s.serve (s.server.forceCloseOwner spec owner) owner .ended) := by
  have effect := fun id => GatewayServer.forceCloseOwner_effect spec consistent.keys owner id
  have idle : ∀ id p, s.phase owner = some p → p.about ≠ some id := by
    intro id p at_ about
    rw [here] at at_
    cases at_
    cases about
  refine ⟨GatewayServer.forceCloseOwner_keys spec consistent.keys owner, ?_, ?_⟩
  · apply consistent.serving_move rfl
    intro id session operation arguments is
    cases is
  · intro id
    by_cases left : ∃ session, s.server.sessions.lookup id = some session ∧ session.owner = owner
    · obtain ⟨session, found, owned⟩ := left
      obtain ⟨gone, closed⟩ := (effect id).1 session found owned
      obtain ⟨p, at_, -, history, only⟩ := (consistent.life id).owned session found
      rw [owned] at at_ only
      rw [here] at at_
      cases at_
      refine Life.place (s := s) only ?_ rfl
        (.inr (.inr ⟨gone, (by simp [Phase.about]), ?_⟩))
      · by_contra fresh
        rw [((consistent.life id).undrawn fresh).1] at found
        cases found
      · show (s.server.forceCloseOwner spec owner).history id = _
        rw [closed, history]
        rfl
    · have foreign : ∀ session, s.server.sessions.lookup id = some session →
          session.owner ≠ owner := fun session found owned => left ⟨session, found, owned⟩
      exact (consistent.life id).frame ((effect id).2 foreign) Iff.rfl rfl (idle id)
        (fun is => by cases is) (.inr foreign)

/-- **Clearing a settled table keeps the state consistent.** -/
theorem clear (consistent : Consistent s) (settled : Settled s .clear) :
    Consistent { s with server := s.server.clearSessions } := by
  refine ⟨List.nodup_nil, consistent.serving, ?_⟩
  intro id
  have life := consistent.life id
  refine ⟨?_, ?_, ?_, ?_⟩
  · intro fresh
    obtain ⟨-, blank, idle⟩ := life.undrawn fresh
    exact ⟨rfl, blank, idle⟩
  · intro session found
    cases found
  · intro owner p at_ about
    obtain ⟨history, placed⟩ := life.working owner p at_ about
    refine ⟨history, .inr ⟨rfl, ?_, life.sole at_ about⟩⟩
    rcases placed with ⟨session, found, owned⟩ | ⟨-, closing, -⟩
    · obtain ⟨q, at', -, closing⟩ := settled id session found
      rw [owned, at_] at at'
      cases at'
      exact closing
    · exact closing
  · intro _ idle
    cases found : s.server.sessions.lookup id with
    | none => exact life.gone found idle
    | some session =>
        obtain ⟨q, at_, about, -⟩ := settled id session found
        exact absurd about (idle session.owner q at_)

/-- **Every settled step keeps the state consistent.** -/
theorem step (it : Interpreter) (spec : WorldSpec) (s : System) (a : Action)
    (consistent : Consistent s) (settled : Settled s a) : Consistent (s.step it spec a) := by
  have moves : ∀ {owner : Text} (p' : Phase), (∀ p, s.phase owner = some p → p.about = none) →
      p'.about = none → p' ≠ .ended → Consistent (s.move owner p') :=
    fun p' before after running =>
      consistent.moved s.server p' rfl (fun id => .refl _ id) before after running
  have still : ∀ {owner : Text} {q : Phase}, s.phase owner = some q → q.about = none →
      ∀ p, s.phase owner = some p → p.about = none := by
    intro owner q here idle p at_
    rw [here] at at_
    cases at_
    exact idle
  cases a with
  | accept owner =>
      unfold System.step
      dsimp only
      cases here : s.phase owner with
      | none => exact moves .checking (fun p at_ => by rw [here] at at_; cases at_) rfl (by simp)
      | some p => exact consistent
  | look owner =>
      unfold System.step
      dsimp only
      split
      case h_1 here =>
        split
        · exact moves .leaving (still here rfl) rfl (by simp)
        · exact moves .receiving (still here rfl) rfl (by simp)
      case h_2 => exact consistent
  | hangUp owner =>
      unfold System.step
      dsimp only
      split
      case h_1 here => exact moves .leaving (still here rfl) rfl (by simp)
      case h_2 => exact consistent
  | malformed owner =>
      unfold System.step
      dsimp only
      split
      case h_1 here => exact moves .responding (still here rfl) rfl (by simp)
      case h_2 => exact consistent
  | receive owner elapsedMs token operation arguments =>
      unfold System.step
      dsimp only
      split
      case h_1 here => exact consistent.begin here elapsedMs token operation arguments
      case h_2 => exact consistent
  | proceed owner =>
      unfold System.step
      dsimp only
      split
      case h_1 p here => exact consistent.proceed here
      case h_2 => exact consistent
  | respond owner sent =>
      unfold System.step
      dsimp only
      split
      case h_1 here =>
        split
        · exact moves .checking (still here rfl) rfl (by simp)
        · exact moves .leaving (still here rfl) rfl (by simp)
      case h_2 => exact consistent
  | finish owner =>
      unfold System.step
      dsimp only
      split
      case h_1 here => exact consistent.finish here
      case h_2 => exact consistent
  | stop =>
      exact ⟨consistent.keys, consistent.serving, fun id =>
        ⟨(consistent.life id).undrawn, (consistent.life id).owned, (consistent.life id).working,
          (consistent.life id).gone⟩⟩
  | clear =>
      unfold System.step
      dsimp only
      split
      · exact consistent.clear settled
      · exact consistent

theorem new (spec : WorldSpec) : Consistent (System.new spec) := by
  refine ⟨List.nodup_nil, ?_, ?_⟩
  · intro owner id session operation arguments at_
    cases at_
  · intro id
    refine ⟨fun _ => ⟨rfl, rfl, ?_⟩, ?_, ?_, fun _ _ => .inl rfl⟩
    · intro owner p at_
      cases at_
    · intro session found
      cases found
    · intro owner p at_
      cases at_

end Consistent

/-! ## Runs -/

/-- No session is closed twice, and once every thread has ended, every opened session
has been closed after it was opened. -/
def ClosesOnce (s : System) : Prop :=
  (∀ id, (s.server.history id).count .closed ≤ 1) ∧
    ((∀ owner p, s.phase owner = some p → p = .ended) →
      ∀ id, .opened ∈ s.server.history id → s.server.history id = [.opened, .closed])

/-- A client's thread leaves the sessions and the records of the others as they are, and
what a thread goes on to execute is on a session of its own client. -/
structure Contained (it : Interpreter) (spec : WorldSpec) (s : System) (a : Action) : Prop where
  others : ∀ owner, a.client? = some owner → ∀ id session,
    s.server.sessions.lookup id = some session → session.owner ≠ owner →
      GatewayServer.SameSession s.server (s.step it spec a).server id
  served : ∀ owner id session operation arguments,
    (s.step it spec a).phase owner = some (.serving id session operation arguments) →
      session.owner = owner

/-- What a step of the gateway must keep. -/
def Keeps (it : Interpreter) (spec : WorldSpec) (s : System) (a : Action) : Prop :=
  ClosesOnce (s.step it spec a) ∧ Contained it spec s a

theorem Phase.stage_closed (id : Text) (p : Phase) : (p.stage id).count .closed ≤ 1 := by
  cases p with
  | opening => simp only [stage]; split <;> simp
  | deleting => simp only [stage]; split <;> simp
  | _ => simp [stage]

theorem Consistent.closesOnce {s : System} (consistent : Consistent s) : ClosesOnce s := by
  constructor
  · intro id
    have life := consistent.life id
    cases found : s.server.sessions.lookup id with
    | some session =>
        obtain ⟨p, -, -, history, -⟩ := life.owned session found
        rw [history]
        exact Phase.stage_closed id p
    | none =>
        by_cases idle : ∀ owner p, s.phase owner = some p → p.about ≠ some id
        · rcases life.gone found idle with history | history <;> rw [history] <;> decide
        · push Not at idle
          obtain ⟨owner, p, at_, about⟩ := idle
          rw [(life.working owner p at_ about).1]
          exact Phase.stage_closed id p
  · intro ended id opened
    have life := consistent.life id
    have absent : s.server.sessions.lookup id = none := by
      cases found : s.server.sessions.lookup id with
      | none => rfl
      | some session =>
          obtain ⟨p, at_, live, -⟩ := life.owned session found
          exact absurd (ended _ p at_) live
    have idle : ∀ owner p, s.phase owner = some p → p.about ≠ some id := by
      intro owner p at_ about
      rw [ended owner p at_] at about
      cases about
    rcases life.gone absent idle with history | history
    · rw [history] at opened
      cases opened
    · exact history

theorem Consistent.others {it : Interpreter} {spec : WorldSpec} {s : System}
    (consistent : Consistent s) {a : Action} {owner : Text} (client : a.client? = some owner)
    {id : Text} {session : Session} (found : s.server.sessions.lookup id = some session)
    (foreign : session.owner ≠ owner) :
    GatewayServer.SameSession s.server (s.step it spec a).server id := by
  have still : GatewayServer.SameSession s.server s.server id := .refl _ id
  have drawn : id ∈ s.drawn := by
    by_contra fresh
    rw [((consistent.life id).undrawn fresh).1] at found
    cases found
  have elsewhere : ∀ p, s.phase owner = some p → p.about ≠ some id := by
    intro p at_ about
    obtain ⟨-, -, -, -, only⟩ := (consistent.life id).owned session found
    exact foreign (only owner p at_ about).symm
  cases a with
  | accept at_ => unfold System.step; dsimp only; split <;> exact still
  | look at_ => unfold System.step; dsimp only; split <;> exact still
  | hangUp at_ => unfold System.step; dsimp only; split <;> exact still
  | malformed at_ => unfold System.step; dsimp only; split <;> exact still
  | respond at_ sent => unfold System.step; dsimp only; split <;> exact still
  | stop => cases client
  | clear => cases client
  | receive at_ elapsedMs token operation arguments =>
      have synced : GatewayServer.SameSession s.server (s.server.syncClock elapsedMs) id := ⟨rfl, rfl⟩
      unfold System.step
      dsimp only
      split
      case h_2 => exact still
      case h_1 =>
        unfold System.begin
        dsimp only
        split
        case isTrue => exact synced
        case isFalse =>
        split
        case isTrue =>
          have listed : GatewayServer.SameSession (s.server.syncClock elapsedMs)
              ((s.server.syncClock elapsedMs).list spec).1 id := GatewayServer.list_same
          exact ⟨listed.entry, listed.records⟩
        case isFalse =>
        split
        case isTrue =>
          cases GatewayServer.openArgument it spec arguments with
          | error raised => exact synced
          | ok resource =>
              dsimp only
              split
              case isTrue => exact still
              case isFalse fresh =>
                refine ⟨(PyDict.lookup_set token id _ _).trans (if_neg ?_), rfl⟩
                rintro rfl
                exact fresh (by simpa using drawn)
        case isFalse =>
          cases GatewayServer.requiredStr arguments "session" with
          | error raised => exact synced
          | ok named =>
              dsimp only
              cases (s.server.syncClock elapsedMs).ownedSession at_ named <;> exact synced
  | proceed at_ =>
      cases client
      unfold System.step
      dsimp only
      split
      case h_2 => exact still
      case h_1 p here =>
        have apart := elsewhere p here
        cases p with
        | opening worked resource =>
            exact GatewayServer.recordOpen_same fun same => apart (congrArg some same.symm)
        | deleting worked =>
            obtain ⟨entries, journal⟩ : (∀ other,
                (s.server.deleteSession worked).1.sessions.lookup other =
                  if other = worked then none else s.server.sessions.lookup other) ∧
                (s.server.deleteSession worked).1.journal = s.server.journal :=
              GatewayServer.deleteSession_effect
            refine ⟨(entries id).trans (if_neg fun same => apart (congrArg some same.symm)), ?_⟩
            show (s.server.deleteSession worked).1.recordsOf id = _
            unfold GatewayServer.recordsOf
            rw [journal]
        | serving worked held operation arguments =>
            have ne : id ≠ worked := fun same => apart (congrArg some same.symm)
            obtain ⟨owned, opening⟩ := consistent.serving owner worked held operation arguments here
            unfold System.proceed
            dsimp only
            by_cases closing : operation = txt "close"
            · rw [if_pos closing]
              exact GatewayServer.recordClose_same ne
            · rw [if_neg closing]
              have used : GatewayServer.Uses s.server
                  (s.server.perform it spec operation worked held arguments).1 worked owner :=
                GatewayServer.perform_uses owned opening closing arguments
              generalize s.server.perform it spec operation worked held arguments = outcome at used ⊢
              obtain ⟨g, reply⟩ := outcome
              cases reply <;> exact used.others id ne
        | _ => exact still
  | finish at_ =>
      cases client
      unfold System.step
      dsimp only
      split
      case h_2 => exact still
      case h_1 =>
        apply (GatewayServer.forceCloseOwner_effect spec consistent.keys owner id).2
        intro other same
        rw [found] at same
        cases same
        exact foreign

/-- **Where `stop` clears only sessions that are being closed, every step keeps the
sessions' lives.** -/
theorem lifecycle_along (it : Interpreter) (spec : WorldSpec) (run : List Action)
    (settled : Along (System.step it spec) Settled (System.new spec) run) :
    Along (System.step it spec) (Keeps it spec) (System.new spec) run := by
  refine Along.imp_of_invariant (Consistent.step it spec) ?_ settled (Consistent.new spec)
  intro s a consistent settled
  have after := consistent.step it spec s a settled
  refine ⟨after.closesOnce, ?_, ?_⟩
  · intro owner client id session found foreign
    exact consistent.others client found foreign
  · intro owner id session operation arguments at_
    exact (after.serving owner id session operation arguments at_).1

/-- A client of the nominal world opens the supply. -/
def openingClient : List Action :=
  [.accept (txt "o"), .look (txt "o"), .receive (txt "o") 0 (txt "t") (txt "open_resource")
      [(txt "resource", .str (txt "TCPIP0::192.0.2.10::inst0::INSTR"))],
    .proceed (txt "o"), .respond (txt "o") true, .look (txt "o")]

/-- The client closes the supply, and the server is stopped before the session is out of the
table. -/
def closingClient : List Action :=
  openingClient ++
    [.receive (txt "o") 0 (txt "u") (txt "close") [(txt "session", .str (txt "t"))],
      .proceed (txt "o"), .stop]

theorem closingClient_settled : Settled
    (closingClient.foldl (System.step ⟨fun _ => true, 900⟩ (.nominal 1)) (System.new (.nominal 1)))
    .clear := by
  have table : ∀ entry ∈ (closingClient.foldl (System.step ⟨fun _ => true, 900⟩ (.nominal 1))
      (System.new (.nominal 1))).server.sessions, entry.1 = txt "t" ∧ entry.2.owner = txt "o" := by
    decide +kernel
  have phase : (closingClient.foldl (System.step ⟨fun _ => true, 900⟩ (.nominal 1))
      (System.new (.nominal 1))).phase (txt "o") = some (.deleting (txt "t")) := rfl
  intro id session found
  obtain ⟨before, after, same, -⟩ := List.lookup_eq_some_iff.1 found
  obtain ⟨rfl, owned⟩ := table (id, session) (by rw [same]; simp)
  exact ⟨.deleting (txt "t"), owned ▸ phase, rfl, trivial⟩

/-- The table is cleared while the session is being closed, and the session is closed once. -/
theorem lifecycle_of_closing :
    (closingClient.foldl (System.step ⟨fun _ => true, 900⟩ (.nominal 1))
        (System.new (.nominal 1))).server.sessions.map Prod.fst = [txt "t"] ∧
      Along (System.step ⟨fun _ => true, 900⟩ (.nominal 1)) (Keeps ⟨fun _ => true, 900⟩ (.nominal 1))
        (System.new (.nominal 1)) (closingClient ++
          [.clear, .proceed (txt "o"), .respond (txt "o") true, .hangUp (txt "o"),
            .finish (txt "o")]) :=
  ⟨rfl, lifecycle_along _ _ _
    ⟨trivial, trivial, trivial, trivial, trivial, trivial, trivial, trivial, trivial,
      closingClient_settled, trivial, trivial, trivial, trivial, trivial⟩⟩

/-- A step moves no thread but its own. -/
theorem System.step_phase {it : Interpreter} {spec : WorldSpec} {s : System} {a : Action}
    {owner : Text} (other : a.client? ≠ some owner) :
    (s.step it spec a).phase owner = s.phase owner := by
  have kept : ∀ {at_ : Text} (p : Option Phase), at_ ≠ owner →
      Function.update s.phase at_ p owner = s.phase owner :=
    fun p ne => Function.update_of_ne (Ne.symm ne) _ _
  cases a with
  | stop => rfl
  | clear => unfold System.step; dsimp only; split <;> rfl
  | receive at_ elapsedMs token operation arguments =>
      have ne : at_ ≠ owner := fun same => other (congrArg some same)
      unfold System.step
      dsimp only
      split
      case h_2 => rfl
      case h_1 =>
        unfold System.begin
        dsimp only
        split
        case isTrue => exact kept _ ne
        case isFalse =>
        split
        case isTrue => exact kept _ ne
        case isFalse =>
        split
        case isTrue =>
          cases GatewayServer.openArgument it spec arguments with
          | error raised => exact kept _ ne
          | ok resource =>
              dsimp only
              split
              · rfl
              · exact kept _ ne
        case isFalse =>
          cases GatewayServer.requiredStr arguments "session" with
          | error raised => exact kept _ ne
          | ok named =>
              dsimp only
              cases (s.server.syncClock elapsedMs).ownedSession at_ named <;> exact kept _ ne
  | proceed at_ =>
      have ne : at_ ≠ owner := fun same => other (congrArg some same)
      unfold System.step
      dsimp only
      split
      case h_2 => rfl
      case h_1 p here =>
        cases p with
        | opening => exact kept _ ne
        | deleting => exact kept _ ne
        | serving worked held operation arguments =>
            unfold System.proceed
            dsimp only
            split
            · exact kept _ ne
            · generalize s.server.perform it spec operation worked held arguments = outcome
              obtain ⟨g, reply⟩ := outcome
              cases reply <;> exact kept _ ne
        | _ => rfl
  | accept at_ | look at_ | hangUp at_ | malformed at_ | finish at_ =>
      have ne : at_ ≠ owner := fun same => other (congrArg some same)
      unfold System.step
      dsimp only
      split
      · exact kept _ ne
      · rfl
  | respond at_ sent =>
      have ne : at_ ≠ owner := fun same => other (congrArg some same)
      unfold System.step
      dsimp only
      split
      · exact kept _ ne
      · rfl

/-- The server is stopped while the client is connected; the client disconnects later. -/
def clearedRun : List Action :=
  openingClient ++ [.stop, .clear, .hangUp (txt "o"), .finish (txt "o")]

theorem cleared_session_unclosed :
    ¬ Along (System.step ⟨fun _ => true, 900⟩ (.nominal 1)) (Keeps ⟨fun _ => true, 900⟩ (.nominal 1))
      (System.new (.nominal 1)) clearedRun := by
  rintro ⟨-, -, -, -, -, -, -, -, -, ⟨closesOnce, -⟩, -⟩
  have last : ClosesOnce (clearedRun.foldl (System.step ⟨fun _ => true, 900⟩ (.nominal 1))
      (System.new (.nominal 1))) → False := by
    rintro ⟨-, closes⟩
    have others : ∀ (run : List Action) (s : System) (owner : Text),
        (∀ a ∈ run, a.client? ≠ some owner) → (run.foldl (System.step ⟨fun _ => true, 900⟩ (.nominal 1)) s).phase owner =
          s.phase owner := by
      intro run
      induction run with
      | nil => intro s owner apart; rfl
      | cons a rest ih =>
          intro s owner apart
          rw [List.foldl_cons, ih _ owner fun b member => apart b (List.mem_cons_of_mem _ member),
            System.step_phase (apart a List.mem_cons_self)]
    have history := closes (by
      intro owner p at_
      by_cases here : owner = txt "o"
      · subst here
        have ended : (clearedRun.foldl (System.step ⟨fun _ => true, 900⟩ (.nominal 1))
            (System.new (.nominal 1))).phase (txt "o") = some .ended := rfl
        rw [ended] at at_
        exact (Option.some.inj at_).symm
      · rw [others clearedRun _ owner (by
          intro a member
          have clients : ∀ a ∈ clearedRun, a.client? = some (txt "o") ∨ a.client? = none := by
            decide
          rcases clients a member with is | is <;> rw [is]
          · exact fun same => here (Option.some.inj same).symm
          · simp)] at at_
        cases at_) (txt "t") (by decide)
    revert history
    decide
  exact last closesOnce

end InstrumentBench.Gateway
