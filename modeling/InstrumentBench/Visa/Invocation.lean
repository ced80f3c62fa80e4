/-
# Visa.Invocation -- what one invocation journals

`Outcome` says once, for all ten operations, which kinds of records `_invoke` journals,
what it does to the connection's sessions and how it ends; `invoke_outcome` proves it.
Everything the accounting needs of an operation is read off it.
-/
import InstrumentBench.Visa.System

namespace InstrumentBench.Visa

set_option autoImplicit false

open InstrumentBench.Theory

/-- The kinds of the records, the untracked ones left out. -/
def trackedKinds (events : List Body) : List EventKind :=
  (events.map Body.kind).filter (· ≠ .untracked)

@[simp] theorem trackedKinds_nil : trackedKinds [] = [] := rfl

theorem trackedKinds_append (events more : List Body) :
    trackedKinds (events ++ more) = trackedKinds events ++ trackedKinds more := by
  simp [trackedKinds]

theorem trackedKinds_cons (body : Body) (rest : List Body) :
    trackedKinds (body :: rest) = trackedKinds [body] ++ trackedKinds rest :=
  trackedKinds_append [body] rest

/-- Hook records are not tracked. -/
theorem trackedKinds_hooks (ran : List Ran) (origin : Ran → Origin) :
    trackedKinds (ran.map fun r => .hook (origin r) r.event) = [] := by
  simp [trackedKinds, Body.kind]

/-- **What an invocation can do.**  By operation: the tracked records, the sessions it
leaves and its result. -/
inductive Outcome (x : Call) : Operation → List EventKind → Sessions → Answer → Prop where
  /-- Nothing was attempted. -/
  | refused (op : Operation) (e : Raise) : Outcome x op [] x.sessions (.error e)
  | answered {op : Operation} (v : WireValue × Option Int) (reads : op ≠ .read)
      (writes : op ≠ .write) : Outcome x op [] x.sessions (.ok v)
  | granted {op : Operation} (remote : RemoteSession) (v : WireValue × Option Int)
      (opens : op = .openDefaultResourceManager ∨ op = .openSession) :
      Outcome x op [.sessionOpen] (x.sessions ++ [(x.env.token, remote)]) (.ok v)
  | closed {token : Text} {remote : RemoteSession} (v : WireValue × Option Int)
      (held : x.sessions.lookup token = some remote) :
      Outcome x .close [.sessionClose] (x.sessions.eraseP (·.1 = token)) (.ok v)
  | queried (v : WireValue × Option Int) :
      Outcome x .listResources [.resourceQueryRequest, .resourceQueryResult] x.sessions (.ok v)
  | queryRefused (e : Raise) :
      Outcome x .listResources [.resourceQueryRequest, .resourceQueryReject] x.sessions (.error e)
  | queryFailed {e : Raise} (trusted : rejection e = none) :
      Outcome x .listResources [.resourceQueryRequest] x.sessions (.error e)
  | read (v : WireValue × Option Int) :
      Outcome x .read [.scpiRead, .scpiReadResult] x.sessions (.ok v)
  | readFailed (e : Raise) : Outcome x .read [.scpiRead] x.sessions (.error e)
  | written (v : WireValue × Option Int) :
      Outcome x .write [.scpiWrite, .scpiWriteResult] x.sessions (.ok v)
  | writeFailed (e : Raise) : Outcome x .write [.scpiWrite] x.sessions (.error e)

/-- An operation that neither reads nor writes may answer anything. -/
theorem Outcome.answer {x : Call} {op : Operation} (answer : Answer) (reads : op ≠ .read)
    (writes : op ≠ .write) : Outcome x op [] x.sessions answer := by
  cases answer with
  | error e => exact .refused op e
  | ok v => exact .answered v reads writes

/-- The invocation behaves as `op` may. -/
def Invocation.Behaves (inv : Invocation) (x : Call) (op : Operation) : Prop :=
  Outcome x op (trackedKinds inv.events) inv.sessions inv.result ∧
    ∀ body ∈ inv.events, body.connection = some x.connection ∨ body.connection = none

namespace Call

theorem raises_behaves (x : Call) (op : Operation) (e : Raise) : (x.raises [] e).Behaves x op :=
  ⟨.refused op e, by simp [raises]⟩

theorem grant_behaves {x : Call} {op : Operation} (library : Library) (handle : Nat) (status : Int)
    (sessionKind : Text) (parent resourceName : Option Text)
    (opens : op = .openDefaultResourceManager ∨ op = .openSession) :
    (x.grant library handle status sessionKind parent resourceName).Behaves x op :=
  ⟨.granted _ _ opens, by simp [grant, Body.connection]⟩

theorem openDefaultResourceManager_behaves (x : Call) :
    x.openDefaultResourceManager.Behaves x .openDefaultResourceManager := by
  unfold openDefaultResourceManager
  split
  · exact x.raises_behaves _ _
  · exact grant_behaves _ _ _ _ _ _ (Or.inl rfl)

theorem close_behaves {x : Call} {token : Text} {remote : RemoteSession}
    (held : x.sessions.lookup token = some remote) : (x.close token remote).Behaves x .close := by
  unfold close
  split
  · exact x.raises_behaves _ _
  · exact ⟨.closed _ held, by simp [Body.connection]⟩

end Call

theorem filterResources_error {reply : WorkerReply} {resources : List Text} {query : Text}
    {e : Raise} (failed : filterResources reply resources query = .error e) :
    (∃ reason code, e = .queryRejected reason code) ∨ rejection e = none := by
  unfold filterResources at failed
  split at failed
  · cases failed
    exact Or.inl ⟨_, _, rfl⟩
  · split at failed
    · cases failed
      exact Or.inl ⟨_, _, rfl⟩
    · cases failed
      exact Or.inr rfl
    · cases failed
      exact Or.inl ⟨_, _, rfl⟩
    · split at failed <;> cases failed
      exact Or.inr rfl

namespace Setup

variable (setup : Setup)

theorem sessionOf_held {x : Call} {token : Text} {session : RemoteSession}
    (found : sessionOf x = some (token, session)) :
    x.args.lookup (txt "session") = some (.str token) ∧ x.sessions.lookup token = some session := by
  unfold sessionOf at found
  split at found
  · rename_i named lookup
    obtain ⟨remote, held, same⟩ := Option.map_eq_some_iff.1 found
    cases same
    exact ⟨lookup, held⟩
  · cases found

theorem listResources_behaves (x : Call) : (setup.listResources x).Behaves x .listResources := by
  unfold listResources
  split
  · exact x.raises_behaves _ _
  · split
    · exact x.raises_behaves _ _
    · dsimp only
      split
      · exact ⟨.queryRefused _, by simp [Call.raises, Body.connection]⟩
      · rename_i e unlike failed
        rcases filterResources_error failed with ⟨reason, code, rfl⟩ | trusted
        · exact absurd rfl (unlike reason code)
        · exact ⟨.queryFailed trusted, by simp [Call.raises, Body.connection]⟩
      · exact ⟨.queryRefused _, by simp [Call.raises, Body.connection]⟩
      · exact ⟨.queried _, by simp [Body.connection]⟩

theorem openSession_behaves (x : Call) (token : Text) (handle : Nat) :
    (setup.openSession x token handle).Behaves x .openSession := by
  unfold openSession
  split
  · exact x.raises_behaves _ _
  · split
    · exact x.raises_behaves _ _
    · split
      · exact ⟨.refused _ _, by simp⟩
      · exact Call.grant_behaves _ _ _ _ _ _ (Or.inr rfl)

theorem read_behaves (x : Call) (token : Text) (handle : Nat) :
    (setup.read x token handle).Behaves x .read := by
  unfold read
  split
  · exact x.raises_behaves _ _
  · split
    · exact x.raises_behaves _ _
    · dsimp only
      split
      · exact ⟨.readFailed _, by simp [Body.connection]⟩
      · exact ⟨.read _, by simp [Body.connection]⟩

theorem write_behaves (x : Call) (token : Text) (handle : Nat) :
    (setup.write x token handle).Behaves x .write := by
  unfold write
  split
  · exact x.raises_behaves _ _
  · split
    · dsimp only
      split
      · refine ⟨?_, by simp [Body.connection]⟩
        dsimp only
        rw [trackedKinds_cons, trackedKinds_hooks]
        exact .writeFailed _
      · refine ⟨?_, ?_⟩
        · dsimp only
          rw [trackedKinds_append, trackedKinds_cons, trackedKinds_hooks]
          exact .written _
        · intro body mem
          simp only [List.mem_append, List.mem_cons, List.mem_map, List.not_mem_nil,
            or_false] at mem
          rcases mem with (rfl | ⟨r, -, rfl⟩) | rfl <;> simp [Body.connection]
    · exact x.raises_behaves _ _

theorem getAttribute_behaves (x : Call) (handle : Nat) :
    (setup.getAttribute x handle).Behaves x .getAttribute := by
  unfold getAttribute
  split
  · exact x.raises_behaves _ _
  · split
    · exact x.raises_behaves _ _
    · exact ⟨.answer _ (by simp) (by simp), by simp⟩

theorem setAttribute_behaves (x : Call) (handle : Nat) :
    (setup.setAttribute x handle).Behaves x .setAttribute := by
  unfold setAttribute
  split
  · exact x.raises_behaves _ _
  · split
    · exact x.raises_behaves _ _
    · split
      · exact ⟨.refused _ _, by simp⟩
      · exact ⟨.answered _ (by simp) (by simp), by simp⟩

theorem eventOperation_behaves (x : Call) (handle : Nat) {op : Operation} (reads : op ≠ .read)
    (writes : op ≠ .write) : (setup.eventOperation x handle).Behaves x op := by
  unfold eventOperation
  split
  · exact x.raises_behaves _ _
  · split
    · exact x.raises_behaves _ _
    · exact ⟨.answered _ reads writes, by simp⟩

/-- **Every invocation behaves as its operation may.** -/
theorem invoke_behaves (x : Call) (op : Operation) : (setup.invoke x op).Behaves x op := by
  unfold invoke
  split
  · rename_i manager
    rw [manager]
    exact x.openDefaultResourceManager_behaves
  · split
    · exact ⟨.refused _ _, by simp [Call.raises, Body.connection]⟩
    · rename_i token session held
      have held := (sessionOf_held held).2
      cases op with
      | openDefaultResourceManager => exact x.openDefaultResourceManager_behaves
      | listResources => exact setup.listResources_behaves x
      | openSession => exact setup.openSession_behaves x token session.realSession
      | close => exact Call.close_behaves held
      | read => exact setup.read_behaves x token session.realSession
      | write => exact setup.write_behaves x token session.realSession
      | getAttribute => exact setup.getAttribute_behaves x session.realSession
      | setAttribute => exact setup.setAttribute_behaves x session.realSession
      | disableEvent => exact setup.eventOperation_behaves x _ (by simp) (by simp)
      | discardEvents => exact setup.eventOperation_behaves x _ (by simp) (by simp)

end Setup

end InstrumentBench.Visa
