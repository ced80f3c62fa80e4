/-
# Visa.Ownership -- which connection holds which handle

The library knows handles, the broker's connections know tokens.  This module follows
what the broker passes to the library on behalf of each connection, as a history, and
states isolation on it: a handle passed for a connection is one that an open of its own
returned and that it has not closed, and a `disconnect` closes the connection's own
handles, each once.

The library answers a failed open with the handle 0 and an error status, and the broker
grants a token for it all the same.  Two such tokens share a handle, so isolation holds
of runs in which no failed open meets a connection that still holds one, and
`shared_null_handle` is a run that breaks it.
-/
import InstrumentBench.Theory.PyDict
import InstrumentBench.Visa.Transitions

namespace InstrumentBench.Visa

set_option autoImplicit false

open InstrumentBench.Theory InstrumentBench.Theory.PyText

/-! ## Handles and tokens -/

/-- The library handles behind a connection's tokens. -/
def handlesOf (sessions : Sessions) : List Nat := sessions.map fun s => s.2.realSession

def tokensOf (sessions : Sessions) : List Text := sessions.map Prod.fst

def Library.handles (lib : Library) : List Nat := lib.sessions.map Prod.fst

theorem Library.mem_handles (lib : Library) (handle : Nat) :
    handle ∈ lib.handles ↔ (lib.sessions.lookup handle).isSome = true := by
  rw [PyDict.lookup_isSome_iff, handles, List.mem_map]

/-! ## Opens that reach the library -/

namespace Setup

variable (setup : Setup)

/-- The name an `open` hands the library, once its arguments have passed their checks. -/
def checkedName (args : Args) : Except Raise Text := do
  let name ← stringArg args "resource_name"
  let _ ← memberOf setup.pyvisa.isAccessMode (← integerArg args "access_mode" (some 0))
  let _ ← integerArg args "open_timeout" (some 0)
  pure name

/-- The resource manager and the resource name of an `open` that reaches the library. -/
def opens (x : Call) : Option (Nat × Text) :=
  match sessionOf x with
  | none => none
  | some (_, session) =>
      if exactly x.args [txt "session", txt "resource_name", txt "access_mode",
          txt "open_timeout"] then
        (setup.checkedName x.args).toOption.map (session.realSession, ·)
      else none

/-- The name parses, and the device it names is there unless its session class refuses
the name before it looks. -/
def openable (name : Text) : Bool :=
  match setup.pyvisa.parseResourceName name with
  | none => false
  | some parsed =>
      match parsed.sessionType with
      | none => true
      | some sessionType =>
          (parsedAttributes parsed sessionType).isNone ||
            (Library.deviceAt setup.simulator.spec parsed.canonical).isSome

/-- What the library answers an open. -/
def opening (x : Call) (manager : Nat) (name : Text) : Except Raise (Nat × Int) × Library :=
  x.library.openSession setup.simulator setup.pyvisa x.env.handle manager name

/-- **What the library makes of an open.**  It raises, or answers the handle 0 and an
error for a name that is not openable, or registers the handle. -/
theorem opening_cases (x : Call) (manager : Nat) (name : Text) :
    (∃ e, setup.opening x manager name = (.error e, x.library.heard (.passed manager))) ∨
    (∃ status, status < 0 ∧ setup.openable name = false ∧ setup.opening x manager name =
      (.ok (0, status), (x.library.heard (.passed manager)).heard (.opened 0 name))) ∨
    ∃ s, setup.openable name = true ∧ setup.opening x manager name =
      (.ok (x.env.handle, StatusCode.success),
        ((x.library.heard (.passed manager)).register x.env.handle (.session s)).heard
          (.opened x.env.handle name)) := by
  unfold opening Library.openSession openable
  cases parses : setup.pyvisa.parseResourceName name with
  | none =>
      right; left
      exact ⟨_, by decide, rfl, rfl⟩
  | some parsed =>
      dsimp only
      cases parsed.sessionType with
      | none => exact Or.inl ⟨_, rfl⟩
      | some sessionType =>
          dsimp only
          cases parsedAttributes parsed sessionType with
          | none => exact Or.inl ⟨_, rfl⟩
          | some attributes =>
              dsimp only
              cases Library.deviceAt setup.simulator.spec parsed.canonical with
              | none =>
                  right; left
                  exact ⟨_, by decide, rfl, rfl⟩
              | some i =>
                  right; right
                  exact ⟨_, rfl, rfl⟩

/-- `open`, by what the library makes of it. -/
theorem openSession_eq {x : Call} {token : Text} {session : RemoteSession}
    (named : sessionOf x = some (token, session)) :
    (∃ e, setup.openSession x token session.realSession = x.raises [] e ∧
      setup.opens x = none) ∨
    ∃ name, setup.opens x = some (session.realSession, name) ∧
      setup.openSession x token session.realSession =
        match setup.opening x session.realSession name with
        | (.error e, library) => ⟨[], x.sessions, library, .error e⟩
        | (.ok (opened, status), library) =>
            x.grant library opened status (txt "resource") (some token) (some name) := by
  unfold openSession opens opening
  rw [named]
  dsimp only
  by_cases fits : exactly x.args [txt "session", txt "resource_name", txt "access_mode",
      txt "open_timeout"] = true
  · rw [fits, if_neg (by decide), if_pos rfl]
    unfold checkedName
    generalize (do
      let name ← stringArg x.args "resource_name"
      let _ ← memberOf setup.pyvisa.isAccessMode (← integerArg x.args "access_mode" (some 0))
      let _ ← integerArg x.args "open_timeout" (some 0)
      pure name : Except Raise Text) = checked
    cases checked with
    | error e => exact Or.inl ⟨e, rfl, rfl⟩
    | ok name => exact Or.inr ⟨name, rfl, rfl⟩
  · rw [Bool.not_eq_true] at fits
    rw [fits, if_pos (by decide)]
    exact Or.inl ⟨_, rfl, rfl⟩

end Setup

/-! ## Traffic -/

/-- What passes between the broker and the library on behalf of a connection: an open
answers a handle, which goes under a token; a handle is passed; a handle is closed. -/
inductive Traffic where
  | opened (token : Text) (handle : Nat) (resource : Option Text)
  | passed (handle : Nat)
  | closed (handle : Nat)
deriving DecidableEq

abbrev History := List (Nat × Traffic)

/-- What a call to the library is to the broker, which puts an opened handle under a
token. -/
def Traffic.of (token : Text) : LibraryCall → Traffic
  | .opened handle resource => .opened token handle resource
  | .passed handle => .passed handle
  | .closed handle => .closed handle

/-- What the library hears of the traffic. -/
def Traffic.heard : Traffic → LibraryCall
  | .opened _ handle resource => .opened handle resource
  | .passed handle => .passed handle
  | .closed handle => .closed handle

/-- The traffic of an invocation: what the library heard during it. -/
def Setup.traffic (setup : Setup) (x : Call) (op : Operation) : List Traffic :=
  ((setup.invoke x op).library.calls.drop x.library.calls.length).map (.of x.env.token)

/-- The traffic of a step. -/
def Broker.traffic (setup : Setup) (b : Broker) : Action → History
  | .disconnect c =>
      (b.sessionsOf c).reverse.flatMap fun s =>
        [(c, .passed s.2.realSession), (c, .closed s.2.realSession)]
  | action =>
      match b.call? action with
      | none => []
      | some (x, op) => (setup.traffic x op).map (x.connection, ·)

/-- The handles a connection opened and has not closed. -/
def Traffic.after (handles : List Nat) : Traffic → List Nat
  | .opened _ handle _ => handles ++ [handle]
  | .passed _ => handles
  | .closed handle => handles.filter (· ≠ handle)

def held (c : Nat) (history : History) : List Nat :=
  history.foldl (fun handles e => if e.1 = c then e.2.after handles else handles) []

@[simp] theorem held_nil (c : Nat) : held c [] = [] := rfl

theorem held_append (c : Nat) (history more : History) :
    held c (history ++ more) =
      more.foldl (fun handles e => if e.1 = c then e.2.after handles else handles)
        (held c history) := by
  unfold held
  rw [List.foldl_append]

@[simp] theorem held_concat (c d : Nat) (history : History) (t : Traffic) :
    held c (history ++ [(d, t)]) =
      if d = c then t.after (held c history) else held c history :=
  held_append c history [(d, t)]

/-- The handles closed along a history. -/
def closes (history : History) : List Nat :=
  history.filterMap fun e =>
    match e.2 with
    | .closed handle => some handle
    | _ => none

/-! ## What an invocation does to the sessions -/

/-- **The traffic of an invocation, with the sessions it leaves and the handles the
library then has.** -/
inductive Serves (setup : Setup) (x : Call) :
    Operation → List Traffic → Sessions → List Nat → Prop where
  | refused (op : Operation) : Serves setup x op [] x.sessions x.library.handles
  | used {op : Operation} {token : Text} {session : RemoteSession}
      (named : Setup.sessionOf x = some (token, session)) :
      Serves setup x op [.passed session.realSession] x.sessions x.library.handles
  | managed (kind : Text) :
      Serves setup x .openDefaultResourceManager [.opened x.env.token x.env.handle none]
        (x.sessions ++ [(x.env.token, ⟨x.env.handle, kind⟩)]) (x.library.handles ++ [x.env.handle])
  | opened {token name : Text} {session : RemoteSession} (kind : Text)
      (named : Setup.sessionOf x = some (token, session)) :
      Serves setup x .openSession
        [.passed session.realSession, .opened x.env.token x.env.handle (some name)]
        (x.sessions ++ [(x.env.token, ⟨x.env.handle, kind⟩)]) (x.library.handles ++ [x.env.handle])
  | unopened {token name : Text} {session : RemoteSession} (kind : Text)
      (named : Setup.sessionOf x = some (token, session))
      (opens : setup.opens x = some (session.realSession, name))
      (fails : setup.openable name = false) :
      Serves setup x .openSession
        [.passed session.realSession, .opened x.env.token 0 (some name)]
        (x.sessions ++ [(x.env.token, ⟨0, kind⟩)]) x.library.handles
  | closed {token : Text} {session : RemoteSession}
      (named : Setup.sessionOf x = some (token, session)) :
      Serves setup x .close [.passed session.realSession, .closed session.realSession]
        (x.sessions.eraseP (·.1 = token)) (x.library.handles.filter (· ≠ session.realSession))

namespace Library

@[simp] theorem heard_calls (lib : Library) (call : LibraryCall) :
    (lib.heard call).calls = lib.calls ++ [call] := rfl

@[simp] theorem heard_sessions (lib : Library) (call : LibraryCall) :
    (lib.heard call).sessions = lib.sessions := rfl

@[simp] theorem heard_handles (lib : Library) (call : LibraryCall) :
    (lib.heard call).handles = lib.handles := rfl

theorem close_sessions (lib : Library) (handle : Nat) :
    (lib.close handle).2.sessions = lib.sessions.filter (·.1 ≠ handle) := by
  unfold close
  dsimp only
  split
  · rfl
  · rename_i absent
    replace absent := mt (lib.mem_handles handle).1 absent
    symm
    apply List.filter_eq_self.2
    intro entry listed
    apply decide_eq_true
    rintro rfl
    exact absent (List.mem_map_of_mem listed)

theorem close_handles (lib : Library) (handle : Nat) :
    (lib.close handle).2.handles = lib.handles.filter (· ≠ handle) := by
  unfold handles
  rw [lib.close_sessions, List.filter_map]
  rfl

theorem close_calls (lib : Library) (handle : Nat) :
    (lib.close handle).2.calls = lib.calls ++ [.passed handle, .closed handle] := by
  unfold close
  dsimp only
  split <;> simp

/-- `read` passes its handle and leaves the registered sessions. -/
theorem read_keeps (lib : Library) (py : Pyvisa) (polls : List Session.Poll) (handle : Nat)
    (count : Int) : (lib.read py polls handle count).2.handles = lib.handles ∧
      (lib.read py polls handle count).2.calls = lib.calls ++ [.passed handle] := by
  unfold read
  dsimp only
  split
  · exact ⟨rfl, rfl⟩
  · exact ⟨rfl, rfl⟩
  · split
    · exact ⟨rfl, rfl⟩
    · split
      · exact ⟨rfl, rfl⟩
      · split <;> exact ⟨rfl, rfl⟩

theorem write_keeps (lib : Library) (sim : Simulator) (py : Pyvisa) (digest : Text)
    (moments : Nat → Moment) (handle : Nat) (data : Bytes) :
    (lib.write sim py digest moments handle data).2.2.handles = lib.handles ∧
      (lib.write sim py digest moments handle data).2.2.calls = lib.calls ++ [.passed handle] := by
  unfold write
  dsimp only
  split
  · exact ⟨rfl, rfl⟩
  · exact ⟨rfl, rfl⟩
  · split <;> exact ⟨rfl, rfl⟩

theorem getAttribute_keeps (lib : Library) (py : Pyvisa) (handle : Nat) (id : Int) :
    (lib.getAttribute py handle id).2.handles = lib.handles ∧
      (lib.getAttribute py handle id).2.calls = lib.calls ++ [.passed handle] := by
  unfold getAttribute
  dsimp only
  split <;> exact ⟨rfl, rfl⟩

theorem setAttribute_keeps (lib : Library) (py : Pyvisa) (handle : Nat) (id : Int)
    (value : WireValue) : (lib.setAttribute py handle id value).2.handles = lib.handles ∧
      (lib.setAttribute py handle id value).2.calls = lib.calls ++ [.passed handle] := by
  unfold setAttribute
  dsimp only
  split
  · exact ⟨rfl, rfl⟩
  · exact ⟨rfl, rfl⟩
  · refine ⟨?_, rfl⟩
    simp only [handles, heard_sessions, List.map_map]
    apply List.map_congr_left
    intro entry _
    show (if entry.1 = handle then _ else entry).1 = entry.1
    split
    case isTrue same => exact same.symm
    case isFalse => rfl

end Library

namespace Setup

variable {setup : Setup} {x : Call} {token : Text} {session : RemoteSession}

/-- An invocation leaves the sessions and the handles, and passes at most `handle`. -/
def Leaves (x : Call) (handle : Nat) (inv : Invocation) : Prop :=
  inv.sessions = x.sessions ∧ inv.library.handles = x.library.handles ∧
    (inv.library.calls = x.library.calls ∨
      inv.library.calls = x.library.calls ++ [.passed handle])

theorem Leaves.unheard {handle : Nat} {inv : Invocation} (sessions : inv.sessions = x.sessions)
    (library : inv.library = x.library) : Leaves x handle inv :=
  ⟨sessions, by rw [library], Or.inl (by rw [library])⟩

/-- An operation other than `open` and `close` leaves the sessions and the handles, and
passes no handle but its own. -/
theorem onSession_leaves {op : Operation} (manages : op ≠ .openDefaultResourceManager)
    (opens : op ≠ .openSession) (closes : op ≠ .close) :
    Leaves x session.realSession (setup.onSession x token session op) := by
  cases op with
  | openDefaultResourceManager => exact absurd rfl manages
  | openSession => exact absurd rfl opens
  | close => exact absurd rfl closes
  | listResources =>
      simp only [onSession, listResources]
      repeat' split
      all_goals exact .unheard rfl rfl
  | read =>
      simp only [onSession, read]
      split
      · exact .unheard rfl rfl
      · split
        · exact .unheard rfl rfl
        · rename_i count _
          obtain ⟨handles, calls⟩ :=
            x.library.read_keeps setup.pyvisa x.env.polls session.realSession count
          split
          all_goals
            rename_i answered
            rw [answered] at handles calls
            exact ⟨rfl, handles, Or.inr calls⟩
  | write =>
      simp only [onSession, write]
      split
      · exact .unheard rfl rfl
      · split
        · rename_i data _
          obtain ⟨handles, calls⟩ := x.library.write_keeps setup.simulator setup.pyvisa
            (tokenDigest token) x.env.moments session.realSession data
          split
          all_goals
            rename_i answered
            rw [answered] at handles calls
            exact ⟨rfl, handles, Or.inr calls⟩
        · exact .unheard rfl rfl
  | getAttribute =>
      simp only [onSession, getAttribute]
      split
      · exact .unheard rfl rfl
      · split
        · exact .unheard rfl rfl
        · obtain ⟨handles, calls⟩ :=
            x.library.getAttribute_keeps setup.pyvisa session.realSession _
          exact ⟨rfl, handles, Or.inr calls⟩
  | setAttribute =>
      simp only [onSession, setAttribute]
      split
      · exact .unheard rfl rfl
      · split
        · exact .unheard rfl rfl
        · rename_i id _
          obtain ⟨handles, calls⟩ := x.library.setAttribute_keeps setup.pyvisa session.realSession
            id ((x.args.lookup (txt "attribute_state")).getD .none)
          split
          all_goals
            rename_i answered
            rw [answered] at handles calls
            exact ⟨rfl, handles, Or.inr calls⟩
  | disableEvent =>
      simp only [onSession, eventOperation]
      repeat' split
      all_goals first | exact .unheard rfl rfl | exact ⟨rfl, rfl, Or.inr rfl⟩
  | discardEvents =>
      simp only [onSession, eventOperation]
      repeat' split
      all_goals first | exact .unheard rfl rfl | exact ⟨rfl, rfl, Or.inr rfl⟩

/-- The invocation serves its operation with what the library hears of it. -/
def Heard (setup : Setup) (x : Call) (op : Operation) (inv : Invocation) : Prop :=
  ∃ calls : List LibraryCall, inv.library.calls = x.library.calls ++ calls ∧
    Serves setup x op (calls.map (.of x.env.token)) inv.sessions inv.library.handles

/-- Nothing is heard of an invocation that leaves the library. -/
theorem Heard.refused {op : Operation} {inv : Invocation} (sessions : inv.sessions = x.sessions)
    (library : inv.library = x.library) : Heard setup x op inv := by
  refine ⟨[], by rw [library, List.append_nil], ?_⟩
  rw [sessions, library]
  exact .refused op

theorem openSession_heard (named : sessionOf x = some (token, session)) :
    Heard setup x .openSession (setup.openSession x token session.realSession) := by
  rcases setup.openSession_eq named with ⟨e, made, -⟩ | ⟨name, some, made⟩
  · rw [made]
    exact .refused rfl rfl
  · rw [made]
    rcases setup.opening_cases x session.realSession name with ⟨e, answer⟩ |
      ⟨status, -, fails, answer⟩ | ⟨s, -, answer⟩
    · rw [answer]
      exact ⟨[.passed session.realSession], rfl, .used named⟩
    · rw [answer]
      exact ⟨[.passed session.realSession, .opened 0 name], by simp [Call.grant],
        .unopened _ named some fails⟩
    · rw [answer]
      refine ⟨[.passed session.realSession, .opened x.env.handle name],
        by simp [Call.grant, Library.register], ?_⟩
      have registered : (((x.library.heard (.passed session.realSession)).register x.env.handle
          (.session s)).heard (.opened x.env.handle name)).handles =
          x.library.handles ++ [x.env.handle] := by
        simp [Library.handles, Library.register]
      simp only [Call.grant, registered]
      exact .opened _ named

theorem close_heard (named : sessionOf x = some (token, session)) :
    Heard setup x .close (x.close token session) := by
  unfold Call.close
  by_cases fits : exactly x.args [txt "session"] = true
  · rw [fits, if_neg (by decide)]
    refine ⟨[.passed session.realSession, .closed session.realSession],
      x.library.close_calls session.realSession, ?_⟩
    dsimp only
    rw [Library.close_handles]
    exact .closed named
  · rw [Bool.not_eq_true] at fits
    rw [fits, if_pos (by decide)]
    exact .refused rfl rfl

theorem invoke_heard (setup : Setup) (x : Call) (op : Operation) :
    Heard setup x op (setup.invoke x op) := by
  by_cases manages : op = .openDefaultResourceManager
  · subst manages
    simp only [invoke, if_pos, Call.openDefaultResourceManager]
    by_cases fits : exactly x.args [] = true
    · rw [fits, if_neg (by decide)]
      refine ⟨[.opened x.env.handle none], rfl, ?_⟩
      have registered : (x.library.openDefaultResourceManager x.env.handle).2.handles =
          x.library.handles ++ [x.env.handle] := by
        simp [Library.openDefaultResourceManager, Library.handles, Library.register]
      simp only [Call.grant, registered]
      exact .managed _
    · rw [Bool.not_eq_true] at fits
      rw [fits, if_pos (by decide)]
      exact .refused rfl rfl
  · rw [invoke, if_neg manages]
    cases named : sessionOf x with
    | none => exact .refused rfl rfl
    | some pair =>
        obtain ⟨token, session⟩ := pair
        dsimp only
        by_cases opens : op = .openSession
        · subst opens
          exact openSession_heard named
        · by_cases closes : op = .close
          · subst closes
            exact close_heard named
          · obtain ⟨sessions, handles, unheard | passed⟩ :=
              @onSession_leaves setup x token session op manages opens closes
            · refine ⟨[], by rw [unheard, List.append_nil], ?_⟩
              rw [sessions, handles]
              exact .refused op
            · refine ⟨_, passed, ?_⟩
              rw [sessions, handles]
              exact .used named

/-- The library hears the traffic of an invocation, and of nothing else. -/
theorem invoke_calls (setup : Setup) (x : Call) (op : Operation) :
    (setup.invoke x op).library.calls =
      x.library.calls ++ (setup.traffic x op).map Traffic.heard := by
  obtain ⟨calls, heard, -⟩ := setup.invoke_heard x op
  have same (call : LibraryCall) : (Traffic.of x.env.token call).heard = call := by cases call <;> rfl
  rw [traffic, heard, List.drop_left, List.map_map]
  simp only [Function.comp_def, same, List.map_id']

/-- **Every invocation serves its operation.** -/
theorem invoke_serves (setup : Setup) (x : Call) (op : Operation) :
    Serves setup x op (setup.traffic x op) (setup.invoke x op).sessions
      (setup.invoke x op).library.handles := by
  obtain ⟨calls, heard, serves⟩ := setup.invoke_heard x op
  rw [traffic, heard, List.drop_left]
  exact serves

end Setup

/-! ## Histories -/

/-- Every handle passed for a connection is one it holds at that point. -/
def Legitimate (history : History) : Prop :=
  ∀ pre c handle post, history = pre ++ (c, .passed handle) :: post → handle ∈ held c pre

theorem legitimate_nil : Legitimate [] := by
  intro pre c handle post split
  simp at split

theorem Legitimate.concat {history : History} (legitimate : Legitimate history) {c : Nat}
    {t : Traffic} (passes : ∀ handle, t = .passed handle → handle ∈ held c history) :
    Legitimate (history ++ [(c, t)]) := by
  intro pre d handle post split
  rcases List.eq_nil_or_concat post with rfl | ⟨init, last, rfl⟩
  · obtain ⟨rfl, same⟩ := List.append_inj' split rfl
    cases same
    exact passes handle rfl
  · rw [List.concat_eq_append, ← List.cons_append, ← List.append_assoc] at split
    obtain ⟨rfl, -⟩ := List.append_inj' split rfl
    exact legitimate pre d handle init rfl

/-- **Who holds what.**  The tables of the connections, the handles of the library and
the tokens issued, beside the history that led to them. -/
structure Owned (sessions : Nat → Sessions) (handles : List Nat) (minted : List Text)
    (history : History) : Prop where
  held : ∀ c, held c history = handlesOf (sessions c)
  nodup : ∀ c, (handlesOf (sessions c)).Nodup
  apart : ∀ c d, c ≠ d → ∀ handle ∈ handlesOf (sessions c), handle ∉ handlesOf (sessions d)
  live : ∀ c, ∀ handle ∈ handlesOf (sessions c), handle = 0 ∨ handle ∈ handles
  nonzero : 0 ∉ handles
  tokens : ∀ c, ∀ token ∈ tokensOf (sessions c),
    ∃ handle resource, (c, .opened token handle resource) ∈ history
  issued : ∀ c token handle resource, (c, .opened token handle resource) ∈ history →
    token ∈ minted
  unique : ∀ c d token handle handle' resource resource',
    (c, .opened token handle resource) ∈ history →
    (d, .opened token handle' resource') ∈ history → c = d
  legitimate : Legitimate history

namespace Owned

variable {sessions : Nat → Sessions} {handles : List Nat} {minted : List Text} {history : History}

theorem fresh : Owned (fun _ => []) [] [] [] where
  held _ := rfl
  nodup _ := List.nodup_nil
  apart _ _ _ _ listed := by cases listed
  live _ _ listed := by cases listed
  nonzero := List.not_mem_nil
  tokens _ _ listed := by cases listed
  issued _ _ _ _ listed := by cases listed
  unique _ _ _ _ _ _ _ listed := by cases listed
  legitimate := legitimate_nil

/-- Issuing a token that nothing is opened under changes nothing. -/
theorem mint (owned : Owned sessions handles minted history) (token : Text) :
    Owned sessions handles (token :: minted) history :=
  { owned with
    issued := fun c t handle resource listed =>
      List.mem_cons_of_mem _ (owned.issued c t handle resource listed) }

/-- A connection passes a handle it holds. -/
theorem passed (owned : Owned sessions handles minted history) {c handle : Nat}
    (holds : handle ∈ handlesOf (sessions c)) :
    Owned sessions handles minted (history ++ [(c, .passed handle)]) where
  held d := by
    rw [held_concat, ← owned.held d]
    split <;> rfl
  nodup := owned.nodup
  apart := owned.apart
  live := owned.live
  nonzero := owned.nonzero
  tokens d token listed := by
    obtain ⟨h, r, opened⟩ := owned.tokens d token listed
    exact ⟨h, r, List.mem_append_left _ opened⟩
  issued d token h r listed := by
    apply owned.issued d token h r
    simpa using listed
  unique d d' token h h' r r' first second := by
    apply owned.unique d d' token h h' r r'
    · simpa using first
    · simpa using second
  legitimate := by
    apply owned.legitimate.concat
    intro h same
    cases same
    rw [owned.held c]
    exact holds

/-- A connection is answered a handle that no connection holds, under a new token. -/
theorem opened (owned : Owned sessions handles minted history) {c handle : Nat} {token : Text}
    {kind : Text} {resource : Option Text} {handles' : List Nat} (new : token ∉ minted)
    (free : ∀ d, handle ∉ handlesOf (sessions d)) (known : handle = 0 ∨ handle ∈ handles')
    (grown : ∀ h ∈ handles, h ∈ handles') (nonzero : 0 ∉ handles') :
    Owned (Function.update sessions c (sessions c ++ [(token, ⟨handle, kind⟩)])) handles'
      (token :: minted) (history ++ [(c, .opened token handle resource)]) := by
  have here (d : Nat) : handlesOf (Function.update sessions c
      (sessions c ++ [(token, ⟨handle, kind⟩)]) d) =
        if d = c then handlesOf (sessions c) ++ [handle] else handlesOf (sessions d) := by
    by_cases same : d = c
    · subst same
      rw [Function.update_self, if_pos rfl]
      exact List.map_append
    · rw [Function.update_of_ne same, if_neg same]
  have unseen (d h : Nat) (r : Option Text) : (d, .opened token h r) ∉ history :=
    fun listed => new (owned.issued d token h r listed)
  constructor
  case held =>
    intro d
    rw [held_concat, here, owned.held d]
    by_cases same : c = d
    · subst same
      rw [if_pos rfl, if_pos rfl]
      rfl
    · rw [if_neg same, if_neg (Ne.symm same)]
  case nodup =>
    intro d
    rw [here]
    split
    · apply List.nodup_append.2
      refine ⟨owned.nodup c, List.nodup_singleton handle, ?_⟩
      intro h listed h' single
      rw [List.mem_singleton.1 single]
      rintro rfl
      exact free c listed
    · exact owned.nodup d
  case apart =>
    intro d d' other h
    rw [here, here]
    by_cases left : d = c
    · subst left
      rw [if_pos rfl, if_neg (Ne.symm other), List.mem_append, List.mem_singleton]
      rintro (listed | rfl)
      · exact owned.apart d d' other h listed
      · exact free d'
    · rw [if_neg left]
      intro listed
      split
      · rename_i right
        subst right
        rw [List.mem_append, List.mem_singleton]
        rintro (again | rfl)
        · exact owned.apart d d' other h listed again
        · exact free d listed
      · exact owned.apart d d' other h listed
  case live =>
    intro d h
    rw [here]
    split
    · rw [List.mem_append, List.mem_singleton]
      rintro (listed | rfl)
      · exact (owned.live c h listed).imp id (grown h)
      · exact known
    · intro listed
      exact (owned.live d h listed).imp id (grown h)
  case nonzero => exact nonzero
  case tokens =>
    intro d t listed
    by_cases same : d = c
    · subst same
      rw [Function.update_self] at listed
      unfold tokensOf at listed
      rw [List.map_append, List.mem_append] at listed
      rcases listed with listed | last
      · obtain ⟨h, r, opened⟩ := owned.tokens d t listed
        exact ⟨h, r, List.mem_append_left _ opened⟩
      · rw [List.mem_singleton.1 last]
        exact ⟨handle, resource, List.mem_append_right _ List.mem_cons_self⟩
    · rw [Function.update_of_ne same] at listed
      obtain ⟨h, r, opened⟩ := owned.tokens d t listed
      exact ⟨h, r, List.mem_append_left _ opened⟩
  case issued =>
    intro d t h r listed
    rcases List.mem_append.1 listed with listed | last
    · exact List.mem_cons_of_mem _ (owned.issued d t h r listed)
    · cases List.mem_singleton.1 last
      exact List.mem_cons_self
  case unique =>
    intro d d' t h h' r r' first second
    rcases List.mem_append.1 first with first | last <;>
      rcases List.mem_append.1 second with second | last'
    · exact owned.unique d d' t h h' r r' first second
    · cases List.mem_singleton.1 last'
      exact absurd first (unseen d h r)
    · cases List.mem_singleton.1 last
      exact absurd second (unseen d' h' r')
    · cases List.mem_singleton.1 last
      cases List.mem_singleton.1 last'
      rfl
  case legitimate =>
    apply owned.legitimate.concat
    intro h same
    cases same

/-- A connection closes a handle it holds. -/
theorem closed (owned : Owned sessions handles minted history) {c handle : Nat} {left : Sessions}
    (holds : handle ∈ handlesOf (sessions c))
    (kept : handlesOf left = (handlesOf (sessions c)).filter (· ≠ handle))
    (among : ∀ token ∈ tokensOf left, token ∈ tokensOf (sessions c)) :
    Owned (Function.update sessions c left) (handles.filter (· ≠ handle)) minted
      (history ++ [(c, .closed handle)]) := by
  have here (d : Nat) : handlesOf (Function.update sessions c left d) =
      (handlesOf (sessions d)).filter (· ≠ handle) := by
    by_cases same : d = c
    · subst same
      rw [Function.update_self, kept]
    · rw [Function.update_of_ne same]
      symm
      apply List.filter_eq_self.2
      intro h listed
      apply decide_eq_true
      rintro rfl
      exact owned.apart c d (Ne.symm same) h holds listed
  have old {d h h' : Nat} {token : Text} {r : Option Text}
      (listed : (d, .opened token h r) ∈ history ++ [(c, .closed h')]) :
      (d, .opened token h r) ∈ history := by
    simpa using listed
  constructor
  case held =>
    intro d
    rw [held_concat, here, owned.held d]
    by_cases same : c = d
    · rw [if_pos same]
      rfl
    · rw [if_neg same]
      symm
      apply List.filter_eq_self.2
      intro h listed
      apply decide_eq_true
      rintro rfl
      exact owned.apart c d same h holds listed
  case nodup =>
    intro d
    rw [here]
    exact (owned.nodup d).filter _
  case apart =>
    intro d d' other h listed again
    rw [here] at listed again
    exact owned.apart d d' other h (List.mem_filter.1 listed).1 (List.mem_filter.1 again).1
  case live =>
    intro d h listed
    rw [here] at listed
    obtain ⟨listed, other⟩ := List.mem_filter.1 listed
    exact (owned.live d h listed).imp id fun known => List.mem_filter.2 ⟨known, other⟩
  case nonzero => exact fun listed => owned.nonzero (List.mem_filter.1 listed).1
  case tokens =>
    intro d token listed
    have before : token ∈ tokensOf (sessions d) := by
      by_cases same : d = c
      · subst same
        rw [Function.update_self] at listed
        exact among token listed
      · rwa [Function.update_of_ne same] at listed
    obtain ⟨h, r, opened⟩ := owned.tokens d token before
    exact ⟨h, r, List.mem_append_left _ opened⟩
  case issued => exact fun d token h r listed => owned.issued d token h r (old listed)
  case unique =>
    exact fun d d' token h h' r r' first second =>
      owned.unique d d' token h h' r r' (old first) (old second)
  case legitimate =>
    apply owned.legitimate.concat
    intro h same
    cases same

end Owned

/-! ## One step -/

/-- Dropping the session a token names drops its handle. -/
theorem handlesOf_eraseP {sessions : Sessions} {token : Text} {session : RemoteSession}
    (found : sessions.lookup token = some session) (nodup : (handlesOf sessions).Nodup) :
    handlesOf (sessions.eraseP (·.1 = token)) =
      (handlesOf sessions).filter (· ≠ session.realSession) := by
  induction sessions with
  | nil => cases found
  | cons entry rest ih =>
      obtain ⟨t, s⟩ := entry
      obtain ⟨apart, later⟩ : s.realSession ∉ handlesOf rest ∧ (handlesOf rest).Nodup :=
        List.nodup_cons.1 nodup
      by_cases same : token = t
      · subst same
        rw [List.lookup_cons, beq_self_eq_true] at found
        cases found
        rw [List.eraseP_cons_of_pos (by simp)]
        show handlesOf rest = (session.realSession :: handlesOf rest).filter _
        rw [List.filter_cons_of_neg (by simp)]
        symm
        apply List.filter_eq_self.2
        intro h listed
        apply decide_eq_true
        rintro rfl
        exact apart listed
      · rw [List.lookup_cons, beq_false_of_ne same] at found
        rw [List.eraseP_cons_of_neg (by simpa using Ne.symm same)]
        show s.realSession :: handlesOf (rest.eraseP _) = (s.realSession :: handlesOf rest).filter _
        rw [ih found later, List.filter_cons_of_pos]
        apply decide_eq_true
        intro same
        apply apart
        rw [same]
        exact List.mem_map_of_mem (PyDict.mem_of_lookup found)

theorem cleanUp_sessions (c : Nat) (sessions : Sessions) (lib : Library) :
    (cleanUp c sessions lib).2.sessions =
      lib.sessions.filter (·.1 ∉ handlesOf sessions) := by
  induction sessions generalizing lib with
  | nil =>
      symm
      apply List.filter_eq_self.2
      intro entry _
      exact decide_eq_true List.not_mem_nil
  | cons entry rest ih =>
      obtain ⟨token, remote⟩ := entry
      show (cleanUp c rest (lib.close remote.realSession).2).2.sessions = _
      rw [ih, lib.close_sessions, List.filter_filter]
      apply List.filter_congr
      intro entry _
      rw [← Bool.decide_and]
      apply decide_eq_decide.2
      simp only [handlesOf, List.map_cons, List.mem_cons, not_or]
      exact and_comm

/-- Each session is passed to `close`, in order. -/
theorem cleanUp_calls (c : Nat) (sessions : Sessions) (lib : Library) :
    (cleanUp c sessions lib).2.calls = lib.calls ++ sessions.flatMap fun s =>
      [.passed s.2.realSession, .closed s.2.realSession] := by
  induction sessions generalizing lib with
  | nil => exact (List.append_nil _).symm
  | cons entry rest ih =>
      obtain ⟨token, remote⟩ := entry
      show (cleanUp c rest (lib.close remote.realSession).2).2.calls = _
      rw [ih, lib.close_calls, List.append_assoc, List.flatMap_cons]

/-- Where a step finds its call, and what the step leaves. -/
structure Broker.Called (setup : Setup) (b b' : Broker) (x : Call) (op : Operation) : Prop where
  sessions : x.sessions = b.sessionsOf x.connection
  library : x.library = b.library
  fresh : freshEnv b x.env = true
  left : b'.sessionsOf =
    Function.update b.sessionsOf x.connection (setup.invoke x op).sessions
  served : b'.library = (setup.invoke x op).library
  minted : b'.minted = x.env.token :: b.minted

/-- **A step, as the tables see it.**  It leaves them, it makes an invocation, or it
disconnects a connection. -/
theorem ledger_cases {setup : Setup} {b b' : Broker} {now : Int} {action : Action}
    (stepped : step setup b now action = some b') :
    (b.call? action = none ∧ (∀ c, action ≠ .disconnect c) ∧ b.traffic setup action = [] ∧
      b'.sessionsOf = b.sessionsOf ∧ b'.library.sessions = b.library.sessions ∧
      b'.library.calls = b.library.calls ∧ b'.minted = b.minted) ∨
    (∃ x op, b.call? action = some (x, op) ∧
      b.traffic setup action = (setup.traffic x op).map (x.connection, ·) ∧
      b.Called setup b' x op) ∨
    ∃ c, action = .disconnect c ∧ b'.sessionsOf = Function.update b.sessionsOf c [] ∧
      b'.library = (cleanUp c (b.sessionsOf c).reverse b.library).2 ∧ b'.minted = b.minted := by
  obtain ⟨bodies, issued, steps⟩ := step_cases stepped
  rcases steps.does with ⟨c, conn, conn', at_, connections, moves⟩ | ⟨rfl, stands⟩
  · have mine : b.sessionsOf c = conn.sessions := by simp [Broker.sessionsOf, at_]
    have bound : c < b.connections.length := (List.getElem?_eq_some_iff.1 at_).1
    have left : b'.sessionsOf = Function.update b.sessionsOf c conn'.sessions := by
      funext d
      unfold Broker.sessionsOf
      rw [connections]
      by_cases same : d = c
      · subst same
        rw [Function.update_self, List.getElem?_set_self bound]
        rfl
      · rw [Function.update_of_ne same, List.getElem?_set_ne (Ne.symm same)]
    have quiet (uncalled : b.call? action = none) (stays : ∀ c, action ≠ .disconnect c)
        (same : conn'.sessions = conn.sessions) (kept : b'.library = b.library)
        (unissued : issued = []) :
        b.call? action = none ∧ (∀ c, action ≠ .disconnect c) ∧ b.traffic setup action = [] ∧
          b'.sessionsOf = b.sessionsOf ∧ b'.library.sessions = b.library.sessions ∧
          b'.library.calls = b.library.calls ∧ b'.minted = b.minted := by
      refine ⟨uncalled, stays, ?_, ?_, by rw [kept], by rw [kept], by rw [steps.minted, unissued]; rfl⟩
      · unfold Broker.traffic
        split
        · exact absurd rfl (stays _)
        · rw [uncalled]
      · rw [left, same, ← mine, Function.update_eq_self]
    obtain ⟨library, kept⟩ : ∃ library, b'.library = library := ⟨_, rfl⟩
    rw [kept] at moves
    cases moves with
    | invoked phase free fresh made =>
        rename_i env request op inv
        right; left
        subst made
        have called : b.call? (.advance c env) =
            some (⟨c, env, request.args, conn.sessions, b.library⟩, op) := by
          simp only [Broker.call?, at_, phase]
        refine ⟨_, op, called, ?_, mine.symm, rfl, fresh, left, kept, steps.minted⟩
        show (match b.call? (.advance c env) with
          | none => []
          | some (x, op) => (setup.traffic x op).map (x.connection, ·)) = _
        rw [called]
    | disconnected free phase cleans =>
        right; right
        refine ⟨c, rfl, left, ?_, steps.minted⟩
        rw [mine, cleans]
        exact kept
    | received request => exact Or.inl (quiet rfl (by simp) rfl kept rfl)
    | malformed => exact Or.inl (quiet rfl (by simp) rfl kept rfl)
    | _ =>
        left
        refine quiet ?_ (by simp) rfl kept rfl
        simp only [Broker.call?, at_, *]
  · left
    have quiet (uncalled : b.call? action = none) (stays : ∀ c, action ≠ .disconnect c) :
        b.traffic setup action = [] := by
      unfold Broker.traffic
      split
      · exact absurd rfl (stays _)
      · rw [uncalled]
    cases stands with
    | connected peerUid same connections =>
        refine ⟨rfl, by simp, rfl, ?_, by rw [same], by rw [same], steps.minted⟩
        funext c
        unfold Broker.sessionsOf
        rw [connections]
        rcases Nat.lt_trichotomy c b.connections.length with less | rfl | more
        · rw [List.getElem?_append_left less]
        · simp
        · have longer : (b.connections ++ [(⟨peerUid, [], 0, false, .opening⟩ : Connection)]).length ≤
              c := by
            rw [List.length_append, List.length_singleton]
            omega
          rw [List.getElem?_eq_none longer, List.getElem?_eq_none (by omega)]
    | turnedAway peerUid reason same connections =>
        exact ⟨rfl, by simp, rfl, by unfold Broker.sessionsOf; rw [connections], by rw [same],
          by rw [same], steps.minted⟩
    | noted kind uncalled stays same connections =>
        exact ⟨uncalled, stays, quiet uncalled stays, by unfold Broker.sessionsOf; rw [connections],
          by rw [same], by rw [same], steps.minted⟩
    | safe same calls connections =>
        exact ⟨rfl, by simp, rfl, by unfold Broker.sessionsOf; rw [connections], same, calls,
          steps.minted⟩

/-- What the library heard along a history. -/
def heardOf (history : History) : List LibraryCall := history.map fun e => e.2.heard

/-- **The library hears the traffic of a step, and nothing else.** -/
theorem step_calls {setup : Setup} {b b' : Broker} {now : Int} {action : Action}
    (stepped : step setup b now action = some b') :
    b'.library.calls = b.library.calls ++ heardOf (b.traffic setup action) := by
  rcases ledger_cases stepped with ⟨-, -, quiet, -, -, calls, -⟩ | ⟨x, op, -, traffic, here⟩ |
    ⟨c, rfl, -, library, -⟩
  · rw [quiet, calls]
    exact (List.append_nil _).symm
  · rw [traffic, here.served, setup.invoke_calls, here.library, heardOf, List.map_map]
    rfl
  · rw [library, cleanUp_calls]
    simp only [Broker.traffic, heardOf, List.map_flatMap]
    rfl

theorem freshEnv_spec {b : Broker} {env : Env} (fresh : freshEnv b env = true) :
    env.token ≠ [] ∧ env.token ∉ b.minted ∧ env.handle ≠ 0 ∧ env.handle ∉ b.library.handles := by
  simp only [freshEnv, Bool.and_eq_true, Bool.not_eq_true', decide_eq_true_eq, List.all_eq_true,
    Option.isNone_iff_eq_none] at fresh
  obtain ⟨⟨⟨⟨filled, -⟩, apart⟩, positive⟩, free⟩ := fresh
  refine ⟨?_, ?_, positive, ?_⟩
  · intro none
    rw [none] at filled
    cases filled
  · intro listed
    exact apart _ listed rfl
  · rw [b.library.mem_handles, free]
    decide

theorem Setup.sessionOf_handle {x : Call} {token : Text} {session : RemoteSession}
    (named : Setup.sessionOf x = some (token, session)) :
    session.realSession ∈ handlesOf x.sessions :=
  List.mem_map_of_mem (PyDict.mem_of_lookup (Setup.sessionOf_held named).2)

namespace Owned

variable {sessions : Nat → Sessions} {handles : List Nat} {minted : List Text} {history : History}

/-- What an invocation does keeps the tables. -/
theorem served {setup : Setup} {x : Call} {op : Operation} {traffic : List Traffic}
    {left : Sessions} {handles' : List Nat} (serves : Serves setup x op traffic left handles')
    (owned : Owned sessions x.library.handles minted history)
    (mine : x.sessions = sessions x.connection) (token : x.env.token ∉ minted)
    (positive : x.env.handle ≠ 0) (free : x.env.handle ∉ x.library.handles)
    (separate : ∀ manager name, op = .openSession → setup.opens x = some (manager, name) →
      setup.openable name = false → ∀ d, 0 ∉ handlesOf (sessions d)) :
    Owned (Function.update sessions x.connection left) handles' (x.env.token :: minted)
      (history ++ traffic.map (x.connection, ·)) := by
  have same : Function.update sessions x.connection x.sessions = sessions := by
    rw [mine, Function.update_eq_self]
  have unheld (d : Nat) : x.env.handle ∉ handlesOf (sessions d) := by
    intro listed
    rcases owned.live d _ listed with zero | known
    · exact positive zero
    · exact free known
  have grown : ∀ h ∈ x.library.handles, h ∈ x.library.handles ++ [x.env.handle] :=
    fun h listed => List.mem_append_left _ listed
  have answered : x.env.handle = 0 ∨ x.env.handle ∈ x.library.handles ++ [x.env.handle] :=
    Or.inr (List.mem_append_right _ List.mem_cons_self)
  have nonzero : 0 ∉ x.library.handles ++ [x.env.handle] := by
    rw [List.mem_append, List.mem_singleton, not_or]
    exact ⟨owned.nonzero, positive.symm⟩
  have use {t : Text} {session : RemoteSession}
      (named : Setup.sessionOf x = some (t, session)) :
      Owned sessions x.library.handles minted
        (history ++ [(x.connection, .passed session.realSession)]) := by
    apply owned.passed
    rw [← mine]
    exact Setup.sessionOf_handle named
  cases serves with
  | refused =>
      rw [same, List.map_nil, List.append_nil]
      exact owned.mint _
  | used named =>
      rw [same]
      exact (use named).mint _
  | managed kind =>
      rw [mine]
      exact owned.opened token unheld answered grown nonzero
  | opened kind named =>
      rw [mine, List.map_cons, List.append_cons history]
      exact (use named).opened token unheld answered grown nonzero
  | unopened kind named opens fails =>
      rw [mine, List.map_cons, List.append_cons history]
      exact (use named).opened token (separate _ _ rfl opens fails) (Or.inl rfl)
        (fun _ listed => listed) owned.nonzero
  | closed named =>
      rw [List.map_cons, List.append_cons history]
      have holds := Setup.sessionOf_handle named
      rw [mine] at holds
      refine ((use named).closed holds ?_ ?_).mint _
      · rw [mine]
        apply handlesOf_eraseP _ (owned.nodup x.connection)
        rw [← mine]
        exact (Setup.sessionOf_held named).2
      · intro t listed
        rw [mine] at listed
        exact (List.eraseP_sublist.map Prod.fst).subset listed

/-- The forced closes of a connection's sessions, the latest first, keep the tables. -/
theorem swept {c : Nat} {gone : Sessions} (owned : Owned sessions handles minted history)
    (all : sessions c = gone.reverse) :
    Owned (Function.update sessions c []) (handles.filter (· ∉ handlesOf gone)) minted
      (history ++ gone.flatMap fun s =>
        [(c, .passed s.2.realSession), (c, .closed s.2.realSession)]) := by
  induction gone generalizing sessions handles history with
  | nil =>
      have kept : handles.filter (· ∉ handlesOf []) = handles := by
        apply List.filter_eq_self.2
        intro h _
        exact decide_eq_true List.not_mem_nil
      have same : Function.update sessions c [] = sessions :=
        (congrArg (Function.update sessions c) all).symm.trans (Function.update_eq_self c sessions)
      rw [kept, same, List.flatMap_nil, List.append_nil]
      exact owned
  | cons entry rest ih =>
      obtain ⟨token, session⟩ := entry
      rw [List.reverse_cons] at all
      have handlesAll : handlesOf (sessions c) =
          handlesOf rest.reverse ++ [session.realSession] := by
        rw [all]
        exact List.map_append
      have nodup := owned.nodup c
      rw [handlesAll] at nodup
      obtain ⟨-, -, apart⟩ := List.nodup_append.1 nodup
      have holds : session.realSession ∈ handlesOf (sessions c) := by
        rw [handlesAll]
        exact List.mem_append_right _ List.mem_cons_self
      have kept : handlesOf rest.reverse =
          (handlesOf (sessions c)).filter (· ≠ session.realSession) := by
        rw [handlesAll, List.filter_append, List.filter_cons_of_neg (by simp), List.filter_nil,
          List.append_nil]
        symm
        apply List.filter_eq_self.2
        intro h listed
        exact decide_eq_true (apart h listed _ List.mem_cons_self)
      have among : ∀ t ∈ tokensOf rest.reverse, t ∈ tokensOf (sessions c) := by
        intro t listed
        rw [all]
        unfold tokensOf
        rw [List.map_append]
        exact List.mem_append_left _ listed
      have closed := (owned.passed holds).closed holds kept among
      have final := ih closed (Function.update_self c rest.reverse sessions)
      rw [Function.update_idem, List.filter_filter, List.append_assoc, List.append_assoc] at final
      have fewer : handles.filter (fun h => decide (h ∉ handlesOf rest) &&
          decide (h ≠ session.realSession)) =
            handles.filter (· ∉ handlesOf ((token, session) :: rest)) := by
        apply List.filter_congr
        intro h _
        rw [← Bool.decide_and]
        apply decide_eq_decide.2
        simp only [handlesOf, List.map_cons, List.mem_cons, not_or]
        exact and_comm
      rw [fewer] at final
      exact final

end Owned

/-! ## Runs -/

/-- A run whose steps all meet `ok`, with its history. -/
inductive Traced (setup : Setup) (ok : Broker → Action → Prop) : Broker → History → Prop where
  | initial : Traced setup ok (.initial setup.simulator.spec) []
  | step {b b' : Broker} {now : Int} {action : Action} {history : History}
      (before : Traced setup ok b history) (meets : ok b action)
      (stepped : Visa.step setup b now action = some b') :
      Traced setup ok b' (history ++ b.traffic setup action)

theorem Traced.reachable {setup : Setup} {ok : Broker → Action → Prop} {b : Broker}
    {history : History} (run : Traced setup ok b history) : Reachable setup b := by
  induction run with
  | initial => exact .initial
  | step before meets stepped ih => exact ih.step stepped

/-- A failed open reaches the library only while no connection holds the session that an
earlier one left. -/
def Setup.Separate (setup : Setup) (b : Broker) (action : Action) : Prop :=
  ∀ x manager name, b.call? action = some (x, .openSession) →
    setup.opens x = some (manager, name) → setup.openable name = false →
    ∀ c, 0 ∉ handlesOf (b.sessionsOf c)

/-- **A conforming step keeps the tables.** -/
theorem step_owned {setup : Setup} {b b' : Broker} {now : Int} {action : Action}
    {history : History} (owned : Owned b.sessionsOf b.library.handles b.minted history)
    (separate : setup.Separate b action) (stepped : step setup b now action = some b') :
    Owned b'.sessionsOf b'.library.handles b'.minted (history ++ b.traffic setup action) := by
  rcases ledger_cases stepped with ⟨-, -, quiet, sessions, library, -, minted⟩ |
    ⟨x, op, called, traffic, here⟩ | ⟨c, rfl, sessions, library, minted⟩
  · have handles : b'.library.handles = b.library.handles := congrArg (List.map Prod.fst) library
    rw [quiet, sessions, handles, minted, List.append_nil]
    exact owned
  · rw [traffic, here.left, here.served, here.minted]
    obtain ⟨-, token, positive, free⟩ := freshEnv_spec here.fresh
    rw [← here.library] at owned free
    apply owned.served (setup.invoke_serves x op) here.sessions token positive free
    intro manager name opens reaches fails
    subst opens
    exact separate x manager name called reaches fails
  · have handles : b'.library.handles =
        b.library.handles.filter (· ∉ handlesOf (b.sessionsOf c).reverse) := by
      unfold Library.handles
      rw [library, cleanUp_sessions, List.filter_map]
      rfl
    rw [sessions, handles, minted]
    exact owned.swept (List.reverse_reverse _).symm

theorem Traced.calls {setup : Setup} {ok : Broker → Action → Prop} {b : Broker}
    {history : History} (run : Traced setup ok b history) :
    b.library.calls = heardOf history := by
  induction run with
  | initial => rfl
  | step before meets stepped ih =>
      rw [step_calls stepped, ih, heardOf, heardOf, heardOf, List.map_append]

theorem Traced.owned {setup : Setup} {b : Broker} {history : History}
    (run : Traced setup setup.Separate b history) :
    Owned b.sessionsOf b.library.handles b.minted history := by
  induction run with
  | initial =>
      have none : (Broker.initial setup.simulator.spec).sessionsOf = fun _ => [] := by
        funext c
        rfl
      rw [none]
      exact .fresh
  | step before meets stepped ih => exact step_owned ih meets stepped

/-! ## Isolation -/

/-- **Session ownership is isolated.**  `calls`: the history is what the library was
called with.  `legitimate`: every handle passed for a connection was answered to an open
of its own and is not closed.  `granted` and `foreign`: a token a connection holds was
opened for it, and one opened for a connection is refused on every other, and the library
does not hear of it.  `disconnects`: a disconnect closes what the connection holds, each handle once and
none of another's, and the library keeps the rest. -/
structure Isolated (setup : Setup) (b : Broker) (history : History) : Prop where
  calls : b.library.calls = heardOf history
  legitimate : Legitimate history
  granted : ∀ c, ∀ token ∈ tokensOf (b.sessionsOf c),
    ∃ handle resource, (c, .opened token handle resource) ∈ history
  foreign : ∀ c d token handle resource, (c, .opened token handle resource) ∈ history → d ≠ c →
    ∀ x op, x.connection = d → x.sessions = b.sessionsOf d →
      x.args.lookup (txt "session") = some (.str token) →
      setup.traffic x op = [] ∧ (setup.invoke x op).library = x.library ∧
        (setup.invoke x op).sessions = x.sessions ∧
        ∃ kind code, (setup.invoke x op).result = .error (.candidate kind code)
  disconnects : ∀ c b' now, step setup b now (.disconnect c) = some b' →
    b'.library.calls = b.library.calls ++ heardOf (b.traffic setup (.disconnect c)) ∧
      (closes (b.traffic setup (.disconnect c))).Nodup ∧
      (∀ handle, handle ∈ closes (b.traffic setup (.disconnect c)) ↔ handle ∈ held c history) ∧
      (∀ d, d ≠ c → ∀ handle ∈ closes (b.traffic setup (.disconnect c)), handle ∉ held d history) ∧
      b'.library.sessions = b.library.sessions.filter (·.1 ∉ held c history)

theorem closes_disconnect (setup : Setup) (b : Broker) (c : Nat) :
    closes (b.traffic setup (.disconnect c)) = (handlesOf (b.sessionsOf c)).reverse := by
  show closes ((b.sessionsOf c).reverse.flatMap _) = _
  unfold handlesOf
  rw [← List.map_reverse]
  induction (b.sessionsOf c).reverse with
  | nil => rfl
  | cons s rest ih =>
      rw [List.flatMap_cons, List.map_cons, ← ih]
      rfl

/-- Nothing is heard where the library stays as it was. -/
theorem Setup.traffic_of_library (setup : Setup) {x : Call} {op : Operation}
    (same : (setup.invoke x op).library = x.library) : setup.traffic x op = [] := by
  rw [traffic, same, List.drop_length, List.map_nil]

/-- A token the connection does not hold is refused before the library is called. -/
theorem Setup.invoke_unheld (setup : Setup) {x : Call} {token : Text}
    (names : x.args.lookup (txt "session") = some (.str token))
    (absent : token ∉ tokensOf x.sessions) (op : Operation) :
    setup.traffic x op = [] ∧ (setup.invoke x op).library = x.library ∧
      (setup.invoke x op).sessions = x.sessions ∧
      ∃ kind code, (setup.invoke x op).result = .error (.candidate kind code) := by
  have unnamed : sessionOf x = none := by
    unfold sessionOf
    rw [names]
    show (x.sessions.lookup token).map _ = none
    rw [Option.map_eq_none_iff, ← Option.not_isSome_iff_eq_none, PyDict.lookup_isSome_iff]
    rintro ⟨entry, listed, rfl⟩
    exact absent (List.mem_map_of_mem listed)
  by_cases manages : op = .openDefaultResourceManager
  · subst manages
    have extra : exactly x.args [] = false := by
      unfold exactly
      rw [Bool.and_eq_false_iff]
      left
      rw [List.all_eq_false]
      exact ⟨_, PyDict.mem_of_lookup names, by simp⟩
    have refused : setup.invoke x .openDefaultResourceManager = x.raises [] invalidArguments := by
      simp only [invoke, Call.openDefaultResourceManager, extra, if_pos, Bool.not_false]
    rw [setup.traffic_of_library (by rw [refused]; rfl), refused]
    exact ⟨rfl, rfl, rfl, _, _, rfl⟩
  · have refused : (setup.invoke x op).library = x.library := by
      rw [invoke, if_neg manages, unnamed]
      rfl
    rw [setup.traffic_of_library refused, invoke, if_neg manages, unnamed]
    exact ⟨rfl, rfl, rfl, _, _, rfl⟩

theorem Owned.isolated {setup : Setup} {b : Broker} {history : History}
    (owned : Owned b.sessionsOf b.library.handles b.minted history)
    (calls : b.library.calls = heardOf history) : Isolated setup b history where
  calls := calls
  legitimate := owned.legitimate
  granted := owned.tokens
  foreign := by
    intro c d token handle resource opened other x op at_ sessions names
    apply setup.invoke_unheld names
    rw [sessions]
    intro listed
    obtain ⟨handle', resource', again⟩ := owned.tokens d token listed
    exact other (owned.unique d c token handle' handle resource' resource again opened)
  disconnects := by
    intro c b' now stepped
    rw [closes_disconnect]
    refine ⟨step_calls stepped, List.nodup_reverse.2 (owned.nodup c), ?_, ?_, ?_⟩
    · intro handle
      rw [List.mem_reverse, owned.held c]
    · intro d other handle listed
      rw [owned.held d]
      exact owned.apart c d (Ne.symm other) handle (List.mem_reverse.1 listed)
    · rcases ledger_cases stepped with ⟨-, stays, -⟩ | ⟨x, op, called, -⟩ |
        ⟨_, same, -, library, -⟩
      · exact absurd rfl (stays c)
      · cases called
      · cases same
        rw [library, cleanUp_sessions, owned.held c]
        apply List.filter_congr
        intro entry _
        apply decide_eq_decide.2
        unfold handlesOf
        rw [List.map_reverse, List.mem_reverse]

/-- **Handles are isolated along every conforming run.** -/
theorem handles_isolated {setup : Setup} {b : Broker} {history : History}
    (run : Traced setup setup.Separate b history) : Isolated setup b history :=
  run.owned.isolated run.calls

/-! ## Concrete runs -/

/-- No open of a name that is not openable reaches the library. -/
def Setup.sound (setup : Setup) (b : Broker) (action : Action) : Bool :=
  match b.call? action with
  | some (x, .openSession) => (setup.opens x).all fun opened => setup.openable opened.2
  | _ => true

theorem Setup.sound_openable {setup : Setup} {b : Broker} {action : Action}
    (sound : setup.sound b action = true) {x : Call} {manager : Nat} {name : Text}
    (called : b.call? action = some (x, .openSession))
    (opens : setup.opens x = some (manager, name)) : setup.openable name = true := by
  unfold Setup.sound at sound
  rw [called] at sound
  dsimp only at sound
  rw [opens] at sound
  exact sound

theorem Setup.sound_separate {setup : Setup} {b : Broker} {action : Action}
    (sound : setup.sound b action = true) : setup.Separate b action := by
  intro x manager name called opens fails
  rw [sound_openable sound called opens] at fails
  cases fails

/-- The broker and the history after `steps`, each of which passes `check`. -/
def trace (setup : Setup) (check : Broker → Action → Bool) :
    Broker → History → List (Int × Action) → Option (Broker × History)
  | b, history, [] => some (b, history)
  | b, history, (now, action) :: rest =>
      if check b action then
        match step setup b now action with
        | none => none
        | some b' => trace setup check b' (history ++ b.traffic setup action) rest
      else none

theorem Traced.trace {setup : Setup} {check : Broker → Action → Bool}
    {ok : Broker → Action → Prop} (meets : ∀ b action, check b action = true → ok b action)
    {steps : List (Int × Action)} {b b' : Broker} {history history' : History}
    (before : Traced setup ok b history)
    (ran : Visa.trace setup check b history steps = some (b', history')) :
    Traced setup ok b' history' := by
  induction steps generalizing b history with
  | nil =>
      cases ran
      exact before
  | cons entry rest ih =>
      obtain ⟨now, action⟩ := entry
      unfold Visa.trace at ran
      split at ran
      · rename_i checked
        split at ran
        · cases ran
        · rename_i next stepped
          exact ih (before.step (meets b action checked) stepped) ran
      · cases ran

/-- One request of a connection that is idle, with the steps up to its answer: four, and
one for each record the invocation journals. -/
def exchange (c : Nat) (op : Operation) (args : Args) (env : Env) (records : Nat) :
    List (Int × Action) :=
  (0, .receive c op.name args) :: List.replicate (5 + records) (0, .advance c env)

def openArgs (manager name : Text) : Args :=
  [(txt "session", .str manager), (txt "resource_name", .str name),
    (txt "access_mode", .int 0), (txt "open_timeout", .int 0)]

/-- A client opens a resource manager and then `names`, under tokens of its own. -/
def openingRun (c : Nat) (peerUid : Nat) (manager : Text) (handle : Nat)
    (names : List (Text × Text × Nat)) : List (Int × Action) :=
  [(0, .connect peerUid), (0, .advance c (.issuing manager handle))] ++
    exchange c .openDefaultResourceManager [] (.issuing manager handle) 1 ++
    names.flatMap fun opened =>
      exchange c .openSession (openArgs manager opened.2.1) (.issuing opened.1 opened.2.2) 1

/-- The power supply of the nominal world is opened, and the session passes on. -/
def supplyRun : List (Int × Action) :=
  openingRun 0 10001 (txt "rm") 1 [(txt "psu", txt "TCPIP0::192.0.2.10::inst0::INSTR", 2)]

theorem handles_isolated_supply :
    ∃ b history, Traced nominalBench nominalBench.Separate b history ∧ held 0 history = [1, 2] ∧
      Isolated nominalBench b history := by
  have runs : (trace nominalBench nominalBench.sound (.initial nominalBench.simulator.spec) []
      supplyRun).any (fun left => held 0 left.2 = [1, 2]) = true := by
    decide +kernel
  obtain ⟨⟨b, history⟩, ran, holds⟩ := (Option.any_eq_true _ _).1 runs
  have traced := Traced.initial.trace (fun _ _ => Setup.sound_separate) ran
  exact ⟨b, history, traced, of_decide_eq_true holds, handles_isolated traced⟩

/-- A client opens two names that do not parse. -/
def unparsedRun : List (Int × Action) :=
  openingRun 0 10001 (txt "rm") 1 [(txt "a", txt "NOWHERE", 2), (txt "b", txt "NOWHERE", 3)]

/-- **Two failed opens share the handle 0**, and the disconnect closes it twice. -/
theorem shared_null_handle :
    ¬ ∀ setup b history, Traced setup (fun _ _ => True) b history →
      Isolated setup b history := by
  intro isolated
  have runs : (trace nominalBench (fun _ _ => true) (.initial nominalBench.simulator.spec) []
      unparsedRun).any (fun left =>
        closes (left.1.traffic nominalBench (.disconnect 0)) = [0, 0, 1] &&
          (step nominalBench left.1 0 (.disconnect 0)).isSome) = true := by
    decide +kernel
  obtain ⟨⟨b, history⟩, ran, ends⟩ := (Option.any_eq_true _ _).1 runs
  rw [Bool.and_eq_true, decide_eq_true_eq, Option.isSome_iff_exists] at ends
  obtain ⟨shared, b', stepped⟩ := ends
  have traced : Traced nominalBench (fun _ _ => True) b history :=
    Traced.initial.trace (fun _ _ _ => trivial) ran
  have once := ((isolated nominalBench b history traced).disconnects 0 b' 0 stepped).2.1
  rw [shared] at once
  revert once
  decide

end InstrumentBench.Visa
