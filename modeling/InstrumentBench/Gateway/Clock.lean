/-
# Gateway.Clock -- the bench's clock and the host's

The bench has a clock of its own, in whole milliseconds.  A thread that dispatches a
request first brings it up to the host's monotonic clock (`_sync_clock`): the whole
milliseconds since the reference point go to the bench and the reference point moves by
just as much, so that what is left over waits for the next synchronisation.  A thread
reads the host's clock before it takes the lock, so synchronisations may arrive in
another order than their readings.

* `dispatch_synced`, `receive_synced`: a request's synchronisation can be taken as a step
  of its own.
* `ClockedSystem.step_keeps`: nothing else moves the bench's clock.
* `Synced.run`: the clock stands where the latest reading puts it, in whatever order the
  readings arrive.
* `clock_of_run`: with readings in order it stands at the whole milliseconds between the
  start and the reading last synchronised.
-/
import InstrumentBench.Gateway.Threads
import InstrumentBench.Theory.Stateful

namespace InstrumentBench.Gateway

set_option autoImplicit false

open InstrumentBench.Theory InstrumentBench.Theory.PyText

/-! ## Synchronisation -/

/-- The gateway with its reference point. -/
structure ClockedSystem where
  system : System
  lastClockSyncNs : Int

namespace ClockedSystem

def clockMs (c : ClockedSystem) : Int := c.system.server.rack.world.clockMs

/-- What `start` does to the reference point. -/
def start (now : Int) (c : ClockedSystem) : ClockedSystem := { c with lastClockSyncNs := now }

/-- The whole milliseconds since the reference point; a thread that read the host's clock
before another one synchronised may find a negative number. -/
def elapsedMs (c : ClockedSystem) (now : Int) : Int := (now - c.lastClockSyncNs) / 1000000

/-- `_sync_clock`, which has read `now`. -/
def syncClock (now : Int) (c : ClockedSystem) : ClockedSystem :=
  let elapsedMs := c.elapsedMs now
  if 0 < elapsedMs then
    { system := { c.system with server := c.system.server.syncClock elapsedMs.toNat }
      lastClockSyncNs := c.lastClockSyncNs + elapsedMs * 1000000 }
  else c

end ClockedSystem

/-- A thread's part with its synchronisation taken out. -/
def Action.synced : Action → Action
  | .receive owner _ token operation arguments => .receive owner 0 token operation arguments
  | a => a

/-- A synchronisation, a part of a thread, or anything else that acts on the world. -/
inductive ClockAction where
  | sync (now : Int)
  | thread (part : Action)
  | apply (action : SemanticAction)
  | noteSessionReopen (role : Text)
  | write (resource : Text) (payload : Bytes)
  | forceSafe

namespace ClockedSystem

def withRack (c : ClockedSystem) (rack : InstrumentRack) : ClockedSystem :=
  { c with system := { c.system with server := { c.system.server with rack } } }

def withWorld (c : ClockedSystem) (world : DUTWorld) : ClockedSystem :=
  c.withRack { c.system.server.rack with world }

/-- An action that raises leaves the world as it is. -/
def step (it : Interpreter) (spec : WorldSpec) (c : ClockedSystem) : ClockAction → ClockedSystem
  | .sync now => c.syncClock now
  | .thread part => { c with system := c.system.step it spec part.synced }
  | .apply action =>
      match c.system.server.rack.world.apply action with
      | .ok world => c.withWorld world
      | .error _ => c
  | .noteSessionReopen role => c.withWorld (c.system.server.rack.world.noteSessionReopen role)
  | .write resource payload => c.withRack (c.system.server.rack.write spec resource payload).1
  | .forceSafe =>
      match c.system.server.rack.forceSafe with
      | .ok rack => c.withRack rack
      | .error _ => c

end ClockedSystem

/-! ## A request's synchronisation -/

theorem DUTWorld.advanceMs_zero (w : DUTWorld) : w.advanceMs 0 = w := by
  show { w with clockMs := w.clockMs + ((0 : Nat) : Int) } = w
  simp

theorem GatewayServer.syncClock_zero (g : GatewayServer) : g.syncClock 0 = g := by
  show { g with rack := { g.rack with world := g.rack.world.advanceMs 0 } } = g
  rw [DUTWorld.advanceMs_zero]

namespace ClockedSystem

variable (it : Interpreter) (spec : WorldSpec) (c : ClockedSystem)

/-- A synchronisation gives the server the elapsed milliseconds, none if they are
negative. -/
theorem syncClock_system (now : Int) :
    (c.syncClock now).system =
      { c.system with server := c.system.server.syncClock (c.elapsedMs now).toNat } := by
  unfold syncClock
  dsimp only
  by_cases elapsed : 0 < c.elapsedMs now
  · rw [if_pos elapsed]
  · have none_elapsed : (c.elapsedMs now).toNat = 0 := by omega
    rw [if_neg elapsed, none_elapsed, GatewayServer.syncClock_zero]

/-- **A dispatch is a synchronisation and what the dispatch does with the clock as it
is.** -/
theorem dispatch_synced (owner token operation : Text) (arguments : Arguments) (now : Int) :
    (c.syncClock now).system.server.dispatch it spec owner ⟨0, token⟩ operation arguments =
      c.system.server.dispatch it spec owner ⟨(c.elapsedMs now).toNat, token⟩ operation
        arguments := by
  rw [syncClock_system]
  unfold GatewayServer.dispatch
  simp only [GatewayServer.syncClock_zero]

/-- A thread that has a request to serve synchronises first. -/
theorem receive_synced (owner token operation : Text) (arguments : Arguments) (now : Int)
    (receiving : c.system.phase owner = some .receiving)
    (fresh : c.system.drawn.contains token = false) :
    ((c.step it spec (.sync now)).step it spec
        (.thread (.receive owner 0 token operation arguments))).system =
      c.system.step it spec
        (.receive owner (c.elapsedMs now).toNat token operation arguments) := by
  show (c.syncClock now).system.step it spec (.receive owner 0 token operation arguments) = _
  rw [syncClock_system]
  simp only [System.step, receiving]
  unfold System.begin
  simp only [GatewayServer.syncClock_zero, fresh]
  rfl

end ClockedSystem

/-! ## What keeps the clock -/

namespace DUTWorld

/-- Every semantic action leaves the clock as it is. -/
theorem clockMs_apply {action : SemanticAction} {w w' : DUTWorld}
    (applied : w.apply action = .ok w') : w'.clockMs = w.clockMs := by
  cases action with
  | switchClose arguments =>
      change closeRoutes arguments w = .ok w' at applied
      unfold closeRoutes at applied
      split at applied
      · cases applied
      · obtain ⟨closed, -, rfl⟩ := map_ok_iff.1 applied
        rfl
  | switchOpen arguments =>
      obtain ⟨opened, -, rfl⟩ := map_ok_iff.1 applied
      rfl
  | switchOpenAll =>
      cases applied
      rfl
  | psuConfigure voltage =>
      change configurePsu voltage w = .ok w' at applied
      unfold configurePsu at applied
      split at applied
      · cases applied
        rfl
      · cases applied
  | psuOutput enabled =>
      change setPsuOutput enabled w = .ok w' at applied
      unfold setPsuOutput at applied
      split at applied
      · cases applied
      · cases applied
        rfl
  | awgWaveform name points amplitude =>
      change setAwgWaveform name points amplitude w = .ok w' at applied
      unfold setAwgWaveform at applied
      split at applied
      · cases applied
      split at applied
      · cases applied
      split at applied
      · cases applied
      · cases applied
        rfl
  | awgOutput enabled =>
      change setAwgOutput enabled w = .ok w' at applied
      unfold setAwgOutput at applied
      split at applied
      · cases applied
      · cases applied
        rfl

end DUTWorld

/-- The call leaves the world's clock at `ms`. -/
def Outcome.Keeps {σ : Type} (ms : Int) (o : Outcome σ) : Prop := o.world.clockMs = ms

namespace Outcome.Keeps

variable {σ α : Type} {ms : Int} {m : σ} {w : DUTWorld}

theorem mk {result : Except Fault Response} (same : w.clockMs = ms) :
    Outcome.Keeps ms (⟨m, w, result⟩ : Outcome σ) := same

theorem eval {x : Except Fault α} {next : α → Outcome σ} (same : w.clockMs = ms)
    (after : ∀ a, (next a).Keeps ms) : (Outcome.eval m w x next).Keeps ms := by
  cases x with
  | error fault => exact same
  | ok a => exact after a

theorem ite {p : Prop} [Decidable p] {o o' : Outcome σ} (yes : o.Keeps ms) (no : o'.Keeps ms) :
    (if p then o else o').Keeps ms := by
  by_cases holds : p
  · rw [if_pos holds]
    exact yes
  · rw [if_neg holds]
    exact no

/-- What the world does at an action keeps its clock. -/
theorem applying {action : SemanticAction} {next : DUTWorld → Outcome σ} (same : w.clockMs = ms)
    (after : ∀ w' : DUTWorld, w'.clockMs = ms → (next w').Keeps ms) :
    (Outcome.applying m w action next).Keeps ms := by
  unfold Outcome.applying
  cases applied : w.apply action with
  | error fault => exact same
  | ok w' => exact after w' ((DUTWorld.clockMs_apply applied).trans same)

end Outcome.Keeps

/-! ## Handlers -/

open Outcome

theorem PSUModel.handle_keeps (text : Text) (m : PSUModel) (w : DUTWorld) :
    (m.handle text w).Keeps w.clockMs := by
  unfold PSUModel.handle
  apply Keeps.ite
  · apply Keeps.eval rfl
    intro channel
    exact Keeps.ite rfl rfl
  apply Keeps.ite
  · apply Keeps.eval rfl
    intro voltage
    exact Keeps.applying rfl fun w' same => same
  apply Keeps.ite
  · rfl
  apply Keeps.ite
  · apply Keeps.eval rfl
    intro enabled
    exact Keeps.applying rfl fun w' same => same
  exact Keeps.ite rfl rfl

theorem SwitchModel.handle_keeps (text : Text) (m : SwitchModel) (w : DUTWorld) :
    (m.handle text w).Keeps w.clockMs := by
  unfold SwitchModel.handle
  apply Keeps.ite
  · apply Keeps.eval rfl
    intro routes
    exact Keeps.applying rfl fun w' same => same
  apply Keeps.ite
  · apply Keeps.eval rfl
    intro routes
    exact Keeps.applying rfl fun w' same => same
  apply Keeps.ite
  · exact Keeps.applying rfl fun w' same => same
  exact Keeps.ite rfl rfl

theorem AWGModel.handle_keeps (spec : WorldSpec) (text : Text) (m : AWGModel) (w : DUTWorld) :
    (m.handle spec text w).Keeps w.clockMs := by
  have switched : ∀ (enabled : Bool) (w' : DUTWorld), w'.clockMs = w.clockMs →
      (applying m w' (.awgOutput enabled) fun w => done { m with output := enabled } w).Keeps
        w.clockMs := by
    intro enabled w' same
    exact Keeps.applying same fun w'' same' => same'
  have loaded : ∀ next : DUTWorld → Outcome AWGModel,
      (∀ w' : DUTWorld, w'.clockMs = w.clockMs → (next w').Keeps w.clockMs) →
        (m.loadStimulus w next).Keeps w.clockMs := by
    intro next after
    unfold AWGModel.loadStimulus
    cases m.selected with
    | none => rfl
    | some name =>
        dsimp only
        cases m.waveforms.lookup name with
        | none => rfl
        | some points => exact Keeps.applying rfl after
  unfold AWGModel.handle
  apply Keeps.ite
  · exact Keeps.eval rfl fun given => rfl
  apply Keeps.ite
  · apply Keeps.eval rfl
    intro given
    exact Keeps.ite rfl rfl
  apply Keeps.ite
  · exact Keeps.eval rfl fun offsetV => rfl
  apply Keeps.ite
  · apply Keeps.eval rfl
    intro amplitudeVpp
    exact Keeps.ite rfl rfl
  apply Keeps.ite
  · apply Keeps.eval rfl
    intro enabled
    exact Keeps.ite (loaded _ (switched enabled)) (switched enabled w rfl)
  apply Keeps.ite
  · rfl
  apply Keeps.ite
  · rfl
  exact Keeps.ite rfl rfl

theorem DMMModel.handle_keeps (spec : WorldSpec) (text : Text) (m : DMMModel) (w : DUTWorld) :
    (m.handle spec text w).Keeps w.clockMs := by
  unfold DMMModel.handle
  apply Keeps.ite
  · rfl
  apply Keeps.ite
  · exact Keeps.eval rfl fun rangeV => rfl
  apply Keeps.ite
  · apply Keeps.eval rfl
    intro sampleCount
    exact Keeps.ite rfl rfl
  apply Keeps.ite
  · exact Keeps.ite rfl rfl
  apply Keeps.ite
  · apply Keeps.ite
    · rfl
    · exact Keeps.eval rfl fun samples => rfl
  · rfl

theorem ScopeModel.handle_keeps (spec : WorldSpec) (text : Text) (m : ScopeModel)
    (w : DUTWorld) : (m.handle spec text w).Keeps w.clockMs := by
  unfold ScopeModel.handle
  apply Keeps.ite
  · apply Keeps.eval rfl
    intro given
    exact Keeps.ite rfl rfl
  apply Keeps.ite
  · apply Keeps.eval rfl
    intro given
    exact Keeps.ite rfl rfl
  apply Keeps.ite
  · apply Keeps.eval rfl
    intro width
    exact Keeps.ite rfl rfl
  apply Keeps.ite
  · rfl
  apply Keeps.ite
  · rfl
  apply Keeps.ite
  · rfl
  apply Keeps.ite
  · exact Keeps.eval rfl fun samples => rfl
  apply Keeps.ite
  · exact Keeps.eval rfl fun payload => rfl
  · rfl

namespace Instrument

/-- No instrument's handler moves the clock. -/
theorem handle_keeps (spec : WorldSpec) (text : Text) (i : Instrument) (m : i.Fields)
    (w : DUTWorld) : (i.handle spec text m w).Keeps w.clockMs := by
  match i, m with
  | bench .psu, m => exact PSUModel.handle_keeps text m w
  | bench .switch, m => exact SwitchModel.handle_keeps text m w
  | bench .awg, m => exact AWGModel.handle_keeps spec text m w
  | bench .scope, m => exact ScopeModel.handle_keeps spec text m w
  | bench .dmm, m => exact DMMModel.handle_keeps spec text m w
  | distractor _, m => rfl

theorem reset_keeps (i : Instrument) (m : i.Fields) (w : DUTWorld) :
    (i.reset m w).Keeps w.clockMs := by
  match i, m with
  | bench .psu, m =>
      have cleared : ∀ w' : DUTWorld, w'.clockMs = w.clockMs →
          (applying PSUModel.new w' (.psuConfigure 0.0) fun w => done PSUModel.new w).Keeps
            w.clockMs := by
        intro w' same
        exact Keeps.applying same fun w'' same' => same'
      exact Keeps.ite (Keeps.applying rfl cleared) (cleared w rfl)
  | bench .switch, m => exact Keeps.applying rfl fun w' same => same
  | bench .awg, m => exact Keeps.ite (Keeps.applying rfl fun w' same => same) rfl
  | bench .scope, m => rfl
  | bench .dmm, m => rfl
  | distractor _, m => rfl

end Instrument

theorem InstrumentModel.exchange_keeps {i : Instrument} (spec : WorldSpec) (command : Bytes)
    (m : InstrumentModel i) (w : DUTWorld) : (m.exchange spec command w).Keeps w.clockMs := by
  have own : ∀ text : Text, (m.exchangeOwn spec text w).Keeps w.clockMs := by
    intro text
    have called := i.handle_keeps spec text m.fields w
    unfold exchangeOwn
    dsimp only
    split
    · exact called
    · split
      · exact called
      · exact called
  unfold exchange
  cases decodeAscii command with
  | none => rfl
  | some decoded =>
      dsimp only
      apply Keeps.ite
      · split
        · rfl
        · rfl
      apply Keeps.ite
      · rfl
      apply Keeps.ite
      · exact i.reset_keeps m.fields w
      apply Keeps.ite
      · split
        · rfl
        · split
          · rfl
          · rfl
      exact own (strip decoded)

/-! ## The rack and the server -/

namespace InstrumentRack

theorem clockMs_write (spec : WorldSpec) (resource : Text) (payload : Bytes)
    (rack : InstrumentRack) :
    (rack.write spec resource payload).1.world.clockMs = rack.world.clockMs := by
  unfold write
  split
  · rfl
  · split
    · rfl
    · exact InstrumentModel.exchange_keeps spec payload _ rack.world

theorem clockMs_forceSafe (rack : InstrumentRack) :
    ∃ w, rack.forceSafe = .ok { rack with world := w } ∧ w.clockMs = rack.world.clockMs := by
  obtain ⟨w, models, remaining⟩ := rack
  unfold forceSafe
  by_cases routes : (sorted w.closedRoutes).isEmpty = true <;>
    cases awg : w.awgOutput <;> cases psu : w.psuOutput <;>
    (simp only [DUTWorld.snapshot, awg, psu, routes, bind, Except.bind, pure, Except.pure, if_true,
      Bool.false_eq_true, if_false, DUTWorld.apply_awgOutput_false,
      DUTWorld.apply_psuOutput_false]
     exact ⟨_, rfl, rfl⟩)

end InstrumentRack

namespace GatewayServer

def clockMs (g : GatewayServer) : Int := g.rack.world.clockMs

theorem clockMs_write (g : GatewayServer) (spec : WorldSpec) (id : Text) (session : Session)
    (arguments : Arguments) : (g.write spec id session arguments).1.clockMs = g.clockMs := by
  unfold write
  split
  · rfl
  · rename_i payload _
    have kept := g.rack.clockMs_write spec session.resource (terminated session payload)
    dsimp only
    generalize g.rack.write spec session.resource (terminated session payload) = written at kept ⊢
    obtain ⟨rack, result⟩ := written
    cases result with
    | error fault => cases fault <;> exact kept
    | ok response =>
        cases response with
        | none => exact kept
        | some response =>
            dsimp only
            split
            · exact kept
            · exact kept

/-- An operation on a session leaves the clock as it is. -/
theorem clockMs_perform (g : GatewayServer) (it : Interpreter) (spec : WorldSpec)
    (operation id : Text) (session : Session) (arguments : Arguments) :
    (g.perform it spec operation id session arguments).1.clockMs = g.clockMs := by
  have terminated : ∀ (operation : Text) (assign : Option Text → Session),
      (g.setTermination spec operation id assign arguments).1.clockMs = g.clockMs := by
    intro operation assign
    unfold setTermination
    split
    · rfl
    · rfl
  unfold perform
  split
  · unfold setTimeout
    split
    · rfl
    · rfl
  split
  · exact terminated _ _
  split
  · exact terminated _ _
  split
  · exact clockMs_write g spec id session arguments
  split
  · unfold read
    split
    · rfl
    · rfl
  split
  · unfold deleteSession
    split
    · rfl
    · rfl
  · rfl

theorem clockMs_forceCloseOwner (g : GatewayServer) (spec : WorldSpec) (owner : Text) :
    (g.forceCloseOwner spec owner).clockMs = g.clockMs := by
  unfold forceCloseOwner
  generalize g.sessions.filter (fun entry => entry.2.owner = owner) = leaked
  induction leaked generalizing g with
  | nil => rfl
  | cons entry leaked ih =>
      rw [List.foldl_cons, ih]
      rfl

end GatewayServer

namespace System

variable (it : Interpreter) (spec : WorldSpec)

theorem clockMs_begin (s : System) (owner token operation : Text) (arguments : Arguments) :
    (s.begin it spec owner 0 token operation arguments).server.clockMs = s.server.clockMs := by
  unfold begin
  rw [GatewayServer.syncClock_zero]
  dsimp only
  split
  · rfl
  split
  · rfl
  split
  · split
    · rfl
    · split
      · rfl
      · rfl
  · split
    · rfl
    · split
      · rfl
      · rfl

theorem clockMs_proceed (s : System) (owner : Text) (p : Phase) :
    (s.proceed it spec owner p).server.clockMs = s.server.clockMs := by
  cases p with
  | serving id session operation arguments =>
      unfold proceed
      dsimp only
      split
      · rfl
      · have kept := s.server.clockMs_perform it spec operation id session arguments
        generalize s.server.perform it spec operation id session arguments = outcome at kept ⊢
        obtain ⟨g, result⟩ := outcome
        cases result with
        | error raised => exact kept
        | ok result => exact kept
  | deleting id =>
      unfold proceed GatewayServer.deleteSession
      dsimp only
      split
      · rfl
      · rfl
  | checking => rfl
  | receiving => rfl
  | opening id resource => rfl
  | responding => rfl
  | leaving => rfl
  | ended => rfl

/-- **A thread moves the bench's clock nowhere but in its synchronisation.** -/
theorem clockMs_step (s : System) (a : Action) :
    (s.step it spec a.synced).server.clockMs = s.server.clockMs := by
  cases a with
  | accept owner =>
      simp only [System.step, Action.synced]
      split
      · rfl
      · rfl
  | look owner =>
      simp only [System.step, Action.synced]
      split
      · rfl
      · rfl
  | hangUp owner =>
      simp only [System.step, Action.synced]
      split
      · rfl
      · rfl
  | malformed owner =>
      simp only [System.step, Action.synced]
      split
      · rfl
      · rfl
  | receive owner elapsedMs token operation arguments =>
      simp only [System.step, Action.synced]
      split
      · exact clockMs_begin it spec s owner token operation arguments
      · rfl
  | proceed owner =>
      simp only [System.step, Action.synced]
      split
      · exact clockMs_proceed it spec s owner _
      · rfl
  | respond owner sent =>
      simp only [System.step, Action.synced]
      split
      · rfl
      · rfl
  | finish owner =>
      simp only [System.step, Action.synced]
      split
      · exact s.server.clockMs_forceCloseOwner spec owner
      · rfl
  | stop => rfl
  | clear =>
      simp only [System.step, Action.synced]
      split
      · rfl
      · rfl

end System

/-! ## Runs -/

namespace ClockedSystem

variable (it : Interpreter) (spec : WorldSpec)

/-- Nothing but a synchronisation moves the clock or the reference point. -/
theorem step_keeps (c : ClockedSystem) (a : ClockAction) (other : ∀ now, a ≠ .sync now) :
    (c.step it spec a).clockMs = c.clockMs ∧
      (c.step it spec a).lastClockSyncNs = c.lastClockSyncNs := by
  cases a with
  | sync now => exact absurd rfl (other now)
  | thread part => exact ⟨c.system.clockMs_step it spec part, rfl⟩
  | apply action =>
      unfold step
      dsimp only
      cases applied : c.system.server.rack.world.apply action with
      | error fault => exact ⟨rfl, rfl⟩
      | ok world => exact ⟨DUTWorld.clockMs_apply applied, rfl⟩
  | noteSessionReopen role => exact ⟨rfl, rfl⟩
  | write resource payload =>
      exact ⟨c.system.server.rack.clockMs_write spec resource payload, rfl⟩
  | forceSafe =>
      obtain ⟨w, safe, same⟩ := c.system.server.rack.clockMs_forceSafe
      unfold step
      dsimp only
      rw [safe]
      exact ⟨same, rfl⟩

end ClockedSystem

/-- The reading a synchronisation takes. -/
def ClockAction.reading? : ClockAction → Option Int
  | .sync now => some now
  | _ => none

/-- The readings of a run, in the order their synchronisations arrive. -/
def readings (run : List ClockAction) : List Int := run.filterMap ClockAction.reading?

/-- The clock and the reference point stand where the reading `now` puts them: both have
moved on by the whole milliseconds since `startNs`. -/
structure Synced (c₀ : ClockedSystem) (startNs now : Int) (c : ClockedSystem) : Prop where
  clock : c.clockMs = c₀.clockMs + (now - startNs) / 1000000
  reference : c.lastClockSyncNs = startNs + (now - startNs) / 1000000 * 1000000

namespace Synced

variable {c₀ c : ClockedSystem} {startNs latest : Int}

theorem start (c₀ : ClockedSystem) (startNs : Int) :
    Synced c₀ startNs startNs (c₀.start startNs) := by
  constructor
  · show c₀.clockMs = _
    simp
  · show startNs = _
    simp

/-- **The remainder waits for the next synchronisation**: a later reading moves the clock
to where it would be had it been the first, an earlier one moves nothing. -/
theorem sync (synced : Synced c₀ startNs latest c) (now : Int) :
    Synced c₀ startNs (max latest now) (c.syncClock now) := by
  have elapsed : c.elapsedMs now =
      (now - startNs) / 1000000 - (latest - startNs) / 1000000 := by
    unfold ClockedSystem.elapsedMs
    rw [synced.reference]
    omega
  unfold ClockedSystem.syncClock
  dsimp only
  by_cases moves : 0 < c.elapsedMs now
  · rw [if_pos moves]
    have later : max latest now = now := by omega
    rw [later]
    constructor
    · show c.clockMs + ((c.elapsedMs now).toNat : Int) = _
      have clock := synced.clock
      omega
    · show c.lastClockSyncNs + c.elapsedMs now * 1000000 = _
      rw [synced.reference, elapsed]
      ring
  · rw [if_neg moves]
    have same : (max latest now - startNs) / 1000000 = (latest - startNs) / 1000000 := by omega
    constructor
    · rw [same]
      exact synced.clock
    · rw [same]
      exact synced.reference

theorem step (it : Interpreter) (spec : WorldSpec) (synced : Synced c₀ startNs latest c)
    (a : ClockAction) :
    Synced c₀ startNs ((readings [a]).foldl max latest) (c.step it spec a) := by
  cases reads : a.reading? with
  | some now =>
      cases a with
      | sync now' =>
          cases reads
          exact synced.sync now
      | _ => cases reads
  | none =>
      have other : ∀ now, a ≠ .sync now := by
        rintro now rfl
        cases reads
      have none_read : readings [a] = [] := by simp [readings, reads]
      obtain ⟨clock, reference⟩ := c.step_keeps it spec a other
      rw [none_read]
      exact ⟨clock.trans synced.clock, reference.trans synced.reference⟩

/-- **After any run the clock stands where the latest reading puts it**, in whatever order
the readings arrive. -/
theorem run (it : Interpreter) (spec : WorldSpec) (synced : Synced c₀ startNs latest c)
    (actions : List ClockAction) :
    Synced c₀ startNs ((readings actions).foldl max latest)
      (actions.foldl (ClockedSystem.step it spec) c) := by
  induction actions generalizing c latest with
  | nil => exact synced
  | cons a rest ih =>
      have split : readings (a :: rest) = readings [a] ++ readings rest := by
        rw [readings, readings, readings, ← List.filterMap_append]
        rfl
      rw [split, List.foldl_append]
      exact ih (synced.step it spec a)

end Synced

/-- In a non-decreasing list the latest element is the last one. -/
theorem foldl_max_append {start now : Int} {times : List Int}
    (ordered : (start :: (times ++ [now])).Pairwise (· ≤ ·)) :
    (times ++ [now]).foldl max start = now := by
  induction times generalizing start with
  | nil =>
      have le : start ≤ now := by simpa using ordered
      simpa using le
  | cons t times ih =>
      obtain ⟨first, rest⟩ := List.pairwise_cons.1 ordered
      have le : start ≤ t := first t (by simp)
      rw [List.cons_append, List.foldl_cons, max_eq_right le]
      exact ih rest

/-- **Synchronisation does not drift.**  Let the readings of a run after `start` be
non-decreasing.  After each synchronisation, whatever threads and instruments do between
them, the bench's clock has moved on by the whole milliseconds between the start and the
reading just synchronised, and what is left over is what the reference point is behind. -/
theorem clock_of_run (it : Interpreter) (spec : WorldSpec) (c : ClockedSystem) (startNs now : Int)
    (before : List ClockAction)
    (ordered : (startNs :: readings (before ++ [.sync now])).Pairwise (· ≤ ·)) :
    let after := (before ++ [ClockAction.sync now]).foldl (ClockedSystem.step it spec)
      (c.start startNs)
    after.clockMs = c.clockMs + (now - startNs) / 1000000 ∧
      now - after.lastClockSyncNs = (now - startNs) % 1000000 := by
  have last : readings (before ++ [.sync now]) = readings before ++ [now] := by
    rw [readings, List.filterMap_append]
    rfl
  have synced := (Synced.start c startNs).run it spec (before ++ [.sync now])
  rw [last] at ordered synced
  rw [foldl_max_append ordered] at synced
  refine ⟨synced.clock, ?_⟩
  rw [synced.reference]
  omega

/-- Three synchronisations of one and a half milliseconds each, with the output of the
supply switched between them: four milliseconds in all. -/
theorem clock_of_halves :
    let c : ClockedSystem := ⟨System.new (.nominal 0), 0⟩
    let run : List ClockAction :=
      [.sync 1500007, .apply (.psuOutput false), .sync 3000007, .noteSessionReopen (txt "psu")]
    ((run ++ [ClockAction.sync 4500007]).foldl
      (ClockedSystem.step ⟨fun _ => false, 0⟩ (.nominal 0)) (c.start 7)).clockMs = 4 := by
  intro c run
  have run_clock := (clock_of_run ⟨fun _ => false, 0⟩ (.nominal 0) c 7 4500007 run
    (by decide)).1
  rw [run_clock]
  decide

end InstrumentBench.Gateway
